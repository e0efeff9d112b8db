import Mathlib.Analysis.InnerProductSpace.PiL2
import Roz.Lib.SignedDepth
import Roz.Embodiment.Model

/-!
# The signed margin is the signed distance

On the reals, `signed_margin` is the distance to the boundary of the shape, positive inside and
negative outside, for boxes, spheres and cylinders of any size (`signedMargin_isDepth`).  A shape
with a negative size is empty.  `contains_point` says the same as the sign of the margin, up to
one difference: it squares the radius, so a negative one counts as its absolute value
(`containsPoint_iff` is for shapes without a negative size).  For positive sizes both functions
are about the same boundary (`signedMargin_eq_infDist`).
-/

namespace Roz.Embodiment
open ExactFloat SignedDepth

abbrev Point := EuclideanSpace ℝ (Fin 3)

def toPoint (v : Vec3 ℝ) : Point := WithLp.toLp _ ![v.x, v.y, v.z]

variable (p : Point)
def ofPoint : Vec3 ℝ := ⟨p 0, p 1, p 2⟩

@[simp] lemma ofPoint_toPoint (v : Vec3 ℝ) : ofPoint (toPoint v) = v := rfl

@[simp] lemma toPoint_ofPoint : toPoint (ofPoint p) = p := by
  ext i
  fin_cases i <;> rfl

lemma dist_point (p q : Point) : dist p q = √((p 0 - q 0) ^ 2 + (p 1 - q 1) ^ 2 + (p 2 - q 2) ^ 2) := by
  rw [EuclideanSpace.dist_eq, Fin.sum_univ_three]
  simp only [Real.dist_eq, sq_abs]

lemma norm_point : ‖p‖ = √(p 0 ^ 2 + p 1 ^ 2 + p 2 ^ 2) := by
  rw [EuclideanSpace.norm_eq, Fin.sum_univ_three]
  simp only [Real.norm_eq_abs, sq_abs]

/-! ## Profiles of the shapes -/

lemma boxProfile : Profile fun (i : Fin 3) (p : Point) => |p i| where
  nonneg _ _ := abs_nonneg _
  apart p q := by
    rw [EuclideanSpace.dist_eq]
    refine Real.sqrt_le_sqrt (Finset.sum_le_sum fun i _ => ?_)
    rw [Real.dist_eq]
    exact sq_le_sq.2 ((abs_abs_sub_abs_le _ _).trans (le_abs_self _))
  reach p t ht := by
    choose q hq hdist using fun i => exists_norm_eq_sub (p i) (ht i)
    refine ⟨WithLp.toLp 2 q, hq, ?_⟩
    rw [EuclideanSpace.dist_eq]
    refine congrArg Real.sqrt (Finset.sum_congr rfl fun i _ => ?_)
    rw [Real.dist_eq]
    exact hdist i

lemma ballProfile : Profile fun (_ : Fin 1) (p : Point) => ‖p‖ where
  nonneg _ _ := norm_nonneg _
  apart p q := by
    rw [Fin.sum_univ_one, Real.sqrt_sq_eq_abs, dist_eq_norm]
    exact abs_norm_sub_norm_le p q
  reach p t ht := by
    obtain ⟨q, hq, hdist⟩ := exists_norm_eq_sub p (ht 0)
    refine ⟨q, fun i => by rw [hq, Subsingleton.elim i 0], ?_⟩
    rw [Fin.sum_univ_one, ← hdist, Real.sqrt_sq (norm_nonneg _), dist_eq_norm]

def across : ℂ := ⟨p 0, p 1⟩

noncomputable def axial (i : Fin 2) (p : Point) : ℝ := ![‖across p‖, |p 2|] i

lemma dist_axial (p q : Point) : dist p q = √(‖across p - across q‖ ^ 2 + (p 2 - q 2) ^ 2) := by
  rw [dist_point, Complex.sq_norm, Complex.normSq_apply]
  congr 1
  simp only [across, Complex.sub_re, Complex.sub_im]
  ring

lemma cylinderProfile : Profile axial where
  nonneg i p := by
    fin_cases i
    · exact norm_nonneg _
    · exact abs_nonneg _
  apart p q := by
    rw [dist_axial, Fin.sum_univ_two]
    refine Real.sqrt_le_sqrt (add_le_add ?_ ?_)
    · exact sq_le_sq.2 ((abs_norm_sub_norm_le _ _).trans (le_abs_self _))
    · exact sq_le_sq.2 (abs_abs_sub_abs_le _ _)
  reach p t ht := by
    obtain ⟨w, hw, hwdist⟩ := exists_norm_eq_sub (across p) (ht 0)
    obtain ⟨z, hz, hzdist⟩ := exists_norm_eq_sub (p 2) (ht 1)
    refine ⟨!₂[w.re, w.im, z], fun i => ?_, ?_⟩
    · fin_cases i
      · exact hw
      · exact hz
    · rw [dist_axial, Fin.sum_univ_two]
      refine congrArg Real.sqrt (congrArg₂ (· + ·) hwdist ?_)
      rw [Real.norm_eq_abs, sq_abs] at hzdist
      exact hzdist

namespace WorkspaceShape

def region : WorkspaceShape ℝ → Set Point
  | .box halfExtents => {p | |p 0| ≤ halfExtents.x ∧ |p 1| ≤ halfExtents.y ∧ |p 2| ≤ halfExtents.z}
  | .sphere radius => Metric.closedBall 0 radius
  | .cylinder radius halfHeight => {p | √(p 0 ^ 2 + p 1 ^ 2) ≤ radius ∧ |p 2| ≤ halfHeight}

def NegativeSize : WorkspaceShape ℝ → Prop
  | .box halfExtents => halfExtents.x < 0 ∨ halfExtents.y < 0 ∨ halfExtents.z < 0
  | .sphere radius => radius < 0
  | .cylinder radius halfHeight => radius < 0 ∨ halfHeight < 0

lemma region_box (h : Vec3 ℝ) : region (.box h) = cut (fun (i : Fin 3) (p : Point) => |p i|) ![h.x, h.y, h.z] := by
  ext p
  simp [region, cut, Fin.forall_fin_succ]

lemma region_sphere (radius : ℝ) :
    region (.sphere radius) = cut (fun (_ : Fin 1) (p : Point) => ‖p‖) fun _ => radius := by
  ext p
  simp [region, cut]

lemma norm_across (p : Point) : ‖across p‖ = √(p 0 ^ 2 + p 1 ^ 2) := Complex.norm_eq_sqrt_sq_add_sq _

variable (radius halfHeight : ℝ)
lemma region_cylinder : region (.cylinder radius halfHeight) = cut axial ![radius, halfHeight] := by
  ext p
  simp [region, cut, axial, norm_across, Fin.forall_fin_succ]

lemma signedMargin_box (h : Vec3 ℝ) (p : Point) : signedMargin (ofPoint p) (.box h) =
    depth (fun (i : Fin 3) (p : Point) => |p i|) ![h.x, h.y, h.z]
      (fun p => max (|p 0| - h.x) (max (|p 1| - h.y) (|p 2| - h.z))) p := by
  simp only [signedMargin, ofPoint, real_abs, real_sqrt, real_mulAdd, depth, Fin.sum_univ_three]
  congr 3
  simp
  ring

lemma signedMargin_sphere (radius : ℝ) (p : Point) : signedMargin (ofPoint p) (.sphere radius) =
    depth (fun (_ : Fin 1) (p : Point) => ‖p‖) (fun _ => radius) (fun p => ‖p‖ - radius) p := by
  have hnorm : √(p 0 * p 0 + (p 1 * p 1 + p 2 * p 2)) = ‖p‖ := by
    rw [norm_point]
    ring_nf
  simp only [signedMargin, ofPoint, real_sqrt, real_mulAdd, hnorm, depth, Fin.sum_univ_one,
    Real.sqrt_sq (le_max_right (‖p‖ - radius) 0), max_add_min, add_zero, neg_sub]

lemma signedMargin_cylinder (p : Point) : signedMargin (ofPoint p) (.cylinder radius halfHeight) =
    depth axial ![radius, halfHeight] (fun p => max (‖across p‖ - radius) (|p 2| - halfHeight)) p := by
  have hradial : √(p 0 * p 0 + p 1 * p 1) = ‖across p‖ := by
    rw [norm_across]
    ring_nf
  simp only [signedMargin, ofPoint, real_sqrt, real_abs, real_hypot, real_mulAdd, hradial, depth, Fin.sum_univ_two]
  congr 3
  simp [axial]
  ring

variable (shape : WorkspaceShape ℝ)
lemma signedMargin_isDepth : IsDepth shape.region fun p => shape.signedMargin (ofPoint p) := by
  cases shape with
  | box h =>
    simp only [signedMargin_box, region_box]
    refine boxProfile.isDepth ⟨fun p i => ?_, fun p => ?_⟩
    · fin_cases i <;> simp
    · rcases max_choice (|p 1| - h.y) (|p 2| - h.z) with hmax | hmax
      · rcases max_choice (|p 0| - h.x) (|p 1| - h.y) with hmax' | hmax'
        · exact ⟨0, by rw [hmax, hmax']; rfl⟩
        · exact ⟨1, by rw [hmax, hmax']; rfl⟩
      · rcases max_choice (|p 0| - h.x) (|p 2| - h.z) with hmax' | hmax'
        · exact ⟨0, by rw [hmax, hmax']; rfl⟩
        · exact ⟨2, by rw [hmax, hmax']; rfl⟩
  | sphere radius =>
    simp only [signedMargin_sphere, region_sphere]
    exact ballProfile.isDepth ⟨fun p i => le_rfl, fun p => ⟨0, rfl⟩⟩
  | cylinder radius halfHeight =>
    simp only [signedMargin_cylinder, region_cylinder]
    refine cylinderProfile.isDepth ⟨fun p i => ?_, fun p => ?_⟩
    · fin_cases i <;> simp [axial]
    · rcases max_choice (‖across p‖ - radius) (|p 2| - halfHeight) with hmax | hmax
      · exact ⟨0, by rw [hmax]; rfl⟩
      · exact ⟨1, by rw [hmax]; rfl⟩

section Margin
variable (shape : WorkspaceShape ℝ) {m : ℝ} (hm : 0 ≤ m) (p : Point)

include hm in
lemma within_region_iff : Within shape.region m p ↔ m ≤ shape.signedMargin (ofPoint p) :=
  shape.signedMargin_isDepth.within_iff hm p

include hm in
lemma deep_region_iff : Deep shape.region m p ↔ m < shape.signedMargin (ofPoint p) :=
  shape.signedMargin_isDepth.deep_iff hm p

end Margin

lemma containsPoint_iff (hsize : ¬shape.NegativeSize) (v : Vec3 ℝ) :
    shape.containsPoint v = true ↔ toPoint v ∈ shape.region := by
  cases shape with
  | box h => simp [containsPoint, region, toPoint, and_assoc]
  | sphere radius =>
    have hradius : 0 ≤ radius := not_lt.1 hsize
    have hsum : v.z ^ 2 + (v.x ^ 2 + v.y ^ 2) = v.x ^ 2 + v.y ^ 2 + v.z ^ 2 := by ring
    rw [region, mem_closedBall_zero_iff, norm_point, Real.sqrt_le_left hradius]
    simp [containsPoint, toPoint, hsum, ← sq]
  | cylinder radius halfHeight =>
    have hradius : 0 ≤ radius := not_lt.1 fun hneg => hsize (.inl hneg)
    simp [containsPoint, region, toPoint, Real.sqrt_le_left hradius, ← sq]

def PositiveSize : WorkspaceShape ℝ → Prop
  | .box halfExtents => 0 < halfExtents.x ∧ 0 < halfExtents.y ∧ 0 < halfExtents.z
  | .sphere radius => 0 < radius
  | .cylinder radius halfHeight => 0 < radius ∧ 0 < halfHeight

theorem signedMargin_eq_infDist (shape : WorkspaceShape ℝ) (hsize : shape.PositiveSize) (p : Point) :
    |shape.signedMargin (ofPoint p)| = Metric.infDist p (frontier {q | shape.containsPoint (ofPoint q) = true}) ∧
      (0 ≤ shape.signedMargin (ofPoint p) ↔ shape.containsPoint (ofPoint p) = true) := by
  have hsize' : ¬shape.NegativeSize ∧ 0 ∈ shape.region := by
    cases shape with
    | box h => simp [NegativeSize, region, hsize.1.le, hsize.2.1.le, hsize.2.2.le]
    | sphere radius => simp [NegativeSize, region, (show 0 ≤ radius from le_of_lt hsize)]
    | cylinder radius halfHeight => simp [NegativeSize, region, hsize.1.le, hsize.2.le]
  have hregion : {q | shape.containsPoint (ofPoint q) = true} = shape.region := by
    ext q
    rw [Set.mem_ofPred_eq, containsPoint_iff shape hsize'.1, toPoint_ofPoint]
  rw [hregion, containsPoint_iff shape hsize'.1, toPoint_ofPoint]
  exact ⟨shape.signedMargin_isDepth.abs_eq_infDist ⟨0, hsize'.2⟩ p, (shape.signedMargin_isDepth.mem_iff p).symm⟩

theorem signedMargin_eq_infDist_ball : |(sphere 1).signedMargin (ofPoint 0)| =
    Metric.infDist 0 (frontier {q | (sphere 1).containsPoint (ofPoint q) = true}) :=
  (signedMargin_eq_infDist (.sphere 1) one_pos 0).1

end WorkspaceShape
end Roz.Embodiment
