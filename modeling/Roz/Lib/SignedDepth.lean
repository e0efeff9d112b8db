import Mathlib.Analysis.Normed.Module.FiniteDimension

/-!
# Signed depth in a set

`IsDepth S d` says that `d` is the signed distance to the boundary of `S`: inside, how far the
outside is away; outside, how far the set is away, with a minus sign.

    0 ≤ m → (p is in S, at distance ≥ m from its boundary ↔ m ≤ d p)  (IsDepth.within_iff)
    0 ≤ m → (p is in S, at distance > m from its boundary ↔ m < d p)  (IsDepth.deep_iff)
    S nonempty → |d p| is the distance of p to the boundary  (IsDepth.abs_eq_infDist)
    p is near S ↔ it is neither deep in S nor clear of S  (near_iff)

Boxes, balls and cylinders are cut out by bounds on a few nonnegative functions of a point
(`Profile`): moving a point changes them by no more than the distance moved, and any values can
be reached by moving just that far.  For sets of that kind one formula is the depth
(`Profile.isDepth`).
-/

namespace SignedDepth
open Metric
section Metric
variable {X : Type} [PseudoMetricSpace X] (S : Set X) (m : ℝ) (p : X)

/-- Outside the set, at distance at least `m` from it. -/
def Clear : Prop := p ∉ S ∧ ∀ q ∈ S, m ≤ dist p q

/-- Inside the set, at distance at least `m` from its boundary. -/
def Within : Prop := p ∈ S ∧ ∀ q ∈ frontier S, m ≤ dist p q

/-- Inside the set, at distance more than `m` from its boundary. -/
def Deep : Prop := p ∈ S ∧ ∀ q ∈ frontier S, m < dist p q

/-- Inside the set but no deeper than `m`, or outside and closer than `m`. -/
def Near : Prop :=
  (p ∈ S ∧ ∃ q ∈ frontier S, dist p q ≤ m) ∨ (p ∉ S ∧ ∃ q ∈ S, dist p q < m)

structure IsDepth (S : Set X) (d : X → ℝ) : Prop where
  mem_iff : ∀ p, p ∈ S ↔ 0 ≤ d p
  inside_le : ∀ p ∈ S, ∀ q ∉ S, d p ≤ dist p q
  inside_reached : ∀ p ∈ S, ∀ ε > 0, ∃ q ∉ S, dist p q < d p + ε
  outside_le : ∀ p ∉ S, ∀ q ∈ S, -d p ≤ dist p q
  outside_reached : ∀ p ∉ S, S.Nonempty → ∃ q ∈ S, dist p q ≤ -d p

lemma near_iff : Near S m p ↔ ¬Deep S m p ∧ ¬Clear S m p := by
  by_cases hp : p ∈ S
  · simp [Near, Deep, Clear, hp]
  · simp [Near, Deep, Clear, hp]

lemma IsDepth.le_dist {S d} (h : IsDepth S d) {p q : X} (hp : p ∈ S) (hq : q ∈ frontier S) : d p ≤ dist p q := by
  obtain ⟨q', hq', -⟩ := h.inside_reached p hp 1 one_pos
  rw [frontier_eq_closure_inter_closure] at hq
  calc d p ≤ infDist p Sᶜ := (le_infDist ⟨q', hq'⟩).2 fun y hy => h.inside_le p hp y hy
    _ = infDist p (closure Sᶜ) := infDist_closure.symm
    _ ≤ dist p q := infDist_le_dist_of_mem hq.2

/-! ## Isometries -/

variable {Y : Type} [PseudoMetricSpace Y] (e : X ≃ᵢ Y)
lemma frontier_image (S : Set X) : frontier (e '' S) = e '' frontier S := (e.toHomeomorph.image_frontier S).symm

lemma within_image {S m p} : Within (e '' S) m (e p) ↔ Within S m p := by
  simp [Within, frontier_image, e.dist_eq]

lemma deep_image {S m p} : Deep (e '' S) m (e p) ↔ Deep S m p := by simp [Deep, frontier_image, e.dist_eq]

end Metric

section Normed
variable {E : Type} [NormedAddCommGroup E] [NormedSpace ℝ E] [FiniteDimensional ℝ E]

/-- Some point of the boundary is as near as the depth: the boundary is as near as the outside. -/
lemma IsDepth.exists_dist_le {S d} (h : IsDepth S d) {p : E} (hp : p ∈ S) : ∃ q ∈ frontier S, dist p q ≤ d p := by
  obtain ⟨q, hq, -⟩ := h.inside_reached p hp 1 one_pos
  have hne : S ≠ Set.univ := fun huniv => hq (huniv ▸ Set.mem_univ q)
  obtain ⟨y, hy, hdist⟩ := exists_mem_frontier_infDist_compl_eq_dist hp hne
  refine ⟨y, hy, le_of_forall_pos_le_add fun ε hε => ?_⟩
  obtain ⟨q, hq, hlt⟩ := h.inside_reached p hp ε hε
  calc dist p y = infDist p Sᶜ := hdist.symm
    _ ≤ dist p q := infDist_le_dist_of_mem hq
    _ ≤ d p + ε := hlt.le

/-- The absolute value of the depth is the distance to the boundary. -/
lemma IsDepth.abs_eq_infDist {S d} (h : IsDepth S d) (hS : S.Nonempty) (p : E) :
    |d p| = infDist p (frontier S) := by
  by_cases hp : p ∈ S
  · obtain ⟨q, hq, hle⟩ := h.exists_dist_le hp
    rw [abs_of_nonneg ((h.mem_iff p).1 hp)]
    exact ((le_infDist ⟨q, hq⟩).2 fun y hy => h.le_dist hp hy).antisymm ((infDist_le_dist_of_mem hq).trans hle)
  · obtain ⟨q, hq, hle⟩ := h.outside_reached p hp hS
    obtain ⟨y, hy, hdist⟩ := exists_mem_frontier_infDist_compl_eq_dist (s := Sᶜ) hp fun huniv => huniv.ge trivial hq
    rw [frontier_compl] at hy
    rw [compl_compl] at hdist
    rw [abs_of_neg (not_le.1 (mt (h.mem_iff p).2 hp))]
    refine ((le_infDist ⟨y, hy⟩).2 fun z hz => ?_).antisymm ?_
    · calc -d p ≤ infDist p S := (le_infDist hS).2 fun z hz => h.outside_le p hp z hz
        _ = infDist p (closure S) := infDist_closure.symm
        _ ≤ dist p z := infDist_le_dist_of_mem hz.1
    · calc infDist p (frontier S) ≤ dist p y := infDist_le_dist_of_mem hy
        _ = infDist p S := hdist.symm
        _ ≤ dist p q := infDist_le_dist_of_mem hq
        _ ≤ -d p := hle

section Iff
variable {S : Set E} {d : E → ℝ} (h : IsDepth S d) {m : ℝ} (hm : 0 ≤ m) (p : E)

include h hm

lemma IsDepth.within_iff : Within S m p ↔ m ≤ d p := by
  constructor
  · rintro ⟨hp, hfar⟩
    obtain ⟨q, hq, hle⟩ := h.exists_dist_le hp
    exact (hfar q hq).trans hle
  · intro hle
    have hp : p ∈ S := (h.mem_iff p).2 (hm.trans hle)
    exact ⟨hp, fun q hq => hle.trans (h.le_dist hp hq)⟩

lemma IsDepth.deep_iff : Deep S m p ↔ m < d p := by
  constructor
  · rintro ⟨hp, hfar⟩
    obtain ⟨q, hq, hle⟩ := h.exists_dist_le hp
    exact (hfar q hq).trans_le hle
  · intro hlt
    have hp : p ∈ S := (h.mem_iff p).2 (hm.trans hlt.le)
    exact ⟨hp, fun q hq => hlt.trans_le (h.le_dist hp hq)⟩

end Iff

omit [FiniteDimensional ℝ E] in
/-- From any point, the nearest points of a given norm are as far as the norms differ. -/
lemma exists_norm_eq_sub [Nontrivial E] (p : E) {t : ℝ} (ht : 0 ≤ t) : ∃ q : E, ‖q‖ = t ∧ ‖p - q‖ ^ 2 = (‖p‖ - t) ^ 2 := by
  by_cases hp : p = 0
  · obtain ⟨q, hq⟩ := exists_norm_eq E ht
    exact ⟨q, hq, by rw [hp, zero_sub, norm_neg, hq, norm_zero, zero_sub, neg_sq]⟩
  · have hpos : ‖p‖ ≠ 0 := norm_ne_zero_iff.2 hp
    refine ⟨(t / ‖p‖) • p, ?_, ?_⟩
    · rw [norm_smul, Real.norm_of_nonneg (div_nonneg ht (norm_nonneg p)), div_mul_cancel₀ t hpos]
    · have hsub : p - (t / ‖p‖) • p = (1 - t / ‖p‖) • p := by rw [sub_smul, one_smul]
      rw [hsub, norm_smul, mul_pow, Real.norm_eq_abs, sq_abs, ← mul_pow, sub_mul, one_mul, div_mul_cancel₀ t hpos]

end Normed

section Profile
variable {X : Type} {ι : Type} [Fintype ι] (f : ι → X → ℝ) (r : ι → ℝ)
def cut : Set X := {p | ∀ i, f i p ≤ r i}

structure IsTop (f : ι → X → ℝ) (r : ι → ℝ) (top : X → ℝ) : Prop where
  le : ∀ p i, f i p - r i ≤ top p
  attained : ∀ p, ∃ i, top p = f i p - r i

/-- Inside, the least room below a bound; outside, the root of the squared excesses. -/
noncomputable def depth (top : X → ℝ) (p : X) : ℝ :=
  -(√(∑ i, max (f i p - r i) 0 ^ 2) + min (top p) 0)

variable {f : ι → X → ℝ} {r : ι → ℝ} {top : X → ℝ} {p q : X}
lemma depth_of_mem (htop : IsTop f r top) (hp : p ∈ cut f r) : depth f r top p = -top p ∧ top p ≤ 0 := by
  obtain ⟨i, hi⟩ := htop.attained p
  have hneg : top p ≤ 0 := by linarith [hp i]
  have hzero : ∑ i, max (f i p - r i) 0 ^ 2 = 0 := by
    refine Finset.sum_eq_zero fun j _ => ?_
    rw [max_eq_right (by linarith [hp j]), zero_pow two_ne_zero]
  refine ⟨?_, hneg⟩
  rw [depth, hzero, Real.sqrt_zero, min_eq_left hneg, zero_add]

lemma depth_of_notMem (htop : IsTop f r top) (hp : p ∉ cut f r) :
    depth f r top p = -√(∑ i, max (f i p - r i) 0 ^ 2) ∧ depth f r top p < 0 := by
  obtain ⟨i, hi⟩ := not_forall.1 hp
  rw [not_le] at hi
  have hpos : 0 < ∑ i, max (f i p - r i) 0 ^ 2 := by
    refine Finset.sum_pos' (fun j _ => sq_nonneg _) ⟨i, Finset.mem_univ i, ?_⟩
    rw [max_eq_left (by linarith)]
    exact pow_pos (by linarith) 2
  have hdepth : depth f r top p = -√(∑ i, max (f i p - r i) 0 ^ 2) := by
    rw [depth, min_eq_right (by linarith [htop.le p i]), add_zero]
  exact ⟨hdepth, by rw [hdepth]; exact neg_neg_of_pos (Real.sqrt_pos.2 hpos)⟩

lemma mem_cut_iff (htop : IsTop f r top) (p : X) : p ∈ cut f r ↔ 0 ≤ depth f r top p := by
  constructor
  · intro hp
    obtain ⟨hdepth, hneg⟩ := depth_of_mem htop hp
    linarith
  · intro hdepth
    by_contra hp
    linarith [(depth_of_notMem htop hp).2]

/-- Nonnegative functions of a point that together change exactly as fast as the point moves. -/
structure Profile [PseudoMetricSpace X] (f : ι → X → ℝ) : Prop where
  nonneg : ∀ i p, 0 ≤ f i p
  apart : ∀ p q, √(∑ i, (f i p - f i q) ^ 2) ≤ dist p q
  reach : ∀ p (t : ι → ℝ), (∀ i, 0 ≤ t i) → ∃ q, (∀ i, f i q = t i) ∧ dist p q = √(∑ i, (f i p - t i) ^ 2)

namespace Profile
variable [PseudoMetricSpace X]
lemma abs_sub_le (h : Profile f) (i : ι) (p q : X) : |f i p - f i q| ≤ dist p q := by
  refine (Real.abs_le_sqrt ?_).trans (h.apart p q)
  exact Finset.single_le_sum (f := fun j => (f j p - f j q) ^ 2) (fun j _ => sq_nonneg _) (Finset.mem_univ i)

variable (h : Profile f) (htop : IsTop f r top)
include h htop

lemma depth_le_dist (hp : p ∈ cut f r) (hq : q ∉ cut f r) : depth f r top p ≤ dist p q := by
  obtain ⟨i, hi⟩ := not_forall.1 hq
  rw [not_le] at hi
  have habs := (abs_le.1 (h.abs_sub_le i p q)).1
  have hle := htop.le p i
  rw [(depth_of_mem htop hp).1]
  linarith

/-- Raise the value with the least room just over its bound. -/
lemma exists_notMem_cut [DecidableEq ι] (hp : p ∈ cut f r) {ε : ℝ}
    (hε : 0 < ε) : ∃ q ∉ cut f r, dist p q < depth f r top p + ε := by
  obtain ⟨hdepth, hneg⟩ := depth_of_mem htop hp
  obtain ⟨i, hi⟩ := htop.attained p
  have hnonneg : ∀ j, 0 ≤ Function.update (fun j => f j p) i (r i + ε / 2) j := by
    intro j
    by_cases hji : j = i
    · subst hji
      rw [Function.update_self]
      linarith [h.nonneg j p, hp j]
    · rw [Function.update_of_ne hji]
      exact h.nonneg j p
  obtain ⟨q, hq, hdist⟩ := h.reach p _ hnonneg
  have hsum : ∑ j, (f j p - Function.update (fun j => f j p) i (r i + ε / 2) j) ^ 2 =
      (f i p - (r i + ε / 2)) ^ 2 := by
    rw [Finset.sum_eq_single i]
    · rw [Function.update_self]
    · intro j _ hji
      rw [Function.update_of_ne hji, sub_self, zero_pow two_ne_zero]
    · intro hi
      exact absurd (Finset.mem_univ i) hi
  refine ⟨q, fun hmem => ?_, ?_⟩
  · have hqi := hmem i
    rw [hq i, Function.update_self] at hqi
    linarith
  · rw [hdist, hsum, hdepth, Real.sqrt_sq_eq_abs, abs_of_nonpos (by linarith)]
    linarith

lemma neg_depth_le_dist (hp : p ∉ cut f r) (hq : q ∈ cut f r) : -depth f r top p ≤ dist p q := by
  rw [(depth_of_notMem htop hp).1, neg_neg]
  refine (Real.sqrt_le_sqrt (Finset.sum_le_sum fun i _ => ?_)).trans (h.apart p q)
  have hqi : f i q ≤ r i := hq i
  rcases le_total (f i p) (r i) with hi | hi
  · rw [max_eq_right (by linarith), zero_pow two_ne_zero]
    exact sq_nonneg _
  · rw [max_eq_left (by linarith)]
    exact pow_le_pow_left₀ (by linarith) (by linarith) 2

/-- Lower the values that exceed their bounds. -/
lemma exists_mem_cut (hp : p ∉ cut f r) (hne : (cut f r).Nonempty) : ∃ q ∈ cut f r, dist p q ≤ -depth f r top p := by
  obtain ⟨q₀, hq₀⟩ := hne
  obtain ⟨q, hq, hdist⟩ := h.reach p (fun i => min (f i p) (r i)) fun i =>
    le_min (h.nonneg i p) ((h.nonneg i q₀).trans (hq₀ i))
  refine ⟨q, fun i => ?_, ?_⟩
  · rw [hq i]
    exact min_le_right _ _
  · rw [hdist, (depth_of_notMem htop hp).1, neg_neg]
    refine le_of_eq (congrArg Real.sqrt (Finset.sum_congr rfl fun i _ => ?_))
    rcases le_total (f i p) (r i) with hi | hi
    · rw [min_eq_left hi, max_eq_right (by linarith), sub_self]
    · rw [min_eq_right hi, max_eq_left (by linarith)]

lemma isDepth [DecidableEq ι] : IsDepth (cut f r) (depth f r top) where
  mem_iff := mem_cut_iff htop
  inside_le _ hp _ hq := h.depth_le_dist htop hp hq
  inside_reached _ hp _ hε := h.exists_notMem_cut htop hp hε
  outside_le _ hp _ hq := h.neg_depth_le_dist htop hp hq
  outside_reached _ hp hne := h.exists_mem_cut htop hp hne

end Profile
end Profile
end SignedDepth
