import Roz.Embodiment.Shapes
import Roz.Embodiment.Snapshot

/-!
# Frames in space

A transform with a unit quaternion is an isometry of space.  A `Placement` puts every frame of a
tree somewhere in space, consistently with the transform between each frame and its parent; a
tree with unit rotations has one (`exists_placement`).  Whatever the placement is, a lookup
converts the coordinates of a point that stays where it is (`Placement.lookupTransform`).

The transforms that joint positions give are unit rotations again (`rigid_projectionTree`).
-/

namespace Roz.Embodiment
open ExactFloat Ascent List
open Roz.Core (FrameSource)
namespace Quat

def UnitNorm (q : Quat ℝ) : Prop := q.w ^ 2 + q.x ^ 2 + q.y ^ 2 + q.z ^ 2 = 1

noncomputable def sandwich (q : Quat ℝ) (p : Vec3 ℝ) : Vec3 ℝ :=
  let two : ℝ := Arith.two
  ⟨(q.w ^ 2 + q.x ^ 2 - q.y ^ 2 - q.z ^ 2) * p.x + two * (q.x * q.y - q.w * q.z) * p.y +
      two * (q.x * q.z + q.w * q.y) * p.z,
    two * (q.x * q.y + q.w * q.z) * p.x + (q.w ^ 2 - q.x ^ 2 + q.y ^ 2 - q.z ^ 2) * p.y +
      two * (q.y * q.z - q.w * q.x) * p.z,
    two * (q.x * q.z - q.w * q.y) * p.x + two * (q.y * q.z + q.w * q.x) * p.y +
      (q.w ^ 2 - q.x ^ 2 - q.y ^ 2 + q.z ^ 2) * p.z⟩

end Quat

namespace Transform3D
open Quat

lemma rotatePoint_eq_sandwich {q} (hq : q.UnitNorm) (p : Vec3 ℝ) : rotatePoint q p = q.sandwich p := by
  rw [UnitNorm] at hq
  simp only [rotatePoint, sandwich, real_two, Vec3.mk.injEq]
  refine ⟨?_, ?_, ?_⟩
  · linear_combination -p.x * hq
  · linear_combination -p.y * hq
  · linear_combination -p.z * hq

section Unit
variable {s t : Transform3D ℝ}
lemma unitNorm_identity : (identity : Transform3D ℝ).rotation.UnitNorm := by simp [UnitNorm, identity]

lemma unitNorm_compose (hs : s.rotation.UnitNorm) (ht : t.rotation.UnitNorm) : (s.compose t).rotation.UnitNorm := by
  rw [UnitNorm] at hs ht ⊢
  simp only [compose]
  -- the norm is multiplicative
  linear_combination
    (t.rotation.w ^ 2 + t.rotation.x ^ 2 + t.rotation.y ^ 2 + t.rotation.z ^ 2) * hs + ht

lemma unitNorm_inverse (ht : t.rotation.UnitNorm) : t.inverse.rotation.UnitNorm := by
  simpa only [UnitNorm, inverse, neg_sq] using ht

end Unit

/-! ## Transforms move points -/

noncomputable def act (t : Transform3D ℝ) (p : Point) : Point :=
  let rotated := rotatePoint t.rotation (ofPoint p)
  toPoint ⟨t.translation.x + rotated.x, t.translation.y + rotated.y, t.translation.z + rotated.z⟩

lemma toPoint_translation_compose (s t : Transform3D ℝ) :
    toPoint (s.compose t).translation = s.act (toPoint t.translation) := rfl

@[simp] lemma act_identity (p : Point) : identity.act p = p := by
  have hrotate : rotatePoint ⟨1, 0, 0, 0⟩ (ofPoint p) = ofPoint p := by simp [rotatePoint]
  simp only [act, identity, hrotate, zero_add]
  exact toPoint_ofPoint p

section Act
variable {s t : Transform3D ℝ}
lemma act_compose (hs : s.rotation.UnitNorm) (ht : t.rotation.UnitNorm) (p : Point) :
    (s.compose t).act p = s.act (t.act p) := by
  have hst := unitNorm_compose hs ht
  simp only [act, rotatePoint_eq_sandwich hs, rotatePoint_eq_sandwich ht, rotatePoint_eq_sandwich hst, ofPoint_toPoint]
  simp only [compose, rotatePoint_eq_sandwich hs, sandwich, real_two]
  congr 2
  · ring
  · ring
  · ring

lemma act_inverse (ht : t.rotation.UnitNorm) (p : Point) : t.act (t.inverse.act p) = p := by
  have hi := unitNorm_inverse ht
  rw [← toPoint_ofPoint p]
  simp only [act, rotatePoint_eq_sandwich ht, rotatePoint_eq_sandwich hi, ofPoint_toPoint]
  simp only [inverse] at hi ⊢
  simp only [rotatePoint_eq_sandwich hi, sandwich, real_two]
  rw [UnitNorm] at ht
  generalize ofPoint p = v
  obtain ⟨⟨tx, ty, tz⟩, ⟨w, x, y, z⟩, ns⟩ := t
  obtain ⟨vx, vy, vz⟩ := v
  simp only at ht ⊢
  congr 2
  · linear_combination (vx - tx) * (w ^ 2 + x ^ 2 + y ^ 2 + z ^ 2 + 1) * ht
  · linear_combination (vy - ty) * (w ^ 2 + x ^ 2 + y ^ 2 + z ^ 2 + 1) * ht
  · linear_combination (vz - tz) * (w ^ 2 + x ^ 2 + y ^ 2 + z ^ 2 + 1) * ht

lemma dist_act (ht : t.rotation.UnitNorm) (p q : Point) : dist (t.act p) (t.act q) = dist p q := by
  rw [dist_point, dist_point]
  simp only [act, rotatePoint_eq_sandwich ht, sandwich, real_two, toPoint, ofPoint]
  congr 1
  rw [UnitNorm] at ht
  simp
  linear_combination ((p 0 - q 0) ^ 2 + (p 1 - q 1) ^ 2 + (p 2 - q 2) ^ 2) *
    (t.rotation.w ^ 2 + t.rotation.x ^ 2 + t.rotation.y ^ 2 + t.rotation.z ^ 2 + 1) * ht

noncomputable def isometry (t : Transform3D ℝ) (ht : t.rotation.UnitNorm) : Point ≃ᵢ Point :=
  IsometryEquiv.mk' t.act t.inverse.act (act_inverse ht) (Isometry.of_dist_eq (dist_act ht))

@[simp] lemma isometry_apply (ht : t.rotation.UnitNorm) (p : Point) : t.isometry ht p = t.act p := rfl

end Act
end Transform3D

namespace FrameTree
open Transform3D
variable (t : FrameTree ℝ)
def Rigid : Prop := ∀ f node, t.getFrame f = some node → node.staticTransform.rotation.UnitNorm

/-- A place in space for every frame, such that a frame with a way to a root stands to its parent
as its transform says. -/
structure Placement (t : FrameTree ℝ) where
  place : String → Point ≃ᵢ Point
  edge : ∀ {f parent : String} {chain : List String} {node : FrameNode ℝ}, Climb t.up f chain →
    t.getFrame f = some node → node.parentId = some parent → ∀ p, place f p = place parent (node.staticTransform.act p)

noncomputable def toRoot (f : String) : Transform3D ℝ :=
  match t.chainToRoot f with
  | .ok chain => t.along chain
  | .error _ => .identity

lemma toRoot_of_climb {t : FrameTree ℝ} {f chain} (h : Climb t.up f chain) : t.toRoot f = t.along chain := by
  rw [toRoot, chainToRoot_ok_iff.2 h]

section Rigid
variable {t : FrameTree ℝ} (ht : t.Rigid) {result : Transform3D ℝ}

include ht

lemma unitNorm_mount (f : String) (hr : result.rotation.UnitNorm) : (t.mount result f).rotation.UnitNorm := by
  rw [mount]
  cases hnode : t.getFrame f with
  | none => exact hr
  | some node => exact unitNorm_compose (ht f node hnode) hr

variable (frames : List String)
lemma unitNorm_foldl_mount (hr : result.rotation.UnitNorm) : (frames.foldl t.mount result).rotation.UnitNorm := by
  induction frames generalizing result with
  | nil => exact hr
  | cons f frames ih => exact ih (unitNorm_mount ht f hr)

lemma unitNorm_along : (t.along frames).rotation.UnitNorm :=
  unitNorm_foldl_mount ht frames unitNorm_identity

lemma act_foldl_mount (hr : result.rotation.UnitNorm) (p : Point) :
    (frames.foldl t.mount result).act p = (t.along frames).act (result.act p) := by
  induction frames generalizing result p with
  | nil => rw [along, foldl_nil, foldl_nil, act_identity]
  | cons f frames ih =>
    have hmount : (t.mount result f).act p = (t.mount .identity f).act (result.act p) := by
      rw [mount, mount]
      cases hnode : t.getFrame f with
      | none => rw [act_identity]
      | some node =>
        have hunit := ht f node hnode
        rw [act_compose hunit hr, act_compose hunit unitNorm_identity, act_identity]
    rw [along, foldl_cons, foldl_cons, ih (unitNorm_mount ht f hr), ih (unitNorm_mount ht f unitNorm_identity), hmount]

lemma act_along_cons {f node} (hnode : t.getFrame f = some node) (frames : List String)
    (p : Point) : (t.along (f :: frames)).act p = (t.along frames).act (node.staticTransform.act p) := by
  have hunit := ht f node hnode
  have hmount : t.mount .identity f = node.staticTransform.compose .identity := by rw [mount, hnode]
  rw [along, foldl_cons, act_foldl_mount ht frames (unitNorm_mount ht f unitNorm_identity), hmount,
    act_compose hunit unitNorm_identity, act_identity]

lemma unitNorm_toRoot (f : String) : (t.toRoot f).rotation.UnitNorm := by
  rw [toRoot]
  cases t.chainToRoot f with
  | ok chain => exact unitNorm_along ht chain
  | error e => exact unitNorm_identity

lemma exists_placement : Nonempty t.Placement := by
  refine ⟨fun f => (t.toRoot f).isometry (unitNorm_toRoot ht f), ?_⟩
  intro f parent chain node hclimb hnode hparent p
  have hup : t.up f = some (some parent) := by rw [up, hnode, Option.map_some, hparent]
  cases hclimb with
  | top htop =>
    rw [hup] at htop
    cases htop
  | @step _ b path hstep rest =>
    obtain rfl : parent = b := by simpa [hup] using hstep
    rw [isometry_apply, isometry_apply, toRoot_of_climb rest, toRoot_of_climb (.step hstep rest),
      act_along_cons ht hnode]

namespace Placement
variable (P : t.Placement)
lemma place_below {f common chain} (hclimb : Climb t.up f chain) (hmem : common ∈ chain)
    (p : Point) : P.place f p = P.place common ((t.along (below common chain)).act p) := by
  induction hclimb generalizing p with
  | @top f htop =>
    obtain rfl := mem_singleton.1 hmem
    simp [below, along]
  | @step f parent path hstep rest ih =>
    by_cases heq : f = common
    · subst heq
      simp [below, along]
    have hbelow : below common (f :: path) = f :: below common path := by simp [below, heq]
    have hmem' : common ∈ path := (mem_cons.1 hmem).resolve_left (Ne.symm heq)
    obtain ⟨node, hnode, hparent⟩ := getFrame_of_up hstep
    rw [P.edge (.step hstep rest) hnode hparent, ih hmem', hbelow, act_along_cons ht hnode]

lemma lookupTransform {source target transform} (h : t.lookupTransform source target = .ok transform) (p : Point) :
    P.place source (transform.act p) = P.place target p := by
  by_cases heq : source = target
  · subst heq
    rw [lookupTransform_self] at h
    cases h
    rw [act_identity]
  obtain ⟨sourceChain, targetChain, common, hsource, htarget, hmeet, rfl⟩ := (lookupTransform_ok_iff heq).1 h
  obtain ⟨hmemTarget, hmemSource⟩ := mem_of_meet hmeet
  have hs := unitNorm_along ht (below common sourceChain)
  have htc := unitNorm_along ht (below common targetChain)
  rw [P.place_below ht hsource hmemSource, P.place_below ht htarget hmemTarget,
    act_compose (unitNorm_inverse hs) htc, act_inverse hs]

end Placement

end Rigid
end FrameTree

section Joints
open Transform3D

lemma sq_normalizedAxis {axis unit : Vec3 ℝ} (h : normalizedAxis axis = some unit) :
    unit.x ^ 2 + unit.y ^ 2 + unit.z ^ 2 = 1 := by
  rw [normalizedAxis] at h
  simp only [real_mulAdd, real_sqrt] at h
  set normSq := axis.x * axis.x + (axis.y * axis.y + axis.z * axis.z) with hnormSq
  split at h
  · cases h
  · next hbig =>
    cases h
    have hpos : 0 < normSq := lt_trans (by norm_num [Scalar.epsilon]) (not_le.1 hbig)
    simp only [div_pow, Real.sq_sqrt hpos.le]
    field_simp
    rw [hnormSq]
    ring

lemma unitNorm_rotationFromAxisAngle {axis} (h : axis.x ^ 2 + axis.y ^ 2 + axis.z ^ 2 = 1) (angleRad : ℝ) :
    (rotationFromAxisAngle axis angleRad).UnitNorm := by
  simp only [Quat.UnitNorm, rotationFromAxisAngle, real_sin, real_cos]
  have hone := Real.cos_sq_add_sin_sq (angleRad * Scalar.half)
  linear_combination hone + Real.sin (angleRad * Scalar.half) ^ 2 * h

variable {joint : Joint ℝ} {position : ℝ} {timestampNs : Nat}
lemma unitNorm_jointMotion {motion : Transform3D ℝ}
    (h : jointMotion joint position timestampNs = .ok motion) : motion.rotation.UnitNorm := by
  rw [jointMotion] at h
  split at h
  · split at h
    · cases h
    · next axis haxis =>
      cases h
      exact unitNorm_rotationFromAxisAngle (sq_normalizedAxis haxis) position
  · split at h
    · cases h
    · next axis haxis =>
      cases h
      exact unitNorm_rotationFromAxisAngle (sq_normalizedAxis haxis) position
  · split at h
    · cases h
    · cases h
      exact unitNorm_identity
  · cases h
    exact unitNorm_identity

lemma unitNorm_jointPositionTransform {transform} (horigin : joint.origin.rotation.UnitNorm)
    (h : jointPositionTransform joint position timestampNs = .ok transform) : transform.rotation.UnitNorm := by
  rw [jointPositionTransform] at h
  split at h
  · cases h
  · next motion hmotion =>
    cases h
    exact unitNorm_compose horigin (unitNorm_jointMotion hmotion)

end Joints

/-! ## Overlays stay rigid -/

lemma FrameTree.Rigid.overlayTransform {t t' : FrameTree ℝ} {f transform source} (ht : t.Rigid)
    (hunit : transform.rotation.UnitNorm)
    (h : t.overlayTransform f transform source = .ok t') : t'.Rigid := by
  rw [FrameTree.overlayTransform] at h
  cases hnode : t.getFrame f with
  | none =>
    rw [hnode] at h
    cases h
  | some node =>
    rw [hnode] at h
    cases h
    intro g gnode hget
    by_cases hgf : f = g
    · subst hgf
      simp only [FrameTree.getFrame, Std.ExtTreeMap.getElem?_insert_self, Option.some.injEq] at hget
      rw [← hget]
      exact hunit
    · simp only [FrameTree.getFrame, Std.ExtTreeMap.getElem?_insert, Std.compare_eq_iff_eq, hgf, if_false] at hget
      exact ht g gnode hget

lemma rigid_foldl_overlayStep (transforms : List (TimestampedTransform ℝ))
    (hunit : ∀ transform ∈ transforms, transform.transform.rotation.UnitNorm) (s : FrameTree ℝ × List String)
    (hs : s.1.Rigid) : (transforms.foldl FrameGraphSnapshot.overlayStep s).1.Rigid := by
  induction transforms generalizing s with
  | nil => exact hs
  | cons transform transforms ih =>
    refine ih (fun transform' hmem => hunit transform' (.tail _ hmem)) _ ?_
    rw [FrameGraphSnapshot.overlayStep]
    split
    · next tree htree => exact hs.overlayTransform (hunit transform (.head _)) htree
    · exact hs

namespace EmbodimentRuntime

/-- All rotations of the frame graph and of the joints' origins are unit quaternions. -/
structure Rigid (rt : EmbodimentRuntime ℝ) : Prop where
  frameGraph : rt.frameGraph.Rigid
  joints : ∀ joint ∈ rt.model.joints, joint.origin.rotation.UnitNorm

variable {rt : EmbodimentRuntime ℝ} (h : rt.Rigid)

include h

lemma unitNorm_jointStateTransform {timestampNs jointName position transform}
    (hok : rt.jointStateTransform timestampNs jointName position = .ok transform) :
    transform.transform.rotation.UnitNorm := by
  rw [jointStateTransform] at hok
  cases hjoint : rt.model.getJoint jointName with
  | none =>
    rw [hjoint] at hok
    cases hok
  | some joint =>
    have horigin := h.joints joint (mem_of_find?_eq_some hjoint)
    simp only [hjoint] at hok
    split at hok
    · cases hok
    split at hok
    · cases hok
    split at hok
    · cases hok
    · next transform htransform =>
      cases hok
      exact unitNorm_jointPositionTransform horigin htransform

lemma rigid_projectionTree (snapshotId timestampNs : Nat) {jointPositions} :
    (rt.buildFrameSnapshotWithInput snapshotId timestampNs
      { jointPositions := jointPositions }).projectionTree.Rigid := by
  refine rigid_foldl_overlayStep _ (fun transform hmem => ?_) _ h.frameGraph
  have hgiven : transform ∈ rt.givenTransforms timestampNs { jointPositions := jointPositions } :=
    (mem_filter.1 hmem).1
  simp only [givenTransforms, append_nil, jointStateTransforms, collect, mem_filterMap, mem_map] at hgiven
  obtain ⟨result, ⟨⟨jointName, position⟩, -, rfl⟩, hresult⟩ := hgiven
  split at hresult
  · next transform' hok =>
    cases hresult
    exact unitNorm_jointStateTransform h hok
  · cases hresult

end EmbodimentRuntime
end Roz.Embodiment
