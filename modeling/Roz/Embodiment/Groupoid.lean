import Roz.Lib.RigidMotion
import Roz.Embodiment.Frames
import Mathlib.Algebra.Quaternion

/-!
# Lookups over the rationals

A transform with a unit rotation is a rigid motion, in exact arithmetic, and the operations of
the source are those of the group of motions.  In a tree with one root and unit rotations every
frame has a motion from the root, and a lookup is the difference of two of them
(`lookupTransform_motion`).

So lookups compose and invert as in a groupoid, whatever the way the frames are placed in the
tree.  What a lookup does not do is to look for a frame that is asked for from itself.
-/

namespace Roz.Embodiment
open ExactFloat Ascent RigidMotion Quaternion List
namespace Quat

def toQuaternion (q : Quat ℚ) : ℍ[ℚ] := ⟨q.w, q.x, q.y, q.z⟩

variable (q : Quat ℚ)
@[simp] lemma re_toQuaternion : q.toQuaternion.re = q.w := rfl
@[simp] lemma imI_toQuaternion : q.toQuaternion.imI = q.x := rfl
@[simp] lemma imJ_toQuaternion : q.toQuaternion.imJ = q.y := rfl
@[simp] lemma imK_toQuaternion : q.toQuaternion.imK = q.z := rfl

def Normalized (q : Quat ℚ) : Prop := q.w ^ 2 + q.x ^ 2 + q.y ^ 2 + q.z ^ 2 = 1

lemma toQuaternion_inj {p q : Quat ℚ} (h : p.toQuaternion = q.toQuaternion) : p = q := by
  obtain ⟨hw, hx, hy, hz⟩ := QuaternionAlgebra.mk.inj h
  cases p
  cases q
  simp_all

lemma normalized_iff {q : Quat ℚ} : q.Normalized ↔ normSq q.toQuaternion = 1 := by
  rw [normSq_def']
  rfl

lemma Normalized.mem_unitary {q : Quat ℚ} (h : q.Normalized) : q.toQuaternion ∈ unitary ℍ[ℚ] := by
  rw [Unitary.mem_iff, star_mul_self, self_mul_star, normalized_iff.1 h]
  exact ⟨rfl, rfl⟩

open Classical in
noncomputable def unit (q : Quat ℚ) : unitary ℍ[ℚ] :=
  if h : q.Normalized then ⟨q.toQuaternion, h.mem_unitary⟩ else 1

lemma Normalized.coe_unit {q : Quat ℚ} (h : q.Normalized) : (q.unit : ℍ[ℚ]) = q.toQuaternion := by
  rw [unit, dif_pos h]

end Quat

namespace Vec3

def toQuaternion (v : Vec3 ℚ) : ℍ[ℚ] := ⟨0, v.x, v.y, v.z⟩

variable (v : Vec3 ℚ)
@[simp] lemma re_toQuaternion : v.toQuaternion.re = 0 := rfl
@[simp] lemma imI_toQuaternion : v.toQuaternion.imI = v.x := rfl
@[simp] lemma imJ_toQuaternion : v.toQuaternion.imJ = v.y := rfl
@[simp] lemma imK_toQuaternion : v.toQuaternion.imK = v.z := rfl

lemma toQuaternion_inj {u v : Vec3 ℚ} (h : u.toQuaternion = v.toQuaternion) : u = v := by
  obtain ⟨-, hx, hy, hz⟩ := QuaternionAlgebra.mk.inj h
  cases u
  cases v
  simp_all

end Vec3

namespace Transform3D
open Quat
variable (s t : Transform3D ℚ)
def SamePose : Prop := s.translation = t.translation ∧ s.rotation = t.rotation

lemma toQuaternion_rotatePoint {q} (hq : q.Normalized) (p : Vec3 ℚ) :
    (rotatePoint q p).toQuaternion = q.toQuaternion * p.toQuaternion * star q.toQuaternion := by
  unfold Normalized at hq
  ext
  · simp
    ring
  · simp [rotatePoint]
    linear_combination -p.x * hq
  · simp [rotatePoint]
    linear_combination -p.y * hq
  · simp [rotatePoint]
    linear_combination -p.z * hq

lemma toQuaternion_rotation_compose :
    (s.compose t).rotation.toQuaternion = s.rotation.toQuaternion * t.rotation.toQuaternion := by
  ext <;> simp [compose]

lemma toQuaternion_translation_compose : (s.compose t).translation.toQuaternion =
    s.translation.toQuaternion + (rotatePoint s.rotation t.translation).toQuaternion := by
  ext <;> simp [compose]

variable (t : Transform3D ℚ)
lemma toQuaternion_rotation_inverse : t.inverse.rotation.toQuaternion = star t.rotation.toQuaternion := by
  ext <;> simp [inverse]

lemma toQuaternion_translation_inverse :
    t.inverse.translation.toQuaternion = -(rotatePoint t.inverse.rotation t.translation).toQuaternion := by
  ext <;> simp [inverse]

lemma normalized_identity : (identity : Transform3D ℚ).rotation.Normalized := by simp [Normalized, identity]

variable {s t : Transform3D ℚ}
lemma normalized_compose (hs : s.rotation.Normalized) (ht : t.rotation.Normalized) :
    (s.compose t).rotation.Normalized := by
  rw [normalized_iff] at *
  rw [toQuaternion_rotation_compose, map_mul, hs, ht, one_mul]

lemma normalized_inverse (ht : t.rotation.Normalized) : t.inverse.rotation.Normalized := by
  rw [normalized_iff] at *
  rw [toQuaternion_rotation_inverse, normSq_star, ht]

noncomputable def motion (t : Transform3D ℚ) : Motion ℍ[ℚ] := .mk' t.translation.toQuaternion t.rotation.unit

lemma eq_motion_iff (ht : t.rotation.Normalized) (m : Motion ℍ[ℚ]) :
    t.motion = m ↔ t.translation.toQuaternion = m.shift ∧ t.rotation.toQuaternion = m.right := by
  rw [Motion.ext_iff, motion, Motion.shift_mk', Motion.right_mk', ht.coe_unit]

lemma samePose_iff (hs : s.rotation.Normalized) (ht : t.rotation.Normalized) : s.SamePose t ↔ s.motion = t.motion := by
  rw [eq_motion_iff hs, motion, Motion.shift_mk', Motion.right_mk', ht.coe_unit]
  constructor
  · rintro ⟨htranslation, hrotation⟩
    exact ⟨congrArg Vec3.toQuaternion htranslation, congrArg toQuaternion hrotation⟩
  · rintro ⟨hshift, hright⟩
    exact ⟨Vec3.toQuaternion_inj hshift, toQuaternion_inj hright⟩

lemma motion_identity : (identity : Transform3D ℚ).motion = 1 :=
  (eq_motion_iff normalized_identity 1).2 ⟨rfl, rfl⟩

lemma motion_compose (hs : s.rotation.Normalized) (ht : t.rotation.Normalized) :
    (s.compose t).motion = s.motion * t.motion := by
  rw [eq_motion_iff (normalized_compose hs ht), Motion.shift_mul, SemidirectProduct.mul_right]
  simp only [motion, Motion.shift_mk', Motion.right_mk', Submonoid.coe_mul, hs.coe_unit, ht.coe_unit]
  rw [toQuaternion_translation_compose, toQuaternion_rotatePoint hs, toQuaternion_rotation_compose]
  exact ⟨rfl, rfl⟩

lemma motion_inverse (ht : t.rotation.Normalized) : t.inverse.motion = t.motion⁻¹ := by
  rw [eq_motion_iff (normalized_inverse ht), Motion.shift_inv, SemidirectProduct.inv_right, ← Unitary.star_eq_inv,
    Unitary.coe_star]
  simp only [motion, Motion.shift_mk', Motion.right_mk', ht.coe_unit]
  rw [toQuaternion_translation_inverse, toQuaternion_rotatePoint (normalized_inverse ht),
    toQuaternion_rotation_inverse, star_star]
  exact ⟨rfl, rfl⟩

end Transform3D

namespace FrameTree
open Transform3D
variable (t : FrameTree ℚ)
def OneRoot : Prop :=
  ∃ root, ∀ f, t.frameExists f = true → ∃ chain, Climb t.up f chain ∧ chain.getLast? = some root

def UnitRotations : Prop :=
  ∀ f node, t.getFrame f = some node → node.staticTransform.rotation.Normalized

variable {t : FrameTree ℚ}
lemma below_append {f common chain upper} (hclimb : Climb t.up f chain)
    (hmem : common ∈ chain) (hupper : Climb t.up common upper) : below common chain ++ upper = chain := by
  induction hclimb with
  | @top f htop =>
    obtain rfl := mem_singleton.1 hmem
    rw [hupper.unique (.top htop)]
    simp [below]
  | @step f parent path hstep rest ih =>
    by_cases heq : f = common
    · subst heq
      rw [hupper.unique (.step hstep rest)]
      simp [below]
    · have hbelow : below common (f :: path) = f :: below common path := by simp [below, heq]
      rw [hbelow, cons_append, ih ((mem_cons.1 hmem).resolve_left (Ne.symm heq))]

section Unit
variable {t : FrameTree ℚ} (ht : t.UnitRotations)

include ht

variable (frames : List String) {result : Transform3D ℚ}
lemma normalized_mount (f : String) (hr : result.rotation.Normalized) : (t.mount result f).rotation.Normalized := by
  rw [mount]
  cases hnode : t.getFrame f with
  | none => exact hr
  | some node => exact normalized_compose (ht f node hnode) hr

lemma normalized_foldl_mount (hr : result.rotation.Normalized) : (frames.foldl t.mount result).rotation.Normalized := by
  induction frames generalizing result with
  | nil => exact hr
  | cons f frames ih => exact ih (normalized_mount ht f hr)

lemma normalized_along : (t.along frames).rotation.Normalized :=
  normalized_foldl_mount ht frames normalized_identity

lemma motion_foldl_mount (hr : result.rotation.Normalized) :
    (frames.foldl t.mount result).motion = (t.along frames).motion * result.motion := by
  induction frames generalizing result with
  | nil => rw [along, foldl_nil, foldl_nil, motion_identity, one_mul]
  | cons f frames ih =>
    have hmount : (t.mount result f).motion = (t.mount .identity f).motion * result.motion := by
      rw [mount, mount]
      cases hnode : t.getFrame f with
      | none => rw [motion_identity, one_mul]
      | some node =>
        have hunit := ht f node hnode
        rw [motion_compose hunit hr, motion_compose hunit normalized_identity, motion_identity, mul_one]
    rw [along, foldl_cons, foldl_cons, ih (normalized_mount ht f hr),
      ih (normalized_mount ht f normalized_identity), hmount, mul_assoc]

lemma motion_along_append (lower upper : List String) :
    (t.along (lower ++ upper)).motion = (t.along upper).motion * (t.along lower).motion := by
  rw [along, foldl_append]
  exact motion_foldl_mount ht upper (normalized_along ht lower)

lemma motion_along_meet {f common chain upper} (hclimb : Climb t.up f chain)
    (hmem : common ∈ chain) (hupper : Climb t.up common upper) :
    (t.along chain).motion = (t.along upper).motion * (t.along (below common chain)).motion := by
  rw [← motion_along_append ht, below_append hclimb hmem hupper]

end Unit

noncomputable def fromRoot (t : FrameTree ℚ) (f : String) : Motion ℍ[ℚ] :=
  match t.chainToRoot f with
  | .ok chain => (t.along chain).motion
  | .error _ => 1

lemma fromRoot_of_climb {f chain} (h : Climb t.up f chain) : t.fromRoot f = (t.along chain).motion := by
  rw [fromRoot, chainToRoot_ok_iff.2 h]

lemma lookupTransform_motion (hroot : t.OneRoot) (ht : t.UnitRotations) {a b}
    (ha : t.frameExists a = true) (hb : t.frameExists b = true) :
    ∃ transform, t.lookupTransform a b = .ok transform ∧ transform.rotation.Normalized ∧
      transform.motion = (t.fromRoot a)⁻¹ * t.fromRoot b := by
  by_cases heq : a = b
  · subst heq
    exact ⟨.identity, t.lookupTransform_self a, normalized_identity, by rw [motion_identity, inv_mul_cancel]⟩
  obtain ⟨root, hchains⟩ := hroot
  obtain ⟨chainA, hclimbA, hlastA⟩ := hchains a ha
  obtain ⟨chainB, hclimbB, hlastB⟩ := hchains b hb
  obtain ⟨common, hmeet⟩ := exists_meet hclimbA (hlastA.trans hlastB.symm)
  obtain ⟨hmemB, hmemA⟩ := mem_of_meet hmeet
  obtain ⟨upper, hupper, -⟩ := hclimbA.of_mem hmemA
  have hunitA := normalized_along ht (below common chainA)
  have hunitB := normalized_along ht (below common chainB)
  refine ⟨_, (lookupTransform_ok_iff heq).2 ⟨chainA, chainB, common, hclimbA, hclimbB, hmeet, rfl⟩,
    normalized_compose (normalized_inverse hunitA) hunitB, ?_⟩
  -- the way from the common frame to the root cancels
  rw [motion_compose (normalized_inverse hunitA) hunitB, motion_inverse hunitA, fromRoot_of_climb hclimbA,
    fromRoot_of_climb hclimbB, motion_along_meet ht hclimbA hmemA hupper, motion_along_meet ht hclimbB hmemB hupper,
    mul_inv_rev, mul_assoc, inv_mul_cancel_left]

lemma lookupTransform_error_iff {a b} (hmissing : t.frameExists a = false ∨ t.frameExists b = false) :
    (∃ e, t.lookupTransform a b = .error e) ↔ a ≠ b := by
  constructor
  · rintro ⟨e, he⟩ rfl
    rw [lookupTransform_self] at he
    cases he
  · intro hne
    cases hlookup : t.lookupTransform a b with
    | error e => exact ⟨e, rfl⟩
    | ok transform =>
      obtain ⟨chainA, chainB, -, hclimbA, hclimbB, -⟩ := (lookupTransform_ok_iff hne).1 hlookup
      have hfound : ∀ f chain, Climb t.up f chain → t.frameExists f = true := by
        intro f chain hclimb
        have hup := hclimb.up_isSome hclimb.head_mem
        rw [up, Option.isSome_map] at hup
        exact frameExists_iff.2 hup
      rcases hmissing with h | h
      · rw [hfound a chainA hclimbA] at h
        cases h
      · rw [hfound b chainB hclimbB] at h
        cases h

/-- Lookups form a groupoid over the frames of the tree; with a name that is no frame they fail just if
the names differ. -/
theorem lookupTransform_groupoid (t : FrameTree ℚ) (hroot : t.OneRoot) (ht : t.UnitRotations) :
    (∀ a, t.frameExists a = true → t.lookupTransform a a = .ok .identity) ∧
    (∀ a b, t.frameExists a = true → t.frameExists b = true →
      ∃ tab tba, t.lookupTransform a b = .ok tab ∧ t.lookupTransform b a = .ok tba ∧ tab.inverse.SamePose tba) ∧
    (∀ a b c, t.frameExists a = true → t.frameExists b = true → t.frameExists c = true →
      ∃ tab tbc tac, t.lookupTransform a b = .ok tab ∧ t.lookupTransform b c = .ok tbc ∧
        t.lookupTransform a c = .ok tac ∧ (tab.compose tbc).SamePose tac) ∧
    (∀ a b, t.frameExists a = false ∨ t.frameExists b = false →
      ((∃ e, t.lookupTransform a b = .error e) ↔ a ≠ b)) := by
  refine ⟨fun a _ => t.lookupTransform_self a, ?_, ?_, fun a b => lookupTransform_error_iff⟩
  · intro a b ha hb
    obtain ⟨tab, hab, hunit, hmotion⟩ := lookupTransform_motion hroot ht ha hb
    obtain ⟨tba, hba, hunit', hmotion'⟩ := lookupTransform_motion hroot ht hb ha
    refine ⟨tab, tba, hab, hba, (samePose_iff (normalized_inverse hunit) hunit').2 ?_⟩
    rw [motion_inverse hunit, hmotion, hmotion', mul_inv_rev, inv_inv]
  · intro a b c ha hb hc
    obtain ⟨tab, hab, hunit, hmotion⟩ := lookupTransform_motion hroot ht ha hb
    obtain ⟨tbc, hbc, hunit', hmotion'⟩ := lookupTransform_motion hroot ht hb hc
    obtain ⟨tac, hac, hunit'', hmotion''⟩ := lookupTransform_motion hroot ht ha hc
    refine ⟨tab, tbc, tac, hab, hbc, hac, (samePose_iff (normalized_compose hunit hunit') hunit'').2 ?_⟩
    rw [motion_compose hunit hunit', hmotion, hmotion', hmotion'', mul_assoc, mul_inv_cancel_left]

def armTree : FrameTree ℚ where
  frames := (∅ : Std.ExtTreeMap String (FrameNode ℚ))
    |>.insert "world" ⟨"world", none, .identity, .static⟩
    |>.insert "arm" ⟨"arm", some "world", ⟨⟨1, 0, 2⟩, ⟨3 / 5, 4 / 5, 0, 0⟩, 0⟩, .static⟩
  root := some "world"

lemma armTree_oneRoot : armTree.OneRoot := by
  refine ⟨"world", fun f hf => ?_⟩
  have hworld : Climb armTree.up "world" ["world"] := .top (by decide)
  have hnames : f = "arm" ∨ f = "world" := by
    rw [frameExists, armTree, Std.ExtTreeMap.contains_insert, Std.ExtTreeMap.contains_insert] at hf
    simp only [Bool.or_eq_true, beq_iff_eq, Std.LawfulEqCmp.compare_eq_iff_eq, Std.ExtTreeMap.contains_empty,
      Bool.false_eq_true, or_false] at hf
    exact hf.imp Eq.symm Eq.symm
  rcases hnames with rfl | rfl
  · exact ⟨["arm", "world"], .step (by decide) hworld, rfl⟩
  · exact ⟨["world"], hworld, rfl⟩

lemma armTree_unitRotations : armTree.UnitRotations := by
  intro f node hnode
  rw [getFrame, armTree, Std.ExtTreeMap.getElem?_insert, Std.ExtTreeMap.getElem?_insert] at hnode
  split_ifs at hnode
  · obtain rfl := Option.some.inj hnode
    norm_num [Quat.Normalized]
  · obtain rfl := Option.some.inj hnode
    exact normalized_identity
  · simp at hnode

theorem lookupTransform_groupoid_arm : armTree.OneRoot ∧ armTree.UnitRotations ∧
      ∃ tab tba, armTree.lookupTransform "arm" "world" = .ok tab ∧ armTree.lookupTransform "world" "arm" = .ok tba ∧
        tab.inverse.SamePose tba := by
  refine ⟨armTree_oneRoot, armTree_unitRotations, ?_⟩
  exact (lookupTransform_groupoid armTree armTree_oneRoot armTree_unitRotations).2.1 "arm" "world"
    (by simp [frameExists, armTree]) (by simp [frameExists, armTree])

/-- A frame that was never added is where it is. -/
theorem lookupTransform_unknown_from_itself :
    armTree.OneRoot ∧ armTree.UnitRotations ∧ armTree.frameExists "gripper" = false ∧
      armTree.lookupTransform "gripper" "gripper" = .ok .identity :=
  ⟨armTree_oneRoot, armTree_unitRotations, by simp [frameExists, armTree], armTree.lookupTransform_self "gripper"⟩

end FrameTree
end Roz.Embodiment
