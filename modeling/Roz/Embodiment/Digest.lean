import Mathlib.Tactic.DeriveCountable
import Roz.Embodiment.Runtime

/-!
# What the combined digest binds

`combined_digest` is the hash of `model:calibration:safety`.  The model digest is recomputed and
an applied calibration has been compared with its own, so both are hashes of their layer; with
an injective hash and injective printing they determine it.  The safety digest is the text the
caller wrote into the overlay, or `none` without one.  It is not compared with anything
(`combinedDigest_eq_iff`, `digest_binds_iff`).
-/

namespace Roz.Embodiment
open ExactFloat

/-! ## Separated texts -/

lemma append_cons_inj {β : Type} {a : β} {x y z w} (hx : a ∉ x) (hy : a ∉ y)
    (h : x ++ a :: z = y ++ a :: w) : x = y ∧ z = w := by
  induction x generalizing y with
  | nil =>
    cases y with
    | nil => exact ⟨rfl, (List.cons.inj h).2⟩
    | cons b y => exact absurd ((List.cons.inj h).1 ▸ .head _) hy
  | cons b x ih =>
    cases y with
    | nil => exact absurd ((List.cons.inj h).1 ▸ .head _) hx
    | cons c y =>
      obtain ⟨rfl, hrest⟩ := List.cons.inj h
      obtain ⟨rfl, rfl⟩ := ih (fun hmem => hx (.tail _ hmem)) (fun hmem => hy (.tail _ hmem)) hrest
      exact ⟨rfl, rfl⟩

def isHexDigit (c : Char) : Bool := c.isDigit || (decide ('a' ≤ c) && decide (c ≤ 'f'))

def IsHex (text : String) : Prop := ∀ c ∈ text.toList, isHexDigit c = true

def IsDigest (text : String) : Prop := IsHex text ∨ text = "none"

lemma IsDigest.no_colon {text} (h : IsDigest text) : ':' ∉ text.toList := by
  rcases h with h | rfl
  · exact fun hmem => absurd (h _ hmem) (by decide)
  · decide

lemma not_isHex_none : ¬IsHex "none" := fun h => absurd (h 'n' (by decide)) (by decide)

lemma separated_inj {m m' c c' s s'} (hm : IsDigest m) (hm' : IsDigest m') (hc : IsDigest c)
    (hc' : IsDigest c') (h : m ++ ":" ++ c ++ ":" ++ s = m' ++ ":" ++ c' ++ ":" ++ s') :
    m = m' ∧ c = c' ∧ s = s' := by
  have hlist := congrArg String.toList h
  have hcolon : (":" : String).toList = [':'] := rfl
  simp only [String.toList_append, hcolon, List.append_assoc, List.singleton_append] at hlist
  obtain ⟨hmm, hrest⟩ := append_cons_inj hm.no_colon hm'.no_colon hlist
  obtain ⟨hcc, hss⟩ := append_cons_inj hc.no_colon hc'.no_colon hrest
  exact ⟨String.toList_inj.1 hmm, String.toList_inj.1 hcc, String.toList_inj.1 hss⟩

/-! ## Layers and their digests -/

/-- Different layers are printed differently, and different texts have different hashes. -/
structure Codec.Faithful {α : Type} (codec : Codec α) : Prop where
  model_injective : Function.Injective codec.model
  calibration_injective : Function.Injective codec.calibration
  sha256Hex_injective : Function.Injective codec.sha256Hex
  sha256Hex_isHex : ∀ text, IsHex (codec.sha256Hex text)

structure Layers (α : Type) where
  model : EmbodimentModel α
  calibration : Option (CalibrationOverlay α)
  safetyOverlay : Option (SafetyOverlay α)

section Bind
variable {α : Type} {codec : Codec α}
def SameModel (m m' : EmbodimentModel α) : Prop := { m with modelDigest := "" } = { m' with modelDigest := "" }

def safetyText (overlay : Option (SafetyOverlay α)) : String := overlay.elim "none" (·.overlayDigest)

def calibrationText (applied : Option (CalibrationOverlay α)) : String := applied.elim "none" (·.calibrationDigest)

namespace Layers

def applied (codec : Codec α) (layers : Layers α) : Option (CalibrationOverlay α) :=
  appliedCalibration codec layers.model layers.calibration

def compile [Arith α] (codec : Codec α) (layers : Layers α) : EmbodimentRuntime α :=
  .compile codec layers.model layers.calibration layers.safetyOverlay

lemma combinedDigest_compile [Arith α] (layers : Layers α) : (layers.compile codec).combinedDigest =
    codec.sha256Hex (layers.model.computeDigest codec ++ ":" ++ calibrationText (layers.applied codec) ++ ":" ++
      safetyText layers.safetyOverlay) := rfl

end Layers

lemma computeDigest_inj (h : codec.Faithful) {m m'} :
    m.computeDigest codec = m'.computeDigest codec ↔ SameModel m m' := by
  constructor
  · intro heq
    exact h.model_injective (h.sha256Hex_injective heq)
  · intro hsame
    rw [EmbodimentModel.computeDigest, EmbodimentModel.computeDigest, hsame]

lemma calibrationDigest_of_applied {model calibration overlay}
    (happlied : appliedCalibration codec model calibration = some overlay) :
    overlay.calibrationDigest = overlay.computeDigest codec := by
  have hvalid := Option.filter_eq_some_iff.1 happlied |>.2
  simp only [CalibrationOverlay.isValidForModel, Bool.and_eq_true, beq_iff_eq] at hvalid
  exact hvalid.1.2

lemma isDigest_calibrationText (h : codec.Faithful) (layers : Layers α) :
    IsDigest (calibrationText (layers.applied codec)) := by
  cases happlied : layers.applied codec with
  | none => exact .inr rfl
  | some overlay =>
    refine .inl ?_
    rw [calibrationText, Option.elim_some, calibrationDigest_of_applied happlied]
    exact h.sha256Hex_isHex _

lemma calibrationText_inj (h : codec.Faithful) {a b : Layers α} :
    calibrationText (a.applied codec) = calibrationText (b.applied codec) ↔ a.applied codec = b.applied codec := by
  constructor
  · intro heq
    cases ha : a.applied codec with
    | none =>
      cases hb : b.applied codec with
      | none => rfl
      | some overlay =>
        -- a stamped digest has hexadecimal digits only
        rw [ha, hb, calibrationText, calibrationText, Option.elim_none, Option.elim_some,
          calibrationDigest_of_applied hb] at heq
        exact absurd (heq ▸ h.sha256Hex_isHex _) not_isHex_none
    | some overlay =>
      cases hb : b.applied codec with
      | none =>
        rw [ha, hb, calibrationText, calibrationText, Option.elim_none, Option.elim_some,
          calibrationDigest_of_applied ha] at heq
        exact absurd (heq ▸ h.sha256Hex_isHex _) not_isHex_none
      | some overlay' =>
        rw [ha, hb, calibrationText, calibrationText, Option.elim_some, Option.elim_some] at heq
        have hprinted : { overlay with calibrationDigest := "" } = { overlay' with calibrationDigest := "" } := by
          refine h.calibration_injective (h.sha256Hex_injective ?_)
          have hstamps := heq
          rw [calibrationDigest_of_applied ha, calibrationDigest_of_applied hb] at hstamps
          exact hstamps
        cases overlay
        cases overlay'
        simp_all
  · intro heq
    rw [heq]

lemma combinedDigest_eq_iff [Arith α] (h : codec.Faithful) (a b : Layers α) :
    (a.compile codec).combinedDigest = (b.compile codec).combinedDigest ↔
      SameModel a.model b.model ∧ a.applied codec = b.applied codec ∧
        safetyText a.safetyOverlay = safetyText b.safetyOverlay := by
  rw [Layers.combinedDigest_compile, Layers.combinedDigest_compile, ← computeDigest_inj h, ← calibrationText_inj h]
  constructor
  · intro heq
    exact separated_inj (.inl (h.sha256Hex_isHex _)) (.inl (h.sha256Hex_isHex _)) (isDigest_calibrationText h a)
      (isDigest_calibrationText h b) (h.sha256Hex_injective heq)
  · rintro ⟨hmodel, hcalibration, hsafety⟩
    rw [hmodel, hcalibration, hsafety]

/-- Equal combined digests mean equal configurations: the models up to their digest field, the
applied calibrations and the safety overlays of the two runtimes. -/
def DigestBinds [Arith α] (codec : Codec α) (a b : Layers α) : Prop :=
  (a.compile codec).combinedDigest = (b.compile codec).combinedDigest →
    SameModel (a.compile codec).model (b.compile codec).model ∧ a.applied codec = b.applied codec ∧
      (a.compile codec).safetyOverlay = (b.compile codec).safetyOverlay

theorem digest_binds_iff [Arith α] (h : codec.Faithful) (a b : Layers α) : DigestBinds codec a b ↔
      (SameModel a.model b.model → a.applied codec = b.applied codec →
        safetyText a.safetyOverlay = safetyText b.safetyOverlay → a.safetyOverlay = b.safetyOverlay) := by
  rw [DigestBinds, combinedDigest_eq_iff h]
  constructor
  · intro hbinds hmodel hcalibration hsafety
    exact (hbinds ⟨hmodel, hcalibration, hsafety⟩).2.2
  · rintro hoverlay ⟨hmodel, hcalibration, hsafety⟩
    exact ⟨hmodel, hcalibration, hoverlay hmodel hcalibration hsafety⟩

end Bind

/-! ## A faithful codec

The layers over the exact floats are countable, so they can be printed and hashed without
collision. -/

instance countableChar : Countable Char := Function.Injective.countable (f := Char.toNat) fun _ _ h => Char.toNat_inj.1 h

instance countableString : Countable String := Function.Injective.countable (f := String.toList) fun _ _ h => String.toList_inj.1 h

instance countableExtTreeMap {V : Type} [Countable V] : Countable (Std.ExtTreeMap String V) :=
  Function.Injective.countable (f := fun m : Std.ExtTreeMap String V => m.toList) fun _ _ h =>
    Std.ExtTreeMap.toList_inj.1 h

deriving instance Countable for F64, Vec3, Quat, Transform3D, Core.FrameSource, FrameNode, FrameTree,
  JointSafetyLimits, WorkspaceShape, ZoneType, WorkspaceZone, JointType, Inertial, Geometry, CollisionBody, Link,
  Joint, TcpType, ToolCenterPoint, SensorType, CameraFrustum, SensorMount, EmbodimentFamily, BindingType,
  SemanticRole, ChannelBinding, EmbodimentModel, SensorCalibration, CalibrationOverlay

noncomputable def unary (β : Type) [Countable β] (b : β) : String :=
  String.ofList (List.replicate (Classical.choose (exists_injective_nat β) b) '0')

lemma unary_injective {β : Type} [Countable β] : Function.Injective (unary β) := by
  intro a b h
  have hlist := congrArg String.toList h
  simp only [unary, String.toList_ofList] at hlist
  have hlength := congrArg List.length hlist
  rw [List.length_replicate, List.length_replicate] at hlength
  exact Classical.choose_spec (exists_injective_nat β) hlength

lemma unary_isHex (β : Type) [Countable β] (b : β) : IsHex (unary β b) := by
  intro c hc
  rw [unary, String.toList_ofList] at hc
  rw [List.eq_of_mem_replicate hc]
  decide

noncomputable def unaryCodec : Codec F64 := ⟨unary _, unary _, unary _⟩

lemma unaryCodec_faithful : unaryCodec.Faithful where
  model_injective := unary_injective
  calibration_injective := unary_injective
  sha256Hex_injective := unary_injective
  sha256Hex_isHex := unary_isHex _

def bareModel : EmbodimentModel F64 := .ofFrames (FrameTree.new.setRoot "world" .static)

def zonesOverlay (digest : String) (zones : List (WorkspaceZone F64)) : SafetyOverlay F64 :=
  ⟨digest, zones, ∅, none, [], none, [], [], ∅⟩

def keepOut : WorkspaceZone F64 := ⟨"keep out", .sphere (.fin 1), "world", .restricted, .fin 0⟩

theorem zones_bound_by_digest :
    unaryCodec.Faithful ∧ DigestBinds unaryCodec ⟨bareModel, none, some (zonesOverlay "v1" [])⟩
      ⟨bareModel, none, some (zonesOverlay "v2" [keepOut])⟩ := by
  refine ⟨unaryCodec_faithful, (digest_binds_iff unaryCodec_faithful _ _).2 ?_⟩
  intro _ _ hsafety
  exact absurd (show "v1" = "v2" from hsafety) (by decide)

/-- A zone that is added under the same `overlay_digest` leaves the combined digest as it was. -/
theorem zone_not_bound : unaryCodec.Faithful ∧ ¬DigestBinds unaryCodec ⟨bareModel, none, some (zonesOverlay "v1" [])⟩
      ⟨bareModel, none, some (zonesOverlay "v1" [keepOut])⟩ := by
  refine ⟨unaryCodec_faithful, fun hbinds => ?_⟩
  have hzones := congrArg (Option.map SafetyOverlay.workspaceRestrictions) (hbinds rfl).2.2
  cases hzones

end Roz.Embodiment
