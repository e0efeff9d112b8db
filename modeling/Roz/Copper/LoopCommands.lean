import Roz.Copper.Loop

/-!
# Halting through the command queues

A `Halt` in the emergency queue should win its iteration (`HaltWins`).  Emergency
and normal commands go through one handler, and a `PreparedArtifact` or a `Resume`
behind the `Halt` sets controllers running again, so

    .halt ∈ emergency → (HaltWins cfg s i ↔ HaltStands s (emergency ++ normal))  (haltWins_iff)
-/

namespace Roz.Copper
open Roz.Core ExactFloat StepRun LoopState List
namespace LoopState
variable (s : LoopState)
def AnyLoaded : Prop := s.active ≠ none ∨ s.candidate ≠ none ∨ s.rollback ≠ none

def AnySlotRunning : Prop :=
  isRunning s.active = true ∨ isRunning s.candidate = true ∨ isRunning s.rollback = true

instance (s : LoopState) : Decidable s.AnyLoaded := by unfold AnyLoaded; infer_instance

instance (s : LoopState) : Decidable s.AnySlotRunning := by unfold AnySlotRunning; infer_instance

lemma isRunning_map_setRunning (b : Bool) (o : Option LoadedController) :
    isRunning (o.map (.setRunning b)) = (o.isSome && b) := by cases o <;> rfl

variable (cfg : LoopConfig) (s : LoopState) (o : Option LoadedController)
  (cmds : List CopperRuntimeCommand) (m : ExecutionMode)

@[simp] lemma finalizeEvidence_slots : (s.finalizeEvidence o m).active = s.active ∧
    (s.finalizeEvidence o m).candidate = s.candidate ∧ (s.finalizeEvidence o m).rollback = s.rollback := by
  cases o with
  | none => exact ⟨rfl, rfl, rfl⟩
  | some c =>
    simp only [finalizeEvidence, recordFinalizedEvidence]
    split <;> exact ⟨rfl, rfl, rfl⟩

/-! ## What one command does to the slots -/

variable (c : CopperRuntimeCommand)
lemma anyLoaded_processCommand :
    (s.processCommand cfg c).AnyLoaded ↔ s.AnyLoaded ∨ ∃ load, c = .preparedArtifact load := by
  cases c with
  | preparedArtifact load => simp [processCommand, loadPrepared, AnyLoaded]
  | promoteActive =>
    simp only [processCommand]
    split <;> simp [AnyLoaded]
  | updateParams p => simp [processCommand]
  | halt => simp [processCommand, mapSlots, AnyLoaded]
  | resume => simp [processCommand, mapSlots, AnyLoaded]

lemma anyLoaded_foldl : ∀ s : LoopState, (cmds.foldl (processCommand cfg) s).AnyLoaded ↔
    s.AnyLoaded ∨ ∃ load, .preparedArtifact load ∈ cmds := by
  induction cmds with
  | nil => simp
  | cons c cmds ih =>
    intro s
    rw [foldl_cons, ih, anyLoaded_processCommand]
    simp only [mem_cons]
    constructor
    · rintro ((h | ⟨load, rfl⟩) | ⟨load, h⟩)
      · exact Or.inl h
      · exact Or.inr ⟨load, Or.inl rfl⟩
      · exact Or.inr ⟨load, Or.inr h⟩
    · rintro (h | ⟨load, rfl | h⟩)
      · exact Or.inl (Or.inl h)
      · exact Or.inl (Or.inr ⟨load, rfl⟩)
      · exact Or.inr ⟨load, h⟩

lemma anySlotRunning_loaded (h : s.AnySlotRunning) : s.AnyLoaded := by
  unfold AnySlotRunning isRunning at h
  unfold AnyLoaded
  rcases h with h | h | h
  · cases ha : s.active with
    | none => rw [ha] at h; cases h
    | some c => simp
  · cases ha : s.candidate with
    | none => rw [ha] at h; cases h
    | some c => simp
  · cases ha : s.rollback with
    | none => rw [ha] at h; cases h
    | some c => simp

lemma anySlotRunning_processCommand : (s.processCommand cfg c).AnySlotRunning ↔ match c with
    | .preparedArtifact _ => True
    | .halt => False
    | .resume => s.AnyLoaded
    | .promoteActive | .updateParams _ => s.AnySlotRunning := by
  cases c with
  | preparedArtifact load => simp [processCommand, loadPrepared, AnySlotRunning, isRunning, LoadedController.fromPrepared]
  | promoteActive =>
    simp only [processCommand]
    split <;> simp [AnySlotRunning]
  | updateParams p => simp [processCommand]
  | halt => simp [processCommand, mapSlots, AnySlotRunning, isRunning_map_setRunning]
  | resume =>
    simp only [processCommand, mapSlots, AnySlotRunning, isRunning_map_setRunning, AnyLoaded, Bool.and_true,
      Option.isSome_iff_ne_none]

lemma anySlotRunning_foldl (hno : .halt ∉ cmds) :
    ∀ s : LoopState, s.AnySlotRunning → (cmds.foldl (processCommand cfg) s).AnySlotRunning := by
  induction cmds with
  | nil => exact fun s h => h
  | cons c cmds ih =>
    intro s h
    refine ih (fun hm => hno (mem_cons_of_mem _ hm)) _ ?_
    rw [anySlotRunning_processCommand]
    cases c with
    | preparedArtifact load => trivial
    | promoteActive => exact h
    | updateParams p => exact h
    | halt => exact absurd mem_cons_self hno
    | resume => exact s.anySlotRunning_loaded h

lemma not_anySlotRunning_foldl (hload : ∀ load, .preparedArtifact load ∉ cmds) :
    ∀ s : LoopState, (.resume ∈ cmds → ¬ s.AnyLoaded) → ¬ s.AnySlotRunning →
      ¬ (cmds.foldl (processCommand cfg) s).AnySlotRunning := by
  induction cmds with
  | nil => exact fun s _ h => h
  | cons c cmds ih =>
    intro s hres h
    refine ih (fun load hm => hload load (mem_cons_of_mem _ hm)) _ (fun hm hl => ?_) ?_
    · rcases (anyLoaded_processCommand cfg s c).1 hl with hl | ⟨load, rfl⟩
      · exact hres (mem_cons_of_mem _ hm) hl
      · exact hload load mem_cons_self
    · rw [anySlotRunning_processCommand]
      cases c with
      | preparedArtifact load => exact absurd mem_cons_self (hload load)
      | promoteActive => exact h
      | updateParams p => exact h
      | halt => exact not_false
      | resume => exact hres mem_cons_self

end LoopState

/-! ## When a halt stands -/

/-- Some `Halt` is followed by no `PreparedArtifact`, and by a `Resume` only if there is
nothing to resume. -/
def HaltStands (s : LoopState) (cmds : List CopperRuntimeCommand) : Prop :=
  ∃ pre post, cmds = pre ++ .halt :: post ∧ (∀ load, .preparedArtifact load ∉ post) ∧
    (.resume ∈ post → ¬ s.AnyLoaded ∧ ∀ load, .preparedArtifact load ∉ pre)

variable {cmds : List CopperRuntimeCommand}
lemma split_last_halt (h : .halt ∈ cmds) : ∃ pre post, cmds = pre ++ .halt :: post ∧ .halt ∉ post := by
  obtain ⟨as, bs, he, hno⟩ := eq_append_cons_of_mem (mem_reverse.2 h)
  refine ⟨bs.reverse, as.reverse, ?_, fun hm => hno (mem_reverse.1 hm)⟩
  rw [← reverse_reverse cmds, he]
  simp

lemma not_anySlotRunning_iff_haltStands (cfg : LoopConfig) (s : LoopState) (h : .halt ∈ cmds) :
    ¬ (cmds.foldl (processCommand cfg) s).AnySlotRunning ↔ HaltStands s cmds := by
  constructor
  · intro hnone
    obtain ⟨pre, post, rfl, hlast⟩ := split_last_halt h
    -- whatever starts a controller behind the last `Halt` leaves one running
    have hstart : ∀ c mid tl, post = mid ++ c :: tl →
        ¬ (((pre ++ .halt :: mid).foldl (processCommand cfg) s).processCommand cfg c).AnySlotRunning := by
      rintro c mid tl rfl hrun
      apply hnone
      have hsplit : pre ++ .halt :: (mid ++ c :: tl) = (pre ++ .halt :: mid) ++ c :: tl := by simp
      rw [hsplit, foldl_append, foldl_cons]
      exact anySlotRunning_foldl cfg tl (fun hm => hlast (by simp [hm])) _ hrun
    refine ⟨pre, post, rfl, fun load hm => ?_, fun hm => ?_⟩
    · obtain ⟨mid, tl, he⟩ := append_of_mem hm
      exact hstart _ mid tl he ((anySlotRunning_processCommand cfg _ _).2 trivial)
    · obtain ⟨mid, tl, he⟩ := append_of_mem hm
      have hunloaded := mt (anySlotRunning_processCommand cfg _ .resume).2 (hstart _ mid tl he)
      rw [anyLoaded_foldl] at hunloaded
      exact ⟨fun hl => hunloaded (Or.inl hl), fun load hp => hunloaded (Or.inr ⟨load, by simp [hp]⟩)⟩
  · rintro ⟨pre, post, rfl, hload, hres⟩
    rw [foldl_append, foldl_cons]
    refine not_anySlotRunning_foldl cfg post hload _ (fun hm hl => ?_) ?_
    · obtain ⟨hs, hpre⟩ := hres hm
      rw [anyLoaded_processCommand, anyLoaded_foldl] at hl
      rcases hl with (hl | ⟨load, hl⟩) | ⟨load, hl⟩
      · exact hs hl
      · exact hpre load hl
      · cases hl
    · rw [anySlotRunning_processCommand]
      exact not_false

namespace LoopState

lemma iterate_idle {cfg} {s : LoopState} {i} (h : (s.drained cfg i).anyControllerRunning = false) :
    s.iterate cfg i = .next { s.drained cfg i with tick := (s.drained cfg i).tick + 1 } := by
  unfold iterate
  generalize s.drained cfg i = s1 at h ⊢
  obtain ⟨ha, hc⟩ : isRunning s1.active = false ∧ isRunning s1.candidate = false := by
    simpa [anyControllerRunning] using h
  have hwatch : s1.checkWatchdog cfg i = none := by
    unfold checkWatchdog
    rw [h]
    split <;> rfl
  have hactive : s1.tickActive cfg i = some (.none, s1) := by
    unfold tickActive
    cases hs : s1.active with
    | none => rfl
    | some c =>
      rw [hs] at ha
      simp only [show c.running = false from ha, Bool.false_eq_true, if_false]
  have hcand : s1.tickCandidate cfg i = some (none, s1) := by
    unfold tickCandidate
    cases hs : s1.candidate with
    | none => rfl
    | some c =>
      rw [hs] at hc
      simp only [show c.running = false from hc, Bool.false_eq_true, if_false]
  have hcanary : s1.candidateIsCanary = false := by simp [candidateIsCanary, hc]
  have hrun : s1.runCandidate cfg .none i = some ⟨s1, false, true⟩ := by
    simp [runCandidate, hcand, candidateFailureReason, handleCandidateFailure, boundedCanaryCommand, hcanary,
      enforceBoundedBudget, actuate, actuatedCommand, ControllerTickResult.none]
  have hticks : s1.runTicks cfg i = .next ⟨s1, false, true⟩ := by
    have hkept : s1.handleActiveFailure cfg .none = s1 := rfl
    simp only [runTicks, hactive, hkept, hrun]
  simp [hwatch, hticks, advanceCandidateStage]

end LoopState

/-! ## An emergency halt -/

/-- The halt wins the iteration: after draining no controller is running, and whatever the
guests would do, the iteration ticks none of them and sends nothing. -/
def HaltWins (cfg : LoopConfig) (s : LoopState) (i : IterInput) : Prop :=
  ¬ (s.drained cfg i).AnySlotRunning ∧
  ∀ activeGuest candidateGuest,
    s.iterate cfg { i with activeGuest := activeGuest, candidateGuest := candidateGuest } =
      .next { s.drained cfg i with tick := (s.drained cfg i).tick + 1 }

/-- An emergency `Halt` wins its iteration exactly if some `Halt` stands among the
commands drained. -/
theorem haltWins_iff (cfg : LoopConfig) (s : LoopState) (i : IterInput) (h : .halt ∈ i.emergency) :
    HaltWins cfg s i ↔ HaltStands s (i.emergency ++ i.normal) := by
  rw [← not_anySlotRunning_iff_haltStands cfg s (mem_append_left _ h)]
  refine ⟨fun hw => hw.1, fun hnone => ⟨hnone, fun activeGuest candidateGuest => ?_⟩⟩
  refine iterate_idle ?_
  show (s.drained cfg i).anyControllerRunning = false
  cases hr : (s.drained cfg i).anyControllerRunning with
  | false => rfl
  | true =>
    simp only [anyControllerRunning, Bool.or_eq_true] at hr
    exact absurd (hr.elim Or.inl fun h => Or.inr (Or.inl h)) hnone

/-! ## Small runs -/

def quickPolicy : DeploymentManager :=
  { policySource := .explicitOverride, requireShadow := false, requireCanary := true
    rawShadowTicksRequired := 1, rawCanaryTicksRequired := 1, maxStageNormalizedCommandDeltaBps := 2500
    canaryMaxCommandDeltaBps := 2500, maxBoundedCanaryTicks := 1000 }

def quickConfig : LoopConfig := ⟨quickPolicy, true, 1000000000, id, fun _ _ => ""⟩

def verifiedController (id : String) (channels : List ControlChannelDef) : PreparedController :=
  { artifact :=
      { controllerId := id, sha256 := id, channelManifestVersion := 1, hostAbiVersion := 2
        promotedAt := none
        verificationKey := ⟨id, "wit", "model", "calib", "manifest", .verify, "wasmtime", none⟩
        witWorld := "live-controller", verifierResult := some (.pass "verified") }
    manifest := ⟨channels, []⟩
    runtime := ⟨[], none⟩ }

def velocityController (id : String) : PreparedController :=
  verifiedController id [⟨"joint0/velocity", .jointVelocity⟩]

def commanding (q : ℚ) : GuestOutcome := .output ⟨[.fin q], false, none⟩

def iterationWith (emergency normal : List CopperRuntimeCommand) (activeGuest candidateGuest : GuestOutcome) :
    IterInput :=
  ⟨emergency, normal, 0, none, 0, 0, activeGuest, candidateGuest, 1⟩

def haltThenPromote : IterInput := iterationWith [.halt] [.promoteActive] (commanding 1) (commanding 1)

theorem haltWins_haltThenPromote : HaltWins quickConfig (.initial 0) haltThenPromote :=
  (haltWins_iff quickConfig (.initial 0) haltThenPromote (by decide)).2
    ⟨[], [.promoteActive], rfl, by simp, by simp⟩

def haltThenLoad : IterInput :=
  iterationWith [.halt] [.preparedArtifact (velocityController "a")] (commanding 1) (commanding 1)

theorem emergency_halt_overtaken :
    .halt ∈ haltThenLoad.emergency ∧ ¬ HaltWins quickConfig (.initial 0) haltThenLoad := by
  refine ⟨by decide, fun h => h.1 ?_⟩
  decide

end Roz.Copper
