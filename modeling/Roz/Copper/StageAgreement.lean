import Roz.Copper.SlotAgreement

/-!
# The candidate's stage and the lifecycle's stage agree

The loop keeps the candidate's stage in a variable of its own (`candidateState`)
beside the lifecycle's.  While a candidate is loaded the two should be equal, and
the candidate should be the lifecycle's current artifact (`StageAgrees`).  Two
steps break this: `PromoteActive` sets the stage of a candidate that is already in
`Shadow` or `Canary` back to `VerifiedOnly`, and a hard failure of the active
controller that is answered by a restore clears the stage of a loaded candidate
while the lifecycle turns to another artifact.  Without these it holds in every
run (`stage_agrees_of_covered`).
-/

namespace Roz.Copper
open Roz.Core ExactFloat F64 StepRun LoopState ControllerLifecycle

/-- A loaded candidate is the lifecycle's current artifact, in the lifecycle's state. -/
def StageAgrees (s : LoopState) : Prop :=
  ∀ c ∈ s.candidate, s.candidateState = s.lifecycle.currentState ∧
    s.lifecycle.currentArtifact = some c.artifact

instance (s : LoopState) : Decidable (StageAgrees s) := by
  unfold StageAgrees
  infer_instance

variable (cfg : LoopConfig)

/-- A promotion tried in this iteration submits the candidate's evidence for the stage the
lifecycle is in. -/
def SubmitsCurrentStage (s : LoopState) (i : IterInput) : Prop :=
  ∀ a c mode target, (s.drained cfg i).checkWatchdog cfg i = none →
    (s.drained cfg i).runTicks cfg i = .next a → promotionAttempt cfg a = some (c, mode, target) →
    a.state.lifecycle.currentArtifact = some c.artifact ∧
      mode = evidenceModeForState a.state.lifecycle.stage

/-- A `PromoteActive` that takes effect finds the candidate in `VerifiedOnly`. -/
def ArmsOnly (s : LoopState) (c : CopperRuntimeCommand) : Prop :=
  c = .promoteActive → (cfg.deploymentManager.allowsRollout && s.candidateEligible) = true →
    s.candidateState = some .verifiedOnly

instance (cfg : LoopConfig) (s : LoopState) (c : CopperRuntimeCommand) : Decidable (ArmsOnly cfg s c) := by
  unfold ArmsOnly
  infer_instance

/-- Every command of the iteration arms only, and the active controller does not fail hard
while both a candidate and a stashed instance are loaded. -/
def StageCovered (s : LoopState) (i : IterInput) : Prop :=
  EveryStep (fun s c => .next (processCommand cfg s c)) s (ArmsOnly cfg) (i.emergency ++ i.normal) ∧
  ((s.drained cfg i).checkWatchdog cfg i = none → (s.drained cfg i).activeFails cfg i = true →
    (s.drained cfg i).candidate = none ∨ (s.drained cfg i).rollback = none)

instance (cfg : LoopConfig) (s : LoopState) (i : IterInput) : Decidable (StageCovered cfg s i) := by
  unfold StageCovered
  infer_instance

/-! ## Each phase keeps the invariant -/

/-- A loaded candidate is the current artifact on its way to `Active`, in the stage that the
loop has noted. -/
def StageInv (k : LoopCore) : Prop :=
  ∀ c ∈ k.candidate, k.lifecycle.Stages c.artifact ∧ k.candidateState = k.lifecycle.currentState

lemma stageInv_of_empty {k} (h : k.candidate = none) : StageInv k := by
  intro c hc
  rw [h] at hc
  cases hc

lemma StageInv.congr {k k'} (h : StageInv k) (hc : artifactOf k'.candidate = artifactOf k.candidate)
    (hlc : k'.lifecycle = k.lifecycle) (hst : k'.candidateState = k.candidateState) : StageInv k' := by
  intro c hmem
  rw [hlc, hst]
  rw [Option.mem_def.1 hmem] at hc
  cases hk : k.candidate with
  | none =>
    rw [hk] at hc
    cases hc
  | some c0 =>
    rw [hk] at hc
    obtain hart : c.artifact = c0.artifact := Option.some.inj hc
    rw [hart]
    exact h c0 hk

variable {cfg : LoopConfig} {s : LoopState}
lemma stageInv_processCommand (c : CopperRuntimeCommand) (h : StageInv s.core) (hok : ArmsOnly cfg s c) :
    StageInv (processCommand cfg s c).core := by
  cases c with
  | preparedArtifact load =>
    simp only [processCommand, loadPrepared_core]
    rintro c hc
    obtain rfl := Option.some.inj hc
    exact ⟨⟨rfl, Or.inl rfl⟩, rfl⟩
  | promoteActive =>
    simp only [processCommand]
    split
    · next hacc => exact h.congr rfl rfl (hok rfl hacc).symm
    · exact h
  | updateParams => exact h
  | halt => exact h.congr (artifactOf_setRunning false s.candidate) rfl rfl
  | resume => exact h.congr (artifactOf_setRunning true s.candidate) rfl rfl

variable (i : IterInput)
lemma stageInv_drained (h : StageInv s.core)
    (hok : EveryStep (fun s c => .next (processCommand cfg s c)) s (ArmsOnly cfg) (i.emergency ++ i.normal)) :
    StageInv (s.drained cfg i).core := by
  have hdrain := hok.invariant (fun s => StageInv s.core)
    (fun s c s' hs harm hs' => Flow.next.inj hs' ▸ stageInv_processCommand c hs harm) h _ _
    (runFrom_total (processCommand cfg) _ s)
  exact hdrain.congr rfl rfl rfl

variable {r : ControllerTickResult}
lemma stageInv_activeStep {s' i} (h : StageInv s.core)
    (hstep : ActiveStep cfg s i r s') (hcov : s.activeFails cfg i = true → s.candidate = none ∨ s.rollback = none) :
    StageInv s'.core := by
  cases hstep with
  | idle _ hcore => rwa [hcore]
  | ticked c c' _ _ _ _ hcore => rw [hcore]; exact h.congr rfl rfl rfl
  | restored c c' rb reason outcome lc n hc hrun ht hrb _ hcore =>
    rw [hcore]
    have hfail := activeFails_of_tick hc hrun ht
    rcases hcov hfail with hnone | hnone
    · exact stageInv_of_empty hnone
    · rw [hrb] at hnone
      cases hnone
  | stopped c c' reason n _ _ _ _ hcore =>
    rw [hcore]
    exact h.congr (artifactOf_setRunning false s.candidate) rfl rfl

lemma stageInv_candidateStep {i a} (h : StageInv s.core)
    (hstep : CandidateStep cfg s r i a) : StageInv a.state.core := by
  cases hstep with
  | idle _ _ hcore => rw [hcore]; exact h.congr rfl rfl rfl
  | kept c c' rc f hc _ ht _ _ hcore =>
    rw [hcore]
    have hart := (tickSlot_cases cfg s c c' rc ht).1
    exact h.congr (by simp [hc, hart]) rfl rfl
  | dropped c c' rc n _ _ _ _ hcore => rw [hcore]; exact stageInv_of_empty rfl

lemma stageInv_advanceStep (a : Actuated) (s' : LoopState) (h : StageInv a.state.core)
    (hstep : AdvanceStep cfg a s') : StageInv s'.core := by
  cases hstep with
  | unchanged hcore => rwa [hcore]
  | refused c ev _ _ _ hcore => rw [hcore]; exact stageInv_of_empty rfl
  | activated c c' utcNow _ _ _ _ hcore => rw [hcore]; exact stageInv_of_empty rfl
  | staged c c' target hp _ htarget hart _ hcore =>
    rw [hcore]
    intro c0 hc0
    obtain rfl := Option.some.inj hc0
    refine ⟨⟨?_, Or.inr (htarget.imp (congrArg some) (congrArg some))⟩, rfl⟩
    rw [hart]
    exact (h c hp.loaded).1.1

lemma stageInv_iterate (s' : LoopState) (i : IterInput) (h : StageInv s.core) (hcov : StageCovered cfg s i)
    (hs : s.iterate cfg i = .next s') : StageInv s'.core := by
  have hd := stageInv_drained i h hcov.1
  cases iterate_step cfg s hs with
  | watchdog n _ hcore =>
    rw [hcore]
    exact hd.congr (artifactOf_setRunning false _) rfl rfl
  | ticks hwatch _ hact hcand hadv =>
    exact stageInv_advanceStep _ s' (stageInv_candidateStep
      (stageInv_activeStep hd hact (hcov.2 hwatch)) hcand) hadv

lemma submitsCurrentStage_of_stageInv (h : StageInv s.core) (hcov : StageCovered cfg s i) :
    SubmitsCurrentStage cfg s i := by
  intro a c mode target hwatch hrun hattempt
  obtain ⟨r, s2, hact, hcand⟩ := runTicks_step cfg _ i a hrun
  have hinv := stageInv_candidateStep
    (stageInv_activeStep (stageInv_drained i h hcov.1) hact (hcov.2 hwatch)) hcand
  obtain ⟨hc, st, hst, rfl⟩ := promotionAttempt_loaded cfg hattempt
  obtain ⟨hstages, hagree⟩ := hinv c hc
  refine ⟨hstages.1, ?_⟩
  simp only [ControllerLifecycle.stage]
  rw [← show a.state.candidateState = a.state.lifecycle.currentState from hagree, hst]
  rfl

/-! ## Runs -/

theorem stage_agrees_of_covered (cfg : LoopConfig) (now : Nat) (inputs : List IterInput)
    (h : EveryStep (iterate cfg) (.initial now) (StageCovered cfg) inputs) :
    (∀ pre post s, inputs = pre ++ post → runLoop cfg now pre = .next s → StageAgrees s) ∧
    EveryStep (iterate cfg) (.initial now) (SubmitsCurrentStage cfg) inputs := by
  have hinv : ∀ pre post s, inputs = pre ++ post → runLoop cfg now pre = .next s → StageInv s.core := by
    intro pre post s he hr
    exact (h.of_append he).invariant (fun s => StageInv s.core)
      (fun s i s' hs hok => stageInv_iterate s' i hs hok) (stageInv_of_empty rfl) pre s hr
  refine ⟨fun pre post s he hr c hc => ?_, fun pre i post s he hr => ?_⟩
  · obtain ⟨hstages, hagree⟩ := hinv pre post s he hr c hc
    exact ⟨hagree, hstages.1⟩
  · exact submitsCurrentStage_of_stageInv i (hinv pre (i :: post) s he hr) (h pre i post s he hr)

def enterCanary : IterInput :=
  iterationWith [] [.preparedArtifact (velocityController "a"), .promoteActive] (commanding 1) (commanding 1)

theorem stage_agrees_enterCanary : (runLoop quickConfig 0 [enterCanary]).state.candidateState = some .canary ∧
    StageAgrees (runLoop quickConfig 0 [enterCanary]).state :=
  ⟨by with_unfolding_all decide,
    (stage_agrees_of_covered quickConfig 0 [enterCanary] (by with_unfolding_all decide)).1 [enterCanary] [] _ rfl
      (by with_unfolding_all decide)⟩

def promotedTwice : List IterInput :=
  [enterCanary, iterationWith [] [.halt, .promoteActive] (commanding 1) (commanding 1)]

theorem stage_disagrees_promotedTwice : ∃ s, runLoop quickConfig 0 promotedTwice = .next s ∧ s.candidate ≠ none ∧
      s.candidateState = some .verifiedOnly ∧ s.lifecycle.currentState = some .canary ∧ ¬ StageAgrees s :=
  ⟨(runLoop quickConfig 0 promotedTwice).state, by with_unfolding_all decide⟩

end Roz.Copper
