import Roz.Copper.LoopPhases

/-!
# What stage advancement and a whole iteration do

A promotion that stage advancement tries is granted by the lifecycle, and the
candidate enters the next stage or takes the active slot; or it is refused, and
the candidate is rejected.

    submitStageEvidenceAndPromote_cases, advanceCandidateStage_step, iterate_step
-/

namespace Roz.Copper
open Roz.Core ExactFloat F64 StepRun LoopCore DeploymentManager

def LoopCore.activate (k : LoopCore) (c : LoadedController) (utcNow : Nat) : LoopCore :=
  { k with
    active := some { c with artifact := { c.artifact with promotedAt := some utcNow } }
    candidate := none
    rollback := (k.active.map (.setRunning false)).or k.rollback
    candidateState := none }

namespace LoopState

/-! ## Submitting evidence -/

@[simp] lemma judgeStageEvidence_executionMode (e : ControllerEvidenceBundle) :
    (judgeStageEvidence e).executionMode = e.executionMode := by
  unfold judgeStageEvidence
  split
  · rfl
  · split <;> rfl

variable (cfg : LoopConfig) {dm : DeploymentManager} (s : LoopState) (target : DeploymentState) (c : LoadedController)

/-- A promotion out of a stage succeeds from the lifecycle's stage, with evidence of that
stage's mode; or it fails, and only the evidence of the lifecycle has changed. -/
lemma submitStageEvidenceAndPromote_cases (mode : ExecutionMode) (target : DeploymentState) :
    (∃ t s', s.submitStageEvidenceAndPromote c mode target = (.ok t, s') ∧ t.toState = target ∧
      (∃ art, s.lifecycle.currentArtifact = some art) ∧ mode = evidenceModeForState s.lifecycle.stage ∧
      s.lifecycle.stage.canTransitionTo target = true ∧ s'.core = { s.core with
        candidate := some (c.rotateEvidence mode).2
        lifecycle := { s.lifecycle with evidence := none, currentState := some target } }) ∨
    (∃ e ev s', s.submitStageEvidenceAndPromote c mode target = (.error e, s') ∧
      s'.core = { s.core with
        candidate := some (c.rotateEvidence mode).2
        lifecycle := { s.lifecycle with evidence := ev } }) := by
  unfold submitStageEvidenceAndPromote
  simp only
  split
  · next err hsub => exact Or.inr ⟨_, s.lifecycle.evidence, _, rfl, rfl⟩
  · next lc1 hsub =>
    obtain ⟨art, hart, -, rfl⟩ := (ControllerLifecycle.submitEvidence_ok_iff _ _).1 hsub
    split
    · next err hpro => exact Or.inr ⟨_, _, _, rfl, rfl⟩
    · next t lc2 hpro =>
      obtain ⟨art', e, -, he, hgate, hcan, rfl, rfl⟩ := (ControllerLifecycle.promoteTo_ok_iff _ _).1 hpro
      obtain rfl := Option.some.inj he
      refine Or.inl ⟨_, _, if_neg (by simp), rfl, ⟨art, hart⟩, ?_, hcan, rfl⟩
      exact (judgeStageEvidence_executionMode _).symm.trans hgate.mode

/-- The promotion that stage advancement tries, if any: the candidate, the mode of its
evidence and the target. -/
def promotionAttempt (cfg : LoopConfig) (a : Actuated) : Option (LoadedController × ExecutionMode × DeploymentState) :=
  if a.state.promotionRequested && a.candidateTickedSuccessfully then
    match a.state.candidate, a.state.candidateState with
    | some c, some .verifiedOnly =>
      (cfg.deploymentManager.nextTarget .verifiedOnly).map fun target => (c, .verify, target)
    | some c, some .shadow =>
      if cfg.deploymentManager.shadowTicksRequired ≤ a.state.shadowTicks + 1 then
        (cfg.deploymentManager.nextTarget .shadow).map fun target => (c, .shadow, target)
      else none
    | some c, some .canary =>
      if a.candidateCanaryTickCounts ∧ cfg.deploymentManager.canaryTicksRequired ≤ a.state.canaryTicks + 1 then
        (cfg.deploymentManager.nextTarget .canary).map fun target => (c, .canary, target)
      else none
    | _, _ => none
  else none

lemma promotionAttempt_loaded {a c mode target} (h : promotionAttempt cfg a = some (c, mode, target)) :
    a.state.candidate = some c ∧ ∃ st, a.state.candidateState = some st ∧ mode = evidenceModeForState st := by
  unfold promotionAttempt at h
  split at h
  · split at h
    · next c0 hc hst =>
      obtain ⟨t, -, ht⟩ := Option.map_eq_some_iff.1 h
      cases ht
      exact ⟨hc, _, hst, rfl⟩
    · next c0 hc hst =>
      split at h
      · obtain ⟨t, -, ht⟩ := Option.map_eq_some_iff.1 h
        cases ht
        exact ⟨hc, _, hst, rfl⟩
      · cases h
    · next c0 hc hst =>
      split at h
      · obtain ⟨t, -, ht⟩ := Option.map_eq_some_iff.1 h
        cases ht
        exact ⟨hc, _, hst, rfl⟩
      · cases h
    · cases h
  · cases h

def PromotionRefused (cfg : LoopConfig) (a : Actuated) : Prop :=
  ∃ p ∈ promotionAttempt cfg a, (a.state.submitStageEvidenceAndPromote p.1 p.2.1 p.2.2).1.isOk = false

instance (cfg : LoopConfig) (a : Actuated) : Decidable (PromotionRefused cfg a) := by
  unfold PromotionRefused
  infer_instance

structure Promoted (s : LoopState) (c : LoadedController) (target : DeploymentState) : Prop where
  loaded : s.candidate = some c
  artifact : ∃ art, s.lifecycle.currentArtifact = some art
  stage : ∃ st, s.candidateState = some st ∧ (st = .verifiedOnly ∨ st = .shadow ∨ st = .canary) ∧
    evidenceModeForState st = evidenceModeForState s.lifecycle.stage
  allowed : s.lifecycle.stage.canTransitionTo target = true

inductive AdvanceStep (cfg : LoopConfig) (a : Actuated) : LoopState → Prop
  | unchanged {s' : LoopState} (hcore : s'.core = a.state.core) : AdvanceStep cfg a s'
  | refused {s' : LoopState} (c : LoadedController) (ev : Option ControllerEvidenceBundle)
      (loaded : a.state.candidate = some c) (ticked : a.candidateTickedSuccessfully = true)
      (refusal : PromotionRefused cfg a)
      (hcore : s'.core =
        { a.state.core with
          candidate := none
          candidateState := none
          lifecycle := rejectedLifecycle { a.state.lifecycle with evidence := ev } a.state.active.isSome }) :
      AdvanceStep cfg a s'
  | staged {s' : LoopState} (c c' : LoadedController) (target : DeploymentState)
      (promotion : Promoted a.state c target) (ticked : a.candidateTickedSuccessfully = true)
      (target_eq : target = .shadow ∨ target = .canary)
      (artifact : c'.artifact = c.artifact) (running : c'.running = c.running)
      (hcore : s'.core =
        { a.state.core with
          candidate := some c'
          candidateState := some target
          lifecycle := { a.state.lifecycle with evidence := none, currentState := some target } }) :
      AdvanceStep cfg a s'
  | activated {s' : LoopState} (c c' : LoadedController) (utcNow : Nat)
      (promotion : Promoted a.state c .active) (ticked : a.candidateTickedSuccessfully = true)
      (artifact : c'.artifact = { c.artifact with promotedAt := some utcNow })
      (running : c'.running = c.running)
      (hcore : s'.core =
        { a.state.core with
          active := some c'
          candidate := none
          rollback := (a.state.active.map (.setRunning false)).or a.state.rollback
          candidateState := none
          lifecycle := { a.state.lifecycle with evidence := none, currentState := some .active } }) :
      AdvanceStep cfg a s'

lemma submitStageEvidenceAndPromote_fst (s' : LoopState) (c : LoadedController) (mode : ExecutionMode)
    (target : DeploymentState) (h : s.lifecycle = s'.lifecycle) :
    (s.submitStageEvidenceAndPromote c mode target).1 = (s'.submitStageEvidenceAndPromote c mode target).1 := by
  unfold submitStageEvidenceAndPromote
  simp only [h]
  split
  · rfl
  · split
    · rfl
    · split <;> rfl

lemma promoteCandidateToActive_core (utcNow : Nat) (h : s.candidate = some c) :
    (s.promoteCandidateToActive utcNow).core = s.core.activate c utcNow := by
  unfold promoteCandidateToActive
  simp only [h]
  cases ha : s.active with
  | none => simp [activate, ha]
  | some c0 =>
    have hr := finalizeRollback_core
      { s with candidate := none, active := none, lastKnownGoodControllerId := some c0.controllerId }
    simp only [core, LoopCore.mk.injEq] at hr
    simp [activate, stashLastKnownGoodController, ha, hr]

/-- What the code after a successful promotion does: the candidate enters the target stage,
or takes the active slot. -/
def Enters (enter : DeploymentState → LoopState → LoopState) (target : DeploymentState) (utcNow : Nat) : Prop :=
  (target = .shadow ∨ target = .canary) ∧
    (∀ s, (enter target s).core = { s.core with candidateState := some target }) ∨
  target = .active ∧
    (∀ s c, s.candidate = some c → (enter target s).core = s.core.activate c utcNow)

variable (utcNow : Nat)
lemma enters_fromVerified (h : dm.nextTarget .verifiedOnly = some target) :
    Enters (enterFromVerified utcNow) target utcNow := by
  have htarget : target = .shadow ∨ target = .canary := by
    unfold nextTarget at h
    split at h
    · cases h
    · simp only at h
      split at h <;> simp_all
  refine Or.inl ⟨htarget, fun s => ?_⟩
  rcases htarget with rfl | rfl <;> rfl

lemma enters_fromShadow (h : dm.nextTarget .shadow = some target) : Enters (enterFromShadow utcNow) target utcNow := by
  have htarget : target = .canary ∨ target = .active := by
    unfold nextTarget at h
    split at h
    · cases h
    · simp only at h
      split at h <;> simp_all
  rcases htarget with rfl | rfl
  · exact Or.inl ⟨Or.inr rfl, fun s => rfl⟩
  · exact Or.inr ⟨rfl, fun s c hc => promoteCandidateToActive_core _ c utcNow hc⟩

lemma enters_fromCanary (h : dm.nextTarget .canary = some target) : Enters (enterFromCanary utcNow) target utcNow := by
  have htarget : target = .active := by
    unfold nextTarget at h
    split at h <;> simp_all
  subst htarget
  exact Or.inr ⟨rfl, fun s c hc => promoteCandidateToActive_core _ c utcNow hc⟩

lemma promoteStage_step (a : Actuated) {s : LoopState} (c : LoadedController) (st target : DeploymentState)
    (utcNow : Nat) {label enter} (hs : s.core = a.state.core)
    (hattempt : promotionAttempt cfg a = some (c, evidenceModeForState st, target))
    (hticked : a.candidateTickedSuccessfully = true) (hc : a.state.candidate = some c)
    (hst : a.state.candidateState = some st) (hstage : st = .verifiedOnly ∨ st = .shadow ∨ st = .canary)
    (henter : Enters enter target utcNow) :
    AdvanceStep cfg a (s.promoteStage c (evidenceModeForState st) target label enter) := by
  have hlc : s.lifecycle = a.state.lifecycle := congrArg LoopCore.lifecycle hs
  unfold promoteStage
  rcases s.submitStageEvidenceAndPromote_cases c (evidenceModeForState st) target with
    ⟨t, s1, hsub, rfl, hart, hmode, hcan, hcore⟩ | ⟨e, ev, s1, hsub, hcore⟩
  · rw [hsub]
    rw [hlc] at hart hmode hcan
    have hp : Promoted a.state c t.toState := ⟨hc, hart, ⟨st, hst, hstage, hmode⟩, hcan⟩
    rw [hs, hlc] at hcore
    rcases henter with ⟨htarget, hent⟩ | ⟨htarget, hent⟩
    · exact .staged c (c.rotateEvidence (evidenceModeForState st)).2 t.toState hp hticked htarget rfl rfl
        ((hent s1).trans (by rw [hcore]))
    · have hs1 := congrArg LoopCore.candidate hcore
      exact .activated c { (c.rotateEvidence (evidenceModeForState st)).2 with
          artifact := { c.artifact with promotedAt := some utcNow } } utcNow (htarget ▸ hp) hticked rfl rfl
        ((hent s1 _ hs1).trans (by rw [hcore, htarget]; rfl))
  · rw [hsub]
    have hfst := a.state.submitStageEvidenceAndPromote_fst s c (evidenceModeForState st) target hlc.symm
    rw [hsub] at hfst
    refine .refused c ev hc hticked ⟨_, hattempt, by rw [hfst]; rfl⟩ ?_
    have h1 := congrArg LoopCore.active hcore
    have h4 := congrArg LoopCore.lifecycle hcore
    rw [hs] at h1
    rw [hlc] at h4
    simp only [core] at h1 h4
    rw [rejectCandidate_core, hcore, hs, h1, h4]

lemma advanceCandidateStage_step (a : Actuated) (utcNow : Nat) :
    AdvanceStep cfg a (a.state.advanceCandidateStage cfg a.candidateTickedSuccessfully
      a.candidateCanaryTickCounts utcNow) := by
  unfold advanceCandidateStage
  split
  · exact .unchanged rfl
  · next hreq =>
    simp only [Bool.or_eq_true, Bool.not_eq_eq_eq_not, Bool.not_true, not_or, Bool.not_eq_false] at hreq
    obtain ⟨hreq, hticked⟩ := hreq
    split
    · exact .unchanged rfl
    · next st hst =>
      split
      · exact .unchanged rfl
      · next c hc =>
        split
        · exact .unchanged rfl
        · next target htarget =>
          have hattempt := promotionAttempt.eq_1 cfg a
          simp only [hreq, hticked, hc, hst, Bool.and_self, if_true] at hattempt
          split
          · refine promoteStage_step cfg a c .verifiedOnly target utcNow rfl ?_ hticked hc hst
              (Or.inl rfl) (enters_fromVerified _ _ htarget)
            rw [hattempt, htarget]
            rfl
          · simp only
            split
            · next hticks =>
              refine promoteStage_step cfg a c .shadow target utcNow rfl ?_ hticked hc hst
                (Or.inr (Or.inl rfl)) (enters_fromShadow _ _ htarget)
              simp only [if_pos hticks, htarget] at hattempt
              exact hattempt
            · exact .unchanged rfl
          · simp only
            split
            · exact .unchanged rfl
            · next hcounts =>
              split
              · next hticks =>
                refine promoteStage_step cfg a c .canary target utcNow rfl ?_ hticked hc hst
                  (Or.inr (Or.inr rfl)) (enters_fromCanary _ _ htarget)
                have : a.candidateCanaryTickCounts = true := by simpa using hcounts
                simp only [if_pos (And.intro this hticks), htarget] at hattempt
                exact hattempt
              · exact .unchanged rfl
          all_goals exact .unchanged rfl

/-! ## One iteration -/

lemma runTicks_step (i : IterInput) (a : Actuated) (h : s.runTicks cfg i = .next a) :
    ∃ r s2, ActiveStep cfg s i r s2 ∧ CandidateStep cfg s2 r i a := by
  unfold runTicks at h
  split at h
  · cases h
  · next r s1 ht =>
    have hact := activeStep_of_tickActive cfg s i r ht
    simp only at h
    split at h
    · cases h
    · next a' hc =>
      obtain rfl := Flow.next.inj h
      exact ⟨r, _, hact, runCandidate_step cfg _ r i a' (fun g hg => (hact.command g hg).1)
        (fun g hg => (hact.command g hg).2) hc⟩

inductive IterStep (cfg : LoopConfig) (s : LoopState) (i : IterInput) : LoopState → Prop
  | watchdog {s' : LoopState} (n : Nat) (running : s.anyControllerRunning = true)
      (hcore : s'.core =
        { s.core with
          active := s.active.map (.setRunning false)
          candidate := s.candidate.map (.setRunning false)
          sent := s.sent ++ delivered cfg [CommandFrame.zero n] }) :
      IterStep cfg s i s'
  | ticks {s' s2 : LoopState} {r : ControllerTickResult} {a : Actuated}
      (noWatchdog : s.checkWatchdog cfg i = none) (run : s.runTicks cfg i = .next a)
      (active : ActiveStep cfg s i r s2) (candidate : CandidateStep cfg s2 r i a)
      (advance : AdvanceStep cfg a s') : IterStep cfg s i s'

lemma AdvanceStep.congr {cfg a s s'} (h : AdvanceStep cfg a s) (hcore : s'.core = s.core) : AdvanceStep cfg a s' := by
  cases h with
  | unchanged hk => exact .unchanged (hcore.trans hk)
  | refused c ev hc ht href hk => exact .refused c ev hc ht href (hcore.trans hk)
  | staged c c' target hp ht htarget hart hrun hk =>
    exact .staged c c' target hp ht htarget hart hrun (hcore.trans hk)
  | activated c c' utcNow hp ht hart hrun hk => exact .activated c c' utcNow hp ht hart hrun (hcore.trans hk)

lemma iterate_step {s' i} (h : s.iterate cfg i = .next s') : IterStep cfg (s.drained cfg i) i s' := by
  unfold iterate at h
  simp only at h
  split at h
  · next sw hw =>
    obtain rfl := Flow.next.inj h
    unfold checkWatchdog at hw
    split at hw
    · cases hw
    · split at hw
      · cases hw
      · next hrun =>
        obtain rfl := Option.some.inj hw
        exact .watchdog _ (by simpa using hrun) (sendStop_core cfg _)
  · next hw =>
    split at h
    · cases h
    · next a ha =>
      obtain rfl := Flow.next.inj h
      obtain ⟨r, s2, hact, hcand⟩ := runTicks_step cfg _ i a ha
      exact .ticks hw ha hact hcand ((advanceCandidateStage_step cfg a i.utcNow).congr rfl)

end LoopState
end Roz.Copper
