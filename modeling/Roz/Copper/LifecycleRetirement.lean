import Roz.Copper.LifecycleAudit

/-!
# Retired instances

A retired instance should come back to `Canary` or `Active` only through evidence
submitted after its retirement (`RetirementFinal`).  `restore_last_known_good_active`
breaks this: it keeps the restored artifact as last-known-good, so once that artifact
is retired itself, a second restore makes it `Active` again (`retired_instance_restored`).
`rollback` clears the last-known-good and has no such defect.  Hence

    no step retires the instance that is the last-known-good → RetirementFinal
                                                    (retirement_final_of_spares)
-/

namespace Roz.Copper
open Roz.Core Audit ControllerLifecycle

def SubmittedAfter (r : Nat) (chain : List Promotion) : Prop :=
  ∀ p ∈ chain, ∀ sub, p.submission = some sub → r < sub.serial

variable (t : Audit)

/-- If the current instance has been retired at time `r` and is in `Canary` or `Active`
now, it has been promoted there from `VerifiedOnly` with evidence submitted since. -/
def RetirementFinal : Prop :=
  ∀ n r, (n, r) ∈ t.retirements → t.currentLoad = some n →
    ∀ st, t.lifecycle.currentState = some st → st = .canary ∨ st = .active →
      ∃ a chain, t.lifecycle.currentArtifact = some a ∧ GatedChain t n a st chain ∧
        SubmittedAfter r chain

def Audit.currentIsLastKnownGood : Prop :=
  t.currentLoad ≠ none ∧ t.currentLoad = t.lastKnownGoodLoad

/-- The operation does not retire the current instance while that instance is also
the last-known-good.  (`rollback` may: it clears the last-known-good.) -/
def SparesLastKnownGood : LifecycleOp → Prop
  | .retireCurrent | .restoreLastKnownGoodActive => ¬ t.currentIsLastKnownGood
  | .promoteTo _ target => target.isTerminal = true → ¬ t.currentIsLastKnownGood
  | .loadArtifact _ | .submitEvidence _ | .promote _ | .rollback => True

instance (t : Audit) : DecidablePred (SparesLastKnownGood t) := fun op => by
  cases op <;> unfold SparesLastKnownGood Audit.currentIsLastKnownGood <;> infer_instance

def EverySpares (ops : List LifecycleOp) : Prop :=
  StepRun.EveryStep (fun t op => .next (Audit.step t op)) Audit.new SparesLastKnownGood ops

instance (ops : List LifecycleOp) : Decidable (EverySpares ops) :=
  StepRun.decidableEveryStep _ _ _ _

/-- What the restriction keeps: retirements lie in the past, pending evidence is newer
than all of them, and neither the current instance (unless in a terminal state) nor the
last-known-good one rests on evidence from before its retirement. -/
structure RetirementInv (t : Audit) : Prop where
  past : ∀ n r, (n, r) ∈ t.retirements → n < t.clock ∧ r < t.clock
  pending : ∀ sub, t.pending = some sub → ∀ n r, (n, r) ∈ t.retirements → r < sub.serial
  current : ∀ n r, (n, r) ∈ t.retirements → t.currentLoad = some n →
    t.lifecycle.stage.isTerminal = true ∨ SubmittedAfter r t.currentChain
  lastKnownGood : ∀ n r, (n, r) ∈ t.retirements → t.lastKnownGoodLoad = some n →
    SubmittedAfter r t.lastKnownGoodChain

lemma Audit.mem_retiring (n r : Nat) :
    (n, r) ∈ t.retiring ↔ (t.currentLoad = some n ∧ r = t.clock) ∨ (n, r) ∈ t.retirements := by
  unfold retiring
  cases t.currentLoad with
  | none => simp
  | some m => simp [eq_comm]

namespace RetirementInv
variable {t : Audit}
lemma new : RetirementInv .new := by refine ⟨?_, ?_, ?_, ?_⟩ <;> simp [Audit.new]

lemma nextPromotionState_not_terminal (st : DeploymentState) : (nextPromotionState st).isTerminal = false := by
  cases st <;> rfl

variable (h : RetirementInv t)
include h

lemma failed : RetirementInv t.failed :=
  ⟨fun n r hm => ⟨Nat.lt_succ_of_lt (h.past n r hm).1, Nat.lt_succ_of_lt (h.past n r hm).2⟩,
    h.pending, h.current, h.lastKnownGood⟩

lemma past_retiring (hs : t.Sound) {a}
    (ha : t.lifecycle.currentArtifact = some a) : ∀ n r, (n, r) ∈ t.retiring → n < t.clock + 1 ∧ r < t.clock + 1 := by
  intro n r hm
  rcases (t.mem_retiring n r).1 hm with ⟨hn, rfl⟩ | hm
  · obtain ⟨m, -, hm', -, hlt, -⟩ := hs.current a ha
    obtain rfl : m = n := Option.some.inj (hm'.symm.trans hn)
    have := hs.horizon_le
    omega
  · have := h.past n r hm
    omega

lemma lastKnownGood_retiring (hspare : ¬ t.currentIsLastKnownGood) :
    ∀ n r, (n, r) ∈ t.retiring → t.lastKnownGoodLoad = some n → SubmittedAfter r t.lastKnownGoodChain := by
  intro n r hm hl
  rcases (t.mem_retiring n r).1 hm with ⟨hn, -⟩ | hm
  · exact absurd ⟨by rw [hn]; simp, hn.trans hl.symm⟩ hspare
  · exact h.lastKnownGood n r hm hl

lemma loadArtifact (a : ControllerArtifact) : RetirementInv (t.step (.loadArtifact a)) := by
  refine ⟨fun n r hm => ?_, forall_of_eq_none rfl, fun n r hm hn => ?_, fun n r hm hl => ?_⟩
  · have := h.past n r hm
    exact ⟨Nat.lt_succ_of_lt this.1, Nat.lt_succ_of_lt this.2⟩
  · -- the new instance is named by the current time, which no retirement has seen
    have := (h.past n r hm).1
    obtain rfl : t.clock = n := Option.some.inj hn
    omega
  · by_cases hact : t.lifecycle.currentState = some .active
    · simp only [Audit.step, hact, decide_true, if_true] at hl ⊢
      rcases h.current n r hm hl with hterm | hafter
      · rw [stage, hact] at hterm
        cases hterm
      · exact hafter
    · simp only [Audit.step, hact, decide_false, Bool.false_eq_true, if_false] at hl ⊢
      exact h.lastKnownGood n r hm hl

lemma submitEvidence (e : ControllerEvidenceBundle) : RetirementInv (t.step (.submitEvidence e)) := by
  simp only [Audit.step]
  cases hs : t.lifecycle.submitEvidence e with
  | error err => exact h.failed
  | ok lc' =>
    obtain ⟨-, -, -, rfl⟩ := (submitEvidence_ok_iff _ _).1 hs
    refine ⟨h.failed.past, fun sub hsub n r hm => ?_, h.current, h.lastKnownGood⟩
    obtain rfl := Option.some.inj hsub
    exact (h.past n r hm).2

lemma promoteTo (hs : t.Sound) (rd : RuntimeDigests) (target : DeploymentState)
    (hspare : target.isTerminal = true → ¬ t.currentIsLastKnownGood) :
    RetirementInv (t.promoted rd (t.lifecycle.promoteTo rd target)) := by
  cases hp : t.lifecycle.promoteTo rd target with
  | error err => exact h.failed
  | ok p =>
    obtain ⟨tr, lc'⟩ := p
    obtain ⟨a, m, st, sub, ha, hload, hst, hsub, -, -, hto, -, -⟩ := hs.promotion_step hp
    obtain ⟨-, -, -, -, -, hadv, -, rfl⟩ := (promoteTo_ok_iff _ _).1 hp
    simp only [promoted, hto]
    cases hterm : target.isTerminal with
    | true =>
      exact ⟨h.past_retiring hs ha, forall_of_eq_none rfl, fun n r _ _ => Or.inl hterm,
        h.lastKnownGood_retiring (hspare hterm)⟩
    | false =>
      refine ⟨h.failed.past, forall_of_eq_none rfl, fun n r hm hn => Or.inr ?_, h.lastKnownGood⟩
      rcases h.current n r hm hn with hx | hafter
      · rw [DeploymentState.canTransitionTo_terminal hx] at hadv
        cases hadv
      · -- the evidence consumed now was still pending, hence newer than the retirement
        intro p hp sub' hsub'
        rcases List.mem_append.mp hp with hp | hp
        · exact hafter p hp sub' hsub'
        · rw [List.mem_singleton.mp hp] at hsub'
          exact h.pending sub' hsub' n r hm

lemma retireCurrent (hs : t.Sound)
    (hspare : SparesLastKnownGood t .retireCurrent) : RetirementInv (t.step .retireCurrent) := by
  simp only [Audit.step]
  cases hr : t.lifecycle.retireCurrent with
  | error err => exact h.failed
  | ok p =>
    obtain ⟨r, lc'⟩ := p
    obtain ⟨a, ha, -, -, rfl⟩ := (retireCurrent_ok_iff _ _ _).1 hr
    exact ⟨h.past_retiring hs ha, forall_of_eq_none rfl, fun n r _ _ => Or.inl (terminalFor_isTerminal _),
      h.lastKnownGood_retiring hspare⟩

lemma rollback (hs : t.Sound) : RetirementInv (t.step .rollback) := by
  simp only [Audit.step]
  cases hr : t.lifecycle.rollback with
  | error err => exact h.failed
  | ok p =>
    obtain ⟨r, lc'⟩ := p
    obtain ⟨a, g, ha, -, -, -, rfl⟩ := (rollback_ok_iff _ _ _).1 hr
    refine ⟨h.past_retiring hs ha, forall_of_eq_none rfl, fun n r _ _ => Or.inr ?_,
      fun n r _ hl => ?_⟩
    · intro p hp
      cases hp
    · cases hl

lemma restoreLastKnownGoodActive (hs : t.Sound) (hspare : SparesLastKnownGood t .restoreLastKnownGoodActive) :
    RetirementInv (t.step .restoreLastKnownGoodActive) := by
  simp only [Audit.step]
  cases hr : t.lifecycle.restoreLastKnownGoodActive with
  | error err => exact h.failed
  | ok p =>
    obtain ⟨r, lc'⟩ := p
    obtain ⟨a, g, ha, -, -, -, rfl⟩ := (restoreLastKnownGoodActive_ok_iff _ _ _).1 hr
    have hlkg := h.lastKnownGood_retiring hspare
    exact ⟨h.past_retiring hs ha, forall_of_eq_none rfl, fun n r hm hn => Or.inr (hlkg n r hm hn),
      hlkg⟩

lemma step (hs : t.Sound) (op : LifecycleOp) (hspare : SparesLastKnownGood t op) : RetirementInv (t.step op) := by
  cases op with
  | loadArtifact a => exact h.loadArtifact a
  | submitEvidence e => exact h.submitEvidence e
  | promote rd =>
    refine h.promoteTo hs rd _ fun hterm => ?_
    rw [nextPromotionState_not_terminal] at hterm
    cases hterm
  | promoteTo rd target => exact h.promoteTo hs rd target hspare
  | retireCurrent => exact h.retireCurrent hs hspare
  | rollback => exact h.rollback hs
  | restoreLastKnownGoodActive => exact h.restoreLastKnownGoodActive hs hspare

omit h in
lemma run (ops : List LifecycleOp) (hok : EverySpares ops) : RetirementInv (Audit.run ops) := by
  have h := StepRun.EveryStep.invariant (fun t : Audit => t.Sound ∧ RetirementInv t) ?_
    ⟨sound_new, new⟩ ops hok _ (runFrom_next ops)
  · exact h.2
  · rintro t op t' ⟨hs, hi⟩ hspare ht
    obtain rfl : t.step op = t' := StepRun.Flow.next.inj ht
    exact ⟨hs.step op, hi.step hs op hspare⟩

end RetirementInv

/-- **Retirement is final** in every sequence of operations that never retires the
last-known-good instance while it is current. -/
theorem retirement_final_of_spares (ops : List LifecycleOp) (hok : EverySpares ops) :
    RetirementFinal (Audit.run ops) := by
  intro n r hm hn st hst hact
  have hs := sound_run ops
  have hterm : st.isTerminal = false := by rcases hact with rfl | rfl <;> rfl
  have hstage : (Audit.run ops).lifecycle.stage = st := by simp [stage, hst]
  cases ha : (Audit.run ops).lifecycle.currentArtifact with
  | none =>
    rw [hs.state ha] at hst
    cases hst
  | some a =>
    obtain ⟨m, st', hm', hst', -, hc⟩ := hs.current a ha
    obtain rfl : m = n := Option.some.inj (hm'.symm.trans hn)
    obtain rfl : st' = st := Option.some.inj (hst'.symm.trans hst)
    rcases (RetirementInv.run ops hok).current m r hm hn with hx | hafter
    · rw [hstage, hterm] at hx
      cases hx
    · exact ⟨a, _, rfl, (hc hterm).gated, hafter⟩

/-! ## A retired instance comes back -/

def sampleKey : VerificationKey := ⟨"ctrl", "wit", "model", "calib", "manifest", .verify, "cc", none⟩

variable (id : String)
def sampleArtifact : ControllerArtifact := ⟨id, id, 1, 1, none, sampleKey, "wit", none⟩

def sampleEvidence (mode : ExecutionMode) : ControllerEvidenceBundle :=
  { controllerId := id, ticksRun := 1, rejectionCount := 0, limitClampCount := 0, rateClampCount := 0
    positionLimitStopCount := 0, epochInterruptCount := 0, trapCount := 0, watchdogNearMissCount := 0
    channelsTouched := [], channelsUntouched := [], unexpectedChannelsTouched := [], configReads := 0
    controllerStabilitySummary := ⟨false, true, 0, true⟩, verifierStatus := .complete
    verifierReason := none, controllerDigest := "ctrl", modelDigest := "model"
    calibrationDigest := "calib", manifestDigest := "manifest", witWorldVersion := "wit"
    executionMode := mode, compilerVersion := "cc" }

def rollout : List LifecycleOp :=
  [.loadArtifact (sampleArtifact id), .submitEvidence (sampleEvidence id .verify), .promote (.ofKey sampleKey),
    .submitEvidence (sampleEvidence id .shadow), .promote (.ofKey sampleKey),
    .submitEvidence (sampleEvidence id .canary), .promote (.ofKey sampleKey)]

def failedReplacement : List LifecycleOp :=
  rollout "a" ++ [.loadArtifact (sampleArtifact "b"), .restoreLastKnownGoodActive]

theorem retirement_final_failedReplacement :
    EverySpares failedReplacement ∧ RetirementFinal (Audit.run failedReplacement) :=
  ⟨by decide, retirement_final_of_spares failedReplacement (by decide)⟩

/-- After the restore the predecessor is retired as well, and a further replacement
fails: the second restore brings the retired predecessor back. -/
def retiredThenRestored : List LifecycleOp :=
  failedReplacement ++
    [.retireCurrent, .loadArtifact (sampleArtifact "c"), .restoreLastKnownGoodActive]

theorem retired_instance_restored : (0, 9) ∈ (Audit.run retiredThenRestored).retirements ∧
    (Audit.run retiredThenRestored).currentLoad = some 0 ∧
    (Audit.run retiredThenRestored).lifecycle.currentState = some .active ∧
    ¬ RetirementFinal (Audit.run retiredThenRestored) := by
  have hm : (0, 9) ∈ (Audit.run retiredThenRestored).retirements := by decide
  have hn : (Audit.run retiredThenRestored).currentLoad = some 0 := by decide
  have hst : (Audit.run retiredThenRestored).lifecycle.currentState = some .active := by decide
  refine ⟨hm, hn, hst, fun h => ?_⟩
  obtain ⟨a, chain, -, hch, hafter⟩ := h 0 9 hm hn .active hst (Or.inr rfl)
  -- every promotion on record consumed evidence from before the retirement
  have hold : ∀ p ∈ (Audit.run retiredThenRestored).promotions,
      ∀ sub ∈ p.submission, sub.serial < 9 := by decide
  cases chain with
  | nil => cases hch.stages
  | cons p ps =>
    obtain ⟨sub, hsub, -⟩ := (hch.steps p List.mem_cons_self).submission
    have h1 := hafter p List.mem_cons_self sub hsub
    have h2 := hold p (hch.logged.subset List.mem_cons_self) sub hsub
    omega

end Roz.Copper
