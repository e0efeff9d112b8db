import Roz.Copper.LoopCommands

/-!
# What each phase of an iteration does

One lemma per phase says everything it can do to the fields that the results are
about: the three slots, the lifecycle, the candidate's stage, the frames sent and the
sensor frame (`LoopCore`).  The results on whole runs split on these cases and do not unfold
the loop again.

    activeStep_of_tickActive, runCandidate_step
-/

namespace Roz.Copper
open Roz.Core ExactFloat F64 StepRun

structure LoopCore where
  active : Option LoadedController
  candidate : Option LoadedController
  rollback : Option LoadedController
  lifecycle : ControllerLifecycle
  candidateState : Option DeploymentState
  sent : List CommandFrame
  sensor : SensorFrame

namespace LoopState

@[simp] def core (s : LoopState) : LoopCore :=
  ⟨s.active, s.candidate, s.rollback, s.lifecycle, s.candidateState, s.sent, s.sensor⟩

def delivered (cfg : LoopConfig) (frames : List CommandFrame) : List CommandFrame :=
  if cfg.actuator then frames else []

variable (cfg : LoopConfig) (s : LoopState) (fallback : Bool) (c : LoadedController)
  (ar : ControllerTickResult) (reason : String) (c' : LoadedController) {guest : GuestOutcome}
  (r : ControllerTickResult)

@[simp] lemma delivered_nil : delivered cfg [] = [] := by
  unfold delivered
  split <;> rfl

lemma mem_delivered {cfg frames f} (h : f ∈ delivered cfg frames) : f ∈ frames := by
  unfold delivered at h
  split at h
  · exact h
  · cases h

/-! ## Sending and finalizing -/

variable (f : CommandFrame) {s2 : LoopState} (i : IterInput)
lemma send_core : (s.send cfg f).core = { s.core with sent := s.sent ++ delivered cfg [f] } := by
  unfold send delivered
  split <;> simp

lemma sendStop_core : (s.sendStop cfg).core =
    { s.core with sent := s.sent ++ delivered cfg [CommandFrame.zero (Nat.max s.lastVelocityCount 6)] } :=
  send_core cfg s _

@[simp] lemma finalizeEvidence_core (o : Option LoadedController) (m : ExecutionMode) :
    (s.finalizeEvidence o m).core = s.core := by
  cases o with
  | none => rfl
  | some c => simp only [finalizeEvidence, recordFinalizedEvidence]; split <;> rfl

lemma finalizeActive_core : s.finalizeActive.core = { s.core with active := none } := by
  have h := s.finalizeEvidence_core s.active .live
  simp only [core, LoopCore.mk.injEq] at h
  simp [finalizeActive, h]

lemma finalizeCandidate_core : s.finalizeCandidate.core = { s.core with candidate := none } := by
  have h := s.finalizeEvidence_core s.candidate (executionModeForCandidateState s.candidateState)
  simp only [core, LoopCore.mk.injEq] at h
  simp [finalizeCandidate, h]

lemma finalizeRollback_core : s.finalizeRollback.core = { s.core with rollback := none } := by
  have h := s.finalizeEvidence_core s.rollback .live
  simp only [core, LoopCore.mk.injEq] at h
  simp [finalizeRollback, h]

lemma loadPrepared_core (load : PreparedController) : (s.loadPrepared load).core = { s.core with
        candidate := some (.fromPrepared load)
        lifecycle := s.lifecycle.loadArtifact load.artifact
        candidateState := some .verifiedOnly } := by
  have h := s.finalizeCandidate_core
  simp only [core, LoopCore.mk.injEq] at h
  simp [loadPrepared, h, ControllerLifecycle.loadArtifact]

variable (Inv : LoopCore → Prop)

/-- A command replaces the candidate, stages it, or maps all slots. -/
lemma processCommand_invariant {s} (c : CopperRuntimeCommand) (h : Inv s.core)
    (hload : ∀ load : PreparedController, Inv { s.core with
      candidate := some (.fromPrepared load)
      lifecycle := s.lifecycle.loadArtifact load.artifact
      candidateState := some .verifiedOnly })
    (hstage : Inv { s.core with candidateState := some .verifiedOnly })
    (hslots : ∀ running, Inv (s.mapSlots (.setRunning running)).core) : Inv (processCommand cfg s c).core := by
  cases c with
  | preparedArtifact load => exact s.loadPrepared_core load ▸ hload load
  | promoteActive =>
    simp only [processCommand]
    split
    · exact hstage
    · exact h
  | updateParams => exact h
  | halt => exact hslots false
  | resume => exact hslots true

lemma drainCommands_invariant
    (hcommand : ∀ s c, Inv (core s) → Inv (core (processCommand cfg s c))) (cmds : List CopperRuntimeCommand)
    (s : LoopState) (h : Inv s.core) : Inv (cmds.foldl (processCommand cfg) s).core :=
  List.foldlRecOn (motive := fun s => Inv (core s)) cmds (processCommand cfg) h fun s hs c _ => hcommand s c hs

lemma drained_invariant (hsensor : ∀ k frame, Inv k → Inv { k with sensor := frame })
    (hcommand : ∀ s c, Inv (core s) → Inv (core (processCommand cfg s c))) (s : LoopState) (i : IterInput)
    (h : Inv s.core) : Inv (s.drained cfg i).core :=
  hsensor _ (i.sensorFrame.getD _) (drainCommands_invariant cfg Inv hcommand (i.emergency ++ i.normal) s h)

/-! ## Rejecting -/

/-- The lifecycle after a rejection: the last-known-good restored, or the current artifact
retired; unchanged where that fails. -/
def rejectedLifecycle (lc : ControllerLifecycle) (restoreActive : Bool) : ControllerLifecycle :=
  match if restoreActive then lc.restoreLastKnownGoodActive else lc.retireCurrent with
  | .ok (_, lc') => lc'
  | .error _ => lc

lemma rejectCandidate_core (restoreActive : Bool) : (s.rejectCandidate reason restoreActive).core = { s.core with
        candidate := none
        candidateState := none
        lifecycle := rejectedLifecycle s.lifecycle restoreActive } := by
  have h := s.finalizeCandidate_core
  simp only [core, LoopCore.mk.injEq] at h
  simp only [rejectCandidate, rejectedLifecycle, h]
  split <;> simp_all

lemma dropCandidate_core : ∃ n, (s.dropCandidate cfg fallback reason).core = { s.core with
        candidate := none
        candidateState := none
        lifecycle := rejectedLifecycle s.lifecycle fallback
        sent := s.sent ++ delivered cfg (if fallback then [] else [CommandFrame.zero n]) } := by
  unfold dropCandidate
  cases fallback with
  | true =>
    refine ⟨0, ?_⟩
    rw [if_pos rfl, rejectCandidate_core]
    simp
  | false =>
    refine ⟨Nat.max ((s.notifyEstop reason).rejectCandidate reason false).lastVelocityCount 6, ?_⟩
    have h := (s.notifyEstop reason).rejectCandidate_core reason false
    rw [if_neg (by simp), sendStop_core, h]
    exact congrArg (fun l => LoopCore.mk _ _ _ _ _ (l ++ _) _) (congrArg LoopCore.sent h)

/-! ## Ticking a slot -/

/-- The filter's result in a tick of `c` from this state with guest output `o`. -/
def slotFilter (cfg : LoopConfig) (s : LoopState) (c : LoadedController) (o : TickOutput) :
    Option (FilterResult × HotPathSafetyFilter) :=
  (c.injectSensorState s.sensor.jointPositions s.sensor.jointVelocities).filterOutput cfg.sqrt s.sensor.wrench o

/-- A ticked controller keeps its artifact and its spans.  It halts and stops; or it keeps
running and the filter's output is sent, unless the tick is silent. -/
lemma tickSlot_cases (h : s.tickSlot cfg c guest = some (r, c')) :
    c'.artifact = c.artifact ∧ c'.commandLimitSpans = c.commandLimitSpans ∧
    (((∃ reason, r = .halts reason) ∧ c'.running = false) ∨
      (c'.running = c.running ∧ r.halted = false ∧ ∃ o fr, guest = .output o ∧
        s.slotFilter cfg c o = some (fr, c'.hotPathFilter) ∧
        r = if c.silent o then .none else .sends ⟨fr.commands⟩)) := by
  unfold tickSlot at h
  split at h
  · cases h
  · next r0 c0 ht =>
    cases h
    obtain ⟨hsame, ⟨reason, rfl⟩ | ⟨o, fr, hguest, hf, hr⟩⟩ := tickController_cases _ ht
    · exact ⟨hsame.artifact, hsame.commandLimitSpans, Or.inl ⟨⟨reason, rfl⟩, rfl⟩⟩
    · have hok : r.halted = false := by
        rw [hr]
        split <;> rfl
      rw [if_neg (by simp [hok])]
      rw [LoadedController.silent_injectSensorState] at hr
      exact ⟨hsame.artifact, hsame.commandLimitSpans, Or.inr ⟨hsame.running, hok, o, fr, hguest, hf, hr⟩⟩

lemma tickSlot_halted (h : s.tickSlot cfg c guest = some (r, c')) :
    (r.halted = true ∧ (∃ reason, r = .halts reason) ∧ c'.running = false) ∨
      (r.halted = false ∧ c'.running = c.running) := by
  obtain ⟨-, -, ⟨⟨reason, rfl⟩, hrun⟩ | ⟨hrun, hok, -⟩⟩ := tickSlot_cases cfg s c c' r h
  · exact Or.inl ⟨rfl, ⟨reason, rfl⟩, hrun⟩
  · exact Or.inr ⟨hok, hrun⟩

lemma tickSlot_running {cfg} {s : LoopState} {c c' guest r} (h : s.tickSlot cfg c guest = some (r, c'))
    (hok : r.halted = false) :
    c'.running = c.running := by
  obtain ⟨hhalt, -⟩ | ⟨-, hrun⟩ := tickSlot_halted cfg s c c' r h
  · rw [hok] at hhalt
    cases hhalt
  · exact hrun

lemma tickSlot_command (h : s.tickSlot cfg c guest = some (r, c')) (hf : r.command = some f) :
    ∃ o fr, guest = .output o ∧ s.slotFilter cfg c o = some (fr, c'.hotPathFilter) ∧ f = ⟨fr.commands⟩ := by
  obtain ⟨-, -, ⟨⟨reason, rfl⟩, -⟩ | ⟨-, -, o, fr, hguest, hfr, rfl⟩⟩ := tickSlot_cases cfg s c c' r h
  · cases hf
  · split at hf
    · cases hf
    · exact ⟨o, fr, hguest, hfr, (Option.some.inj hf).symm⟩

lemma tickSlot_finite (h : s.tickSlot cfg c guest = some (r, c')) (hf : r.command = some f) :
    ∀ x ∈ f.values, x.isFinite = true := by
  obtain ⟨o, fr, -, hfr, rfl⟩ := tickSlot_command cfg s c c' r f h hf
  exact HotPathSafetyFilter.filter_finite hfr

lemma tickActive_cases (r : ControllerTickResult)
    (h : s.tickActive cfg i = some (r, s2)) : (isRunning s.active = false ∧ r = .none ∧ s2 = s) ∨
    ∃ c c', s.active = some c ∧ c.running = true ∧ s.tickSlot cfg c i.activeGuest = some (r, c') ∧
      s2 = { s with active := some c' } := by
  unfold tickActive at h
  cases ha : s.active with
  | none =>
    rw [ha] at h
    cases h
    exact Or.inl ⟨rfl, rfl, rfl⟩
  | some c =>
    rw [ha] at h
    simp only at h
    split at h
    · next hr =>
      split at h
      · cases h
      · next r0 c' ht =>
        cases h
        exact Or.inr ⟨c, c', rfl, hr, ht, rfl⟩
    · next hr =>
      cases h
      exact Or.inl ⟨by simpa [isRunning] using hr, rfl, rfl⟩

lemma tickCandidate_cases (r : Option ControllerTickResult)
    (h : s.tickCandidate cfg i = some (r, s2)) : (isRunning s.candidate = false ∧ r = none ∧ s2 = s) ∨
    ∃ c c' r', s.candidate = some c ∧ c.running = true ∧ s.tickSlot cfg c i.candidateGuest = some (r', c') ∧
      r = some r' ∧ s2 = { s with candidate := some c' } := by
  unfold tickCandidate at h
  cases ha : s.candidate with
  | none =>
    rw [ha] at h
    cases h
    exact Or.inl ⟨rfl, rfl, rfl⟩
  | some c =>
    rw [ha] at h
    simp only at h
    split at h
    · next hr =>
      split at h
      · cases h
      · next r0 c' ht =>
        cases h
        exact Or.inr ⟨c, c', r0, rfl, hr, ht, rfl, rfl⟩
    · next hr =>
      cases h
      exact Or.inl ⟨by simpa [isRunning] using hr, rfl, rfl⟩

/-! ## A failing active controller -/

lemma handleActiveFailure_of_not_halted (h : r.halted = false) : s.handleActiveFailure cfg r = s := by
  unfold handleActiveFailure
  rw [h]

lemma restoreLastKnownGoodController_cases :
    (∃ rb outcome lc s', s.rollback = some rb ∧ s.lifecycle.restoreLastKnownGoodActive = .ok (outcome, lc) ∧
      s.restoreLastKnownGoodController = (.ok outcome, s') ∧
      s'.core = ⟨some (rb.setRunning true), s.candidate, none, lc, s.candidateState, s.sent, s.sensor⟩) ∨
    (∃ e s', (∀ rb, s.rollback = some rb → ∃ e', s.lifecycle.restoreLastKnownGoodActive = .error e') ∧
      s.restoreLastKnownGoodController = (.error e, s') ∧
      s'.core = ⟨none, s.candidate, none, s.lifecycle, s.candidateState, s.sent, s.sensor⟩) := by
  have hfin := s.finalizeActive_core
  simp only [core, LoopCore.mk.injEq] at hfin
  obtain ⟨h1, h2, h3, h4, h5, h6, h7⟩ := hfin
  unfold restoreLastKnownGoodController
  cases hrb : s.rollback with
  | none =>
    simp only [h3, hrb]
    exact Or.inr ⟨_, _, (fun _ h => by cases h), rfl, by simp [h1, h2, h3, h4, h5, h6, h7, hrb]⟩
  | some rb =>
    simp only [h3, hrb, h4]
    cases hr : s.lifecycle.restoreLastKnownGoodActive with
    | error e => exact Or.inr ⟨_, _, fun _ _ => ⟨e, rfl⟩, rfl, by simp [h1, h2, h5, h6, h7]⟩
    | ok p => exact Or.inl ⟨rb, p.1, p.2, _, rfl, rfl, rfl, by simp [h2, h5, h6, h7]⟩

/-- After a halt of the active controller a stop is sent.  Either the rollback instance
runs as active and the lifecycle has restored its last-known-good, or the active and the
rollback slot are empty and the candidate is stopped. -/
lemma handleActiveFailure_cases :
    (∃ rb outcome lc n, s.rollback = some rb ∧ s.lifecycle.restoreLastKnownGoodActive = .ok (outcome, lc) ∧
      (s.handleActiveFailure cfg (.halts reason)).core = ⟨some (rb.setRunning true), s.candidate, none, lc, none,
          s.sent ++ delivered cfg [CommandFrame.zero n], s.sensor⟩) ∨
    ((∀ rb, s.rollback = some rb → ∃ e, s.lifecycle.restoreLastKnownGoodActive = .error e) ∧
      ∃ n, (s.handleActiveFailure cfg (.halts reason)).core =
        ⟨none, s.candidate.map (.setRunning false), none, s.lifecycle, s.candidateState,
          s.sent ++ delivered cfg [CommandFrame.zero n], s.sensor⟩) := by
  unfold handleActiveFailure
  simp only [ControllerTickResult.halts]
  rcases s.restoreLastKnownGoodController_cases with
    ⟨rb, outcome, lc, s', hrb, hlc, hs', hcore⟩ | ⟨e, s', hrb, hs', hcore⟩
  · simp only [core, LoopCore.mk.injEq] at hcore
    refine Or.inl ⟨rb, outcome, lc, Nat.max s'.lastVelocityCount 6, hrb, hlc, ?_⟩
    rw [hs']
    simp only [sendStop_core]
    simp [hcore]
  · refine Or.inr ⟨hrb, Nat.max s'.lastVelocityCount 6, ?_⟩
    rw [hs']
    have hstop := (s'.notifyEstop reason).sendStop_core cfg
    simp only
    generalize sendStop cfg (s'.notifyEstop reason) = stopped at hstop ⊢
    simp only [core, LoopCore.mk.injEq, notifyEstop] at hcore hstop
    simp [hstop, hcore]

/-- What the active controller's part of an iteration does from the drained state `s`: the
result of its tick, and the state after its failure is handled. -/
inductive ActiveStep (cfg : LoopConfig) (s : LoopState) (i : IterInput) : ControllerTickResult → LoopState → Prop
  | idle {s' : LoopState} (notRunning : isRunning s.active = false) (hcore : s'.core = s.core) :
      ActiveStep cfg s i .none s'
  | ticked {s' : LoopState} {r : ControllerTickResult} (c c' : LoadedController) (loaded : s.active = some c)
      (running : c.running = true) (tick : s.tickSlot cfg c i.activeGuest = some (r, c'))
      (notHalted : r.halted = false) (hcore : s'.core = { s.core with active := some c' }) :
      ActiveStep cfg s i r s'
  | restored {s' : LoopState} (c c' rb : LoadedController) (reason : String) (outcome : LifecycleRetirement)
      (lc : ControllerLifecycle) (n : Nat) (loaded : s.active = some c) (running : c.running = true)
      (tick : s.tickSlot cfg c i.activeGuest = some (.halts reason, c')) (stashed : s.rollback = some rb)
      (restore : s.lifecycle.restoreLastKnownGoodActive = .ok (outcome, lc))
      (hcore : s'.core = ⟨some (rb.setRunning true), s.candidate, none, lc, none,
        s.sent ++ delivered cfg [CommandFrame.zero n], s.sensor⟩) :
      ActiveStep cfg s i (.halts reason) s'
  | stopped {s' : LoopState} (c c' : LoadedController) (reason : String) (n : Nat) (loaded : s.active = some c)
      (running : c.running = true) (tick : s.tickSlot cfg c i.activeGuest = some (.halts reason, c'))
      (noRestore : ∀ rb, s.rollback = some rb → ∃ e, s.lifecycle.restoreLastKnownGoodActive = .error e)
      (hcore : s'.core = ⟨none, s.candidate.map (.setRunning false), none, s.lifecycle, s.candidateState,
        s.sent ++ delivered cfg [CommandFrame.zero n], s.sensor⟩) :
      ActiveStep cfg s i (.halts reason) s'

lemma activeStep_of_tickActive (r : ControllerTickResult)
    (h : s.tickActive cfg i = some (r, s2)) : ActiveStep cfg s i r (s2.handleActiveFailure cfg r) := by
  rcases tickActive_cases cfg s i r h with ⟨hidle, rfl, rfl⟩ | ⟨c, c', hc, hrun, ht, rfl⟩
  · exact .idle hidle rfl
  · rcases tickSlot_halted cfg s c c' r ht with ⟨-, ⟨reason, rfl⟩, -⟩ | ⟨hok, -⟩
    · rcases handleActiveFailure_cases cfg { s with active := some c' } reason with
        ⟨rb, outcome, lc, n, hrb, hlc, hcore⟩ | ⟨hno, n, hcore⟩
      · exact .restored c c' rb reason outcome lc n hc hrun ht hrb hlc hcore
      · exact .stopped c c' reason n hc hrun ht hno hcore
    · rw [handleActiveFailure_of_not_halted cfg _ r hok]
      exact .ticked c c' hc hrun ht hok rfl

lemma ActiveStep.command {cfg} {s s' : LoopState} {i r}
    (h : ActiveStep cfg s i r s') (g : CommandFrame) (hg : r.command = some g) :
    isRunning s'.active = true ∧ ∀ x ∈ g.values, x.isFinite = true := by
  cases h with
  | idle => cases hg
  | restored => cases hg
  | stopped => cases hg
  | ticked c c' hc hrun ht hok hcore =>
    refine ⟨?_, tickSlot_finite cfg s c c' r g ht hg⟩
    rw [show s'.active = some c' from congrArg LoopCore.active hcore]
    exact (tickSlot_running ht hok).trans hrun

/-! ## The candidate and actuation -/

lemma delivered_append (fs gs : List CommandFrame) :
    delivered cfg (fs ++ gs) = delivered cfg fs ++ delivered cfg gs := by
  unfold delivered
  split <;> rfl

lemma actuate_core (activeCommand bounded : Option CommandFrame) : (s.actuate cfg activeCommand bounded).core =
    { s.core with sent := s.sent ++ delivered cfg (s.actuatedCommand activeCommand bounded).toList } := by
  unfold actuate
  cases s.actuatedCommand activeCommand bounded with
  | none => simp
  | some f => rw [send_core]; simp

lemma not_canary_actuates (cr : Option ControllerTickResult) (fallback : Bool) (h : s.candidateIsCanary = false) :
    s.boundedCanaryCommand cfg ar cr = some (none, false) ∧
    s.enforceBoundedBudget cfg fallback (none, false) = (none, s) ∧
    s.actuatedCommand ar.command none = ar.command := by
  simp [boundedCanaryCommand, enforceBoundedBudget, actuatedCommand, h]

/-- The frames a canary may have actuated: its own command when there is no active one,
else the active command or one within the envelope around it. -/
def CanaryFrame (delta : F64) (activeCommand : Option CommandFrame) (candidateCommand : CommandFrame)
    (spans : List F64) (f : CommandFrame) : Prop :=
  match activeCommand with
  | none => f = candidateCommand
  | some g => f = g ∨ WithinEnvelope (allowedDelta delta) g.values spans f.values

/-- What the candidate's part of an iteration does from state `s`, given the tick result of
the active controller. -/
inductive CandidateStep (cfg : LoopConfig) (s : LoopState) (ar : ControllerTickResult) (i : IterInput) :
    Actuated → Prop
  | idle {a : Actuated} (notRunning : isRunning s.candidate = false)
      (notTicked : a.candidateTickedSuccessfully = false)
      (hcore : a.state.core = { s.core with sent := s.sent ++ delivered cfg ar.command.toList }) :
      CandidateStep cfg s ar i a
  | kept {a : Actuated} (c c' : LoadedController) (r : ControllerTickResult) (f : Option CommandFrame)
      (loaded : s.candidate = some c) (running : c.running = true)
      (tick : s.tickSlot cfg c i.candidateGuest = some (r, c')) (notHalted : r.halted = false)
      (frame : f = ar.command ∨ s.candidateState = some .canary ∧ ∃ cmd g, r.command = some cmd ∧
        f = some g ∧ CanaryFrame cfg.deploymentManager.canaryMaxCommandDelta ar.command cmd
          c.commandLimitSpans g)
      (hcore : a.state.core =
        { s.core with candidate := some c', sent := s.sent ++ delivered cfg f.toList }) :
      CandidateStep cfg s ar i a
  | dropped {a : Actuated} (c c' : LoadedController) (r : ControllerTickResult) (n : Nat)
      (loaded : s.candidate = some c) (running : c.running = true)
      (tick : s.tickSlot cfg c i.candidateGuest = some (r, c'))
      (alone : isRunning s.active = false → r.halted = true ∨
        (s.candidateState = some .shadow ∨ s.candidateState = some .canary) ∧ r.command = none)
      (hcore : a.state.core =
        { s.core with
          candidate := none
          candidateState := none
          lifecycle := rejectedLifecycle s.lifecycle (isRunning s.active)
          sent := s.sent ++ delivered cfg
            ((if isRunning s.active then [] else [CommandFrame.zero n]) ++ ar.command.toList) }) :
      CandidateStep cfg s ar i a

lemma drop_actuate_core (ar : ControllerTickResult) : (s.dropCandidate cfg fallback reason).candidateIsCanary = false ∧
    ∃ n, ((s.dropCandidate cfg fallback reason).actuate cfg ar.command none).core = { s.core with
        candidate := none
        candidateState := none
        lifecycle := rejectedLifecycle s.lifecycle fallback
        sent := s.sent ++ delivered cfg
          ((if fallback then [] else [CommandFrame.zero n]) ++ ar.command.toList) } := by
  obtain ⟨n, hn⟩ := s.dropCandidate_core cfg fallback reason
  have hcan : (s.dropCandidate cfg fallback reason).candidateIsCanary = false := by
    have h5 := congrArg LoopCore.candidateState hn
    simp only [core] at h5
    simp [candidateIsCanary, h5]
  refine ⟨hcan, n, ?_⟩
  have hsent := congrArg LoopCore.sent hn
  simp only [core] at hsent
  rw [actuate_core, hn, (not_canary_actuates cfg _ ar none fallback hcan).2.2, hsent, delivered_append,
    List.append_assoc]

lemma candidateFailureReason_some (reason : String)
    (h : s.candidateFailureReason cfg false ar (some r) = some reason) : r.halted = true ∨
      (s.candidateState = some .shadow ∨ s.candidateState = some .canary) ∧ r.command = none := by
  unfold candidateFailureReason at h
  simp only at h
  split at h
  · next hh => exact Or.inl hh
  · split at h
    · next hst =>
      split at h
      · next hnone => exact Or.inr ⟨hst, Option.isNone_iff_eq_none.1 hnone⟩
      · simp at h
    · cases h

lemma candidateFailureReason_none (h : s.candidateFailureReason cfg fallback ar (some r) = none) :
    r.halted = false ∧ (s.candidateState = some .canary → ∃ cmd, r.command = some cmd) := by
  unfold candidateFailureReason at h
  simp only at h
  split at h
  · cases h
  · next hh =>
    refine ⟨by simpa using hh, fun hst => ?_⟩
    rw [if_pos (Or.inr hst)] at h
    split at h
    · cases h
    · next hsome => exact Option.ne_none_iff_exists'.1 (by simpa using hsome)

lemma canaryMaxCommandDelta_nonneg (dm : DeploymentManager) : .fin 0 ≤ dm.canaryMaxCommandDelta := by
  unfold DeploymentManager.canaryMaxCommandDelta
  rw [fin_le_fin]
  exact div_nonneg (Nat.cast_nonneg _) (by norm_num)

lemma boundedCanaryCommand_canary (cmd : CommandFrame) (b : Option CommandFrame × Bool)
    (hcan : s.candidateIsCanary = true) (hcmd : r.command = some cmd) (hfin : ∀ x ∈ cmd.values, x.isFinite = true)
    (har : ∀ g, ar.command = some g → ∀ x ∈ g.values, x.isFinite = true)
    (h : s.boundedCanaryCommand cfg ar (some r) = some b) : (∃ g, b.1 = some g ∧
      CanaryFrame cfg.deploymentManager.canaryMaxCommandDelta ar.command cmd s.candidateSpans g) ∧
    (ar.command = none → b.2 = false) := by
  unfold boundedCanaryCommand at h
  simp only [hcan, if_true, Option.bind_some, hcmd] at h
  cases hg : ar.command with
  | none =>
    rw [hg] at h
    obtain rfl := Option.some.inj h
    exact ⟨⟨cmd, rfl, rfl⟩, fun _ => by simp [eqVec_self _ hfin]⟩
  | some g =>
    rw [hg] at h
    split at h
    · cases h
    · next f hf =>
      obtain rfl := Option.some.inj h
      refine ⟨⟨f, rfl, Or.inr ?_⟩, nofun⟩
      exact boundCanaryCommand_within (canaryMaxCommandDelta_nonneg _) (har g hg) hfin hf
    · obtain rfl := Option.some.inj h
      exact ⟨⟨g, rfl, Or.inl rfl⟩, nofun⟩

lemma enforceBoundedBudget_within (b : Option CommandFrame × Bool)
    (h : ¬ (b.2 = true ∧ cfg.deploymentManager.maxBoundedCanaryTicks < s.boundedCanaryTicks + 1)) :
    ∃ k, s.enforceBoundedBudget cfg fallback b = (b.1, { s with boundedCanaryTicks := k }) := by
  unfold enforceBoundedBudget
  split
  · next hb =>
    rw [Bool.and_eq_true] at hb
    dsimp only
    rw [if_neg (fun hlt => h ⟨hb.2, hlt⟩)]
    exact ⟨_, rfl⟩
  · exact ⟨s.boundedCanaryTicks, rfl⟩

lemma canary_actuates (activeCommand : Option CommandFrame) (g : CommandFrame) (h : s.candidateIsCanary = true) :
    (s.actuate cfg activeCommand (some g)).core = { s.core with sent := s.sent ++ delivered cfg [g] } := by
  have hact : s.actuatedCommand activeCommand (some g) = some g := by simp [actuatedCommand, h]
  rw [actuate_core, hact]
  rfl

lemma keptCandidate_step {c c' : LoadedController} {r a} (hrun : ∀ g, ar.command = some g → isRunning s.active = true)
    (har : ∀ g, ar.command = some g → ∀ x ∈ g.values, x.isFinite = true) (hc : s.candidate = some c)
    (hrunning : c.running = true) (ht : s.tickSlot cfg c i.candidateGuest = some (r, c')) (hok : r.halted = false)
    (hcanary : s.candidateState = some .canary → ∃ cmd, r.command = some cmd)
    (h : (match boundedCanaryCommand cfg { s with candidate := some c' } ar (some r) with
      | none => none
      | some bounded =>
        let (command, s) := enforceBoundedBudget cfg { s with candidate := some c' } (isRunning s.active) bounded
        some (Actuated.mk (s.actuate cfg ar.command command) ((some r).any fun r => !r.halted) !bounded.2)) =
      some a) : CandidateStep cfg s ar i a := by
  obtain ⟨-, hspans, -⟩ := tickSlot_cases cfg s c c' r ht
  have hrun' := tickSlot_running ht hok
  split at h
  · cases h
  · next b hb =>
    by_cases hst : s.candidateState = some .canary
    · -- a running canary: its command is bounded, and its budget checked
      obtain ⟨cmd, hcmd⟩ := hcanary hst
      have hcan : candidateIsCanary { s with candidate := some c' } = true := by
        simp [candidateIsCanary, hst, isRunning, hrun', hrunning]
      obtain ⟨⟨g, hg, hframe⟩, hflag⟩ := boundedCanaryCommand_canary cfg _ ar r cmd b hcan hcmd
        (tickSlot_finite cfg s c c' r cmd ht hcmd) har hb
      simp only [candidateSpans, hspans] at hframe
      by_cases hover : b.2 = true ∧ cfg.deploymentManager.maxBoundedCanaryTicks < s.boundedCanaryTicks + 1
      · obtain ⟨n, hn⟩ := (drop_actuate_core cfg
          { s with candidate := some c', boundedCanaryTicks := s.boundedCanaryTicks + 1 }
          (isRunning s.active) _ ar).2
        simp only [enforceBoundedBudget, hcan, hover, Bool.and_self, if_true] at h
        obtain rfl := Option.some.inj h
        refine .dropped c c' r n hc hrunning ht (fun hno => ?_) hn
        have hnone : ar.command = none := by
          cases hg : ar.command with
          | none => rfl
          | some g' => rw [hrun g' hg] at hno; cases hno
        rw [hflag hnone] at hover
        cases hover.1
      · obtain ⟨k, hk⟩ := enforceBoundedBudget_within cfg { s with candidate := some c' } (isRunning s.active) b hover
        simp only [hk, hg] at h
        obtain rfl := Option.some.inj h
        refine .kept c c' r (some g) hc hrunning ht hok (Or.inr ⟨hst, cmd, g, hcmd, rfl, hframe⟩) ?_
        exact canary_actuates cfg { s with candidate := some c', boundedCanaryTicks := k } ar.command g hcan
    · have hcan : candidateIsCanary { s with candidate := some c' } = false := by simp [candidateIsCanary, hst]
      obtain ⟨h1, h2, h3⟩ := not_canary_actuates cfg _ ar (some r) (isRunning s.active) hcan
      obtain rfl := Option.some.inj (h1.symm.trans hb)
      simp only [h2] at h
      obtain rfl := Option.some.inj h
      refine .kept c c' r ar.command hc hrunning ht hok (Or.inl rfl) ?_
      rw [actuate_core, h3]
      rfl

lemma runCandidate_step (a : Actuated) (hrun : ∀ g, ar.command = some g → isRunning s.active = true)
    (har : ∀ g, ar.command = some g → ∀ x ∈ g.values, x.isFinite = true) (h : s.runCandidate cfg ar i = some a) :
    CandidateStep cfg s ar i a := by
  unfold runCandidate at h
  simp only at h
  split at h
  · cases h
  · next cr s2 htick =>
    rcases tickCandidate_cases cfg s i cr htick with ⟨hidle, rfl, rfl⟩ | ⟨c, c', r, hc, hrunning, ht, rfl, rfl⟩
    · -- the candidate is not ticked
      have hcan : s2.candidateIsCanary = false := by simp [candidateIsCanary, hidle]
      obtain ⟨h1, h2, h3⟩ := not_canary_actuates cfg s2 ar none (isRunning s2.active) hcan
      simp only [candidateFailureReason, handleCandidateFailure, h1, h2] at h
      obtain rfl := Option.some.inj h
      refine .idle hidle rfl ?_
      rw [actuate_core, h3]
    · cases hreason : candidateFailureReason cfg { s with candidate := some c' } (isRunning s.active) ar
          (some r) with
      | some reason =>
        obtain ⟨hcan, n, hn⟩ := drop_actuate_core cfg { s with candidate := some c' } (isRunning s.active) reason ar
        obtain ⟨h1, h2, -⟩ := not_canary_actuates cfg _ ar (some r) (isRunning s.active) hcan
        simp only [hreason, handleCandidateFailure, h1, h2] at h
        obtain rfl := Option.some.inj h
        refine .dropped c c' r n hc hrunning ht (fun hno => ?_) hn
        rw [hno] at hreason
        exact candidateFailureReason_some cfg _ ar r reason hreason
      | none =>
        obtain ⟨hok, hcanary⟩ := candidateFailureReason_none cfg _ _ ar r hreason
        simp only [hreason, handleCandidateFailure] at h
        exact keptCandidate_step cfg s ar i hrun har hc hrunning ht hok hcanary h

end LoopState
end Roz.Copper
