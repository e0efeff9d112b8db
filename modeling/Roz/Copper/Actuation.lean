import Roz.Copper.SlotAgreement

/-!
# Every frame sent is authorized

A frame that reaches the actuator sink is a zero frame, the safety filter's output
for the running active controller, or a frame of a running candidate in the canary
stage.  A canary frame stays within the envelope around the active command if there
is one.  A candidate in `VerifiedOnly` or `Shadow` has no part in any frame
(`sent_authorized`).

The envelope is `|span * delta|`: spans of torque channels keep the sign of
`max_torque`.
-/

namespace Roz.Copper
open Roz.Core ExactFloat F64 StepRun
namespace LoopState
variable (cfg : LoopConfig) (s : LoopState)
def filterFrame (c : LoadedController) : GuestOutcome → Option CommandFrame
  | .trap _ => none
  | .output o => (s.slotFilter cfg c o).map fun p => ⟨p.1.commands⟩

def activeCommand (i : IterInput) : Option CommandFrame :=
  (s.tickActive cfg i).bind fun p => p.1.command

variable (allowed : F64 → F64)
def CanaryAuthorized (cfg : LoopConfig) (s : LoopState) (i : IterInput) (f : CommandFrame) : Prop :=
  ∃ c, s.candidateState = some .canary ∧ s.candidate = some c ∧ c.running = true ∧
    match s.activeCommand cfg i with
    | none => s.filterFrame cfg c i.candidateGuest = some f
    | some g => WithinEnvelope allowed g.values c.commandLimitSpans f.values

/-- The iteration that ticks its controllers in state `s` may send the frame `f`. -/
def Authorized (cfg : LoopConfig) (s : LoopState) (i : IterInput) (f : CommandFrame) : Prop :=
  f.IsZero ∨
  (∃ c, s.active = some c ∧ c.running = true ∧ s.filterFrame cfg c i.activeGuest = some f) ∨
  CanaryAuthorized allowed cfg s i f

lemma filterFrame_of_tick {cfg} {s : LoopState} {c c' guest r f} (h : s.tickSlot cfg c guest = some (r, c'))
    (hf : r.command = some f) : s.filterFrame cfg c guest = some f := by
  obtain ⟨o, fr, rfl, hfr, rfl⟩ := tickSlot_command cfg s c c' r f h hf
  simp [filterFrame, hfr]

lemma tickSlot_congr (s s' : LoopState) (c : LoadedController) (guest : GuestOutcome)
    (h : s'.sensor = s.sensor) : s'.tickSlot cfg c guest = s.tickSlot cfg c guest := by simp only [tickSlot, h]

/-! ## The phases send authorized frames only -/

variable {allowed : F64 → F64} {cfg : LoopConfig} {d s : LoopState} {i : IterInput} {r : ControllerTickResult}
lemma authorized_stop (n : Nat) : Authorized allowed cfg d i (CommandFrame.zero n) :=
  Or.inl (CommandFrame.isZero_zero n)

lemma extends_delivered {P sent frames} (h : ∀ f ∈ frames, P f) : Extends P sent (sent ++ delivered cfg frames) :=
  ⟨delivered cfg frames, rfl, fun f hf => h f (mem_delivered hf)⟩

lemma ActiveStep.activeCommand_eq (h : ActiveStep cfg d i r s) : d.activeCommand cfg i = r.command := by
  unfold activeCommand tickActive
  cases h with
  | idle hidle _ =>
    cases ha : d.active with
    | none => rfl
    | some c =>
      have hrun : c.running = false := by simpa [ha, isRunning] using hidle
      simp [hrun, ControllerTickResult.none]
  | ticked c c' hc hrun ht => simp [hc, hrun, ht]
  | restored c c' rb reason outcome lc n hc hrun ht => simp [hc, hrun, ht]
  | stopped c c' reason n hc hrun ht => simp [hc, hrun, ht]

lemma ActiveStep.authorized (h : ActiveStep cfg d i r s) (f : CommandFrame) (hf : f ∈ r.command) :
    Authorized allowed cfg d i f := by
  cases h with
  | idle => cases hf
  | restored => cases hf
  | stopped => cases hf
  | ticked c c' hc hrun ht => exact Or.inr (Or.inl ⟨c, hc, hrun, filterFrame_of_tick ht hf⟩)

lemma ActiveStep.sent_extends (h : ActiveStep cfg d i r s) : Extends (Authorized allowed cfg d i) d.sent s.sent := by
  have hsent : ∀ k : LoopCore, s.core = k → s.sent = k.sent := fun k hk => congrArg LoopCore.sent hk
  cases h with
  | idle _ hcore => rw [hsent _ hcore]; exact Extends.refl _
  | ticked c c' _ _ _ _ hcore => rw [hsent _ hcore]; exact Extends.refl _
  | restored c c' rb reason outcome lc n _ _ _ _ _ hcore =>
    rw [hsent _ hcore]
    exact extends_delivered (by simpa using authorized_stop n)
  | stopped c c' reason n _ _ _ _ hcore =>
    rw [hsent _ hcore]
    exact extends_delivered (by simpa using authorized_stop n)

lemma ActiveStep.canary_eq (h : ActiveStep cfg d i r s) (c : LoadedController) (hc : s.candidate = some c)
    (hrun : c.running = true) (hst : s.candidateState = some .canary) :
    d.candidate = some c ∧ d.candidateState = some .canary ∧ s.sensor = d.sensor := by
  have hk : ∀ k : LoopCore, s.core = k →
      k.candidate = some c ∧ k.candidateState = some .canary ∧ s.sensor = k.sensor :=
    fun k hk => hk ▸ ⟨hc, hst, rfl⟩
  cases h with
  | idle _ hcore => exact hk _ hcore
  | ticked c0 c' _ _ _ _ hcore => exact hk _ hcore
  | restored c0 c' rb reason outcome lc n _ _ _ _ _ hcore => cases (hk _ hcore).2.1
  | stopped c0 c' reason n _ _ _ _ hcore =>
    -- the candidate was stopped
    obtain ⟨c1, -, rfl⟩ := Option.map_eq_some_iff.1 (hk _ hcore).1
    cases hrun

lemma ActiveStep.canaryFrame_authorized {cfg} {d s : LoopState} {i r rc c c' cmd f} (hact : ActiveStep cfg d i r s)
    (hc : s.candidate = some c) (hrun : c.running = true) (hst : s.candidateState = some .canary)
    (ht : s.tickSlot cfg c i.candidateGuest = some (rc, c')) (hcmd : rc.command = some cmd)
    (hcanary : CanaryFrame cfg.deploymentManager.canaryMaxCommandDelta r.command cmd c.commandLimitSpans f) :
    Authorized (allowedDelta cfg.deploymentManager.canaryMaxCommandDelta) cfg d i f := by
  obtain ⟨hdc, hdst, hsensor⟩ := hact.canary_eq c hc hrun hst
  rw [tickSlot_congr cfg d s c _ hsensor] at ht
  have hcommand := hact.activeCommand_eq
  cases har : r.command with
  | none =>
    rw [har] at hcommand hcanary
    obtain rfl : f = cmd := hcanary
    refine Or.inr (Or.inr ⟨c, hdst, hdc, hrun, ?_⟩)
    rw [hcommand]
    exact filterFrame_of_tick ht hcmd
  | some ga =>
    rw [har] at hcommand hcanary
    rcases hcanary with rfl | hwithin
    · exact hact.authorized f har
    · refine Or.inr (Or.inr ⟨c, hdst, hdc, hrun, ?_⟩)
      rw [hcommand]
      exact hwithin

lemma CandidateStep.sent_extends (cfg : LoopConfig) (d s : LoopState) (i : IterInput)
    (r : ControllerTickResult) (a : Actuated) (hact : ActiveStep cfg d i r s) (h : CandidateStep cfg s r i a) :
    Extends (Authorized (allowedDelta cfg.deploymentManager.canaryMaxCommandDelta) cfg d i) s.sent a.state.sent := by
  have hsent : ∀ k : LoopCore, a.state.core = k → a.state.sent = k.sent := fun k hk => congrArg LoopCore.sent hk
  cases h with
  | idle _ _ hcore =>
    rw [hsent _ hcore]
    exact extends_delivered fun f hf => hact.authorized f (Option.mem_toList.1 hf)
  | dropped c c' rc n _ _ _ _ hcore =>
    rw [hsent _ hcore]
    refine extends_delivered fun f hf => ?_
    rcases List.mem_append.1 hf with hf | hf
    · split at hf
      · cases hf
      · rw [List.mem_singleton.1 hf]
        exact authorized_stop n
    · exact hact.authorized f (Option.mem_toList.1 hf)
  | kept c c' rc f hc hrun ht _ hframe hcore =>
    rw [hsent _ hcore]
    refine extends_delivered fun f' hf' => ?_
    rcases hframe with rfl | ⟨hst, cmd, g, hcmd, rfl, hcanary⟩
    · exact hact.authorized f' (Option.mem_toList.1 hf')
    · obtain rfl : f' = g := by simpa using hf'
      exact hact.canaryFrame_authorized hc hrun hst ht hcmd hcanary

lemma AdvanceStep.sent_eq {a s'} (h : AdvanceStep cfg a s') : s'.sent = a.state.sent := by
  cases h with
  | unchanged hcore => exact congrArg LoopCore.sent hcore
  | refused c ev _ _ _ hcore => exact congrArg LoopCore.sent hcore
  | staged c c' target _ _ _ _ _ hcore => exact congrArg LoopCore.sent hcore
  | activated c c' utcNow _ _ _ _ hcore => exact congrArg LoopCore.sent hcore

lemma drained_sent (cfg : LoopConfig) (s : LoopState) (i : IterInput) : (s.drained cfg i).sent = s.sent := by
  refine drained_invariant cfg (fun k => k.sent = s.sent) (fun _ _ h => h) (fun s' c h => ?_) s i rfl
  exact processCommand_invariant cfg (fun k => k.sent = s.sent) c h (fun _ => h) h fun _ => h

lemma iterate_panicked {cfg} {s s' : LoopState} {i} (h : s.iterate cfg i = .panicked s') :
    s' = s.drained cfg i ∨ ∃ r, ActiveStep cfg (s.drained cfg i) i r s' := by
  unfold iterate runTicks at h
  simp only at h
  split at h
  · cases h
  · split at h
    · next a ha =>
      obtain rfl := Flow.panicked.inj h
      split at ha
      · obtain rfl := Flow.panicked.inj ha
        exact Or.inl rfl
      · next r s1 ht =>
        split at ha
        · obtain rfl := Flow.panicked.inj ha
          exact Or.inr ⟨r, activeStep_of_tickActive cfg _ i r ht⟩
        · cases ha
    · cases h

lemma iterate_sent_extends (cfg : LoopConfig) (s : LoopState) (i : IterInput) :
    Extends (Authorized (allowedDelta cfg.deploymentManager.canaryMaxCommandDelta) cfg (s.drained cfg i) i) s.sent
      (s.iterate cfg i).state.sent := by
  rw [← drained_sent cfg s i]
  cases hs : s.iterate cfg i with
  | next s' =>
    cases iterate_step cfg s hs with
    | watchdog n _ hcore =>
      rw [show (Flow.next s').state.sent = _ from congrArg LoopCore.sent hcore]
      exact extends_delivered (by simpa using authorized_stop n)
    | ticks _ _ hact hcand hadv =>
      rw [show (Flow.next s').state.sent = _ from hadv.sent_eq]
      exact hact.sent_extends.trans (hcand.sent_extends cfg _ _ i _ _ hact)
  | panicked s' =>
    rcases iterate_panicked hs with rfl | ⟨r, hact⟩
    · exact Extends.refl _
    · exact hact.sent_extends

lemma exitLoop_sent (cfg : LoopConfig) (s : LoopState) (emergency normal : List CopperRuntimeCommand) :
    (s.exitLoop cfg emergency normal).sent = s.sent := by
  have hdrain := drained_sent cfg s ⟨emergency, normal, 0, none, 0, 0, .trap "", .trap "", 0⟩
  have h1 := congrArg LoopCore.sent (finalizeActive_core (s.drainCommands cfg emergency normal))
  have h2 := congrArg LoopCore.sent (finalizeCandidate_core (s.drainCommands cfg emergency normal).finalizeActive)
  have h3 := congrArg LoopCore.sent
    (finalizeRollback_core (s.drainCommands cfg emergency normal).finalizeActive.finalizeCandidate)
  exact h3.trans (h2.trans (h1.trans hdrain))

end LoopState
open LoopState

/-! ## Runs -/

theorem sent_authorized (cfg : LoopConfig) (now : Nat) (inputs : List IterInput)
    (emergency normal : List CopperRuntimeCommand) (k : Nat) (f : CommandFrame)
    (h : ((runLoop cfg now inputs).state.exitLoop cfg emergency normal).sent[k]? = some f) :
    ∃ pre i post s, inputs = pre ++ i :: post ∧ runLoop cfg now pre = .next s ∧
      s.sent.length ≤ k ∧ k < (s.iterate cfg i).state.sent.length ∧
      Authorized (allowedDelta cfg.deploymentManager.canaryMaxCommandDelta) cfg (s.drained cfg i) i f := by
  rw [exitLoop_sent] at h
  exact runFrom_log LoopState.sent
    (fun s i => Authorized (allowedDelta cfg.deploymentManager.canaryMaxCommandDelta) cfg (s.drained cfg i) i)
    (iterate_sent_extends cfg) rfl inputs k f h

def signedTorqueController (id : String) : PreparedController :=
  { verifiedController id [⟨"joint0/torque", .jointTorque⟩] with
    manifest := ⟨[⟨"joint0/torque", .jointTorque⟩], [⟨"joint0", 0⟩]⟩
    runtime := ⟨[⟨"joint0", "joint0", .fin 1, .inf false, .fin (-3), .fin 3, some (.fin (-1))⟩], none⟩ }

def canaryBeside : List IterInput :=
  rolloutRun (signedTorqueController "a") ++
    [iterationWith [] [.preparedArtifact (signedTorqueController "b"), .promoteActive] (commanding 1) (commanding 1)]

def canaryTick : IterInput := iterationWith [] [] (commanding (1 / 2)) (commanding 1)

theorem sent_authorized_canaryTick :
    ∃ pre i post s, canaryBeside ++ [canaryTick] = pre ++ i :: post ∧ runLoop quickConfig 0 pre = .next s ∧
      s.sent.length ≤ 2 ∧ 2 < (s.iterate quickConfig i).state.sent.length ∧
      Authorized (allowedDelta quickPolicy.canaryMaxCommandDelta) quickConfig (s.drained quickConfig i) i
        ⟨[.fin 1]⟩ :=
  sent_authorized quickConfig 0 (canaryBeside ++ [canaryTick]) [] [] 2 ⟨[.fin 1]⟩ (by decide +kernel)

/-- Without the absolute value the envelope of a signed span would admit no frame. -/
theorem canaryTick_outside_signed_envelope : ∃ s, runLoop quickConfig 0 canaryBeside = .next s ∧
      (s.iterate quickConfig canaryTick).state.sent = s.sent ++ [⟨[.fin 1]⟩] ∧
      ¬ Authorized (fun span => span.mul quickPolicy.canaryMaxCommandDelta) quickConfig
        (s.drained quickConfig canaryTick) canaryTick ⟨[.fin 1]⟩ := by
  refine ⟨(runLoop quickConfig 0 canaryBeside).state, by decide +kernel, by decide +kernel, ?_⟩
  rintro (hzero | ⟨c, hc, -, hf⟩ | ⟨c, -, hc, -, hf⟩)
  · exact absurd hzero (by decide)
  · have hactive : ∀ c ∈ (drained quickConfig (runLoop quickConfig 0 canaryBeside).state canaryTick).active,
        filterFrame quickConfig (drained quickConfig (runLoop quickConfig 0 canaryBeside).state canaryTick) c
          canaryTick.activeGuest ≠ some ⟨[.fin 1]⟩ := by
      decide +kernel
    exact hactive c hc hf
  · have hcommand : activeCommand quickConfig
        (drained quickConfig (runLoop quickConfig 0 canaryBeside).state canaryTick) canaryTick =
          some ⟨[.fin (1 / 2)]⟩ := by
      decide +kernel
    have hspans : ∀ c ∈ (drained quickConfig (runLoop quickConfig 0 canaryBeside).state canaryTick).candidate,
        c.commandLimitSpans = [.fin (-2)] := by
      decide +kernel
    rw [hcommand, hspans c hc] at hf
    obtain ⟨p, q, span, -, -, hspan, hle⟩ := hf.2 0 _ _ rfl rfl
    obtain rfl : F64.fin (-2) = span := Option.some.inj hspan
    rw [show quickPolicy.canaryMaxCommandDelta = .fin (1 / 4) by decide +kernel] at hle
    simp only [mul_fin, fin_le_fin] at hle
    have := abs_nonneg (q - p)
    linarith

end Roz.Copper
