import Roz.Copper.Actuation

/-!
# Whether the actuator tracks the running controller

While one active controller runs alone, the frame in force should be the safety
filter's output of the latest tick.  A tick whose raw values are all at their
defaults sends nothing, although the filter has a new output.  From the first tick
that sends a frame on,

    the frame in force is the output of every tick  ↔
      every silent tick repeats the filter's previous output  (tracks_iff)

so a controller that goes from motion to all zeros leaves the last motion command
in force.
-/

namespace Roz.Copper
open Roz.Core ExactFloat F64 StepRun LoopState LoadedController LoopCore

def LoadedController.silentOn (c : LoadedController) : GuestOutcome → Bool
  | .trap _ => false
  | .output o => c.silent o

variable (cfg : LoopConfig) (s : LoopState) (i : IterInput)

/-- One active controller, with at least one channel, runs alone: no candidate is loaded,
the watchdog does not fire and the tick does not halt. -/
def SteadyStep : Prop :=
  (s.drained cfg i).candidate = none ∧ (s.drained cfg i).checkWatchdog cfg i = none ∧
  ∃ c ∈ (s.drained cfg i).active, c.running = true ∧ c.channelNames ≠ [] ∧
    ∃ p ∈ (s.drained cfg i).tickSlot cfg c i.activeGuest, p.1.halted = false

def TickSends : Prop :=
  ∀ c ∈ (s.drained cfg i).active, c.silentOn i.activeGuest = false

/-- After the iteration the frame in force is the filter's output of its tick. -/
def Tracks : Prop :=
  ∃ c ∈ (s.drained cfg i).active, ∃ f ∈ (s.drained cfg i).filterFrame cfg c i.activeGuest,
    (s.iterate cfg i).state.sent.getLast? = some f

/-- If the tick is silent, the filter's output is the one it returned last. -/
def SilentRepeats : Prop :=
  ∀ c ∈ (s.drained cfg i).active, c.silentOn i.activeGuest = true →
    (s.drained cfg i).filterFrame cfg c i.activeGuest = some ⟨c.hotPathFilter.previousCommands⟩

instance (cfg : LoopConfig) (s : LoopState) (i : IterInput) : Decidable (SteadyStep cfg s i) := by
  unfold SteadyStep
  infer_instance

instance (cfg : LoopConfig) (s : LoopState) (i : IterInput) : Decidable (TickSends cfg s i) := by
  unfold TickSends
  infer_instance

instance (cfg : LoopConfig) (s : LoopState) (i : IterInput) : Decidable (Tracks cfg s i) := by
  unfold Tracks
  infer_instance

instance (cfg : LoopConfig) (s : LoopState) (i : IterInput) : Decidable (SilentRepeats cfg s i) := by
  unfold SilentRepeats
  infer_instance

/-! ## One steady iteration -/

lemma drained_filter : (s.drained cfg i).active.map hotPathFilter = s.active.map hotPathFilter := by
  let Same (k : LoopCore) := k.active.map hotPathFilter = s.active.map hotPathFilter
  exact drained_invariant cfg Same (fun _ _ h => h)
    (fun _ c h => processCommand_invariant cfg Same c h (fun _ => h) h fun _ => (Option.map_map _ _ _).trans h) s i rfl

lemma runCandidate_none (ar : ControllerTickResult) (i : IterInput)
    (h : s.candidate = none) : ∃ a, s.runCandidate cfg ar i = some a ∧
      a.state.core = { s.core with sent := s.sent ++ delivered cfg ar.command.toList } := by
  have hcan : s.candidateIsCanary = false := by simp [candidateIsCanary, h, isRunning]
  obtain ⟨h1, h2, h3⟩ := not_canary_actuates cfg s ar none (isRunning s.active) hcan
  simp only [runCandidate, tickCandidate, h, candidateFailureReason, handleCandidateFailure, h1, h2]
  exact ⟨_, rfl, by rw [actuate_core, h3]⟩

lemma advanceStep_none {cfg a s'} (h : AdvanceStep cfg a s')
    (hnone : a.state.candidate = none) : s'.core = a.state.core := by
  have hno : ∀ c, a.state.candidate ≠ some c := fun c hc => by
    rw [hnone] at hc
    cases hc
  cases h with
  | unchanged hcore => exact hcore
  | refused c _ hc => exact absurd hc (hno c)
  | staged c _ _ hp => exact absurd hp.loaded (hno c)
  | activated c _ _ hp => exact absurd hp.loaded (hno c)

/-- A steady iteration ticks the active controller, whose filter remembers its output, and
sends the output unless the tick is silent. -/
lemma steady_iterate (hcfg : cfg.actuator = true) {s i}
    (h : SteadyStep cfg s i) : ∃ c c' f s', (s.drained cfg i).active = some c ∧
      (s.drained cfg i).filterFrame cfg c i.activeGuest = some f ∧ s.iterate cfg i = .next s' ∧
      s'.active = some c' ∧ c'.hotPathFilter.previousCommands = f.values ∧
      s'.sent = s.sent ++ if c.silentOn i.activeGuest then [] else [f] := by
  obtain ⟨hcand, hwatch, c, hc, hrun, -, ⟨r, c'⟩, ht, hok⟩ := h
  obtain ⟨-, -, ⟨⟨reason, rfl⟩, -⟩ | ⟨-, -, o, fr, hguest, hfr, hr⟩⟩ := tickSlot_cases cfg _ c c' r ht
  · cases hok
  have hprev := (HotPathSafetyFilter.filter_remembers hfr).1
  have hsends : r.command.toList = if c.silentOn i.activeGuest then [] else [⟨fr.commands⟩] := by
    rw [hr, hguest]
    cases hsil : c.silent o <;> simp [silentOn, hsil, ControllerTickResult.none, ControllerTickResult.sends]
  have htick : (s.drained cfg i).tickActive cfg i = some (r, { s.drained cfg i with active := some c' }) := by
    simp only [tickActive, Option.mem_def.1 hc, hrun, if_true, Option.mem_def.1 ht]
  obtain ⟨a, ha, hcore⟩ := runCandidate_none cfg { s.drained cfg i with active := some c' } r i hcand
  have hruns : (s.drained cfg i).runTicks cfg i = .next a := by
    simp only [runTicks, htick, handleActiveFailure_of_not_halted cfg _ r hok, ha]
  have hstep := advanceStep_none (advanceCandidateStage_step cfg a i.utcNow)
    ((congrArg LoopCore.candidate hcore).trans hcand)
  refine ⟨c, c', ⟨fr.commands⟩, _, hc, by simp [filterFrame, hguest, hfr],
    by simp only [iterate, hwatch, hruns]; rfl, ?_, hprev, ?_⟩
  · exact (congrArg LoopCore.active hstep).trans (congrArg LoopCore.active hcore)
  · refine (congrArg LoopCore.sent hstep).trans ((congrArg LoopCore.sent hcore).trans ?_)
    rw [hsends, ← drained_sent cfg s i]
    exact congrArg _ (if_pos hcfg)

/-! ## Runs -/

/-- The frame in force is the latest output of the active controller's filter. -/
def InForce : Prop :=
  ∃ c, s.active = some c ∧ s.sent.getLast? = some ⟨c.hotPathFilter.previousCommands⟩

lemma inForce_of_tracks (hcfg : cfg.actuator = true) (s s' : LoopState) (i : IterInput)
    (hsteady : SteadyStep cfg s i) (h : Tracks cfg s i) (hs : s.iterate cfg i = .next s') : InForce s' := by
  obtain ⟨c, c', f, s1, hc, hf, hiter, hact, hprev, -⟩ := steady_iterate cfg hcfg hsteady
  obtain ⟨c0, hc0, f0, hf0, hlast⟩ := h
  obtain rfl := Option.some.inj (hc.symm.trans hc0)
  obtain rfl := Option.some.inj (hf.symm.trans hf0)
  rw [hs] at hiter hlast
  obtain rfl := Flow.next.inj hiter
  exact ⟨c', hact, hlast.trans (by rw [hprev])⟩

lemma tracks_iff_repeats (hcfg : cfg.actuator = true) {s i}
    (hsteady : SteadyStep cfg s i) (hready : InForce s ∨ TickSends cfg s i) :
    Tracks cfg s i ↔ SilentRepeats cfg s i := by
  obtain ⟨c, c', f, s', hc, hf, hiter, -, -, hsent⟩ := steady_iterate cfg hcfg hsteady
  have hstate : (s.iterate cfg i).state.sent = s.sent ++ if c.silentOn i.activeGuest then [] else [f] := by
    rw [hiter]
    exact hsent
  have htracks : Tracks cfg s i ↔ (s.iterate cfg i).state.sent.getLast? = some f := by simp [Tracks, hc, hf]
  have hrepeats : SilentRepeats cfg s i ↔
      (c.silentOn i.activeGuest = true → f = ⟨c.hotPathFilter.previousCommands⟩) := by
    simp [SilentRepeats, hc, hf]
  rw [htracks, hrepeats, hstate]
  cases hsil : c.silentOn i.activeGuest with
  | false => simp
  | true =>
    rcases hready with ⟨c0, hc0, hlast⟩ | hsends
    · have hfilter := drained_filter cfg s i
      rw [hc, hc0] at hfilter
      have : c.hotPathFilter = c0.hotPathFilter := Option.some.inj hfilter
      simp [hlast, this, eq_comm]
    · rw [hsends c hc] at hsil
      cases hsil

/-- In a run in which one active controller runs alone, and from the first tick that sends a
frame on: the frame in force after every tick is the filter's output of that tick, exactly
if every silent tick repeats the filter's previous output. -/
theorem tracks_iff (cfg : LoopConfig) (s0 : LoopState) (i0 : IterInput) (rest : List IterInput)
    (hcfg : cfg.actuator = true) (hsteady : EveryStep (iterate cfg) s0 (SteadyStep cfg) (i0 :: rest))
    (hfirst : TickSends cfg s0 i0) : EveryStep (iterate cfg) s0 (Tracks cfg) (i0 :: rest) ↔
      EveryStep (iterate cfg) s0 (SilentRepeats cfg) (i0 :: rest) := by
  -- the step before a tick, if tracked, puts its output in force
  have hready : ∀ pre i post s, i0 :: rest = pre ++ i :: post → runFrom (iterate cfg) s0 pre = .next s →
      EveryStep (iterate cfg) s0 (Tracks cfg) pre → InForce s ∨ TickSends cfg s i := by
    intro pre i post s he hr htr
    rcases List.eq_nil_or_concat' pre with rfl | ⟨pre, j, rfl⟩
    · obtain ⟨rfl, -⟩ := List.cons.inj he
      obtain rfl := Flow.next.inj hr
      exact Or.inr hfirst
    · obtain ⟨s1, h1, h2⟩ := (runFrom_snoc (iterate cfg) pre j s0 s).1 hr
      exact Or.inl (inForce_of_tracks cfg hcfg s1 s j
        (hsteady pre j (i :: post) s1 (by rw [he]; simp) h1) (htr pre j [] s1 rfl h1) h2)
  constructor
  · intro htr pre i post s he hr
    exact (tracks_iff_repeats cfg hcfg (hsteady pre i post s he hr)
      (hready pre i post s he hr (htr.of_append he))).1 (htr pre i post s he hr)
  · intro hrep
    refine everyStep_of_step (iterate cfg) s0 fun pre i post s he hr htr => ?_
    exact (tracks_iff_repeats cfg hcfg (hsteady pre i post s he hr) (hready pre i post s he hr htr)).2
      (hrep pre i post s he hr)

def promotedAlone : LoopState := (runLoop quickConfig 0 (rolloutRun (velocityController "a"))).state

def slowDown : List IterInput :=
  [iterationWith [] [] (commanding 1) (commanding 0), iterationWith [] [] (commanding (1 / 2)) (commanding 0)]

theorem tracks_slowDown : EveryStep (iterate quickConfig) promotedAlone (Tracks quickConfig) slowDown :=
  (tracks_iff quickConfig promotedAlone _ _ rfl (by with_unfolding_all decide) (by with_unfolding_all decide)).2
    (by with_unfolding_all decide)

def commandZero : IterInput := iterationWith [] [] (commanding 0) (commanding 0)

/-- Its zero output is not sent, and the motion command stays in force. -/
theorem zero_not_delivered : ∃ s, runLoop quickConfig 0 (rolloutRun (velocityController "a") ++
        [iterationWith [] [] (commanding 1) (commanding 0)]) = .next s ∧ SteadyStep quickConfig s commandZero ∧
      (s.iterate quickConfig commandZero).state.sent.getLast? = some ⟨[.fin 1]⟩ ∧
      ¬ Tracks quickConfig s commandZero :=
  ⟨(runLoop quickConfig 0 (rolloutRun (velocityController "a") ++
      [iterationWith [] [] (commanding 1) (commanding 0)])).state, by with_unfolding_all decide⟩

end Roz.Copper
