import Roz.Copper.Actuation

/-!
# What a stopped loop leaves on the actuator

When neither the active nor the candidate controller is running, the last frame
sent should be a zero frame.  The watchdog, a hard failure of the active controller
and a failing candidate send one.  Three ways of stopping do not: a `Halt` command,
a candidate rejected because its promotion is refused while no active controller
runs, and the end of the loop.  In a run in which those find a zero frame already
in force, the actuator is left stopped (`stopped_of_covered`).
-/

namespace Roz.Copper
open Roz.Core ExactFloat F64 StepRun LoopState List

def LastStopped (sent : List CommandFrame) : Prop := ∀ f ∈ sent.getLast?, f.IsZero

instance (sent : List CommandFrame) : Decidable (LastStopped sent) := by
  unfold LastStopped
  infer_instance

lemma lastStopped_stop {sent} (n : Nat) : LastStopped (sent ++ [CommandFrame.zero n]) := by
  intro f hf
  obtain rfl : CommandFrame.zero n = f := by simpa using hf
  exact CommandFrame.isZero_zero n

/-! ## The iterations that keep the actuator stopped -/

instance (s : LoopState) (cmds : List CopperRuntimeCommand) : Decidable (HaltStands s cmds) :=
  -- commands start and stop controllers alike under every configuration
  decidable_of_iff (.halt ∈ cmds ∧ ¬ (cmds.foldl (processCommand quickConfig) s).AnySlotRunning) <| by
    constructor
    · rintro ⟨h, hnone⟩
      exact (not_anySlotRunning_iff_haltStands quickConfig s h).1 hnone
    · intro h
      have hmem : .halt ∈ cmds := by
        obtain ⟨pre, post, rfl, -⟩ := h
        simp
      exact ⟨hmem, (not_anySlotRunning_iff_haltStands quickConfig s hmem).2 h⟩

/-- A `Halt` that stands, and a refused promotion beside no running active controller, find
a zero frame in force. -/
def StopCovered (cfg : LoopConfig) (s : LoopState) (i : IterInput) : Prop :=
  (HaltStands s (i.emergency ++ i.normal) → LastStopped s.sent) ∧
  ((s.drained cfg i).checkWatchdog cfg i = none → ∀ a, (s.drained cfg i).runTicks cfg i = .next a →
    PromotionRefused cfg a → isRunning a.state.active = true ∨ LastStopped a.state.sent)

instance (cfg : LoopConfig) (s : LoopState) (i : IterInput) : Decidable (StopCovered cfg s i) := by
  unfold StopCovered
  infer_instance

/-! ## Draining -/

def StashBehind (k : LoopCore) : Prop := k.active = none → k.rollback = none

variable (cfg : LoopConfig) (s : LoopState) {cmds : List CopperRuntimeCommand}
lemma stashBehind_processCommand (c : CopperRuntimeCommand) (h : StashBehind s.core) :
    StashBehind (processCommand cfg s c).core := by
  refine processCommand_invariant cfg StashBehind c h (fun _ => h) h fun running ha => ?_
  simp only [mapSlots, core, Option.map_eq_none_iff] at ha ⊢
  exact h ha

lemma rollback_follows_active (hno : .halt ∉ cmds) :
    ∀ s : LoopState, StashBehind s.core → (isRunning s.rollback = true → isRunning s.active = true) →
      isRunning (cmds.foldl (processCommand cfg) s).rollback = true →
      isRunning (cmds.foldl (processCommand cfg) s).active = true := by
  induction cmds with
  | nil => exact fun s _ h => h
  | cons c cmds ih =>
    intro s hstash h
    refine ih (fun hm => hno (mem_cons_of_mem _ hm)) _ (stashBehind_processCommand cfg s c hstash) ?_
    cases c with
    | preparedArtifact load =>
      have hcore := s.loadPrepared_core load
      rw [show (processCommand cfg s (.preparedArtifact load)).rollback = s.rollback from
          congrArg LoopCore.rollback hcore,
        show (processCommand cfg s (.preparedArtifact load)).active = s.active from
          congrArg LoopCore.active hcore]
      exact h
    | promoteActive =>
      simp only [processCommand]
      split <;> exact h
    | updateParams => exact h
    | halt => exact absurd mem_cons_self hno
    | resume =>
      simp only [processCommand, mapSlots, isRunning_map_setRunning, Bool.and_true]
      intro hr
      cases ha : s.active with
      | none =>
        rw [show s.rollback = none from hstash ha] at hr
        cases hr
      | some c => rfl

lemma anyControllerRunning_foldl (hno : .halt ∉ cmds) : ∀ s : LoopState, s.anyControllerRunning = true →
    (cmds.foldl (processCommand cfg) s).anyControllerRunning = true := by
  induction cmds with
  | nil => exact fun s h => h
  | cons c cmds ih =>
    intro s h
    refine ih (fun hm => hno (mem_cons_of_mem _ hm)) _ ?_
    cases c with
    | preparedArtifact load =>
      simp [processCommand, loadPrepared, anyControllerRunning, isRunning, LoadedController.fromPrepared]
    | promoteActive =>
      simp only [processCommand]
      split <;> exact h
    | updateParams => exact h
    | halt => exact absurd mem_cons_self hno
    | resume =>
      simp only [processCommand, mapSlots, anyControllerRunning, isRunning_map_setRunning, Bool.and_true,
        Bool.or_eq_true] at h ⊢
      refine h.imp ?_ ?_ <;> intro hrun <;> revert hrun
      · cases s.active <;> simp [isRunning]
      · cases s.candidate <;> simp [isRunning]

lemma drained_running (hstash : StashBehind s.core) (hstands : ¬ HaltStands s cmds)
    (hrun : s.anyControllerRunning = true) : (cmds.foldl (processCommand cfg) s).anyControllerRunning = true := by
  by_cases hmem : .halt ∈ cmds
  · have hslot := mt (not_anySlotRunning_iff_haltStands cfg s hmem).1 hstands
    rcases not_not.1 hslot with h | h | h
    · simp [anyControllerRunning, h]
    · simp [anyControllerRunning, h]
    · -- a stashed instance that runs was resumed together with the active one
      obtain ⟨pre, post, rfl, hlast⟩ := split_last_halt hmem
      have hpre := drainCommands_invariant cfg StashBehind (stashBehind_processCommand cfg) pre s hstash
      rw [foldl_append, foldl_cons] at h ⊢
      have hact := rollback_follows_active cfg hlast _ (stashBehind_processCommand cfg _ .halt hpre)
        (by simp [processCommand, mapSlots, isRunning_map_setRunning]) h
      simp [anyControllerRunning, hact]
  · exact anyControllerRunning_foldl cfg hmem s hrun

/-! ## Each phase stops the actuator or leaves a controller running -/

def RunningOrStopped (k : LoopCore) : Prop :=
  (isRunning k.active = true ∨ isRunning k.candidate = true) ∨ LastStopped k.sent

structure StopInv (k : LoopCore) : Prop where
  stash : StashBehind k
  stopped : RunningOrStopped k

lemma anyControllerRunning_iff :
    s.anyControllerRunning = true ↔ isRunning s.active = true ∨ isRunning s.candidate = true := by
  simp [anyControllerRunning]

lemma delivered_of_actuator {cfg} (h : cfg.actuator = true) (frames : List CommandFrame) :
    delivered cfg frames = frames := if_pos h

variable (i : IterInput)
lemma stopInv_drained (h : StopInv s.core) (hcov : StopCovered cfg s i) : StopInv (s.drained cfg i).core := by
  refine ⟨drained_invariant cfg StashBehind (fun _ _ h => h) (stashBehind_processCommand cfg) s i h.stash, ?_⟩
  have hsent : (s.drained cfg i).core.sent = s.sent := drained_sent cfg s i
  by_cases hstands : HaltStands s (i.emergency ++ i.normal)
  · exact Or.inr (hsent ▸ hcov.1 hstands)
  · rcases h.stopped with hrun | hstop
    · have hd := drained_running cfg s h.stash hstands ((anyControllerRunning_iff s).2 hrun)
      exact Or.inl ((anyControllerRunning_iff (s.drained cfg i)).1 hd)
    · exact Or.inr (hsent ▸ hstop)

variable {r : ControllerTickResult}
lemma stopInv_activeStep (hcfg : cfg.actuator = true) {s s' i}
    (h : StopInv s.core) (hstep : ActiveStep cfg s i r s') : StopInv s'.core := by
  cases hstep with
  | idle _ hcore => rwa [hcore]
  | ticked c c' hc hrun ht hok hcore =>
    rw [hcore]
    exact ⟨nofun, Or.inl (Or.inl ((tickSlot_running ht hok).trans hrun))⟩
  | restored c c' rb reason outcome lc n _ _ _ _ _ hcore =>
    rw [hcore]
    exact ⟨fun _ => rfl, Or.inl (Or.inl rfl)⟩
  | stopped c c' reason n _ _ _ _ hcore =>
    rw [hcore, delivered_of_actuator hcfg]
    exact ⟨fun _ => rfl, Or.inr (lastStopped_stop n)⟩

lemma stopInv_candidateStep (hcfg : cfg.actuator = true) {s i a} (h : StopInv s.core)
    (hrun : ∀ g, r.command = some g → isRunning s.active = true) (hstep : CandidateStep cfg s r i a) :
    StopInv a.state.core := by
  cases hstep with
  | idle _ _ hcore =>
    rw [hcore]
    refine ⟨h.stash, ?_⟩
    cases hr : r.command with
    | none => simpa [RunningOrStopped] using h.stopped
    | some g => exact Or.inl (Or.inl (hrun g hr))
  | kept c c' rc f _ hrunning ht hok _ hcore =>
    rw [hcore]
    exact ⟨h.stash, Or.inl (Or.inr ((tickSlot_running ht hok).trans hrunning))⟩
  | dropped c c' rc n _ _ _ _ hcore =>
    rw [hcore, delivered_of_actuator hcfg]
    refine ⟨h.stash, ?_⟩
    cases hact : isRunning s.active with
    | true => exact Or.inl (Or.inl hact)
    | false =>
      have hnone : r.command = none := by
        cases hr : r.command with
        | none => rfl
        | some g =>
          rw [hrun g hr] at hact
          cases hact
      rw [hnone]
      exact Or.inr (lastStopped_stop n)

lemma candidateStep_ticked_running {a}
    (hstep : CandidateStep cfg s r i a) (hticked : a.candidateTickedSuccessfully = true) (c : LoadedController)
    (hc : a.state.candidate = some c) : c.running = true := by
  have hcand : ∀ k : LoopCore, a.state.core = k → k.candidate = some c := fun k hk => hk ▸ hc
  cases hstep with
  | idle _ hnot _ =>
    rw [hnot] at hticked
    cases hticked
  | kept c0 c' rc f _ hrunning ht hok _ hcore =>
    obtain rfl := Option.some.inj (hcand _ hcore)
    exact (tickSlot_running ht hok).trans hrunning
  | dropped c0 c' rc n _ _ _ _ hcore => cases hcand _ hcore

lemma stopInv_advanceStep (a : Actuated) (s' : LoopState) (h : StopInv a.state.core)
    (hticked : a.candidateTickedSuccessfully = true → ∀ c, a.state.candidate = some c → c.running = true)
    (hcov : PromotionRefused cfg a → isRunning a.state.active = true ∨ LastStopped a.state.sent)
    (hstep : AdvanceStep cfg a s') : StopInv s'.core := by
  cases hstep with
  | unchanged hcore => rwa [hcore]
  | refused c ev _ _ href hcore =>
    rw [hcore]
    exact ⟨h.stash, (hcov href).imp Or.inl id⟩
  | staged c c' target hp ht _ _ hrun hcore =>
    rw [hcore]
    exact ⟨h.stash, Or.inl (Or.inr (hrun.trans (hticked ht c hp.loaded)))⟩
  | activated c c' utcNow hp ht _ hrun hcore =>
    rw [hcore]
    exact ⟨nofun, Or.inl (Or.inl (hrun.trans (hticked ht c hp.loaded)))⟩

lemma stopInv_iterate (hcfg : cfg.actuator = true) (s s' : LoopState) (i : IterInput) (h : StopInv s.core)
    (hcov : StopCovered cfg s i) (hs : s.iterate cfg i = .next s') : StopInv s'.core := by
  have hd := stopInv_drained cfg s i h hcov
  cases iterate_step cfg s hs with
  | watchdog n _ hcore =>
    rw [hcore, delivered_of_actuator hcfg]
    refine ⟨fun hn => ?_, Or.inr (lastStopped_stop n)⟩
    exact hd.stash (Option.map_eq_none_iff.1 hn)
  | ticks hwatch hrun hact hcand hadv =>
    have hinv := stopInv_candidateStep cfg hcfg (stopInv_activeStep cfg hcfg hd hact)
      (fun g hg => (hact.command g hg).1) hcand
    exact stopInv_advanceStep cfg _ s' hinv (candidateStep_ticked_running cfg _ i hcand)
      (hcov.2 hwatch _ hrun) hadv

/-! ## Runs -/

theorem stopped_of_covered (cfg : LoopConfig) (now : Nat) (inputs : List IterInput) (hcfg : cfg.actuator = true)
    (h : EveryStep (iterate cfg) (.initial now) (StopCovered cfg) inputs) :
    (∀ pre post s, inputs = pre ++ post → runLoop cfg now pre = .next s →
      s.anyControllerRunning = false → LastStopped s.sent) ∧ (∀ s emergency normal, runLoop cfg now inputs = .next s →
      (s.anyControllerRunning = true → LastStopped s.sent) → LastStopped (s.exitLoop cfg emergency normal).sent) := by
  have hinv : ∀ pre post s, inputs = pre ++ post → runLoop cfg now pre = .next s →
      s.anyControllerRunning = true ∨ LastStopped s.sent := by
    intro pre post s he hr
    have h0 : StopInv (LoopState.initial now).core := ⟨fun _ => rfl, Or.inr (by simp [LastStopped, initial])⟩
    have := (h.of_append he).invariant (fun s => StopInv s.core)
      (fun s i s' hs hok => stopInv_iterate cfg hcfg s s' i hs hok) h0 pre s hr
    exact this.stopped.imp (anyControllerRunning_iff s).2 id
  refine ⟨fun pre post s he hr hnone => ?_, fun s emergency normal hr hend => ?_⟩
  · refine (hinv pre post s he hr).resolve_left fun hrun => ?_
    rw [hnone] at hrun
    cases hrun
  · rw [exitLoop_sent]
    exact (hinv inputs [] s (append_nil _).symm hr).elim hend id

def failAlone : List IterInput :=
  rolloutRun (velocityController "a") ++ [iterationWith [] [] (.trap "fault") (commanding 1)]

theorem stopped_failAlone : (runLoop quickConfig 0 failAlone).state.sent.length = 2 ∧
    LastStopped (runLoop quickConfig 0 failAlone).state.sent :=
  ⟨by with_unfolding_all decide,
    (stopped_of_covered quickConfig 0 failAlone rfl (by with_unfolding_all decide)).1 failAlone [] _
      (append_nil _).symm (by with_unfolding_all decide) (by with_unfolding_all decide)⟩

def haltAfterFrame : List IterInput :=
  rolloutRun (velocityController "a") ++ [iterationWith [] [.halt] (commanding 1) (commanding 1)]

/-- After a `Halt`, and after the loop has returned, a frame that commands motion is the
last one sent. -/
theorem halt_leaves_motion : ∃ s, runLoop quickConfig 0 haltAfterFrame = .next s ∧ s.anyControllerRunning = false ∧
      ¬ LastStopped s.sent ∧ ¬ LastStopped (s.exitLoop quickConfig [.halt] []).sent :=
  ⟨(runLoop quickConfig 0 haltAfterFrame).state, by with_unfolding_all decide⟩

end Roz.Copper
