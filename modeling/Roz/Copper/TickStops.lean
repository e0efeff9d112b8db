import Roz.Copper.Tick

/-!
# What stops a controller in a tick

Two readings are meant to stop a joint: a force or torque beyond its limit, which is
an e-stop, and a position at its limit.

An e-stop of the filter is tested only after the two early returns for a command
without values or with nothing but defaults, so such a tick goes on as if nothing
had happened (`force_estop_halts_iff`).

The filter is handed the host's state values, positions followed by velocities, and
reads entry `i` for channel `i`.  With `n` channels and `m` positions this is a
position for every channel just if `n ≤ m` (`readsPositionsOnly_iff`).
-/

namespace Roz.Copper
open Roz.Core ExactFloat F64 LoadedController HotPathSafetyFilter List Option
variable (sqrt : F64 → F64) (n : Nat) (c : LoadedController) (positions : List F64)
  (wrench : Option Wrench)

/-! ## The force e-stop -/

theorem force_estop_halts_iff (sqrt : F64 → F64) (c : LoadedController) (wrench : Option Wrench)
    (o : TickOutput) (fr : FilterResult) (f' : HotPathSafetyFilter)
    (hf : c.filterOutput sqrt wrench o = some (fr, f')) (he : fr.estop = true) :
    (∃ r c', tickController sqrt c wrench (.output o) = some (r, c') ∧
      r.halted = true ∧ r.estopReason.isSome = true) ↔ (c.host.estopRequested = true ∨ o.estop = true) ∨
      (c.rawCommand o ≠ [] ∧ allDefault (c.rawCommand o) c.commandDefaults = false) := by
  have hsilent : c.silent o = false ↔
      c.rawCommand o ≠ [] ∧ allDefault (c.rawCommand o) c.commandDefaults = false := by
    unfold silent
    rw [Bool.or_eq_false_iff, isEmpty_eq_false_iff]
  rw [← hsilent]
  rw [tickController_output]
  by_cases hreq : c.host.estopRequested = true ∨ o.estop = true
  · rw [if_pos hreq]
    exact ⟨fun _ => Or.inl hreq, fun _ => ⟨_, _, rfl, rfl, rfl⟩⟩
  · rw [if_neg hreq, or_iff_right hreq, hf, map_some, verdict, if_pos he]
    constructor
    · rintro ⟨r, c', hr, hhalted, -⟩
      cases hs : c.silent o with
      | false => rfl
      | true =>
        rw [hs] at hr
        cases hr
        cases hhalted
    · intro hs
      rw [hs]
      exact ⟨_, _, rfl, rfl, rfl⟩

def rootOf900 (x : F64) : F64 := if x = .fin 900 then .fin 30 else .fin 0

def velocityBank (n : Nat) (forceLimits : Option ForceSafetyLimits) : LoadedController :=
  .fromPrepared
    { artifact := ⟨"bank", "bank", 1, 1, none, ⟨"ctrl", "wit", "model", "calib", "manifest", .live, "cc", none⟩, "wit", none⟩
      manifest := ⟨List.replicate n ⟨"joint", .jointVelocity⟩, []⟩
      runtime := ⟨[], forceLimits⟩ }

def hardPush : Wrench := ⟨.fin 30, .fin 0, .fin 0, .fin 0, .fin 0, .fin 0⟩

def softContact : ForceSafetyLimits := ⟨.fin 20, .fin 2⟩

/-- A controller that commands zero is pushed too hard: the filter stops it, the tick does not. -/
theorem force_estop_swallowed : ¬ ∀ (sqrt : F64 → F64) (c : LoadedController) (wrench : Option Wrench) (o : TickOutput)
      (fr : FilterResult) (f' : HotPathSafetyFilter), c.filterOutput sqrt wrench o = some (fr, f') → fr.estop = true →
        ∃ r c', tickController sqrt c wrench (.output o) = some (r, c') ∧
          r.halted = true ∧ r.estopReason.isSome = true := by
  intro h
  have hestop : ((velocityBank 1 (some softContact)).filterOutput rootOf900 (some hardPush)
      ⟨[.fin 0], false, none⟩).map (·.1.estop) = some true := by with_unfolding_all decide
  obtain ⟨⟨fr, f'⟩, hf, he⟩ := map_eq_some_iff.1 hestop
  obtain ⟨r, c', hr, hhalted, -⟩ := h _ _ _ _ fr f' hf he
  have hnone : (tickController rootOf900 (velocityBank 1 (some softContact)) (some hardPush)
      (.output ⟨[.fin 0], false, none⟩)).map Prod.fst = some .none := by with_unfolding_all decide
  rw [hr, map_some, Option.some.injEq] at hnone
  obtain rfl : r = .none := hnone
  cases hhalted

theorem force_estop_halts_moving : ∃ r c', tickController rootOf900 (velocityBank 1 (some softContact)) (some hardPush)
      (.output ⟨[.fin 1], false, none⟩) = some (r, c') ∧ r.halted = true ∧ r.estopReason.isSome = true := by
  have hestop : ((velocityBank 1 (some softContact)).filterOutput rootOf900 (some hardPush)
      ⟨[.fin 1], false, none⟩).map (·.1.estop) = some true := by with_unfolding_all decide
  obtain ⟨⟨fr, f'⟩, hf, he⟩ := map_eq_some_iff.1 hestop
  exact (force_estop_halts_iff rootOf900 _ (some hardPush) _ fr f' hf he).2
    (Or.inr (by with_unfolding_all decide))

/-! ## The readings the filter takes for positions -/

def readings (positions velocities : List F64) : Option (List F64) :=
  if (positions ++ velocities).isEmpty then none else some (positions ++ velocities)

lemma filterOutput_injectSensorState (o : TickOutput) (positions velocities : List F64) :
    (c.injectSensorState positions velocities).filterOutput sqrt wrench o =
      c.hotPathFilter.filter sqrt (c.rawCommand o) (readings positions velocities) wrench := by
  unfold filterOutput readings
  simp only [rawCommand_injectSensorState, HostContext.recordTickOutput_stateValues]
  rfl

lemma readings_getElem? (velocities : List F64) (k : Nat) (hk : k < positions.length) :
    (readings positions velocities).bind (·[k]?) = positions[k]? := by
  have hne : (positions ++ velocities).isEmpty = false := by
    rw [isEmpty_eq_false_iff]
    intro h
    rw [append_eq_nil_iff] at h
    rw [h.1] at hk
    cases hk
  unfold readings
  rw [hne, if_neg Bool.false_ne_true, bind_some, getElem?_append_left hk]

/-- With `n` command values and `m` positions, what a tick does depends on no velocity. -/
def FrameFromPositions (sqrt : F64 → F64) (n m : Nat) : Prop :=
  ∀ (c : LoadedController) (o : TickOutput) (wrench : Option Wrench)
    (positions velocities velocities' : List F64), (c.rawCommand o).length = n → positions.length = m →
    (tickController sqrt (c.injectSensorState positions velocities) wrench (.output o)).map Prod.fst =
      (tickController sqrt (c.injectSensorState positions velocities') wrench (.output o)).map Prod.fst

/-- With `m` positions, each of `n` channels is treated by its own position, whatever the velocities. -/
def ChannelsFromPositions (n m : Nat) : Prop :=
  ∀ (f : HotPathSafetyFilter) (positions velocities : List F64), positions.length = m → ∀ i < n, ∀ cmd,
    f.channelOutput (readings positions velocities) i cmd = f.channelOutput (some positions) i cmd

variable (m : Nat)
lemma channelsFromPositions_of_le (h : n ≤ m) : ChannelsFromPositions n m := by
  intro f positions velocities hm i hi cmd
  unfold channelOutput
  rw [readings_getElem? positions velocities i (by omega)]
  rfl

lemma frameFromPositions_of_le (h : n ≤ m) : FrameFromPositions sqrt n m := by
  intro c o wrench positions velocities velocities' hn hm
  have hfilter : (c.injectSensorState positions velocities).filterOutput sqrt wrench o =
      (c.injectSensorState positions velocities').filterOutput sqrt wrench o := by
    rw [filterOutput_injectSensorState, filterOutput_injectSensorState]
    refine c.hotPathFilter.filter_congr sqrt _ _ _ wrench fun k hk => ?_
    rw [readings_getElem? positions velocities k (by omega), readings_getElem? positions velocities' k (by omega)]
  have hstop : ∀ vs, (c.injectSensorState positions vs).host.estopRequested = c.host.estopRequested := fun _ => rfl
  rw [tickController_output, tickController_output, hfilter, hstop, hstop]
  by_cases hreq : c.host.estopRequested = true ∨ o.estop = true
  · rw [if_pos hreq, if_pos hreq]
    rfl
  · rw [if_neg hreq, if_neg hreq, Option.map_map, Option.map_map]
    refine congrArg (Option.map · _) (funext fun fr => ?_)
    show verdict _ o fr.1 = verdict _ o fr.1
    unfold verdict
    rw [silent_injectSensorState, silent_injectSensorState]

/-! ### A channel without a position -/

def bankLimits : JointSafetyLimits := fallbackJointLimits ⟨"joint", .jointVelocity⟩

variable (forceLimits : Option ForceSafetyLimits)
lemma velocityBank_jointLimits :
    (velocityBank n forceLimits).hotPathFilter.jointLimits = List.replicate n bankLimits := by
  show (List.replicate n (⟨"joint", .jointVelocity⟩ : ControlChannelDef)).mapIdx _ = _
  apply ext_getElem
  · simp
  · intro i h1 h2
    simp [runtimeJointLimitsForChannel, bankLimits]

lemma writeValues_replicate (a b : F64) :
    HostContext.writeValues (List.replicate n a) (List.replicate n b) = List.replicate n b := by
  induction n with
  | zero => rfl
  | succ n ih => rw [replicate_succ, replicate_succ, HostContext.writeValues, ih]

def allAhead (n : Nat) : TickOutput := ⟨List.replicate n (.fin 1), false, none⟩

lemma rawCommand_velocityBank : (velocityBank n forceLimits).rawCommand (allAhead n) = List.replicate n (.fin 1) := by
  have hhost : (velocityBank n forceLimits).host =
      ⟨List.replicate n (.fin 0), List.replicate n (.fin 0), [], false, none⟩ := by
    simp [velocityBank, fromPrepared, HostContext.withControlManifest]
  unfold rawCommand HostContext.resetCommands HostContext.recordTickOutput allAhead
  rw [hhost]
  simp only [writeValues_replicate, Bool.false_eq_true, if_false]

lemma channelOutput_velocityBank (i : Nat) (hi : i < n) (positions : Option (List F64)) :
    (positions.bind (·[i]?) = none →
      (velocityBank n none).hotPathFilter.channelOutput positions i (.fin 1) = some (.fin 1, [])) ∧
    (positions.bind (·[i]?) = some (.fin 4) →
      ∃ ivs, (velocityBank n none).hotPathFilter.channelOutput positions i (.fin 1) = some (.fin 0, ivs)) := by
  have hlimits : (velocityBank n none).hotPathFilter.jointLimits[i]? = some bankLimits := by
    rw [velocityBank_jointLimits, getElem?_replicate, if_pos hi]
  unfold channelOutput
  rw [hlimits]
  constructor
  · intro h
    rw [h]
    show filterChannel bankLimits (tickPeriodOfRate 100) none none (.fin 1) = _
    with_unfolding_all decide
  · intro h
    rw [h]
    show ∃ ivs, filterChannel bankLimits (tickPeriodOfRate 100) none (some (.fin 4)) (.fin 1) = some (.fin 0, ivs)
    exact ⟨[⟨"joint", .fin 1, .fin 0, .positionLimit, .position (.fin 4) (.fin (-(tau / 2))) (.fin (tau / 2))⟩],
      by with_unfolding_all decide⟩

lemma tick_velocityBank (hn : 0 < n) (positions velocities : List F64) :
    ∃ r : FilterResult, (tickController sqrt ((velocityBank n none).injectSensorState positions velocities) none
        (.output (allAhead n))).map Prod.fst = some (.sends ⟨r.commands⟩) ∧
      ∀ i < n, ∃ x ivs, (velocityBank n none).hotPathFilter.channelOutput (readings positions velocities) i
        (.fin 1) = some (x, ivs) ∧ r.commands[i]? = some x := by
  have hlim : NonnegLimits (velocityBank n none).hotPathFilter.jointLimits := by
    intro l hl
    rw [velocityBank_jointLimits] at hl
    obtain rfl : l = bankLimits := (mem_replicate.1 hl).2
    norm_num [bankLimits, fallbackJointLimits, fallbackLimitSpan, tau]
  obtain ⟨r, f', hr, -⟩ := (velocityBank n none).hotPathFilter.filter_spec sqrt hlim
    (bounded_nil _) (List.replicate n (.fin 1)) (readings positions velocities) none
  have hestop : r.estop = false :=
    filter_estop hr
  have hsilent : (velocityBank n none).silent (allAhead n) = false := by
    unfold silent
    rw [rawCommand_velocityBank]
    obtain ⟨k, rfl⟩ : ∃ k, n = k + 1 := ⟨n - 1, by omega⟩
    have hfar : decide (((fin 1).sub (fin 0)).abs < .fin epsilon) = false := by norm_num [F64.sub, F64.abs, epsilon]
    have hdefaults : (velocityBank (k + 1) none).commandDefaults = .fin 0 :: List.replicate k (.fin 0) := by
      simp [velocityBank, fromPrepared, buildControlProfileFromRuntime, replicate_succ]
    rw [hdefaults, replicate_succ, allDefault, hfar]
    rfl
  refine ⟨r, ?_, fun i hi => ?_⟩
  · rw [tickController_output, if_neg (by simp [velocityBank, fromPrepared,
        injectSensorState, HostContext.withControlManifest, allAhead]),
      filterOutput_injectSensorState, rawCommand_velocityBank, hr]
    simp [verdict, silent_injectSensorState, hsilent, hestop]
  · obtain ⟨ivs, hloop⟩ := filter_running hr hestop
    obtain ⟨x, ivs', hx, hout⟩ := ((velocityBank n none).hotPathFilter.filterChannels_getElem? _ 0 _ ivs
      hloop).2 i (.fin 1) (by rw [getElem?_replicate, if_pos hi])
    exact ⟨x, ivs', by rwa [Nat.zero_add] at hx, hout⟩

lemma readings_past_positions (v : F64) : (readings positions [v]).bind (·[positions.length]?) = some v := by
  have hne : (positions ++ [v]).isEmpty = false := by simp
  unfold readings
  rw [hne, if_neg Bool.false_ne_true, bind_some]
  simp

lemma readings_without_velocities : (readings positions []).bind (·[positions.length]?) = none := by
  unfold readings
  split
  · rfl
  · simp

lemma not_frameFromPositions (h : m < n) : ¬ FrameFromPositions sqrt n m := by
  intro hframe
  have hm : (List.replicate m (fin 0)).length = m := length_replicate
  have hsame := hframe (velocityBank n none) (allAhead n) none (List.replicate m (.fin 0)) [] [.fin 4]
    (by rw [rawCommand_velocityBank, length_replicate]) hm
  obtain ⟨r, hr, hch⟩ := tick_velocityBank sqrt n (by omega) (List.replicate m (.fin 0)) []
  obtain ⟨r', hr', hch'⟩ := tick_velocityBank sqrt n (by omega) (List.replicate m (.fin 0)) [.fin 4]
  obtain ⟨x, ivs, hx, hout⟩ := hch m h
  obtain ⟨x', ivs', hx', hout'⟩ := hch' m h
  have hfree := (channelOutput_velocityBank n m h (readings (List.replicate m (.fin 0)) [])).1
    (by have := readings_without_velocities (List.replicate m (.fin 0)); rwa [hm] at this)
  obtain ⟨ivs'', hstop⟩ := (channelOutput_velocityBank n m h (readings (List.replicate m (.fin 0)) [.fin 4])).2
    (by have := readings_past_positions (List.replicate m (.fin 0)) (.fin 4); rwa [hm] at this)
  rw [hfree] at hx
  rw [hstop] at hx'
  cases hx
  cases hx'
  rw [hr, hr', Option.some.injEq, ControllerTickResult.sends, ControllerTickResult.sends,
    ControllerTickResult.mk.injEq, Option.some.injEq, CommandFrame.mk.injEq] at hsame
  rw [hsame.1, hout', Option.some.injEq, F64.fin.injEq] at hout
  exact zero_ne_one hout

theorem readsPositionsOnly_iff (sqrt : F64 → F64) (n m : Nat) :
    FrameFromPositions sqrt n m ∧ ChannelsFromPositions n m ↔ n ≤ m := by
  constructor
  · rintro ⟨hframe, -⟩
    by_contra h
    exact not_frameFromPositions sqrt n m (by omega) hframe
  · intro h
    exact ⟨frameFromPositions_of_le sqrt n m h, channelsFromPositions_of_le n m h⟩

/-- One joint, no position and a velocity of 4 rad/s: the velocity is taken for a position. -/
theorem velocity_taken_for_position : ¬ FrameFromPositions id 1 0 := by
  intro h
  have hsame := h (velocityBank 1 none) (allAhead 1) none [] [] [.fin 4] (by decide) rfl
  revert hsame
  with_unfolding_all decide

end Roz.Copper
