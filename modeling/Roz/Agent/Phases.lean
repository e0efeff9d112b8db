import Roz.Agent.Transcript
import Mathlib.Algebra.BigOperators.Group.List.Basic
import Mathlib.Data.List.Chain

/-!
# The phases of a run

A phase is left when its trigger holds at the start of an iteration.  The count of a phase is reset
on entry and raised by every model call, so from the second iteration of a run on it is positive
there, and the trigger `Immediate`, which waits for a count of zero, never holds
(`phasesAdvance_iff`).
-/

namespace Roz.Agent
open LoopRun PhaseSpec Turn List

/-! ## Logs in blocks -/

def blocks (counts : Nat → Nat) : (k : Nat) → List Nat
  | 0 => []
  | k + 1 => blocks counts k ++ List.replicate (counts k) k

lemma lt_of_mem_blocks {counts k i} (h : i ∈ blocks counts k) : i < k := by
  induction k with
  | zero => cases h
  | succ k ih =>
    rcases mem_append.1 h with h | h
    · exact Nat.lt_succ_of_lt (ih h)
    · exact eq_of_mem_replicate h ▸ Nat.lt_succ_self k

lemma blocks_split (counts : Nat → Nat) {i k} (h : i < k) :
    ∃ after, blocks counts k = blocks counts i ++ List.replicate (counts i) i ++ after ∧ ∀ j ∈ after, i < j := by
  induction k with
  | zero => omega
  | succ k ih =>
    by_cases hik : i = k
    · subst hik
      exact ⟨[], by rw [blocks, append_nil], nofun⟩
    · obtain ⟨after, hsplit, hafter⟩ := ih (by omega)
      refine ⟨after ++ List.replicate (counts k) k, by rw [blocks, hsplit, append_assoc], fun j hj => ?_⟩
      rcases mem_append.1 hj with hj | hj
      · exact hafter j hj
      · have := eq_of_mem_replicate hj
        omega

/-! ## Phases as declared -/

def PhaseTrigger.cycleCount : PhaseTrigger → Nat
  | .afterCycles n => n
  | _ => 0

variable (phases : List PhaseSpec)

/-- The first phase counts cycles; every later one does, or is immediate. -/
def Declared : Prop :=
  (∃ n, 1 ≤ n ∧ phases.head?.map PhaseSpec.trigger = some (.afterCycles n)) ∧
    ∀ phase ∈ phases.tail, phase.trigger = .immediate ∨ ∃ n, 1 ≤ n ∧ phase.trigger = .afterCycles n

structure PhasesAdvance (phases : List PhaseSpec) (log : List Nat) : Prop where
  steps : (0 :: log).IsChain fun a b => a ≤ b ∧ b ≤ a + 1
  exactly : ∀ i n, i + 1 < phases.length → phases[i]?.map PhaseSpec.trigger = some (.afterCycles n) →
    ∃ before after, log = before ++ List.replicate n i ++ after ∧ i ∉ before ∧ i ∉ after
  reached : phases.length - 1 ∈ log

def NoInnerImmediate : Prop :=
  ∀ i, 0 < i → i + 1 < phases.length → phases[i]?.map PhaseSpec.trigger ≠ some .immediate

def phaseCount (i : Nat) : Nat := (phases[i]?.map fun p => p.trigger.cycleCount).getD 0

variable {phases}
lemma length_blocks (k : Nat) (hk : k ≤ phases.length) :
    (blocks (phaseCount phases) k).length = ((phases.take k).map fun p => p.trigger.cycleCount).sum := by
  induction k with
  | zero => rfl
  | succ k ih =>
    have hlt : k < phases.length := hk
    rw [blocks, length_append, length_replicate, ih (by omega), take_add_one,
      getElem?_eq_getElem hlt, phaseCount, getElem?_eq_getElem hlt, map_append, sum_append]
    rfl

lemma length_blocks_le {k} (hk : k ≤ phases.length) :
    (blocks (phaseCount phases) k).length ≤ (phases.map fun p => p.trigger.cycleCount).sum := by
  rw [length_blocks k hk, map_take, ← sum_take_add_sum_drop (phases.map fun p => p.trigger.cycleCount) k]
  exact Nat.le_add_right ..

lemma trigger_of_inner {phases} (hdeclared : Declared phases) (hinner : NoInnerImmediate phases)
    {i} (hi : i + 1 < phases.length) :
    phases[i]?.map trigger = some (.afterCycles (phaseCount phases i)) ∧ 1 ≤ phaseCount phases i := by
  suffices h : ∃ n, 1 ≤ n ∧ phases[i]?.map trigger = some (.afterCycles n) by
    obtain ⟨n, hn, htrigger⟩ := h
    obtain ⟨phase, hphase, hn'⟩ := Option.map_eq_some_iff.1 htrigger
    have hcount : phaseCount phases i = n := by simp [phaseCount, hphase, hn', PhaseTrigger.cycleCount]
    exact ⟨by rw [hcount, htrigger], by rw [hcount]; exact hn⟩
  cases i with
  | zero =>
    rw [← head?_eq_getElem?]
    exact hdeclared.1
  | succ i =>
    have hlt : i + 1 < phases.length := by omega
    rw [getElem?_eq_getElem hlt, Option.map_some]
    have hmem : phases[i + 1] ∈ phases.tail := by
      rw [mem_iff_getElem]
      exact ⟨i, by rw [length_tail]; omega, by rw [getElem_tail]⟩
    rcases hdeclared.2 _ hmem with himm | ⟨n, hn, hcount⟩
    · refine absurd ?_ (hinner (i + 1) (Nat.succ_pos i) hi)
      rw [getElem?_eq_getElem hlt, Option.map_some, himm]
    · exact ⟨n, hn, by rw [hcount]⟩

namespace Turn
variable {World : Type} (t : Turn World)

/-- The model answers whatever it is asked with tool calls that are carried out, and no usage limit
stops the run. -/
def AnswersWithCalls (c : CycleInputs World) : Prop :=
  c.hardLimited = none ∧ ∀ req, ∃ r, c.complete req = .ok r ∧ t.Dispatched r

variable {t}

/-! ## One iteration -/

variable {s s' : LoopState} {c : CycleInputs World}
lemma cycle_phase (h : t.cycle s c = .next s') :
    s'.cycles = s.cycles + 1 ∧ s'.phaseLog = s.phaseLog ++ [s'.phaseIndex] ∧
      ((t.shouldAdvance s = true ∧ s.phaseIndex + 1 < t.effectivePhases.length ∧
          s'.phaseIndex = s.phaseIndex + 1 ∧ s'.phaseCycleCount = 1) ∨
        (¬ (t.shouldAdvance s = true ∧ s.phaseIndex + 1 < t.effectivePhases.length) ∧
          s'.phaseIndex = s.phaseIndex ∧ s'.phaseCycleCount = s.phaseCycleCount + 1)) := by
  obtain ⟨messages, r, -, -, -, -, -, hact⟩ := cycle_next h
  obtain ⟨-, hcycles, hindex, hcount, hlog⟩ := act_next hact
  have horient : ∀ s : LoopState, (t.orient c s).cycles = s.cycles ∧ (t.orient c s).phaseLog = s.phaseLog ∧
      (t.orient c s).phaseIndex = (t.advancePhase s).phaseIndex ∧
      (t.orient c s).phaseCycleCount = (t.advancePhase s).phaseCycleCount := by
    intro s
    unfold orient observe advancePhase
    split <;> split <;> exact ⟨rfl, rfl, rfl, rfl⟩
  obtain ⟨hcycles', hlog', hindex', hcount'⟩ := horient { s with messages := messages }
  have hindex'' : s'.phaseIndex = (t.advancePhase { s with messages := messages }).phaseIndex := hindex.trans hindex'
  have hcount'' : s'.phaseCycleCount = (t.advancePhase { s with messages := messages }).phaseCycleCount + 1 := by
    rw [hcount, ← hcount']
    rfl
  refine ⟨hcycles.trans (congrArg (· + 1) hcycles'), ?_, ?_⟩
  · rw [hlog, hindex]
    exact congrArg (· ++ [(t.orient c { s with messages := messages }).phaseIndex]) hlog'
  · have hsame : t.shouldAdvance { s with messages := messages } = t.shouldAdvance s := rfl
    rw [hindex'', hcount'', advancePhase, hsame]
    split
    · rename_i hadvance
      exact .inl ⟨hadvance.1, hadvance.2, rfl, rfl⟩
    · rename_i hstay
      exact .inr ⟨hstay, rfl, rfl⟩

lemma stop_of_calls {out} (hc : t.AnswersWithCalls c) (h : t.cycle s c = .stop ⟨s', .ok out⟩) :
    t.input.maxCycles ≤ s.cycles ∧ s'.phaseLog = s.phaseLog := by
  obtain ⟨messages, -, -, hcases⟩ := cycle_ok h
  rcases hcases with ⟨hlimit, -⟩ | ⟨-, hmax, rfl⟩ | ⟨r, -, -, hreply, hnot, -⟩
  · exact absurd hc.1 hlimit
  · refine ⟨hmax, ?_⟩
    unfold summaryTurn
    dsimp only
    split <;> rfl
  · obtain ⟨r', hr', hdispatched⟩ := hc.2 (t.request (t.prepare c { s with messages := messages }))
    cases hreply.symm.trans hr'
    exact absurd hdispatched hnot

/-! ## Runs -/

structure Logged (t : Turn World) (s : LoopState) : Prop where
  cycles : s.cycles = s.phaseLog.length
  log : s.phaseLog = blocks (phaseCount t.effectivePhases) s.phaseIndex ++ List.replicate s.phaseCycleCount s.phaseIndex
  chain : (0 :: s.phaseLog).IsChain fun a b => a ≤ b ∧ b ≤ a + 1
  last : (0 :: s.phaseLog).getLast? = some s.phaseIndex
  index : s.phaseIndex < t.effectivePhases.length
  count : s.phaseIndex + 1 < t.effectivePhases.length → s.phaseCycleCount ≤ phaseCount t.effectivePhases s.phaseIndex

lemma logged_start (hne : t.effectivePhases ≠ []) : t.Logged t.start where
  cycles := rfl
  log := rfl
  chain := .singleton 0
  last := rfl
  index := length_pos_iff.2 hne
  count := fun _ => Nat.zero_le _

lemma logged_next (hdeclared : Declared t.effectivePhases) (hinner : NoInnerImmediate t.effectivePhases)
    (hs : t.Logged s) (h : t.cycle s c = .next s') : t.Logged s' := by
  obtain ⟨hcycles, hlog, hcases⟩ := cycle_phase h
  have hstep : s.phaseIndex ≤ s'.phaseIndex ∧ s'.phaseIndex ≤ s.phaseIndex + 1 := by
    rcases hcases with ⟨-, -, hindex, -⟩ | ⟨-, hindex, -⟩ <;> omega
  have hchain : (0 :: s'.phaseLog).IsChain fun a b => a ≤ b ∧ b ≤ a + 1 := by
    rw [hlog, ← cons_append]
    refine isChain_append.2 ⟨hs.chain, .singleton _, fun a ha b hb => ?_⟩
    rw [hs.last] at ha
    cases ha
    cases hb
    exact hstep
  have hlast : (0 :: s'.phaseLog).getLast? = some s'.phaseIndex := by rw [hlog, ← cons_append, getLast?_concat]
  have hcycles' : s'.cycles = s'.phaseLog.length := by rw [hcycles, hs.cycles, hlog, length_append]; rfl
  rcases hcases with ⟨hshould, hlt, hindex, hcount⟩ | ⟨hstay, hindex, hcount⟩
  · -- the block of the phase is complete
    obtain ⟨htrigger, hpos⟩ := trigger_of_inner hdeclared hinner hlt
    have hfull : s.phaseCycleCount = phaseCount t.effectivePhases s.phaseIndex := by
      obtain ⟨phase, hphase, htrigger⟩ := Option.map_eq_some_iff.1 htrigger
      have hge : phaseCount t.effectivePhases s.phaseIndex ≤ s.phaseCycleCount := by
        simpa [shouldAdvance, currentPhase, hphase, htrigger] using hshould
      exact Nat.le_antisymm (hs.count hlt) hge
    refine ⟨hcycles', ?_, hchain, hlast, by omega, fun hlt' => ?_⟩
    · rw [hlog, hs.log, hfull, hindex, hcount]
      rfl
    · rw [hcount]
      rw [hindex] at hlt' ⊢
      exact (trigger_of_inner hdeclared hinner hlt').2
  · refine ⟨hcycles', ?_, hchain, hlast, by rw [hindex]; exact hs.index, fun hlt => ?_⟩
    · rw [hlog, hs.log, hindex, hcount, append_assoc, replicate_succ']
    · rw [hindex] at hlt ⊢
      obtain ⟨phase, hphase, htrigger⟩ := Option.map_eq_some_iff.1 (trigger_of_inner hdeclared hinner hlt).1
      have hnot : ¬ phaseCount t.effectivePhases s.phaseIndex ≤ s.phaseCycleCount := by
        intro hge
        exact hstay ⟨by simpa [shouldAdvance, currentPhase, hphase, htrigger] using hge, hlt⟩
      omega

lemma phasesAdvance_of_logged (hdeclared : Declared t.effectivePhases)
    (hinner : NoInnerImmediate t.effectivePhases) (hs : t.Logged s)
    (hcycles : t.effectivePhases.length + (t.effectivePhases.map fun p => p.trigger.cycleCount).sum ≤ s.cycles) :
    PhasesAdvance t.effectivePhases s.phaseLog := by
  have hindex := hs.index
  have hlen : s.cycles = (blocks (phaseCount t.effectivePhases) s.phaseIndex).length + s.phaseCycleCount := by
    rw [hs.cycles, hs.log, length_append, length_replicate]
  have hlast : s.phaseIndex + 1 = t.effectivePhases.length := by
    by_contra hne
    have hlt : s.phaseIndex + 1 < t.effectivePhases.length := by omega
    have hsum := length_blocks_le hlt.le
    rw [blocks, length_append, length_replicate] at hsum
    have := hs.count hlt
    omega
  refine ⟨hs.chain, fun i n hi htrigger => ?_, ?_⟩
  · obtain ⟨after, hsplit, hafter⟩ := blocks_split (phaseCount t.effectivePhases) (show i < s.phaseIndex by omega)
    have hn : phaseCount t.effectivePhases i = n := by
      have := (trigger_of_inner hdeclared hinner hi).1.symm.trans htrigger
      simpa using this
    refine ⟨blocks (phaseCount t.effectivePhases) i, after ++ List.replicate s.phaseCycleCount s.phaseIndex, ?_, ?_, ?_⟩
    · rw [hs.log, hsplit, hn, append_assoc _ after]
    · exact fun hmem => Nat.lt_irrefl i (lt_of_mem_blocks hmem)
    · intro hmem
      rcases mem_append.1 hmem with hmem | hmem
      · exact Nat.lt_irrefl i (hafter i hmem)
      · have := eq_of_mem_replicate hmem
        omega
  · have hsum := length_blocks_le hindex.le
    rw [hs.log, ← hlast, Nat.add_sub_cancel]
    exact mem_append_right _ (mem_replicate.2 ⟨by omega, rfl⟩)

structure StuckBefore (t : Turn World) (j : Nat) (s : LoopState) : Prop where
  index : s.phaseIndex ≤ j
  entered : s.phaseIndex = j → 1 ≤ s.phaseCycleCount
  log : ∀ i ∈ s.phaseLog, i ≤ j

lemma stuck_next {j} (hj : t.effectivePhases[j]?.map trigger = some .immediate)
    (hs : t.StuckBefore j s) (h : t.cycle s c = .next s') : t.StuckBefore j s' := by
  obtain ⟨-, hlog, hcases⟩ := cycle_phase h
  have hindex : s'.phaseIndex ≤ j := by
    rcases hcases with ⟨hshould, -, hindex, -⟩ | ⟨-, hindex, -⟩
    · have hne : s.phaseIndex ≠ j := by
        intro heq
        -- the count is positive, so the trigger does not hold
        obtain ⟨phase, hphase, htrigger⟩ := Option.map_eq_some_iff.1 hj
        have hcount := hs.entered heq
        rw [← heq] at hphase
        simp only [shouldAdvance, currentPhase, hphase, htrigger, decide_eq_true_eq] at hshould
        omega
      have := hs.index
      omega
    · rw [hindex]
      exact hs.index
  refine ⟨hindex, fun _ => ?_, fun i hi => ?_⟩
  · rcases hcases with ⟨-, -, -, hcount⟩ | ⟨-, -, hcount⟩ <;> omega
  · rw [hlog] at hi
    rcases mem_append.1 hi with hi | hi
    · exact hs.log i hi
    · rw [mem_singleton.1 hi]
      exact hindex

end Turn

lemma effectivePhases_of_declared {World : Type} {t : Turn World} (h : Declared t.input.phases) :
    t.effectivePhases = t.input.phases := by
  unfold effectivePhases
  obtain ⟨n, -, hhead⟩ := h.1
  cases hphases : t.input.phases with
  | nil =>
    rw [hphases] at hhead
    cases hhead
  | cons phase rest => rfl

theorem phasesAdvance_iff {World : Type} (t : Turn World) (cs : List (CycleInputs World)) (final : LoopState)
    (out : AgentOutput) (hdeclared : Declared t.input.phases) (hcalls : ∀ c ∈ cs, t.AnswersWithCalls c)
    (hcycles : t.input.phases.length + (t.input.phases.map fun p => p.trigger.cycleCount).sum ≤ t.input.maxCycles)
    (hrun : t.runStreamingCore cs = some ⟨final, .ok out⟩) :
    PhasesAdvance t.input.phases final.phaseLog ↔ NoInnerImmediate t.input.phases := by
  have hphases := effectivePhases_of_declared hdeclared
  have hside : EachCycle t.cycle (fun _ c => t.AnswersWithCalls c) t.start cs :=
    .of_forall t.cycle cs t.start fun c hc _ => hcalls c hc
  rw [← hphases] at hdeclared hcycles ⊢
  constructor
  · intro hadvance j hpos hlt hj
    have hstuck : ∀ i ∈ final.phaseLog, i ≤ j := by
      refine hside.result (t.StuckBefore j) (fun s c s' hs _ h => stuck_next hj hs h) ?_ cs t.start
        ⟨hpos.le, fun h => absurd h hpos.ne, nofun⟩ hrun
      intro s c hs hc h
      rw [(stop_of_calls hc h).2]
      exact hs.log
    have := hstuck _ hadvance.reached
    omega
  · intro hinner
    have hne : t.effectivePhases ≠ [] := by
      intro hnil
      obtain ⟨n, -, hhead⟩ := hdeclared.1
      rw [hnil] at hhead
      cases hhead
    refine hside.result t.Logged (fun s c s' hs _ h => logged_next hdeclared hinner hs h) ?_ cs t.start
      (logged_start hne) hrun
    intro s c hs hc h
    obtain ⟨hmax, hlog⟩ := stop_of_calls hc h
    rw [hlog]
    exact phasesAdvance_of_logged hdeclared hinner hs (hcycles.trans hmax)

/-! ## Three phases -/

def reactPhase (trigger : PhaseTrigger) : PhaseSpec := ⟨.react, .all, trigger⟩

def sensorCalls (n : Nat) : List (CycleInputs Unit) := List.replicate n (replying [sensorCall] .toolUse)

lemma answersWithCalls_sensor {maxCycles phases n} :
    ∀ c ∈ sensorCalls n, (sensorTurn maxCycles none phases).AnswersWithCalls c := by
  intro c hc
  obtain rfl := eq_of_mem_replicate hc
  exact ⟨rfl, fun _ => ⟨_, rfl, by decide, by simp [CompletionResponse.toolCalls, sensorCall, ContentPart.asToolCall], rfl⟩⟩

lemma declared_three {n second third} (hn : 1 ≤ n)
    (h : ∀ trigger ∈ [second, third], trigger = .immediate ∨ ∃ m, 1 ≤ m ∧ trigger = .afterCycles m) :
    Declared [reactPhase (.afterCycles n), reactPhase second, reactPhase third] := by
  refine ⟨⟨n, hn, rfl⟩, fun phase hphase => ?_⟩
  obtain ⟨trigger, htrigger, rfl⟩ := mem_map.1 (show phase ∈ [second, third].map reactPhase from hphase)
  exact h trigger htrigger

def countedPhases : List PhaseSpec :=
  [reactPhase (.afterCycles 1), reactPhase (.afterCycles 2), reactPhase .immediate]

theorem phasesAdvance_counted :
    ∃ final out, (sensorTurn 6 none countedPhases).runStreamingCore (sensorCalls 7) = some ⟨final, .ok out⟩ ∧
      PhasesAdvance countedPhases final.phaseLog := by
  have hsome : ((sensorTurn 6 none countedPhases).completed (sensorCalls 7)).isSome = true := by decide +kernel
  obtain ⟨⟨final, out⟩, hdone⟩ := Option.isSome_iff_exists.1 hsome
  have hrun := completed_eq_some hdone
  refine ⟨final, out, hrun, (phasesAdvance_iff _ _ final out ?_ answersWithCalls_sensor (by decide) hrun).2 ?_⟩
  · exact declared_three (Nat.le_refl 1) fun trigger htrigger => by
      rcases mem_pair.1 htrigger with rfl | rfl
      · exact .inr ⟨2, by decide, rfl⟩
      · exact .inl rfl
  · intro i hpos hlt
    have hlt : i + 1 < 3 := hlt
    obtain rfl : i = 1 := by omega
    decide

def stuckPhases : List PhaseSpec :=
  [reactPhase (.afterCycles 1), reactPhase .immediate, reactPhase (.afterCycles 1)]

/-- The second phase is never left. -/
theorem immediate_never_left :
    Declared stuckPhases ∧ (∀ c ∈ sensorCalls 6, (sensorTurn 5 none stuckPhases).AnswersWithCalls c) ∧
    stuckPhases.length + (stuckPhases.map fun p => p.trigger.cycleCount).sum = 5 ∧
    ∃ final out, (sensorTurn 5 none stuckPhases).runStreamingCore (sensorCalls 6) = some ⟨final, .ok out⟩ ∧
      final.phaseLog = [0, 1, 1, 1, 1] ∧ ¬ PhasesAdvance stuckPhases final.phaseLog := by
  have hdone : ((sensorTurn 5 none stuckPhases).completed (sensorCalls 6)).map (fun done => done.1.phaseLog) =
      some [0, 1, 1, 1, 1] := by decide +kernel
  obtain ⟨⟨final, out⟩, hdone, hlog⟩ := Option.map_eq_some_iff.1 hdone
  refine ⟨?_, answersWithCalls_sensor, rfl, final, out, completed_eq_some hdone, hlog, fun h => ?_⟩
  · exact declared_three (Nat.le_refl 1) fun trigger htrigger => by
      rcases mem_pair.1 htrigger with rfl | rfl
      · exact .inl rfl
      · exact .inr ⟨1, by decide, rfl⟩
  · have hreached := h.reached
    rw [hlog] at hreached
    exact absurd hreached (by decide)

end Roz.Agent
