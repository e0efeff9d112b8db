import Roz.Agent.Loop

/-!
# The circuit breaker of a run (`agent_loop/retry.rs`)

A cycle fails if it carries out tool calls and all their results are errors.  The loop counts the
failed cycles since the last one that did not fail, and gives up at the third (`tripped_run`).
-/

namespace Roz.Agent
open LoopRun Actor List

/-! ## Streaks -/

variable (log : List Bool)
def streak : Nat := log.foldl (fun n failed => if failed then n + 1 else 0) 0

lemma streak_concat (failed : Bool) : streak (log ++ [failed]) = if failed then streak log + 1 else 0 := by
  rw [streak, foldl_append]
  rfl

lemma replicate_suffix_iff : ∀ n, List.replicate n true <:+ log ↔ n ≤ streak log := by
  induction log using List.reverseRecOn with
  | nil =>
    intro n
    cases n <;> simp [streak, replicate_succ]
  | append_singleton log failed ih =>
    intro n
    rw [streak_concat]
    cases n with
    | zero => simp
    | succ n =>
      rw [suffix_concat_iff]
      cases failed with
      | true =>
        simp only [replicate_succ', if_true, Nat.succ_le_succ_iff, ← ih n]
        constructor
        · rintro (hnil | ⟨t, ht, hsuffix⟩)
          · simp at hnil
          · rwa [(append_inj' ht rfl).1]
        · exact fun h => .inr ⟨_, rfl, h⟩
      | false => simp [replicate_succ']

/-! ## Failed cycles -/

def allErrors (results : List ToolResult) : Bool := results.all fun result => result.error.isSome

namespace Turn
variable {World : Type} (t : Turn World) (s : LoopState) (c : CycleInputs World)
def dispatched : Option (LoopState × List ToolCall) :=
  if c.cancelled then none
  else
    match t.compacted c s with
    | none => none
    | some messages =>
      if c.hardLimited.isSome ∨ t.input.maxCycles ≤ s.cycles then none
      else
        let prepared := t.prepare c { s with messages := messages }
        match c.complete (t.request prepared) with
        | .error _ => none
        | .ok reply =>
          if reply.stopReason = .endTurn ∨ reply.toolCalls.isEmpty ∨ (t.respondCall reply).isSome then none
          else some (recordReply prepared reply, reply.toolCalls)

def results (s : LoopState) (toolCalls : List ToolCall) : List ToolResult :=
  ({ t.agent.actor with dispatcher := s.dispatcher }.outcomes (t.spatialCtx c s) c.batch toolCalls).map CallOutcome.result

def toolResults : Option (List ToolResult) :=
  (t.dispatched s c).map fun d => t.results c d.1 d.2

def toolCycles (cs : List (CycleInputs World)) : List (List ToolResult) :=
  collect t.cycle (fun s c => (t.toolResults s c).toList) t.start cs

variable (cycles : List (List ToolResult))
def ThreeFailed : Prop := List.replicate 3 true <:+: cycles.map allErrors

def AbortedAtThird : Prop :=
  List.replicate 3 true <:+ cycles.map allErrors ∧ ¬ ThreeFailed cycles.dropLast

variable {t} {s : LoopState} {c : CycleInputs World}
lemma cycle_of_dispatched_none (h : t.dispatched s c = none) : ∃ r, t.cycle s c = .stop r := by
  cases hcycle : t.cycle s c with
  | stop r => exact ⟨r, rfl⟩
  | next s' =>
    obtain ⟨messages, reply, hcompacted, hlimit, hmax, hreply, ⟨hends, hcalls, hrespond⟩, -⟩ := cycle_next hcycle
    have hcancelled : c.cancelled = false := by
      by_contra hc
      rw [cycle, if_pos (by simpa using hc)] at hcycle
      cases hcycle
    have hnot : ¬ t.input.maxCycles ≤ s.cycles := Nat.not_le.2 hmax
    simp [dispatched, hcancelled, hcompacted, hlimit, hnot, hreply, hends, hcalls, hrespond] at h

lemma prepare_consecutiveErrorTurns (c : CycleInputs World) (s : LoopState) :
    (t.prepare c s).consecutiveErrorTurns = s.consecutiveErrorTurns := by
  have hobserve : ∀ s : LoopState, (t.observe c s).consecutiveErrorTurns = s.consecutiveErrorTurns := by
    intro s
    unfold observe
    split <;> rfl
  have hadvance : (t.advancePhase s).consecutiveErrorTurns = s.consecutiveErrorTurns := by
    unfold advancePhase
    split <;> rfl
  calc (t.prepare c s).consecutiveErrorTurns
      = (t.observe c (t.syncAdvancePhase (t.advancePhase s))).consecutiveErrorTurns := rfl
    _ = (t.advancePhase s).consecutiveErrorTurns := hobserve _
    _ = s.consecutiveErrorTurns := hadvance

variable {toolCalls : List ToolCall}
lemma cycle_of_dispatched {s s'} (h : t.dispatched s c = some (s', toolCalls)) :
    t.cycle s c = t.act c s' toolCalls ∧ toolCalls ≠ [] ∧ s'.consecutiveErrorTurns = s.consecutiveErrorTurns := by
  unfold dispatched at h
  split at h
  · cases h
  · rename_i hcancelled
    split at h
    · cases h
    · rename_i messages hmessages
      split at h
      · cases h
      · rename_i hlimits
        dsimp only at h
        split at h
        · cases h
        · rename_i reply hreply
          split at h
          · cases h
          · rename_i hends
            cases h
            simp only [not_or, List.isEmpty_iff, Option.isSome_iff_ne_none, not_not] at hlimits hends
            obtain ⟨hend, hcalls, hrespond⟩ := hends
            refine ⟨?_, hcalls, prepare_consecutiveErrorTurns c _⟩
            simp only [cycle, if_neg hcancelled, hmessages, hlimits.1, if_neg hlimits.2, modelTurn, hreply, afterReply,
              List.isEmpty_iff, hend, hcalls, or_self, if_false, hrespond]

/-! ## The breaker -/

lemma allErrors_results (a : Actor World) (print : ToolResult → String) (spatialCtx : World) (inputs : BatchInputs)
    (toolCalls : List ToolCall) : allErrors ((a.outcomes spatialCtx inputs toolCalls).map CallOutcome.result) =
      (List.zipWith (resultEntry print) toolCalls (a.outcomes spatialCtx inputs toolCalls)).all
        fun entry => entry.2.2.2 := by
  have hflags : (List.zipWith (resultEntry print) toolCalls (a.outcomes spatialCtx inputs toolCalls)).map
      (fun entry => entry.2.2.2) =
        (a.outcomes spatialCtx inputs toolCalls).map fun outcome => outcome.result.error.isSome := by
    rw [map_zipWith]
    refine ext_getElem? fun i => ?_
    simp only [getElem?_zipWith, outcomes, getElem?_mapIdx, getElem?_map]
    cases toolCalls[i]? <;> rfl
  calc allErrors ((a.outcomes spatialCtx inputs toolCalls).map CallOutcome.result)
      = ((a.outcomes spatialCtx inputs toolCalls).map fun outcome => outcome.result.error.isSome).all id := by
        simp [allErrors, all_map, Function.comp_def]
    _ = (List.zipWith (resultEntry print) toolCalls (a.outcomes spatialCtx inputs toolCalls)).all
          fun entry => entry.2.2.2 := by
        rw [← hflags, all_map]
        rfl

lemma checkCircuitBreaker_toolResults (messages : List Message) {entries}
    (h : entries ≠ []) (n : Nat) : checkCircuitBreaker (messages ++ [.toolResults entries]) n =
      some (if entries.all fun entry => entry.2.2.2 then
        if circuitBreakerThreshold ≤ n + 1 then .error (.circuitBreakerTripped (n + 1)) else .ok (n + 1)
      else .ok 0) := by
  have hresults : (Message.toolResults entries).parts.countP ContentPart.isToolResult = entries.length := by
    rw [Message.toolResults, countP_map, countP_eq_length]
    exact fun entry _ => rfl
  have herrors : (Message.toolResults entries).parts.countP ContentPart.isErrorResult = entries.length ↔
      entries.all (fun entry => entry.2.2.2) = true := by
    rw [Message.toolResults, countP_map, countP_eq_length, all_eq_true]
    rfl
  have hpos : 0 < entries.length := length_pos_iff.2 h
  simp only [checkCircuitBreaker, getLast?_concat, Option.map_some, hresults, herrors, hpos, true_and]

lemma act_eq (h : toolCalls ≠ []) :
    (allErrors (t.results c s toolCalls) = true ∧ circuitBreakerThreshold ≤ s.consecutiveErrorTurns + 1 ∧
      ∃ final, t.act c s toolCalls = .stop ⟨final, .err (.circuitBreakerTripped (s.consecutiveErrorTurns + 1))⟩) ∨
    (allErrors (t.results c s toolCalls) = true ∧ s.consecutiveErrorTurns + 1 < circuitBreakerThreshold ∧
      ∃ s', t.act c s toolCalls = .next s' ∧ s'.consecutiveErrorTurns = s.consecutiveErrorTurns + 1) ∨
    (allErrors (t.results c s toolCalls) = false ∧
      ∃ s', t.act c s toolCalls = .next s' ∧ s'.consecutiveErrorTurns = 0) := by
  let a : Actor World := { t.agent.actor with dispatcher := s.dispatcher }
  have hne : List.zipWith (resultEntry t.texts.result) toolCalls (a.outcomes (t.spatialCtx c s) c.batch toolCalls) ≠ [] := by
    rw [← length_pos_iff, length_zipWith, outcomes, length_mapIdx, Nat.min_self]
    exact length_pos_iff.2 h
  have hcheck : checkCircuitBreaker (a.dispatchToolCalls t.texts.result (t.spatialCtx c s) c.batch toolCalls s.messages)
      s.consecutiveErrorTurns =
        some (if allErrors (t.results c s toolCalls) then
          if circuitBreakerThreshold ≤ s.consecutiveErrorTurns + 1 then
            .error (.circuitBreakerTripped (s.consecutiveErrorTurns + 1))
          else .ok (s.consecutiveErrorTurns + 1)
        else .ok 0) := by
    rw [dispatchToolCalls, if_neg (by simpa using hne), checkCircuitBreaker_toolResults _ hne, ← allErrors_results]
    rfl
  have hspatial : ∀ signalled, t.spatialCtx c { s with phaseSignalled := signalled } = t.spatialCtx c s := fun _ => rfl
  cases herrors : allErrors (t.results c s toolCalls) with
  | false =>
    refine .inr (.inr ⟨rfl, ?_⟩)
    simp only [herrors, Bool.false_eq_true, if_false] at hcheck
    simp only [act, hspatial, a, hcheck]
    exact ⟨_, rfl, rfl⟩
  | true =>
    by_cases hthree : circuitBreakerThreshold ≤ s.consecutiveErrorTurns + 1
    · refine .inl ⟨rfl, hthree, ?_⟩
      simp only [herrors, hthree, if_true] at hcheck
      simp only [act, hspatial, a, hcheck]
      exact ⟨_, rfl⟩
    · refine .inr (.inl ⟨rfl, Nat.lt_of_not_le hthree, ?_⟩)
      simp only [herrors, hthree, if_true, if_false] at hcheck
      simp only [act, hspatial, a, hcheck]
      exact ⟨_, rfl, rfl⟩

/-- What the loop knows of the cycles so far: how many failed since the last that did not. -/
structure Counted (s : LoopState) (cycles : List (List ToolResult)) : Prop where
  count : s.consecutiveErrorTurns = streak (cycles.map allErrors)
  few : ¬ ThreeFailed cycles

variable {cycles : List (List ToolResult)}
lemma threeFailed_concat {results} : ThreeFailed (cycles ++ [results]) ↔
    circuitBreakerThreshold ≤ streak ((cycles ++ [results]).map allErrors) ∨ ThreeFailed cycles := by
  rw [ThreeFailed, ThreeFailed, circuitBreakerThreshold, ← replicate_suffix_iff, map_append, map_singleton,
    infix_concat_iff]

lemma Counted.lt (h : Counted s cycles) : s.consecutiveErrorTurns < circuitBreakerThreshold := by
  rw [h.count]
  refine Nat.lt_of_not_le fun hthree => h.few ?_
  exact ((replicate_suffix_iff _ 3).2 hthree).isInfix

/-- How a run may end: given up at the third failed cycle, or without three of them. -/
def BrokenOff (r : Finish) (cycles : List (List ToolResult)) : Prop :=
  (∃ final, r = ⟨final, .err (.circuitBreakerTripped circuitBreakerThreshold)⟩ ∧ AbortedAtThird cycles) ∨
    ¬ ThreeFailed cycles

lemma Counted.cycle {s cycles c} (h : Counted s cycles) :
    (∃ s', t.cycle s c = .next s' ∧ Counted s' (cycles ++ (t.toolResults s c).toList)) ∨
      ∃ r, t.cycle s c = .stop r ∧ BrokenOff r (cycles ++ (t.toolResults s c).toList) := by
  have hlt := h.lt
  cases hdispatched : t.dispatched s c with
  | none =>
    obtain ⟨r, hr⟩ := cycle_of_dispatched_none hdispatched
    refine .inr ⟨r, hr, .inr ?_⟩
    simpa [toolResults, hdispatched] using h.few
  | some d =>
    obtain ⟨s', toolCalls⟩ := d
    obtain ⟨hcycle, hcalls, hcount⟩ := cycle_of_dispatched hdispatched
    have hresults : t.toolResults s c = some (t.results c s' toolCalls) := by
      rw [toolResults, hdispatched, Option.map_some]
    have hstreak : streak ((cycles ++ [t.results c s' toolCalls]).map allErrors) =
        if allErrors (t.results c s' toolCalls) then s'.consecutiveErrorTurns + 1 else 0 := by
      rw [map_append, map_singleton, streak_concat, hcount, h.count]
    rw [hcycle, hresults, Option.toList_some]
    rcases act_eq (t := t) (c := c) (s := s') hcalls with
      ⟨herrors, hthree, final, hact⟩ | ⟨herrors, hthree, next, hact, hnext⟩ | ⟨herrors, next, hact, hnext⟩
    · have htripped : s'.consecutiveErrorTurns + 1 = circuitBreakerThreshold := by omega
      refine .inr ⟨_, hact, .inl ⟨final, by rw [htripped], ?_, ?_⟩⟩
      · rw [replicate_suffix_iff, hstreak, herrors, if_pos rfl]
        exact hthree
      · rw [dropLast_concat]
        exact h.few
    · refine .inl ⟨next, hact, ?_, ?_⟩
      · rw [hstreak, herrors, if_pos rfl, hnext]
      · rw [threeFailed_concat, hstreak, herrors, if_pos rfl, not_or]
        exact ⟨Nat.not_le.2 hthree, h.few⟩
    · refine .inl ⟨next, hact, ?_, ?_⟩
      · rw [hstreak, herrors, hnext]
        rfl
      · rw [threeFailed_concat, hstreak, herrors, if_neg Bool.false_ne_true, not_or]
        exact ⟨by decide, h.few⟩

lemma tripped_run {cs} (h : ThreeFailed (t.toolCycles cs)) :
    ∃ final, t.runStreamingCore cs = some ⟨final, .err (.circuitBreakerTripped circuitBreakerThreshold)⟩ ∧
      AbortedAtThird (t.toolCycles cs) := by
  have hstart : Counted t.start [] := ⟨rfl, fun h => by cases infix_nil.1 h⟩
  have hnext : ∀ s cycles c s', Counted s cycles → t.cycle s c = .next s' →
      Counted s' (cycles ++ (t.toolResults s c).toList) := by
    intro s cycles c s' hs hstep
    rcases hs.cycle (t := t) (c := c) with ⟨next, hcycle, hnext⟩ | ⟨r, hcycle, -⟩
    · cases hcycle.symm.trans hstep
      exact hnext
    · cases hcycle.symm.trans hstep
  have hstop : ∀ s cycles c r, Counted s cycles → t.cycle s c = .stop r →
      BrokenOff r (cycles ++ (t.toolResults s c).toList) := by
    intro s cycles c r hs hstep
    rcases hs.cycle (t := t) (c := c) with ⟨next, hcycle, -⟩ | ⟨r', hcycle, hends⟩
    · cases hcycle.symm.trans hstep
    · cases hcycle.symm.trans hstep
      exact hends
  rcases collect_ends hnext hstop cs t.start [] hstart with ⟨-, s', hs'⟩ | ⟨r, hr, ⟨final, rfl, habort⟩ | hfew⟩
  · exact absurd h hs'.few
  · exact ⟨final, hr, habort⟩
  · exact absurd h hfew

end Turn
end Roz.Agent
