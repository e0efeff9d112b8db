import Roz.Agent.Phases

/-!
# Phase filters and the tools that run

The filter of a phase chooses the tools that the request offers.  What the model calls is handed to
the dispatcher whether it was offered or not, and the dispatcher knows no phases
(`filters_kept`).
-/

namespace Roz.Agent
open LoopRun ToolDispatcher List
namespace ToolDispatcher
variable (d : ToolDispatcher)
def runs (call : ToolCall) : Bool :=
  ((d.tools.lookup call.tool).map ToolEntry.enabled).getD false

lemma lookup_setEnabled (name : String) (enabled : Bool) : (d.setEnabled name enabled).tools.lookup name =
    (d.tools.lookup name).map fun entry => { entry with enabled := enabled } := by
  unfold setEnabled
  cases hlookup : d.tools.lookup name with
  | none => exact hlookup
  | some entry => exact AList.lookup_insert _

end ToolDispatcher

variable {World : Type}

/-- The guard clamps calls without turning them into calls of another tool. -/
def SafetyGuard.KeepsTool (guard : SafetyGuard World) : Prop :=
  ∀ call state clamped reason, guard.check call state = .modify clamped reason → clamped.tool = call.tool

lemma evaluate_tool {state : World} {guards} (h : ∀ guard ∈ guards, guard.KeepsTool) :
    ∀ {call out}, evaluate guards call state = .approved out → out.tool = call.tool := by
  induction guards with
  | nil =>
    intro call out heval
    cases heval
    rfl
  | cons guard guards ih =>
    intro call out heval
    have hrest : ∀ {call out}, evaluate guards call state = .approved out → out.tool = call.tool :=
      ih fun g hg => h g (.tail _ hg)
    rw [evaluate] at heval
    cases hcheck : guard.check call state with
    | allow =>
      rw [hcheck] at heval
      exact hrest heval
    | modify clamped reason =>
      rw [hcheck] at heval
      exact (hrest heval).trans (h guard (.head _) call state clamped reason hcheck)
    | block reason =>
      rw [hcheck] at heval
      cases heval
    | requireConfirmation reason timeoutSecs =>
      rw [hcheck] at heval
      cases heval

namespace Actor
variable {World : Type}
def executed (a : Actor World) (spatialCtx : World) (inputs : BatchInputs) (toolCalls : List ToolCall) :
    List ToolCall :=
  ((a.outcomes spatialCtx inputs toolCalls).filterMap CallOutcome.handed).filter a.dispatcher.runs

variable {a : Actor World} {spatialCtx : World} {inputs : BatchInputs}
lemma dispatchCall_tool {i : Nat} {call handed} (hguards : ∀ guard ∈ a.safety, guard.KeepsTool)
    (h : (a.dispatchCall spatialCtx inputs i call).handed = some handed) : handed.tool = call.tool := by
  unfold dispatchCall at h
  split at h
  · cases h
    rfl
  · cases heval : evaluate a.safety call spatialCtx with
    | approved approvedCall =>
      rw [heval] at h
      cases h
      exact evaluate_tool hguards heval
    | blocked guard reason =>
      rw [heval] at h
      cases h
    | needsHuman reason timeoutSecs =>
      simp only [heval] at h
      split at h
      · unfold waitForHumanApproval at h
        cases hgate : gateToolCallForHumanApproval call (inputs.wait i) with
        | approved effectiveCall =>
          rw [hgate] at h
          cases h
          exact (gate_approved hgate).2.2
        | rejected result =>
          rw [hgate] at h
          cases h
      · cases h

variable {toolCalls : List ToolCall} {call : ToolCall}
lemma mem_executed (hguards : ∀ guard ∈ a.safety, guard.KeepsTool) (h : call ∈ a.executed spatialCtx inputs toolCalls) :
    a.dispatcher.runs call = true ∧ ∃ asked ∈ toolCalls, asked.tool = call.tool := by
  obtain ⟨hhanded, hruns⟩ := mem_filter.1 h
  obtain ⟨outcome, houtcome, hcall⟩ := mem_filterMap.1 hhanded
  obtain ⟨i, hi, rfl⟩ := mem_mapIdx.1 houtcome
  exact ⟨hruns, toolCalls[i], getElem_mem hi, (dispatchCall_tool hguards hcall).symm⟩

lemma executed_of_pure (hmem : call ∈ toolCalls) (hpure : a.dispatcher.category call.tool = .pure)
    (hruns : a.dispatcher.runs call = true) : call ∈ a.executed spatialCtx inputs toolCalls := by
  obtain ⟨i, hi, rfl⟩ := getElem_of_mem hmem
  refine mem_filter.2 ⟨mem_filterMap.2 ⟨_, mem_mapIdx.2 ⟨i, hi, rfl⟩, ?_⟩, hruns⟩
  rw [dispatchCall, if_pos hpure]
  rfl

end Actor

/-! ## What an iteration carries out -/

def executeCodeToolName : String := "execute_code"

/-- What an iteration meets, with the calls that code run by `execute_code` gets to its copy of the
dispatcher. -/
structure IterationInputs (World : Type) extends CycleInputs World where
  scripted : List ToolCall

def ToolSetFilter.permits : ToolSetFilter → String → Bool
  | .all, _ => true
  | .named names, tool => names.contains tool
  | .none, _ => false

def afterCycle : Cycle LoopState Finish → LoopState
  | .next s => s
  | .stop finish => finish.state

namespace Turn
variable {World : Type} (t : Turn World) (s : LoopState) (c : IterationInputs World)
def iterate : Cycle LoopState Finish := t.cycle s c.toCycleInputs

instance (reply : CompletionResponse) : Decidable (t.Dispatched reply) :=
  inferInstanceAs (Decidable (_ ∧ _ ∧ _))

/-- The state in which an iteration hands over the calls of a reply, and the reply; `none` if it
hands over none. -/
def dispatching (c : CycleInputs World) : Option (LoopState × CompletionResponse) :=
  if c.cancelled then none
  else
    match t.compacted c s with
    | none => none
    | some messages =>
      if c.hardLimited.isSome ∨ t.input.maxCycles ≤ s.cycles then none
      else
        match c.complete (t.request (t.prepare c { s with messages := messages })) with
        | .error _ => none
        | .ok reply =>
          if t.Dispatched reply then some (recordReply (t.prepare c { s with messages := messages }) reply, reply)
          else none

def executedCalls (c : CycleInputs World) (p : LoopState) (reply : CompletionResponse) : List ToolCall :=
  { t.agent.actor with dispatcher := p.dispatcher }.executed (t.spatialCtx c p) c.batch reply.toolCalls

/-- The copy that code gets is made before the first iteration.  Code cannot run code. -/
def scriptedCalls : List ToolCall :=
  c.scripted.filter fun call =>
    t.agent.actor.dispatcher.runs call && t.agent.actor.dispatcher.category call.tool != .codeSandbox

/-- All calls of an iteration whose executor runs: those of the reply and, if one of them runs code,
those of the code. -/
def executed : List ToolCall :=
  match t.dispatching s c.toCycleInputs with
  | none => []
  | some (p, reply) =>
    let calls := t.executedCalls c.toCycleInputs p reply
    if calls.any fun call => call.tool = executeCodeToolName then calls ++ t.scriptedCalls c else calls

def Signal (phase : PhaseSpec) : Prop :=
  phase.trigger = .onToolSignal ∧ ∃ call ∈ t.executed s c, call.tool = advancePhaseToolName

/-- The filter of the phase covers every executor that an iteration runs, and the phase is signalled
only by a call that runs in a phase that waits for it. -/
structure FiltersKept (s : LoopState) (c : IterationInputs World) : Prop where
  filter : ∀ d ∈ t.dispatching s c.toCycleInputs, ∀ phase ∈ t.currentPhase d.1,
    ∀ call ∈ t.executed s c, phase.tools.permits call.tool = true
  advance : ∀ d ∈ t.dispatching s c.toCycleInputs, ∀ phase ∈ t.currentPhase d.1,
    ∀ call ∈ t.executed s c, call.tool = advancePhaseToolName → phase.trigger = .onToolSignal
  signalled : ∀ d ∈ t.dispatching s c.toCycleInputs, ∀ phase ∈ t.currentPhase d.1,
    (afterCycle (t.iterate s c)).phaseSignalled = true → d.1.phaseSignalled = true ∨ t.Signal s c phase
  idle : t.dispatching s c.toCycleInputs = none →
    (afterCycle (t.iterate s c)).phaseSignalled = true → s.phaseSignalled = true

/-- A call that a phase permits: `advance_phase` only if the phase waits for it. -/
def Permitted (phase : PhaseSpec) (call : ToolCall) : Prop :=
  phase.tools.permits call.tool = true ∧ (call.tool = advancePhaseToolName → phase.trigger = .onToolSignal)

instance (phase : PhaseSpec) (call : ToolCall) : Decidable (Permitted phase call) :=
  inferInstanceAs (Decidable (_ ∧ (_ → _)))

/-- The reply, and the code that it may run, call only what the phase permits, as far as it would
run; and the reply calls `advance_phase` only where the phase waits for it. -/
def CallsPermitted : Prop :=
  ∀ d ∈ t.dispatching s c.toCycleInputs, ∀ phase ∈ t.currentPhase d.1,
    (∀ call ∈ d.2.toolCalls, d.1.dispatcher.runs call = true → phase.tools.permits call.tool = true) ∧
    (∀ call ∈ d.2.toolCalls, call.tool = advancePhaseToolName → phase.trigger = .onToolSignal) ∧
    ((∃ call ∈ d.2.toolCalls, call.tool = executeCodeToolName) → ∀ call ∈ t.scriptedCalls c, Permitted phase call)

instance (s : LoopState) (c : IterationInputs World) : Decidable (t.CallsPermitted s c) :=
  inferInstanceAs (Decidable (∀ d ∈ t.dispatching s c.toCycleInputs, ∀ phase ∈ t.currentPhase d.1, _ ∧ _ ∧ (_ → _)))

variable {t} {s p : LoopState} {c : CycleInputs World} {reply : CompletionResponse} {phase : PhaseSpec}
lemma dispatching_eq_some (h : t.dispatching s c = some (p, reply)) : t.cycle s c = t.act c p reply.toolCalls ∧
    ∃ messages, p = recordReply (t.prepare c { s with messages := messages }) reply := by
  unfold dispatching at h
  unfold cycle
  split at h
  · cases h
  · rename_i hcancelled
    rw [if_neg hcancelled]
    cases hmessages : t.compacted c s with
    | none =>
      rw [hmessages] at h
      cases h
    | some messages =>
      simp only [hmessages] at h
      split at h
      · cases h
      · rename_i hgo
        rw [not_or] at hgo
        obtain ⟨hlimit, hmax⟩ := hgo
        split at h
        · cases h
        · rename_i reply' hreply
          split at h
          · rename_i hdispatched
            cases h
            have hlimit : c.hardLimited = none := by simpa using hlimit
            have hends : ¬ (reply.stopReason = .endTurn ∨ reply.toolCalls.isEmpty = true) := by
              rw [not_or, List.isEmpty_iff]
              exact ⟨hdispatched.1, hdispatched.2.1⟩
            refine ⟨?_, messages, rfl⟩
            simp only [hlimit, if_neg hmax, modelTurn, hreply, afterReply, if_neg hends, hdispatched.2.2]
          · cases h

lemma prepare_signalled (h : (t.prepare c s).phaseSignalled = true) : s.phaseSignalled = true := by
  unfold prepare orient observe advancePhase at h
  dsimp only at h
  split at h
  · split at h
    · cases h
    · exact h
  · split at h
    · cases h
    · exact h

lemma idle_signalled (hnone : t.dispatching s c = none) (h : (afterCycle (t.cycle s c)).phaseSignalled = true) :
    s.phaseSignalled = true := by
  unfold dispatching at hnone
  unfold cycle at h
  split at hnone
  · rename_i hcancelled
    rw [if_pos hcancelled] at h
    exact h
  · rename_i hcancelled
    rw [if_neg hcancelled] at h
    cases hmessages : t.compacted c s with
    | none =>
      rw [hmessages] at h
      exact h
    | some messages =>
      simp only [hmessages] at hnone h
      cases hlimit : c.hardLimited with
      | some limit =>
        simp only [hlimit] at h
        split at h
        · exact h
        · exact h
      | none =>
        simp only [hlimit] at hnone h
        split at h
        · unfold finish summaryTurn at h
          dsimp only at h
          split at h
          · exact h
          · exact h
        · rename_i hmax
          rw [if_neg (by simpa using hmax)] at hnone
          unfold modelTurn at h
          cases hreply : c.complete (t.request (t.prepare c { s with messages := messages })) with
          | error e =>
            rw [hreply] at h
            exact prepare_signalled (s := { s with messages := messages }) h
          | ok reply =>
            simp only [hreply] at hnone h
            have hnot : ¬ t.Dispatched reply := by
              intro hdispatched
              rw [if_pos hdispatched] at hnone
              cases hnone
            unfold afterReply at h
            dsimp only at h
            split at h
            · exact prepare_signalled (s := { s with messages := messages }) h
            · rename_i hends
              rw [not_or, List.isEmpty_iff] at hends
              split at h
              · exact prepare_signalled (s := { s with messages := messages }) h
              · rename_i hrespond
                exact absurd ⟨hends.1, hends.2, hrespond⟩ hnot

/-! ## Runs -/

def AdvanceRegistered (d : ToolDispatcher) : Prop :=
  ∃ entry, d.tools.lookup advancePhaseToolName = some entry ∧ entry.category = .pure

lemma advanceRegistered_setEnabled {d} (h : AdvanceRegistered d) (enabled : Bool) :
    AdvanceRegistered (d.setEnabled advancePhaseToolName enabled) := by
  obtain ⟨entry, hlookup, hpure⟩ := h
  refine ⟨{ entry with enabled := enabled }, ?_, hpure⟩
  rw [lookup_setEnabled, hlookup]
  rfl

lemma advanceRegistered_new {dispatcher} {safety : List (SafetyGuard World)} :
    AdvanceRegistered (AgentLoop.new dispatcher safety).actor.dispatcher :=
  advanceRegistered_setEnabled ⟨_, AList.lookup_insert _, rfl⟩ false

lemma prepare_dispatcher (c : CycleInputs World) (s : LoopState) :
    (t.prepare c s).dispatcher = s.dispatcher.setEnabled advancePhaseToolName
      (decide ((t.currentPhase (t.prepare c s)).map PhaseSpec.trigger = some .onToolSignal)) := by
  have hobserve : ∀ s, (t.observe c s).dispatcher = s.dispatcher ∧ (t.observe c s).phaseIndex = s.phaseIndex := by
    intro s
    unfold observe
    split <;> exact ⟨rfl, rfl⟩
  have hadvance : (t.advancePhase s).dispatcher = s.dispatcher := by
    unfold advancePhase
    split <;> rfl
  have hphase : t.currentPhase (t.prepare c s) = t.currentPhase (t.advancePhase s) :=
    congrArg (fun i => t.effectivePhases[i]?) (hobserve (t.syncAdvancePhase (t.advancePhase s))).2
  rw [hphase, ← hadvance]
  exact (hobserve (t.syncAdvancePhase (t.advancePhase s))).1

lemma act_after (c : CycleInputs World) (s : LoopState) (toolCalls : List ToolCall) :
    (afterCycle (t.act c s toolCalls)).dispatcher = s.dispatcher ∧ (afterCycle (t.act c s toolCalls)).phaseSignalled =
        (s.phaseSignalled || toolCalls.any fun call => call.tool = advancePhaseToolName) := by
  unfold act
  dsimp only
  split <;> exact ⟨rfl, rfl⟩

variable {s' : LoopState}
lemma dispatcher_next (h : t.cycle s c = .next s') :
    ∃ messages, s'.dispatcher = (t.prepare c { s with messages := messages }).dispatcher := by
  obtain ⟨messages, reply, -, -, -, -, -, hact⟩ := cycle_next h
  have hafter := (act_after (t := t) c (recordReply (t.prepare c { s with messages := messages }) reply)
    reply.toolCalls).1
  rw [hact] at hafter
  exact ⟨messages, hafter⟩

lemma advanceRegistered_next (hs : AdvanceRegistered s.dispatcher) (h : t.cycle s c = .next s') :
    AdvanceRegistered s'.dispatcher := by
  obtain ⟨messages, hdispatcher⟩ := dispatcher_next h
  rw [hdispatcher, prepare_dispatcher]
  exact advanceRegistered_setEnabled hs _

variable {call : ToolCall}
lemma runs_advance (hs : AdvanceRegistered s.dispatcher) (hp : t.dispatching s c = some (p, reply))
    (hphase : t.currentPhase p = some phase) (hcall : call.tool = advancePhaseToolName) :
    p.dispatcher.category call.tool = .pure ∧ (p.dispatcher.runs call = true ↔ phase.trigger = .onToolSignal) := by
  obtain ⟨-, messages, rfl⟩ := dispatching_eq_some hp
  obtain ⟨entry, hlookup, hpure⟩ := hs
  have hphase : t.currentPhase (t.prepare c { s with messages := messages }) = some phase := hphase
  have hentry : (t.prepare c { s with messages := messages }).dispatcher.tools.lookup call.tool =
      some { entry with enabled := decide (phase.trigger = .onToolSignal) } := by
    rw [hcall, prepare_dispatcher, lookup_setEnabled, hlookup, hphase]
    simp
  constructor
  · change category (t.prepare c { s with messages := messages }).dispatcher call.tool = .pure
    rw [category, hentry]
    exact hpure
  · change runs (t.prepare c { s with messages := messages }).dispatcher call = true ↔ _
    rw [runs, hentry]
    simp

variable (hguards : ∀ guard ∈ t.agent.actor.safety, guard.KeepsTool)
include hguards

lemma mem_executedCalls (h : call ∈ t.executedCalls c p reply) :
    p.dispatcher.runs call = true ∧ ∃ asked ∈ reply.toolCalls, asked.tool = call.tool :=
  Actor.mem_executed (a := { t.agent.actor with dispatcher := p.dispatcher }) hguards h

lemma permitted_of_executed {c} (hcalls : t.CallsPermitted s c)
    (hp : t.dispatching s c.toCycleInputs = some (p, reply)) (hphase : t.currentPhase p = some phase) :
    ∀ call ∈ t.executed s c, Permitted phase call := by
  obtain ⟨hruns, hadvance, hcode⟩ := hcalls _ hp phase hphase
  have hreply : ∀ call ∈ t.executedCalls c.toCycleInputs p reply, Permitted phase call := by
    intro call hcall
    obtain ⟨hrun, asked, hasked, htool⟩ := mem_executedCalls hguards hcall
    refine ⟨?_, fun h => hadvance asked hasked (htool.trans h)⟩
    rw [← htool]
    refine hruns asked hasked ?_
    rw [runs, htool]
    exact hrun
  intro call hcall
  simp only [executed, hp] at hcall
  split at hcall
  · rename_i hany
    rcases mem_append.1 hcall with hcall | hcall
    · exact hreply call hcall
    · obtain ⟨code, hcodeMem, hname⟩ := any_eq_true.1 hany
      obtain ⟨-, asked, hasked, htool⟩ := mem_executedCalls hguards hcodeMem
      exact hcode ⟨asked, hasked, htool.trans (of_decide_eq_true hname)⟩ call hcall
  · exact hreply call hcall

omit hguards in
lemma signal_of_call {c} (hs : AdvanceRegistered s.dispatcher)
    (hp : t.dispatching s c.toCycleInputs = some (p, reply)) (hphase : t.currentPhase p = some phase)
    (htrigger : phase.trigger = .onToolSignal) (hcall : call ∈ reply.toolCalls)
    (hname : call.tool = advancePhaseToolName) : t.Signal s c phase := by
  obtain ⟨hpure, hruns⟩ := runs_advance hs hp hphase hname
  have hexecuted : call ∈ t.executedCalls c.toCycleInputs p reply :=
    Actor.executed_of_pure hcall hpure (hruns.2 htrigger)
  refine ⟨htrigger, call, ?_, hname⟩
  simp only [executed, hp]
  split
  · exact mem_append_left _ hexecuted
  · exact hexecuted

lemma filtersKept_of_permitted {c} (hs : AdvanceRegistered s.dispatcher)
    (hcalls : t.CallsPermitted s c) : t.FiltersKept s c where
  filter := fun _ hp _ hphase call hcall => (permitted_of_executed hguards hcalls hp hphase call hcall).1
  advance := fun _ hp _ hphase call hcall => (permitted_of_executed hguards hcalls hp hphase call hcall).2
  signalled := by
    rintro ⟨p, reply⟩ hp phase hphase hsignalled
    rw [iterate, (dispatching_eq_some hp).1, (act_after c.toCycleInputs p reply.toolCalls).2, Bool.or_eq_true]
      at hsignalled
    rcases hsignalled with hbefore | hany
    · exact .inl hbefore
    · obtain ⟨call, hcall, hname⟩ := any_eq_true.1 hany
      have hname : call.tool = advancePhaseToolName := of_decide_eq_true hname
      have htrigger := (hcalls _ hp phase hphase).2.1 call hcall hname
      exact .inr (signal_of_call hs hp hphase htrigger hcall hname)
  idle := fun hnone => idle_signalled hnone

end Turn

/-- In every run of a loop as `AgentLoop::new` builds it, whose guards keep the tools of calls and
whose replies call only what the phases permit, the filters are kept in every iteration. -/
theorem filters_kept {World : Type} (t : Turn World) (cs : List (IterationInputs World))
    (hnew : Turn.AdvanceRegistered t.agent.actor.dispatcher)
    (hguards : ∀ guard ∈ t.agent.actor.safety, guard.KeepsTool)
    (hcalls : EachCycle t.iterate t.CallsPermitted t.start cs) : EachCycle t.iterate t.FiltersKept t.start cs :=
  EachCycle.imp (fun s => Turn.AdvanceRegistered s.dispatcher)
    (fun _ _ _ hs _ h => Turn.advanceRegistered_next hs h)
    (fun _ _ hs hc => Turn.filtersKept_of_permitted hguards hs hc) cs t.start hnew hcalls

/-! ## A sensor that a phase excludes -/

def namedPhase (names : List String) (trigger : PhaseTrigger) : PhaseSpec := ⟨.react, .named names, trigger⟩

def closedPhase : PhaseSpec := ⟨.react, .none, .immediate⟩

def scripting (parts : List ContentPart) (scripted : List ToolCall) : IterationInputs Unit :=
  { replying parts .toolUse with scripted := scripted }

def advanceCall : ContentPart := .toolUse "toolu_2" "advance_phase" (.object [])

theorem filters_kept_signal :
    EachCycle (sensorTurn 5 none [namedPhase ["read_sensor", "advance_phase"] .onToolSignal, closedPhase]).iterate
      (sensorTurn 5 none [namedPhase ["read_sensor", "advance_phase"] .onToolSignal, closedPhase]).FiltersKept
      (sensorTurn 5 none [namedPhase ["read_sensor", "advance_phase"] .onToolSignal, closedPhase]).start
      [scripting [sensorCall] [], scripting [advanceCall] [], scripting [.text "Done."] []] :=
  filters_kept _ _ Turn.advanceRegistered_new nofun (by decide +kernel)

lemma not_filtersKept_of_excluded {t : Turn World} {s c}
    (h : ∃ d ∈ t.dispatching s c.toCycleInputs, ∃ phase ∈ t.currentPhase d.1,
      ∃ call ∈ t.executed s c, phase.tools.permits call.tool = false) : ¬ t.FiltersKept s c := by
  obtain ⟨d, hd, phase, hphase, call, hcall, hnot⟩ := h
  intro hkept
  rw [hkept.filter d hd phase hphase call hcall] at hnot
  cases hnot

def codeTurn (phases : List PhaseSpec) : Turn Unit :=
  { sensorTurn 5 none phases with
    input := { (sensorTurn 5 none phases).input with seed := ⟨[], [], "Read the lidar."⟩ }
    agent := .new (ToolDispatcher.registerWithCategory (ToolDispatcher.registerWithCategory ⟨∅, "5s"⟩ readSensor .pure)
      ⟨"execute_code", "Run sandboxed code.", .null⟩ .codeSandbox) [] }

/-- A tool runs in a phase without tools, and in one that names another; code that a phase permits
runs a tool that it excludes; and a phase that waits for no signal is signalled, by a call that does
not run. -/
theorem excluded_tool_runs : (((sensorTurn 5 none [closedPhase]).executed (sensorTurn 5 none [closedPhase]).start
        (scripting [sensorCall] [])).map ToolCall.tool = ["read_sensor"] ∧
      ¬ (sensorTurn 5 none [closedPhase]).FiltersKept (sensorTurn 5 none [closedPhase]).start
        (scripting [sensorCall] [])) ∧ (((sensorTurn 5 none [namedPhase ["move"] .immediate]).executed
        (sensorTurn 5 none [namedPhase ["move"] .immediate]).start (scripting [sensorCall] [])).map ToolCall.tool =
        ["read_sensor"] ∧ ¬ (sensorTurn 5 none [namedPhase ["move"] .immediate]).FiltersKept
        (sensorTurn 5 none [namedPhase ["move"] .immediate]).start (scripting [sensorCall] [])) ∧
    (((codeTurn [namedPhase ["execute_code"] .immediate]).executed (codeTurn [namedPhase ["execute_code"] .immediate]).start
        (scripting [.toolUse "toolu_3" "execute_code" .null] [⟨"n1", "read_sensor", .null⟩])).map ToolCall.tool =
        ["execute_code", "read_sensor"] ∧ ¬ (codeTurn [namedPhase ["execute_code"] .immediate]).FiltersKept
        (codeTurn [namedPhase ["execute_code"] .immediate]).start
        (scripting [.toolUse "toolu_3" "execute_code" .null] [⟨"n1", "read_sensor", .null⟩])) ∧
    (((sensorTurn 5 none [closedPhase]).executed (sensorTurn 5 none [closedPhase]).start
        (scripting [advanceCall] [])).map ToolCall.tool = [] ∧
      (afterCycle ((sensorTurn 5 none [closedPhase]).iterate (sensorTurn 5 none [closedPhase]).start
        (scripting [advanceCall] []))).phaseSignalled = true ∧
      ¬ (sensorTurn 5 none [closedPhase]).FiltersKept (sensorTurn 5 none [closedPhase]).start
        (scripting [advanceCall] [])) := by
  refine ⟨⟨by decide +kernel, ?_⟩, ⟨by decide +kernel, ?_⟩, ⟨by decide +kernel, ?_⟩, by decide +kernel,
    by decide +kernel, ?_⟩
  · exact not_filtersKept_of_excluded (by decide +kernel)
  · exact not_filtersKept_of_excluded (by decide +kernel)
  · exact not_filtersKept_of_excluded (by decide +kernel)
  · intro hkept
    have hd : ∃ d ∈ (sensorTurn 5 none [closedPhase]).dispatching (sensorTurn 5 none [closedPhase]).start
        (scripting [advanceCall] []).toCycleInputs, d.1.phaseSignalled = false ∧
        (sensorTurn 5 none [closedPhase]).currentPhase d.1 = some closedPhase := by decide +kernel
    obtain ⟨d, hd, hbefore, hphase⟩ := hd
    rcases hkept.signalled d hd closedPhase hphase (by decide +kernel) with h | h
    · rw [hbefore] at h
      cases h
    · cases h.1

end Roz.Agent
