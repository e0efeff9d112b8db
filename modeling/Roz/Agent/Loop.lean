import Roz.Agent.Compaction
import Roz.Agent.Dispatch
import Roz.Lib.LoopRun

/-!
# The agent loop (`roz-agent/src/agent_loop/core.rs`)

`run_streaming_core` asks the model, carries out the tool calls of its answer and asks again, until
the model ends its turn or a budget is used up.  What each iteration meets is an input: the
cancellation token, the usage meter, the world, what the models answer (after all retries) and
what the tools return.  Presence signals, usage records and the emission of turns are left out.

Two lemmas say what an iteration can do (`Turn.cycle_next`, `Turn.cycle_ok`).
-/

namespace Roz.Agent
open LoopRun ContextManager

/-! ## Phases (`roz-core/src/phases.rs`) -/

inductive PhaseMode where
  | react
  | oodaReAct
  deriving DecidableEq

inductive CognitionMode where
  | react
  | oodaReAct
  deriving DecidableEq

def CognitionMode.toPhase : CognitionMode → PhaseMode
  | .react => .react
  | .oodaReAct => .oodaReAct

def PhaseMode.toCognition : PhaseMode → CognitionMode
  | .react => .react
  | .oodaReAct => .oodaReAct

inductive ToolSetFilter where
  | all
  | named (names : List String)
  | none
  deriving DecidableEq

inductive PhaseTrigger where
  | immediate
  | afterCycles (n : Nat)
  | onToolSignal
  deriving DecidableEq

structure PhaseSpec where
  mode : PhaseMode
  tools : ToolSetFilter
  trigger : PhaseTrigger
  deriving DecidableEq

/-! ## Input and output (`agent_loop/input.rs`, `error.rs`) -/

structure AgentInputSeed where
  systemPrompt : List String
  history : List Message
  userMessage : String

structure AgentInput where
  seed : AgentInputSeed
  maxCycles : Nat
  maxTokens : Nat
  maxContextTokens : Nat
  mode : CognitionMode
  phases : List PhaseSpec
  toolChoice : Option ToolChoiceStrategy
  responseSchema : Option Json

structure AgentOutput where
  cycles : Nat
  finalResponse : Option String
  totalUsage : TokenUsage
  messages : List Message

inductive AgentError where
  | model (error : String)
  | circuitBreakerTripped (consecutiveErrorTurns : Nat)
  | cancelled (partialInputTokens partialOutputTokens : Nat)
  | budgetExceeded (plan periodEnd : String)
  deriving DecidableEq

inductive RunResult where
  | ok (output : AgentOutput)
  | err (error : AgentError)
  | panicked

def respondToolName : String := "__respond"

def advancePhaseToolName : String := "advance_phase"

def TokenUsage.add (a b : TokenUsage) : TokenUsage where
  inputTokens := u32 (a.inputTokens + b.inputTokens)
  outputTokens := u32 (a.outputTokens + b.outputTokens)
  cacheReadTokens := u32 (a.cacheReadTokens + b.cacheReadTokens)
  cacheCreationTokens := u32 (a.cacheCreationTokens + b.cacheCreationTokens)

def circuitBreakerThreshold : Nat := 3

def ContentPart.isErrorResult : ContentPart → Bool
  | .toolResult _ _ _ isError => isError
  | _ => false

/-- `none` is the panic on an empty history. -/
def checkCircuitBreaker (messages : List Message) (consecutiveErrorTurns : Nat) : Option (Except AgentError Nat) :=
  messages.getLast?.map fun last =>
    let results := last.parts.countP ContentPart.isToolResult
    if 0 < results ∧ last.parts.countP ContentPart.isErrorResult = results then
      let updated := consecutiveErrorTurns + 1
      if circuitBreakerThreshold ≤ updated then .error (.circuitBreakerTripped updated) else .ok updated
    else .ok 0

/-! ## The loop and its state -/

/-- What the loop needs of world states: the default one, their text and their screenshots. -/
structure Spatial (World : Type) where
  default : World
  formatSpatialContext : World → String
  screenshots : World → List (String × String)

structure Texts where
  json : Json → String
  result : ToolResult → String
  debug : Message → String

structure AgentLoop (World : Type) where
  actor : Actor World
  systemPromptSeed : List String
  historySeed : List Message
  userMessageSeed : Option String

structure CycleInputs (World : Type) where
  cancelled : Bool
  -- the plan and the end of its period, if the tenant is hard-limited
  hardLimited : Option (String × String)
  -- the models that `maybe_run_compaction` asks
  compactionModel : Model
  aux : Option AuxLlm
  snapshot : World
  -- the model that the `compact_escalating` before the request asks
  escalationModel : Model
  complete : CompletionRequest → Except AgentError CompletionResponse
  batch : BatchInputs

structure LoopState where
  messages : List Message
  totalUsage : TokenUsage
  cycles : Nat
  finalResponse : Option String
  consecutiveErrorTurns : Nat
  phaseIndex : Nat
  phaseCycleCount : Nat
  phaseSignalled : Bool
  dispatcher : ToolDispatcher
  -- the phase of every model call so far; the code keeps no such log
  phaseLog : List Nat

structure Finish where
  state : LoopState
  result : RunResult

def advancePhaseTool : ToolSchema where
  name := advancePhaseToolName
  description := "Signal that the current phase is complete and the agent should advance to the " ++
    "next phase. Only available when the current phase uses the OnToolSignal trigger."
  parameters := .object [("properties", .object []), ("required", .array []), ("type", .string "object")]

def AgentLoop.new {World : Type} (dispatcher : ToolDispatcher) (safety : List (SafetyGuard World)) :
    AgentLoop World where
  actor := {
    dispatcher := (dispatcher.registerWithCategory advancePhaseTool .pure).setEnabled advancePhaseToolName false
    safety := safety
    hasApprovalRuntime := false }
  systemPromptSeed := []
  historySeed := []
  userMessageSeed := none

structure Turn (World : Type) where
  texts : Texts
  spatial : Spatial World
  agent : AgentLoop World
  input : AgentInput

namespace Turn
variable {World : Type} (t : Turn World)

/-! ## The first messages -/

def systemPromptBlocks : List String :=
  if t.agent.systemPromptSeed.isEmpty then t.input.seed.systemPrompt else t.agent.systemPromptSeed

def history : List Message := if t.agent.historySeed.isEmpty then t.input.seed.history else t.agent.historySeed

def userMessage : String := t.agent.userMessageSeed.getD t.input.seed.userMessage

def systemParts : List ContentPart :=
  let catalog := t.agent.actor.dispatcher.toolCatalog
  let blocks := t.systemPromptBlocks.mapIdx fun i block =>
    if i = 0 ∧ catalog ≠ "" then block ++ "\n\n" ++ catalog else block
  (blocks.filter fun text => text ≠ "").map .text

def systemMessages : List Message := if t.systemParts.isEmpty then [] else [⟨.system, t.systemParts⟩]

def buildMessages : List Message := t.systemMessages ++ t.history ++ [.ofUser t.userMessage]

def effectivePhases : List PhaseSpec :=
  if t.input.phases.isEmpty then [⟨t.input.mode.toPhase, .all, .immediate⟩] else t.input.phases

def contextManager : ContextManager := .new t.input.maxContextTokens

def start : LoopState where
  messages := t.buildMessages
  totalUsage := ⟨0, 0, 0, 0⟩
  cycles := 0
  finalResponse := none
  consecutiveErrorTurns := 0
  phaseIndex := 0
  phaseCycleCount := 0
  phaseSignalled := false
  dispatcher := t.agent.actor.dispatcher
  phaseLog := []

variable (s : LoopState)
def output : AgentOutput :=
  ⟨s.cycles, s.finalResponse, s.totalUsage, s.messages.drop t.systemMessages.length⟩

/-! ## Before the request -/

def currentPhase : Option PhaseSpec := t.effectivePhases[s.phaseIndex]?

def shouldAdvance : Bool :=
  match t.currentPhase s with
  | none => false
  | some phase =>
    match phase.trigger with
    | .immediate => decide (0 < s.phaseIndex ∧ s.phaseCycleCount = 0)
    | .afterCycles n => decide (n ≤ s.phaseCycleCount)
    | .onToolSignal => s.phaseSignalled

def phaseNotice (index : Nat) (next : PhaseSpec) : Message :=
  .ofSystem ("[Phase " ++ toString (index + 1) ++ " of " ++ toString t.effectivePhases.length ++ ": " ++
    (match next.mode with
      | .react => "React"
      | .oodaReAct => "OodaReAct") ++ " mode]")

def phaseNotices (index : Nat) : List Message := (t.effectivePhases[index]?.map (t.phaseNotice index)).toList

def advancePhase : LoopState :=
  if t.shouldAdvance s = true ∧ s.phaseIndex + 1 < t.effectivePhases.length then
    { s with
      phaseIndex := s.phaseIndex + 1
      phaseCycleCount := 0
      phaseSignalled := false
      messages := s.messages ++ t.phaseNotices (s.phaseIndex + 1) }
  else s

/-- `advance_phase` is enabled only while the current phase waits for it. -/
def syncAdvancePhase : LoopState :=
  { s with
    dispatcher := s.dispatcher.setEnabled advancePhaseToolName
      (decide ((t.currentPhase s).map PhaseSpec.trigger = some .onToolSignal)) }

def currentMode : CognitionMode :=
  match t.currentPhase s with
  | none => t.input.mode
  | some phase => phase.mode.toCognition

def buildSpatialObservation (ctx : World) : Message :=
  let text := "[Spatial Observation]\n" ++ t.spatial.formatSpatialContext ctx
  if (t.spatial.screenshots ctx).isEmpty then .ofUser text else .userWithImages text (t.spatial.screenshots ctx)

variable (c : CycleInputs World)
def spatialCtx (s : LoopState) : World :=
  match t.currentMode s with
  | .react => t.spatial.default
  | .oodaReAct => c.snapshot

def observe (s : LoopState) : LoopState :=
  match t.currentMode s with
  | .react => s
  | .oodaReAct => { s with messages := s.messages ++ [t.buildSpatialObservation c.snapshot] }

def orient (s : LoopState) : LoopState :=
  t.observe c (t.syncAdvancePhase (t.advancePhase s))

def escalation (s : LoopState) : List Message × List CompactionEvent :=
  t.contextManager.compactEscalating t.texts.json (some c.escalationModel) s.messages

def prepare (s : LoopState) : LoopState :=
  { t.orient c s with messages := (t.escalation c (t.orient c s)).1 }

def phaseTools : List ToolSchema :=
  match (t.currentPhase s).map PhaseSpec.tools with
  | none | some .all => s.dispatcher.schemas
  | some .none => []
  | some (.named names) => s.dispatcher.schemasFiltered names

def request : CompletionRequest where
  messages := s.messages
  tools :=
    match t.input.responseSchema with
    | none => t.phaseTools s
    | some schema =>
      t.phaseTools s ++ [⟨respondToolName, "Return your final structured response using this tool.", schema⟩]
  maxTokens := t.input.maxTokens
  toolChoice :=
    match t.input.responseSchema with
    | none => t.input.toolChoice
    | some _ => some (.required respondToolName)
  responseSchema := none

/-! ## After the reply -/

def recordReply (reply : CompletionResponse) : LoopState :=
  { s with
    cycles := s.cycles + 1
    totalUsage := s.totalUsage.add reply.usage
    messages := s.messages ++ [.assistantParts reply.parts]
    finalResponse := reply.text.or s.finalResponse
    phaseCycleCount := s.phaseCycleCount + 1
    phaseLog := s.phaseLog ++ [s.phaseIndex] }

variable (reply : CompletionResponse)
def respondCall : Option ToolCall :=
  if t.input.responseSchema.isSome then reply.toolCalls.find? fun call => call.tool = respondToolName else none

def act (s : LoopState) (toolCalls : List ToolCall) : Cycle LoopState Finish :=
  let s := { s with
    phaseSignalled := s.phaseSignalled || toolCalls.any fun call => call.tool = advancePhaseToolName }
  let messages := { t.agent.actor with dispatcher := s.dispatcher }.dispatchToolCalls t.texts.result
    (t.spatialCtx c s) c.batch toolCalls s.messages
  match checkCircuitBreaker messages s.consecutiveErrorTurns with
  | none => .stop ⟨{ s with messages := messages }, .panicked⟩
  | some (.error e) => .stop ⟨{ s with messages := messages }, .err e⟩
  | some (.ok n) => .next { s with messages := messages, consecutiveErrorTurns := n }

def finish : Cycle LoopState Finish := .stop ⟨s, .ok (t.output s)⟩

def afterReply (s : LoopState) (reply : CompletionResponse) : Cycle LoopState Finish :=
  let s := recordReply s reply
  if reply.stopReason = .endTurn ∨ reply.toolCalls.isEmpty then t.finish s
  else
    match t.respondCall reply with
    | some call => t.finish { s with finalResponse := some (t.texts.json call.params) }
    | none => t.act c s reply.toolCalls

/-! ## One iteration -/

def budgetNotice : Message :=
  .ofSystem ("SYSTEM: Tool-use budget exhausted. Summarize what you accomplished and what tasks remain. " ++
    "Do NOT call more tools.")

def summaryRequest : CompletionRequest where
  messages := s.messages
  tools := []
  maxTokens := t.input.maxTokens
  toolChoice := none
  responseSchema := none

def summaryTurn (s : LoopState) : LoopState :=
  let s := { s with messages := s.messages ++ [budgetNotice] }
  match c.complete (t.summaryRequest s) with
  | .error _ => s
  | .ok reply =>
    { s with
      finalResponse := reply.text.or s.finalResponse
      messages := s.messages ++ [.assistantParts reply.parts]
      totalUsage := s.totalUsage.add reply.usage }

def modelTurn (s : LoopState) : Cycle LoopState Finish :=
  match c.complete (t.request (t.prepare c s)) with
  | .error e => .stop ⟨t.prepare c s, .err e⟩
  | .ok reply => t.afterReply c (t.prepare c s) reply

def compacted (s : LoopState) : Option (List Message) :=
  maybeRunCompaction t.texts.json t.texts.debug t.contextManager c.compactionModel c.aux s.messages

def cycle (c : CycleInputs World) : Cycle LoopState Finish :=
  if c.cancelled then .stop ⟨s, .err (.cancelled s.totalUsage.inputTokens s.totalUsage.outputTokens)⟩
  else
    match t.compacted c s with
    | none => .stop ⟨s, .panicked⟩
    | some messages =>
      let s := { s with messages := messages }
      match c.hardLimited with
      | some (plan, periodEnd) =>
        if s.cycles = 0 then .stop ⟨s, .err (.budgetExceeded plan periodEnd)⟩ else t.finish s
      | none => if t.input.maxCycles ≤ s.cycles then t.finish (t.summaryTurn c s) else t.modelTurn c s

variable (cs : List (CycleInputs World))

/-- How a run ends with the given iterations; `none` if there are too few of them. -/
def runStreamingCore : Option Finish := runLoop t.cycle t.start cs

def completed : Option (LoopState × AgentOutput) :=
  match t.runStreamingCore cs with
  | some ⟨final, .ok output⟩ => some (final, output)
  | _ => none

/-! ## What an iteration can do -/

def Dispatched : Prop :=
  reply.stopReason ≠ .endTurn ∧ reply.toolCalls ≠ [] ∧ t.respondCall reply = none

variable {t} {c : CycleInputs World} {s s' : LoopState} {out : AgentOutput}
lemma completed_eq_some {cs final}
    (h : t.completed cs = some (final, out)) : t.runStreamingCore cs = some ⟨final, .ok out⟩ := by
  unfold completed at h
  split at h
  · rename_i hrun
    cases h
    exact hrun
  · cases h

variable {toolCalls : List ToolCall}
lemma act_next (h : t.act c s toolCalls = .next s') :
    s'.messages = { t.agent.actor with dispatcher := s.dispatcher }.dispatchToolCalls t.texts.result
        (t.spatialCtx c s) c.batch toolCalls s.messages ∧
      s'.cycles = s.cycles ∧ s'.phaseIndex = s.phaseIndex ∧ s'.phaseCycleCount = s.phaseCycleCount ∧
      s'.phaseLog = s.phaseLog := by
  unfold act at h
  dsimp only at h
  split at h
  · cases h
  · cases h
  · cases h
    exact ⟨rfl, rfl, rfl, rfl, rfl⟩

lemma act_not_ok : t.act c s toolCalls ≠ .stop ⟨s', .ok out⟩ := by
  intro h
  unfold act at h
  dsimp only at h
  split at h <;> cases h

variable {reply : CompletionResponse}
lemma afterReply_next (h : t.afterReply c s reply = .next s') :
    t.Dispatched reply ∧ t.act c (recordReply s reply) reply.toolCalls = .next s' := by
  unfold afterReply at h
  dsimp only at h
  split at h
  · cases h
  · rename_i hends
    rw [not_or, List.isEmpty_iff] at hends
    split at h
    · cases h
    · rename_i hrespond
      exact ⟨⟨hends.1, hends.2, hrespond⟩, h⟩

lemma afterReply_ok (h : t.afterReply c s reply = .stop ⟨s', .ok out⟩) :
    ¬ t.Dispatched reply ∧ out = t.output s' ∧ s'.messages = s.messages ++ [.assistantParts reply.parts] := by
  unfold afterReply at h
  dsimp only at h
  split at h
  · rename_i hends
    cases h
    refine ⟨fun hd => ?_, rfl, rfl⟩
    rcases hends with hends | hends
    · exact hd.1 hends
    · exact hd.2.1 (List.isEmpty_iff.1 hends)
  · split at h
    · rename_i hrespond
      cases h
      refine ⟨fun hd => ?_, rfl, rfl⟩
      rw [hd.2.2] at hrespond
      cases hrespond
    · exact absurd h act_not_ok

lemma cycle_next (h : t.cycle s c = .next s') :
    ∃ messages reply, t.compacted c s = some messages ∧ c.hardLimited = none ∧ s.cycles < t.input.maxCycles ∧
      c.complete (t.request (t.prepare c { s with messages := messages })) = .ok reply ∧ t.Dispatched reply ∧
      t.act c (recordReply (t.prepare c { s with messages := messages }) reply) reply.toolCalls = .next s' := by
  unfold cycle at h
  split at h
  · cases h
  · split at h
    · cases h
    · rename_i messages hmessages
      dsimp only at h
      split at h
      · split at h <;> cases h
      · rename_i hlimit
        split at h
        · cases h
        · rename_i hmax
          unfold modelTurn at h
          split at h
          · cases h
          · rename_i reply hreply
            obtain ⟨hdispatched, hact⟩ := afterReply_next h
            exact ⟨messages, reply, hmessages, hlimit, by simpa using hmax, hreply, hdispatched, hact⟩

/-- An iteration ends the run with `Ok` at the usage limit, with a summary when the cycles are used
up, or with a reply whose calls are not carried out. -/
lemma cycle_ok (h : t.cycle s c = .stop ⟨s', .ok out⟩) :
    ∃ messages, t.compacted c s = some messages ∧ out = t.output s' ∧
      ((c.hardLimited ≠ none ∧ s' = { s with messages := messages }) ∨
        (c.hardLimited = none ∧ t.input.maxCycles ≤ s.cycles ∧ s' = t.summaryTurn c { s with messages := messages }) ∨
        ∃ reply, c.hardLimited = none ∧ s.cycles < t.input.maxCycles ∧
          c.complete (t.request (t.prepare c { s with messages := messages })) = .ok reply ∧ ¬ t.Dispatched reply ∧
          s'.messages = (t.prepare c { s with messages := messages }).messages ++ [.assistantParts reply.parts]) := by
  unfold cycle at h
  split at h
  · cases h
  · split at h
    · cases h
    · rename_i messages hmessages
      dsimp only at h
      refine ⟨messages, hmessages, ?_⟩
      split at h
      · rename_i hlimit
        split at h
        · cases h
        · cases h
          exact ⟨rfl, .inl ⟨by simp [hlimit], rfl⟩⟩
      · rename_i hlimit
        split at h
        · rename_i hmax
          cases h
          exact ⟨rfl, .inr (.inl ⟨hlimit, hmax, rfl⟩)⟩
        · rename_i hmax
          unfold modelTurn at h
          split at h
          · cases h
          · rename_i reply hreply
            obtain ⟨hdispatched, hout, hs'⟩ := afterReply_ok h
            exact ⟨hout, .inr (.inr ⟨reply, hlimit, by simpa using hmax, hreply, hdispatched, hs'⟩)⟩

end Turn
end Roz.Agent
