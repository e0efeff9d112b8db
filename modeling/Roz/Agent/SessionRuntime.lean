import Roz.Agent.Loop
import Roz.Core.Session
import Roz.OpenAi.ChatChunk

/-!
# The session runtime (`roz-agent/src/session_runtime/mod.rs`, `state.rs`)

The runtime owns the state of a session: each public operation takes it to the next and broadcasts
events.  `Op` is an operation with its arguments, `SessionRuntime.step` what it does: events, and the
prepared turns handed to an executor.

An executor is what it answers to a prepared turn; a streaming one first sends the items of its
channels, in the order the runtime takes them.  How the prompt is assembled is a parameter, the world
state is of any type, and time stamps, memory, and the map of live approvals are left out.
-/

namespace Roz.Agent
open Roz.Core

/-! ## Events -/

inductive SessionMode where
  | local
  | server
  | edge
  deriving DecidableEq

structure SessionPermissionRule where
  toolPattern : String
  policy : String
  category : Option String
  reason : Option String
  deriving DecidableEq

structure SessionUsage where
  inputTokens : Nat
  outputTokens : Nat

inductive EventCompactionLevel where
  | toolClear
  | thinkingStrip
  | llmSummary
  deriving DecidableEq

inductive SessionEvent where
  | sessionStarted (sessionId : String) (mode : SessionMode) (blueprintVersion : String) (modelName : Option String)
      (permissions : List SessionPermissionRule)
  | sessionRejected (code message : String) (retryable : Bool)
  | turnStarted (turnIndex : Nat)
  | sessionCompleted (summary : String) (totalUsage : SessionUsage)
  | sessionFailed (failure : RuntimeFailureKind)
  | activityChanged (state : RuntimeActivity) (reason : String) (robotSafe : Bool) (unblockEvent : Option String)
  | presenceHinted (level reason : String)
  | toolCallRequested (callId toolName : String) (parameters : Json) (timeoutMs : Nat)
  | approvalRequested (approvalId action reason : String) (timeoutSecs : Nat)
  | approvalResolved (approvalId : String) (outcome : ApprovalOutcome)
  | safePauseEntered (reason : String) (robotState : SafePauseState)
  | contextCompacted (level : EventCompactionLevel) (messagesAffected tokensBefore tokensAfter : Nat)
  | textDelta (messageId content : String)
  | thinkingDelta (messageId content : String)
  | turnFinished (messageId : String) (inputTokens outputTokens cacheReadTokens cacheCreationTokens : Nat)
      (stopReason : String)
  /-- events of a type the runtime itself never emits -/
  | other (eventType : String)

/-! ## Turns -/

structure TurnInput where
  userMessage : String
  cognitionMode : CognitionMode
  customContext : List String
  volatileBlocks : List String

structure TurnOutput where
  assistantMessage : String
  toolCallsMade : Nat
  inputTokens : Nat
  outputTokens : Nat
  cacheReadTokens : Nat
  cacheCreationTokens : Nat
  messages : List Message

structure SystemBlock where
  label : String
  content : String

structure PreparedTurn where
  turnIndex : Nat
  cognitionMode : CognitionMode
  userMessage : String
  systemBlocks : List SystemBlock
  history : List Message

inductive ActiveTurnOutcome where
  | completed (messages : List Message) (reason : String)
  | cancelled (reason : String)
  | failed (failure : RuntimeFailureKind)

inductive SessionRuntimeError where
  | sessionPaused
  | sessionCompleted
  | sessionFailed (failure : RuntimeFailureKind)
  | turnFailed (failure : RuntimeFailureKind)
  deriving DecidableEq

structure TurnExecutionFailure where
  kind : RuntimeFailureKind
  message : String
  clientCode : Option String
  retryable : Bool

inductive TurnError where
  | failure (cause : TurnExecutionFailure)
  | other (message : String)

def TurnError.asFailure : TurnError → Option TurnExecutionFailure
  | .failure cause => some cause
  | .other _ => none

def TurnError.kind (e : TurnError) : RuntimeFailureKind := (e.asFailure.map TurnExecutionFailure.kind).getD .modelError

abbrev TurnExecutor : Type := PreparedTurn → Except TurnError TurnOutput

/-! ## Streams -/

inductive StreamChunk where
  | textDelta (content : String)
  | thinkingDelta (content : String)
  | toolUseStart (id name : String)
  | toolUseInputDelta (text : String)
  | usage (reported : TokenUsage)
  | done (response : CompletionResponse)

inductive PresenceLevel where
  | full
  | mini
  | hidden

def PresenceLevel.asStr : PresenceLevel → String
  | .full => "full"
  | .mini => "mini"
  | .hidden => "hidden"

inductive ActivityState where
  | thinking
  | callingTool
  | idle
  | waitingApproval

inductive PresenceSignal where
  | presenceHint (level : PresenceLevel) (reason : String)
  | activityUpdate (state : ActivityState) (detail : String)
  | approvalRequested (approvalId action reason : String) (timeoutSecs : Nat)
  | approvalResolved (approvalId : String) (outcome : ApprovalOutcome)

structure RemoteToolCall where
  id : String
  name : String
  parameters : Json
  timeoutMs : Nat

inductive StreamItem where
  | chunk (received : StreamChunk)
  | presence (signal : PresenceSignal)
  | toolCall (call : RemoteToolCall)

abbrev StreamingTurnExecutor : Type := PreparedTurn → List StreamItem × Except TurnError TurnOutput

/-! ## State -/

structure PromptToolSchema where
  name : String
  description : String
  parametersJson : String
  deriving DecidableEq

structure PendingApprovalState where
  approvalId : String
  action : String
  reason : String
  timeoutSecs : Nat
  deriving DecidableEq

structure SessionConfig where
  sessionId : String
  mode : SessionMode
  cognitionMode : CognitionMode
  constitutionText : String
  /-- the schema version of the blueprint, `unknown` if it does not parse -/
  blueprintVersion : String
  modelName : Option String
  permissions : List SessionPermissionRule
  toolSchemas : List PromptToolSchema
  projectContext : List String
  initialHistory : List Message

structure SessionState (World : Type) where
  sessionId : String
  mode : SessionMode
  cognitionMode : CognitionMode
  constitutionText : String
  blueprintVersion : String
  modelName : Option String
  permissions : List SessionPermissionRule
  toolSchemas : List PromptToolSchema
  projectContext : List String
  pendingApprovals : List PendingApprovalState
  activity : RuntimeActivity
  safePause : SafePauseState
  trust : TrustPosture
  edgeState : EdgeTransportHealth
  worldState : Option World
  worldStateNote : Option String
  snapshot : SessionSnapshot
  messages : List Message
  failure : Option RuntimeFailureKind
  turnIndex : Nat
  started : Bool
  completed : Bool

structure SessionRuntime (World : Type) where
  state : SessionState World
  pendingSystemContext : Option String
  recoveryConfig : RecoveryConfig

structure SessionRuntimeBootstrap (World : Type) where
  state : SessionState World
  pendingSystemContext : Option String

structure SessionRuntimeBootstrapImport where
  cognitionModeOverride : Option CognitionMode
  constitutionTextOverride : Option String
  blueprintVersionOverride : Option String
  toolSchemasOverride : Option (List PromptToolSchema)

def SessionState.new {World : Type} (config : SessionConfig) : SessionState World where
  sessionId := config.sessionId
  mode := config.mode
  cognitionMode := config.cognitionMode
  constitutionText := config.constitutionText
  blueprintVersion := config.blueprintVersion
  modelName := config.modelName
  permissions := config.permissions
  toolSchemas := config.toolSchemas
  projectContext := config.projectContext
  pendingApprovals := []
  activity := .idle
  safePause := .running
  trust := .default
  edgeState := .healthy
  worldState := none
  worldStateNote := none
  snapshot := ⟨config.sessionId, 0, .unknown, .unknown, none, .running, .default, .default, .healthy, none⟩
  messages := config.initialHistory
  failure := none
  turnIndex := 0
  started := false
  completed := false

def trim (text : String) : String :=
  String.ofList (((OpenAi.trimStart text).toList.reverse.dropWhile OpenAi.isWhitespace).reverse)

namespace SessionRuntime
variable {World : Type}
def new (config : SessionConfig) : SessionRuntime World := ⟨.new config, none, .default⟩

def isPaused (r : SessionRuntime World) : Bool := r.state.safePause.isPaused

variable (r : SessionRuntime World)
def exportBootstrap : SessionRuntimeBootstrap World := ⟨r.state, r.pendingSystemContext⟩

/-- A fresh runtime that takes over all of the bootstrap but what the import overrides. -/
def fromBootstrap (b : SessionRuntimeBootstrap World) (given : SessionRuntimeBootstrapImport) : SessionRuntime World where
  state :=
    { b.state with
      cognitionMode := given.cognitionModeOverride.getD b.state.cognitionMode
      constitutionText := given.constitutionTextOverride.getD b.state.constitutionText
      blueprintVersion := given.blueprintVersionOverride.getD b.state.blueprintVersion
      toolSchemas := given.toolSchemasOverride.getD b.state.toolSchemas
      snapshot := { b.state.snapshot with edgeTransportState := b.state.edgeState } }
  pendingSystemContext := b.pendingSystemContext
  recoveryConfig := .default

def activityChanged (state : RuntimeActivity) (reason : String) (unblockEvent : Option String) : SessionEvent :=
  .activityChanged state reason state.robotShouldBeSafe unblockEvent

/-! ## Synchronization -/

variable (mode : CognitionMode)
def syncCognitionMode : SessionRuntime World × Bool :=
  if r.state.cognitionMode = mode then (r, false) else ({ r with state.cognitionMode := mode }, true)

variable (constitutionText : String) (toolSchemas : List PromptToolSchema)
def syncPromptSurface (projectContext : List String) : SessionRuntime World × Bool :=
  if r.state.constitutionText = constitutionText ∧ r.state.toolSchemas = toolSchemas ∧
      r.state.projectContext = projectContext then (r, false)
  else
    ({ r with
        state.constitutionText := constitutionText
        state.toolSchemas := toolSchemas
        state.projectContext := projectContext }, true)

def syncPromptState (projectContext : List String) : SessionRuntime World × Bool :=
  let moded := r.syncCognitionMode mode
  let prompted := moded.1.syncPromptSurface constitutionText toolSchemas projectContext
  (prompted.1, moded.2 || prompted.2)

def syncPermissions (permissions : List SessionPermissionRule) : SessionRuntime World × Bool :=
  if r.state.permissions = permissions then (r, false) else ({ r with state.permissions := permissions }, true)

def syncTrustPosture (trust : TrustPosture) : SessionRuntime World × Bool :=
  if r.state.trust = trust then (r, false)
  else
    ({ r with
        state.trust := trust
        state.snapshot.hostTrustPosture := trust
        state.snapshot.environmentTrustPosture := trust }, true)

def syncTelemetryFreshness (freshness : FreshnessState) : SessionRuntime World × Bool :=
  if r.state.snapshot.telemetryFreshness = freshness then (r, false)
  else ({ r with state.snapshot.telemetryFreshness := freshness }, true)

def syncWorldStateWithNote (worldState : Option World) (note : Option String) : SessionRuntime World :=
  { r with
    state.snapshot.spatialFreshness := if worldState.isSome then .fresh else .unknown
    state.worldState := worldState
    state.worldStateNote := (note.map trim).filter (· ≠ "") }

def stageSystemContext (systemContext : Option String) : SessionRuntime World :=
  match systemContext with
  | some context => { r with pendingSystemContext := some context }
  | none => r

/-- Inline context goes first and leaves the staged one; without it the staged one is used up. -/
def takeTurnCustomContext (inline : Option String) : SessionRuntime World × List String :=
  match inline with
  | some context => (r, if trim context = "" then [] else [trim context])
  | none =>
    ({ r with pendingSystemContext := none }, ((r.pendingSystemContext.map trim).filter (· ≠ "")).toList)

def eventLevel : CompactionLevel → EventCompactionLevel
  | .toolResults => .toolClear
  | .thinking => .thinkingStrip
  | .summary => .llmSummary

def compactionEvent (e : CompactionEvent) : SessionEvent :=
  .contextCompacted (eventLevel e.level) (min (e.messagesBefore - e.messagesAfter) (2 ^ 32 - 1)) e.tokensBefore
    e.tokensAfter

def compactContext (print : Json → String) (r : SessionRuntime World) (maxContextTokens : Nat) :
    SessionRuntime World × List SessionEvent :=
  let compacted := (ContextManager.new maxContextTokens).compactEscalating print none r.state.messages
  ({ r with state.messages := compacted.1 }, compacted.2.map compactionEvent)

/-! ## Starting -/

def ensureStarted : SessionRuntime World × List SessionEvent :=
  if r.state.started then (r, [])
  else
    ({ r with state.started := true, state.activity := .idle },
      [.sessionStarted r.state.sessionId r.state.mode r.state.blueprintVersion r.state.modelName r.state.permissions])

def ensureTurnCanStart : Except SessionRuntimeError Unit :=
  if r.state.completed then .error .sessionCompleted
  else
    match r.state.failure with
    | some failure => .error (.sessionFailed failure)
    | none => if r.isPaused then .error .sessionPaused else .ok ()

def ensureOpen : Except SessionRuntimeError Unit :=
  if r.state.completed then .error .sessionCompleted
  else
    match r.state.failure with
    | some failure => .error (.sessionFailed failure)
    | none => .ok ()

def startSession : SessionRuntime World × List SessionEvent × Except SessionRuntimeError Unit :=
  match r.ensureOpen with
  | .error e => (r, [], .error e)
  | .ok () => (r.ensureStarted.1, r.ensureStarted.2, .ok ())

section Turns

-- how the prompt is assembled
variable (assemble : SessionState World → TurnInput → List String → List SystemBlock)
variable (r : SessionRuntime World) (failure : RuntimeFailureKind) (input : TurnInput)
def beginTurn (volatileBlocks : List String) :
    SessionRuntime World × List SessionEvent × Except SessionRuntimeError PreparedTurn :=
  match r.ensureTurnCanStart with
  | .error e => (r, [], .error e)
  | .ok () =>
    let started := r.ensureStarted
    let moded := (started.1.syncCognitionMode input.cognitionMode).1
    let begun : SessionRuntime World :=
      { moded with state.turnIndex := u32 (moded.state.turnIndex + 1), state.activity := .planning }
    (begun, started.2 ++ [.turnStarted begun.state.turnIndex,
        activityChanged .planning ("turn " ++ toString begun.state.turnIndex ++ " started") none],
      .ok ⟨begun.state.turnIndex, begun.state.cognitionMode, input.userMessage,
        assemble begun.state input volatileBlocks, begun.state.messages⟩)

/-! ## The end of a turn -/

def clearTurnApprovals : SessionRuntime World := { r with state.pendingApprovals := [] }

variable (reason : String)

/-- The active turn ends and the runtime is idle again: completed and cancelled turns alike. -/
def endActiveTurn : SessionRuntime World × List SessionEvent :=
  ({ r.clearTurnApprovals with state.snapshot.turnIndex := r.state.turnIndex, state.activity := .idle },
    [activityChanged .idle reason none])

def completeActiveTurn : SessionRuntime World × List SessionEvent :=
  r.endActiveTurn reason

def completeActiveTurnWithHistory (messages : List Message) (reason : String) :
    SessionRuntime World × List SessionEvent :=
  completeActiveTurn { r with state.messages := messages } reason

def cancelActiveTurn : SessionRuntime World × List SessionEvent :=
  r.endActiveTurn reason

def failActiveTurn : SessionRuntime World × List SessionEvent :=
  ({ r.clearTurnApprovals with
      state.failure := some failure
      state.activity := .degraded
      state.snapshot.lastFailure := some failure },
    [.sessionFailed failure])

def finishActiveTurn (outcome : ActiveTurnOutcome) : SessionRuntime World × List SessionEvent :=
  match outcome with
  | .completed messages reason => r.completeActiveTurnWithHistory messages reason
  | .cancelled reason => r.cancelActiveTurn reason
  | .failed failure => r.failActiveTurn failure

/-! ## Failures -/

/-- The pause is recorded in the runtime's own state; the snapshot is not told. -/
def enterSafePause (action : RecoveryAction) : SessionRuntime World × List SessionEvent :=
  let pause := .paused failure.name failure ⟨action.requiresReobserve, action.requiresReapproval, false, action.notes⟩
  ({ r with state.activity := .pausedSafe, state.safePause := pause }, [.safePauseEntered failure.name pause])

def handleFailure : SessionRuntime World × List SessionEvent × RecoveryAction :=
  let action := recoveryActionFor failure r.recoveryConfig
  let paused := if action.safePause then r.enterSafePause failure action else (r, [])
  if action.terminal then
    ({ paused.1 with state.failure := some failure }, paused.2 ++ [.sessionFailed failure], action)
  else (paused.1, paused.2, action)

def handleTurnFailure : SessionRuntime World × List SessionEvent × SessionRuntimeError :=
  let handled := r.handleFailure failure
  let action := handled.2.2
  let ended : SessionRuntime World :=
    { handled.1.clearTurnApprovals with state.snapshot.turnIndex := handled.1.state.turnIndex }
  if action.terminal then
    let failed : SessionRuntime World := { ended with state.snapshot.lastFailure := some failure }
    (if action.safePause then failed else { failed with state.activity := .degraded }, handled.2.1,
      .sessionFailed failure)
  else if action.safePause then (ended, handled.2.1, .turnFailed failure)
  else
    ({ ended with state.activity := .idle },
      handled.2.1 ++ [activityChanged .idle ("turn " ++ toString ended.state.turnIndex ++ " failed") none],
      .turnFailed failure)

/-! ## Running turns -/

inductive Effect where
  | emits (event : SessionEvent)
  | executes (prepared : PreparedTurn)

def saturateU32 (n : Nat) : Nat := min n (2 ^ 32 - 1)

def turnFinished (messageId : String) (output : TurnOutput) : SessionEvent :=
  .turnFinished messageId (saturateU32 output.inputTokens) (saturateU32 output.outputTokens)
    (saturateU32 output.cacheReadTokens) (saturateU32 output.cacheCreationTokens) "end_turn"

variable (prepared : PreparedTurn) (messageId : String)
def finishTurn (output : TurnOutput) : SessionRuntime World × List SessionEvent :=
  let finished := r.finishActiveTurn
    (.completed output.messages ("turn " ++ toString prepared.turnIndex ++ " completed"))
  (finished.1, turnFinished messageId output :: finished.2)

def runTurn (executor : TurnExecutor) : SessionRuntime World × List Effect × Except SessionRuntimeError TurnOutput :=
  match r.beginTurn assemble input input.volatileBlocks with
  | (begun, events, .error e) => (begun, events.map .emits, .error e)
  | (begun, events, .ok prepared) =>
    match executor prepared with
    | .error error =>
      let failed := begun.handleTurnFailure error.kind
      (failed.1, events.map .emits ++ .executes prepared :: failed.2.1.map .emits, .error failed.2.2)
    | .ok output =>
      let finished := begun.finishTurn prepared messageId output
      let text := if output.assistantMessage = "" then [] else [SessionEvent.textDelta messageId output.assistantMessage]
      (finished.1, events.map .emits ++ .executes prepared :: (text ++ finished.2).map .emits, .ok output)

/-! ## Streaming turns -/

variable (messageId : String)
def emitStreamChunk : StreamChunk → List SessionEvent
  | .textDelta content => [.textDelta messageId content]
  | .thinkingDelta content => [.thinkingDelta messageId content]
  | .toolUseStart .. => []
  | .toolUseInputDelta _ => []
  | .usage _ => []
  | .done _ => []

def activityStateFromSignal : ActivityState → RuntimeActivity
  | .thinking => .planning
  | .callingTool => .callingTool
  | .idle => .idle
  | .waitingApproval => .awaitingApproval

def emitPresenceSignal : PresenceSignal → SessionRuntime World × List SessionEvent
  | .presenceHint level reason => (r, [.presenceHinted level.asStr reason])
  | .activityUpdate state detail =>
    let runtimeState := activityStateFromSignal state
    ({ r with state.activity := runtimeState }, [activityChanged runtimeState detail none])
  | .approvalRequested approvalId action reason timeoutSecs =>
    ({ r with
        state.pendingApprovals := r.state.pendingApprovals.filter (fun p => p.approvalId ≠ approvalId) ++
          [⟨approvalId, action, reason, timeoutSecs⟩] },
      [.approvalRequested approvalId action reason timeoutSecs])
  | .approvalResolved approvalId outcome =>
    ({ r with state.pendingApprovals := r.state.pendingApprovals.filter fun p => p.approvalId ≠ approvalId },
      [.approvalResolved approvalId outcome])

def streamItem (r : SessionRuntime World) : StreamItem → SessionRuntime World × List SessionEvent
  | .chunk received => (r, emitStreamChunk messageId received)
  | .presence signal => r.emitPresenceSignal signal
  | .toolCall call => (r, [.toolCallRequested call.id call.name call.parameters call.timeoutMs])

inductive StreamingTurnResult where
  | completed (output : TurnOutput)
  | cancelled

/-- The end of a streaming turn.  An operator's abort is a cancellation here. -/
def endStream (messageId : String) : Except TurnError TurnOutput →
      SessionRuntime World × List SessionEvent × Except SessionRuntimeError StreamingTurnResult
  | .ok output =>
    let finished := r.finishTurn prepared messageId output
    (finished.1, finished.2, .ok (.completed output))
  | .error error =>
    if error.kind = .operatorAbort then
      let cancelled := r.finishActiveTurn (.cancelled ("turn " ++ toString prepared.turnIndex ++ " cancelled"))
      (cancelled.1, .turnFinished messageId 0 0 0 0 "cancelled" :: cancelled.2, .ok .cancelled)
    else
      let rejected := match error.asFailure with
        | some cause => cause.clientCode.toList.map fun code => .sessionRejected code cause.message cause.retryable
        | none => []
      let failed := r.handleTurnFailure error.kind
      (failed.1, rejected ++ failed.2.1, .error failed.2.2)

def runTurnStreaming (messageId : String) (executor : StreamingTurnExecutor) :
    SessionRuntime World × List Effect × Except SessionRuntimeError StreamingTurnResult :=
  match r.beginTurn assemble input input.volatileBlocks with
  | (begun, events, .error e) => (begun, events.map .emits, .error e)
  | (begun, events, .ok prepared) =>
    let streamed := Emitter.run (streamItem messageId) begun (executor prepared).1
    let ended := streamed.1.endStream prepared messageId (executor prepared).2
    (ended.1, events.map .emits ++ .executes prepared :: (streamed.2 ++ ended.2.1).map .emits, ended.2.2)

def completeSession (summary : String) : SessionRuntime World × List SessionEvent × Except SessionRuntimeError Unit :=
  match r.ensureOpen with
  | .error e => (r, [], .error e)
  | .ok () =>
    ({ r with state.completed := true, state.activity := .idle, state.snapshot.turnIndex := r.state.turnIndex },
      [.sessionCompleted summary ⟨0, 0⟩], .ok ())

def failSession : SessionRuntime World × List SessionEvent × Except SessionRuntimeError Unit :=
  match r.ensureOpen with
  | .error e => (r, [], .error e)
  | .ok () => ((r.failActiveTurn failure).1, (r.failActiveTurn failure).2, .ok ())

/-! ## Operations -/

inductive Op (World : Type) where
  | emit (event : SessionEvent)
  | emitActivityChanged (state : RuntimeActivity) (reason : String) (unblockEvent : Option String)
  | recordContextCompaction (level : EventCompactionLevel) (messagesAffected tokensBefore tokensAfter : Nat)
  | compactContext (maxContextTokens : Nat)
  | syncCognitionMode (mode : CognitionMode)
  | syncPromptSurface (constitutionText : String) (toolSchemas : List PromptToolSchema) (projectContext : List String)
  | syncPromptState (mode : CognitionMode) (constitutionText : String) (toolSchemas : List PromptToolSchema)
      (projectContext : List String)
  | syncPermissions (permissions : List SessionPermissionRule)
  | syncTrustPosture (trust : TrustPosture)
  | syncTelemetryFreshness (freshness : FreshnessState)
  | syncWorldStateWithNote (worldState : Option World) (note : Option String)
  | stageSystemContext (systemContext : Option String)
  | takeTurnCustomContext (inline : Option String)
  | startSession
  | beginTurn (input : TurnInput) (volatileBlocks : List String)
  | completeActiveTurn (reason : String)
  | completeActiveTurnWithHistory (messages : List Message) (reason : String)
  | cancelActiveTurn (reason : String)
  | failActiveTurn (failure : RuntimeFailureKind)
  | finishActiveTurn (outcome : ActiveTurnOutcome)
  | runTurn (input : TurnInput) (messageId : String) (executor : TurnExecutor)
  | runTurnStreaming (input : TurnInput) (messageId : String) (executor : StreamingTurnExecutor)
  | completeSession (summary : String)
  | failSession (failure : RuntimeFailureKind)
  | handleFailure (failure : RuntimeFailureKind)
  /-- export a bootstrap and import it elsewhere -/
  | handOver (given : SessionRuntimeBootstrapImport)

variable (print : Json → String)
def step (r : SessionRuntime World) : Op World → SessionRuntime World × List Effect
  | .emit event => (r, [.emits event])
  | .emitActivityChanged state reason unblockEvent => (r, [.emits (activityChanged state reason unblockEvent)])
  | .recordContextCompaction level affected before after => (r, [.emits (.contextCompacted level affected before after)])
  | .compactContext max => ((r.compactContext print max).1, (r.compactContext print max).2.map .emits)
  | .syncCognitionMode mode => ((r.syncCognitionMode mode).1, [])
  | .syncPromptSurface text schemas context => ((r.syncPromptSurface text schemas context).1, [])
  | .syncPromptState mode text schemas context => ((r.syncPromptState mode text schemas context).1, [])
  | .syncPermissions permissions => ((r.syncPermissions permissions).1, [])
  | .syncTrustPosture trust => ((r.syncTrustPosture trust).1, [])
  | .syncTelemetryFreshness freshness => ((r.syncTelemetryFreshness freshness).1, [])
  | .syncWorldStateWithNote worldState note => (r.syncWorldStateWithNote worldState note, [])
  | .stageSystemContext context => (r.stageSystemContext context, [])
  | .takeTurnCustomContext inline => ((r.takeTurnCustomContext inline).1, [])
  | .startSession => (r.startSession.1, r.startSession.2.1.map .emits)
  | .beginTurn input blocks => ((r.beginTurn assemble input blocks).1, (r.beginTurn assemble input blocks).2.1.map .emits)
  | .completeActiveTurn reason => ((r.completeActiveTurn reason).1, (r.completeActiveTurn reason).2.map .emits)
  | .completeActiveTurnWithHistory messages reason =>
    ((r.completeActiveTurnWithHistory messages reason).1, (r.completeActiveTurnWithHistory messages reason).2.map .emits)
  | .cancelActiveTurn reason => ((r.cancelActiveTurn reason).1, (r.cancelActiveTurn reason).2.map .emits)
  | .failActiveTurn failure => ((r.failActiveTurn failure).1, (r.failActiveTurn failure).2.map .emits)
  | .finishActiveTurn outcome => ((r.finishActiveTurn outcome).1, (r.finishActiveTurn outcome).2.map .emits)
  | .runTurn input id executor => ((r.runTurn assemble input id executor).1, (r.runTurn assemble input id executor).2.1)
  | .runTurnStreaming input id executor =>
    ((r.runTurnStreaming assemble input id executor).1, (r.runTurnStreaming assemble input id executor).2.1)
  | .completeSession summary => ((r.completeSession summary).1, (r.completeSession summary).2.1.map .emits)
  | .failSession failure => ((r.failSession failure).1, (r.failSession failure).2.1.map .emits)
  | .handleFailure failure => ((r.handleFailure failure).1, (r.handleFailure failure).2.1.map .emits)
  | .handOver given => (fromBootstrap r.exportBootstrap given, [])

end Turns
end SessionRuntime
end Roz.Agent
