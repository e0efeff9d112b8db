import Roz.Agent.CircuitBreaker
import Roz.Agent.SafePause
import Roz.Worker.EdgeTools

/-!
# The turns of an edge session (`EdgeTurnExecutor` in `roz-worker/src/session_relay.rs`)

The executor builds an agent for the turn and waits for its run, for the e-stop and for a cancellation.
It hands an error of the agent on as it is, while the session runtime knows the kind of a failure only
from a `TurnExecutionFailure`, and takes everything else for a model error
(`breakerPauses_iff_kind`, `breakerPauses_iff`).

Which cycles the agent takes and what it meets in them, and what its channels carry, are inputs.
-/

namespace Roz.Worker
open Roz.Agent Roz.Core SessionRuntime

/-! ## The executor -/

def edgeMaxCycles : Nat := 20

def edgeMaxTokens : Nat := 8192

def edgeMaxContextTokens : Nat := 200000

structure EdgeTurnExecutor (World : Type) where
  texts : Texts
  spatial : Spatial World
  describe : Descriptions
  safety : List (SafetyGuard World)
  cameraManager : Bool
  turnTools : List EdgeToolDefinition

inductive EdgeInterrupt where
  -- the watch of the e-stop fires; whether the flag is up
  | stopChanged (raised : Bool)
  | cancelled

def EdgeInterrupt.failure : EdgeInterrupt → TurnExecutionFailure
  | .stopChanged true => ⟨.safetyBlocked, "E-STOP activated during execution", none, false⟩
  | .stopChanged false => ⟨.edgeTransportLost, "edge stop watch fired unexpectedly", none, false⟩
  | .cancelled => ⟨.operatorAbort, "edge turn cancelled", none, false⟩

structure EdgeTurnInputs (World : Type) where
  -- why the model cannot be built, if it cannot
  modelError : Option String
  -- the cycles that the agent takes
  cycles : List (CycleInputs World)
  interrupt : Option EdgeInterrupt
  items : List StreamItem

def agentErrorText : AgentError → String
  | .model error => "model error: " ++ error
  | .circuitBreakerTripped n => "circuit breaker tripped after " ++ toString n ++ " consecutive all-error turns"
  | .cancelled input output =>
    "agent loop cancelled (partial usage: " ++ toString input ++ " in / " ++ toString output ++ " out)"
  | .budgetExceeded plan periodEnd => "usage limit reached on plan '" ++ plan ++ "', resets " ++ periodEnd

def boxAgentError (error : AgentError) : TurnError := .other (agentErrorText error)

def turnOutput (output : AgentOutput) : TurnOutput where
  assistantMessage := output.finalResponse.getD ""
  toolCallsMade := output.cycles
  inputTokens := output.totalUsage.inputTokens
  outputTokens := output.totalUsage.outputTokens
  cacheReadTokens := output.totalUsage.cacheReadTokens
  cacheCreationTokens := output.totalUsage.cacheCreationTokens
  messages := output.messages

namespace EdgeTurnExecutor
variable {World : Type} (x : EdgeTurnExecutor World)
def turn (prepared : PreparedTurn) : Turn World where
  texts := x.texts
  spatial := x.spatial
  agent := {
    buildAgentLoop x.describe x.safety x.cameraManager x.turnTools with
    systemPromptSeed := prepared.systemBlocks.map SystemBlock.content
    historySeed := prepared.history
    userMessageSeed := some prepared.userMessage }
  input := {
    seed := ⟨[], [], ""⟩
    maxCycles := edgeMaxCycles
    maxTokens := edgeMaxTokens
    maxContextTokens := edgeMaxContextTokens
    mode := prepared.cognitionMode
    phases := []
    toolChoice := none
    responseSchema := none }

variable (box : AgentError → TurnError) (w : EdgeTurnInputs World)

/-- The completion of a turn, with the error that is made of an agent's one; `none` while it goes on
and after a panic.  The other branches are taken only while the agent goes on: its last cycle and its
result are one poll. -/
def completion (prepared : PreparedTurn) : Option (Except TurnError TurnOutput) :=
  match w.modelError with
  | some error => some (.error (.other error))
  | none =>
    match (x.turn prepared).runStreamingCore w.cycles with
    | some ⟨_, .ok output⟩ => some (.ok (turnOutput output))
    | some ⟨_, .err error⟩ => some (.error (box error))
    | some ⟨_, .panicked⟩ => none
    | none => w.interrupt.map fun i => .error (.failure i.failure)

def executeTurnStreaming (prepared : PreparedTurn) : Option (List StreamItem × Except TurnError TurnOutput) :=
  (x.completion box w prepared).map fun result => (w.items, result)

def toolCycles (w : EdgeTurnInputs World) (prepared : PreparedTurn) : List (List ToolResult) :=
  match w.modelError with
  | some _ => []
  | none => (x.turn prepared).toolCycles w.cycles

end EdgeTurnExecutor

section Sessions
variable {World : Type} (assemble : SessionState World → TurnInput → List String → List SystemBlock)
  (box : AgentError → TurnError) (x : EdgeTurnExecutor World) (w : EdgeTurnInputs World) (r : SessionRuntime World)
  (input : TurnInput) (messageId : String)

/-- The turn of a message, once it has ended; the executor is asked for the prepared turn only. -/
def runEdgeTurn : Option (SessionRuntime World × List SessionRuntime.Effect ×
    Except SessionRuntimeError SessionRuntime.StreamingTurnResult) :=
  match (r.beginTurn assemble input input.volatileBlocks).2.2 with
  | .error _ => none
  | .ok prepared =>
    (x.executeTurnStreaming box w prepared).map fun answer => r.runTurnStreaming assemble input messageId fun _ => answer

/-- The session is paused by the circuit breaker, and refuses whatever message comes next. -/
structure PausedByBreaker (r : SessionRuntime World) : Prop where
  pause : ∃ reason requirements, r.state.safePause = .paused reason .circuitBreakerTripped requirements
  refuses : ∀ next messageId executor,
    (r.runTurnStreaming assemble next messageId executor).2.2 = .error .sessionPaused

/-- Whenever three cycles of the turn fail in a row, it is given up and the session paused. -/
def BreakerPauses : Prop :=
  ∀ prepared, (r.beginTurn assemble input input.volatileBlocks).2.2 = .ok prepared →
    Turn.ThreeFailed (x.toolCycles w prepared) →
    Turn.AbortedAtThird (x.toolCycles w prepared) ∧
      ∃ ended, runEdgeTurn assemble box x w r input messageId = some ended ∧ PausedByBreaker assemble ended.1

def Tripped : Prop :=
  ∃ prepared, (r.beginTurn assemble input input.volatileBlocks).2.2 = .ok prepared ∧
    Turn.ThreeFailed (x.toolCycles w prepared)

end Sessions

section Proofs
variable {World : Type} {assemble : SessionState World → TurnInput → List String → List SystemBlock}
  {box : AgentError → TurnError} {x : EdgeTurnExecutor World} {w : EdgeTurnInputs World} {r : SessionRuntime World}
  {input : TurnInput} {messageId : String} {prepared : PreparedTurn}

lemma toolCycles_of_threeFailed (h : Turn.ThreeFailed (x.toolCycles w prepared)) :
    w.modelError = none ∧ x.toolCycles w prepared = (x.turn prepared).toolCycles w.cycles := by
  unfold EdgeTurnExecutor.toolCycles at h ⊢
  cases hmodel : w.modelError with
  | some error =>
    rw [hmodel] at h
    cases List.infix_nil.1 h
  | none => exact ⟨rfl, rfl⟩

lemma aborted_of_threeFailed (h : Turn.ThreeFailed (x.toolCycles w prepared)) :
    Turn.AbortedAtThird (x.toolCycles w prepared) := by
  obtain ⟨-, hcycles⟩ := toolCycles_of_threeFailed h
  rw [hcycles] at h ⊢
  obtain ⟨final, -, habort⟩ := Turn.tripped_run h
  exact habort

lemma completion_of_threeFailed (h : Turn.ThreeFailed (x.toolCycles w prepared)) :
    x.completion box w prepared = some (.error (box (.circuitBreakerTripped circuitBreakerThreshold))) := by
  obtain ⟨hmodel, hcycles⟩ := toolCycles_of_threeFailed h
  rw [hcycles] at h
  obtain ⟨final, hrun, -⟩ := Turn.tripped_run h
  rw [EdgeTurnExecutor.completion, hmodel]
  dsimp only
  rw [hrun]

lemma handleTurnFailure_safePause (r : SessionRuntime World) (kind : RuntimeFailureKind) :
    (∃ requirements, (r.handleTurnFailure kind).1.state.safePause = .paused kind.name kind requirements) ∨
      (kind ≠ .circuitBreakerTripped ∧ (r.handleTurnFailure kind).1.state.safePause = r.state.safePause) := by
  cases kind with
  | modelError => exact .inr ⟨by decide, rfl⟩
  | toolError => exact .inr ⟨by decide, rfl⟩
  | _ => exact .inl ⟨_, rfl⟩

lemma refuses_of_paused (hpaused : r.isPaused = true) (hopen : r.isOpen = true) (next : TurnInput) (messageId : String)
    (executor : StreamingTurnExecutor) :
    (r.runTurnStreaming assemble next messageId executor).2.2 = .error .sessionPaused := by
  have hcan : r.ensureTurnCanStart = .error .sessionPaused := by
    unfold isOpen at hopen
    unfold ensureTurnCanStart
    cases hcompleted : r.state.completed <;> cases hfailure : r.state.failure <;> simp_all
  rw [runTurnStreaming, beginTurn, hcan]

lemma pausedByBreaker_endStream (hpaused : r.isPaused = false) (hopen : r.isOpen = true) (error : TurnError) :
    PausedByBreaker assemble (r.endStream prepared messageId (.error error)).1 ↔ error.kind = .circuitBreakerTripped := by
  have hrunning : ∀ reason kind requirements, r.state.safePause ≠ .paused reason kind requirements := by
    intro reason kind requirements h
    rw [isPaused, h] at hpaused
    cases hpaused
  rw [endStream]
  split
  · rename_i habort
    constructor
    · rintro ⟨⟨reason, requirements, h⟩, -⟩
      exact absurd h (hrunning reason _ requirements)
    · intro h
      rw [h] at habort
      cases habort
  · constructor
    · rintro ⟨⟨reason, requirements, h⟩, -⟩
      rcases handleTurnFailure_safePause r error.kind with ⟨requirements', hpause⟩ | ⟨-, hpause⟩
      · exact (SafePauseState.paused.inj (hpause.symm.trans h)).2.1
      · exact absurd (hpause.symm.trans h) (hrunning reason _ requirements)
    · intro hkind
      rw [hkind]
      exact ⟨⟨_, _, rfl⟩, refuses_of_paused rfl hopen⟩

lemma pausedByBreaker_turn (hbegin : (r.beginTurn assemble input input.volatileBlocks).2.2 = .ok prepared)
    (items : List StreamItem) {error} :
    PausedByBreaker assemble (r.runTurnStreaming assemble input messageId fun _ => (items, .error error)).1 ↔
      error.kind = .circuitBreakerTripped := by
  obtain ⟨begun, events, prepared', hbegun⟩ : ∃ begun events prepared',
      r.beginTurn assemble input input.volatileBlocks = (begun, events, .ok prepared') := ⟨_, _, prepared, by rw [← hbegin]⟩
  obtain ⟨-, ⟨hpaused, hopen⟩, -⟩ := beginTurn_life hbegun
  obtain ⟨hstreamPaused, hstreamOpen, -⟩ := stream_life messageId items begun
  rw [runTurnStreaming, hbegun]
  exact pausedByBreaker_endStream (hstreamPaused.trans hpaused) (hstreamOpen.trans hopen) error

lemma runEdgeTurn_of_threeFailed (hbegin : (r.beginTurn assemble input input.volatileBlocks).2.2 = .ok prepared)
    (h : Turn.ThreeFailed (x.toolCycles w prepared)) :
    runEdgeTurn assemble box x w r input messageId = some (r.runTurnStreaming assemble input messageId fun _ =>
      (w.items, .error (box (.circuitBreakerTripped circuitBreakerThreshold)))) := by
  rw [runEdgeTurn, hbegin]
  dsimp only
  rw [EdgeTurnExecutor.executeTurnStreaming, completion_of_threeFailed h]
  rfl

lemma breakerPauses_iff_kind : BreakerPauses assemble box x w r input messageId ↔
    ¬ Tripped assemble x w r input ∨ (box (.circuitBreakerTripped circuitBreakerThreshold)).kind = .circuitBreakerTripped := by
  constructor
  · intro h
    by_cases htripped : Tripped assemble x w r input
    · obtain ⟨prepared, hbegin, hthree⟩ := htripped
      obtain ⟨-, ended, hended, hpaused⟩ := h prepared hbegin hthree
      rw [runEdgeTurn_of_threeFailed hbegin hthree] at hended
      cases hended
      exact .inr ((pausedByBreaker_turn hbegin w.items).1 hpaused)
    · exact .inl htripped
  · rintro h prepared hbegin hthree
    refine ⟨aborted_of_threeFailed hthree, _, runEdgeTurn_of_threeFailed hbegin hthree, ?_⟩
    rcases h with h | h
    · exact absurd ⟨prepared, hbegin, hthree⟩ h
    · exact (pausedByBreaker_turn hbegin w.items).2 h

end Proofs

/-- Three failed cycles in a row never pause an edge session: the property holds of a turn just if it has
no such cycles. -/
theorem breakerPauses_iff {World : Type} (assemble : SessionState World → TurnInput → List String → List SystemBlock)
    (x : EdgeTurnExecutor World) (w : EdgeTurnInputs World) (r : SessionRuntime World) (input : TurnInput)
    (messageId : String) :
    BreakerPauses assemble boxAgentError x w r input messageId ↔ ¬ Tripped assemble x w r input := by
  rw [breakerPauses_iff_kind]
  have hkind : (boxAgentError (.circuitBreakerTripped circuitBreakerThreshold)).kind = .modelError := rfl
  rw [hkind]
  simp

/-! ## An unknown tool, three times -/

def driveExecutor : EdgeTurnExecutor Unit where
  texts := ⟨plainJson, plainResult, plainDebug⟩
  spatial := ⟨(), fun _ => "No spatial observations.", fun _ => []⟩
  describe := fun _ => ("", .null)
  safety := []
  cameraManager := false
  turnTools := []

def threeDrives : EdgeTurnInputs Unit where
  modelError := none
  cycles := List.replicate 3 (replying [.toolUse "toolu_1" "drive" .null] .toolUse)
  interrupt := none
  items := []

/-- The model calls a tool that does not exist, three times.  The run is given up, and the session is
not paused and takes the next message. -/
theorem tripped_not_paused : Tripped SessionRuntime.noPrompt driveExecutor threeDrives edgeRuntime SessionRuntime.go ∧
    (∃ ended ∈ runEdgeTurn SessionRuntime.noPrompt boxAgentError driveExecutor threeDrives edgeRuntime SessionRuntime.go "m1",
      ended.1.state.safePause = .running ∧ ended.1.state.activity = .idle ∧
        (ended.1.beginTurn SessionRuntime.noPrompt SessionRuntime.go []).2.2.isOk = true) ∧
    ¬ BreakerPauses SessionRuntime.noPrompt boxAgentError driveExecutor threeDrives edgeRuntime SessionRuntime.go "m1" := by
  have hthree : Turn.ThreeFailed (driveExecutor.toolCycles threeDrives ⟨1, .react, "go", [], []⟩) := by
    show List.replicate 3 true <:+: _
    decide +kernel
  have hended : ∃ ended ∈ runEdgeTurn noPrompt boxAgentError driveExecutor threeDrives edgeRuntime
      go "m1", ended.1.state.safePause = .running ∧ ended.1.state.activity = .idle ∧
        (ended.1.beginTurn noPrompt go []).2.2.isOk = true := by
    decide +kernel
  refine ⟨⟨_, rfl, hthree⟩, hended, fun h => ?_⟩
  obtain ⟨-, ended, hrun, ⟨reason, requirements, hpause⟩, -⟩ := h _ rfl hthree
  obtain ⟨ended', hrun', hrunning, -⟩ := hended
  cases hrun.symm.trans hrun'
  cases hpause.symm.trans hrunning

end Roz.Worker
