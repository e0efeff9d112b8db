import Roz.Server.TaskDispatch
import Roz.Worker.Delegation
import Roz.Worker.EStop
import Roz.Agent.SessionSnapshot

/-!
# A task from its invocation to its end (`execute_task` in `roz-worker/src/main.rs`)

The agent loop of a task starts from a shell input, which has no phases (`task_phases_iff`).

The result of its turn becomes a `TurnExecutionFailure`, the session runtime makes an error of its own
from that, the worker an agent error from this, and the status is read off the last.  On the way back
the e-stop flag decides whether a safety failure is still one (`status_reported_iff`).

A task ends in one of seven ways, and each of them writes its own reports (`reportsOnce_iff`).
-/

namespace Roz.Worker
open Roz.Agent Roz.Core Roz.Server
open EStop (AgentFailure TaskTerminalStatus)

variable (estopActive : Bool)
def classifyTerminalStatus (output : Except AgentFailure TurnOutput) (timedOut : Bool) : TaskTerminalStatus :=
  if timedOut then .timedOut
  else
    match output with
    | .ok _ => .succeeded
    | .error .cancelled => .cancelled
    | .error .safety => .safetyStop
    | .error _ => .failed

/-- The status says what ended the turn. -/
def Reported : Except (AgentFailure × String) TurnOutput → TaskTerminalStatus → Prop
  | .ok _, status => status = .succeeded
  | .error (.safety, _), status => status = .safetyStop
  | .error (.cancelled, _), status => status = .cancelled
  | .error _, _ => True

variable {World : Type}

variable (inv : TaskInvocation)
def effectiveCognitionMode : CognitionMode := inv.mode.toCognition

variable (ctx : TaskContext World) (registered : List Registration)

/-- The turn of a task, with the input that `build_runtime_shell_input` makes. -/
def taskTurn (inv : TaskInvocation) : Turn World :=
  { ctx with mode := effectiveCognitionMode inv }.turn registered inv.delegationScope

/-- The turn with the phases of the invocation. -/
def declaredTurn (inv : TaskInvocation) : Turn World :=
  { taskTurn ctx registered inv with input.phases := inv.phases }

/-- A task runs in its invocation's phases only if they are one phase, of its mode with all tools. -/
theorem task_phases_iff (ctx : TaskContext World) (registered : List Registration) (inv : TaskInvocation) :
    ((taskTurn ctx registered inv).effectivePhases = inv.phases ↔ inv.phases = [⟨inv.mode, .all, .immediate⟩]) ∧
      (inv.phases = [⟨inv.mode, .all, .immediate⟩] → ∀ cs, (taskTurn ctx registered inv).runStreamingCore cs =
        (declaredTurn ctx registered inv).runStreamingCore cs) := by
  have hphases : (taskTurn ctx registered inv).effectivePhases = [⟨inv.mode, .all, .immediate⟩] := by
    cases hmode : inv.mode <;> simp [Turn.effectivePhases, taskTurn, TaskContext.turn, effectiveCognitionMode, hmode,
      PhaseMode.toCognition, CognitionMode.toPhase]
  refine ⟨by rw [hphases, eq_comm], fun hone cs => ?_⟩
  unfold declaredTurn
  rw [hone]
  unfold taskTurn effectiveCognitionMode
  cases inv.mode <;> rfl

/-! ## Reports -/

def EStop.TaskTerminalStatus.asStr : TaskTerminalStatus → String
  | .succeeded => "succeeded"
  | .failed => "failed"
  | .timedOut => "timed_out"
  | .cancelled => "cancelled"
  | .safetyStop => "safety_stop"

inductive Report where
  | status (taskId : Nat) (text : String)
  | result (taskId : Nat) (status : TaskTerminalStatus)
  | workerExited (workerId parentTaskId : Nat)
  deriving DecidableEq

/-- What an invocation meets, and whether it brings a control interface; `output` is `none` if its turn
is timed out. -/
structure Received where
  estopActive : Bool
  slotFree : Bool
  hasManifest : Bool
  modelBuilt : Bool
  output : Option (Except AgentFailure TurnOutput)

def failedReports : List Report := [.status inv.taskId "failed", .result inv.taskId .failed]

def executeTask (m : Received) : List Report :=
  if inv.parentTaskId.isSome ∧ inv.delegationScope.isNone then failedReports inv
  else if inv.mode = .oodaReAct ∧ m.hasManifest = false then failedReports inv
  else if m.modelBuilt = false then failedReports inv
  else
    let status := classifyTerminalStatus (m.output.getD (.error .other)) m.output.isNone
    .status inv.taskId "running" :: (inv.parentTaskId.toList.map (.workerExited inv.taskId) ++
      [.status inv.taskId status.asStr, .result inv.taskId status])

def receive (m : Received) : List Report :=
  if m.estopActive then [] else if m.slotFree = false then failedReports inv else executeTask inv m

def Report.isEnd : Report → Bool
  | .status _ text => text != "running"
  | .result .. => true
  | .workerExited .. => false

structure ReportsOnce (inv : TaskInvocation) (reports : List Report) : Prop where
  ended : ∃ status : TaskTerminalStatus, reports.filter Report.isEnd =
    [.status inv.taskId status.asStr, .result inv.taskId status]
  exited : ∀ parent, inv.parentTaskId = some parent → reports.count (.workerExited inv.taskId parent) = 1

variable {inv : TaskInvocation} {m : Received}
lemma reportsOnce_failed : ReportsOnce inv (failedReports inv) ↔ inv.parentTaskId = none := by
  constructor
  · intro h
    by_contra hparent
    obtain ⟨parent, hparent⟩ := Option.ne_none_iff_exists'.1 hparent
    exact absurd (h.exited parent hparent) (by simp [failedReports])
  · intro hnone
    exact ⟨⟨.failed, rfl⟩, by simp [hnone]⟩

lemma reportsOnce_ran (status : TaskTerminalStatus) :
    ReportsOnce inv (.status inv.taskId "running" :: (inv.parentTaskId.toList.map (.workerExited inv.taskId) ++
      [.status inv.taskId status.asStr, .result inv.taskId status])) where
  ended := by
    refine ⟨status, ?_⟩
    cases inv.parentTaskId <;> cases status <;> rfl
  exited := by
    intro parent hparent
    simp [hparent]

/-- A received task reports its end once, unless the e-stop is up, or it has a parent and is turned
away before its turn. -/
theorem reportsOnce_iff (inv : TaskInvocation) (m : Received) : ReportsOnce inv (receive inv m) ↔
    m.estopActive = false ∧ (inv.parentTaskId = none ∨ (m.slotFree = true ∧ inv.delegationScope.isSome = true ∧
      (inv.mode = .oodaReAct → m.hasManifest = true) ∧ m.modelBuilt = true)) := by
  unfold receive executeTask
  split_ifs with hestop hslot hscope hmanifest hmodel
  · refine iff_of_false (fun h => ?_) (by simp [hestop])
    obtain ⟨status, hended⟩ := h.ended
    cases hended
  · rw [reportsOnce_failed]
    simp [hestop, hslot]
  · rw [reportsOnce_failed]
    simp [hestop, hscope]
  · rw [reportsOnce_failed]
    simp [hestop, hmanifest]
  · rw [reportsOnce_failed]
    simp [hestop, hmodel]
  · refine iff_of_true (reportsOnce_ran _) ⟨by simpa using hestop, ?_⟩
    cases hparent : inv.parentTaskId with
    | none => exact .inl rfl
    | some parent =>
      have hscope : inv.delegationScope.isSome = true := by simpa [hparent, Option.isSome_iff_ne_none] using hscope
      refine .inr ⟨by simpa using hslot, hscope, fun hmode => ?_, by simpa using hmodel⟩
      simpa [hmode] using hmanifest

/-! ## A child under an e-stop, on a full worker, and in a closed phase -/

def childTask : TaskInvocation :=
  ⟨1, 1, "go", 1, 1, 60, .react, some 2, [⟨.react, .none, .immediate⟩], some codeScope⟩

/-- Nothing is reported under an e-stop, and a full worker sends no exit to the parent. -/
theorem not_reportsOnce : receive childTask ⟨true, true, true, true, none⟩ = [] ∧
    receive childTask ⟨false, false, true, true, none⟩ = failedReports childTask := ⟨rfl, rfl⟩

def childTools : List Registration := firstTools plainContext.describe false true (some 2)

/-- A phase without tools is declared, and the first request offers some. -/
theorem closed_phase_offers :
    (taskTurn plainContext childTools childTask).phaseTools (taskTurn plainContext childTools childTask).start ≠ [] ∧
      (declaredTurn plainContext childTools childTask).phaseTools
        (declaredTurn plainContext childTools childTask).start = [] := by
  decide

end Roz.Worker
