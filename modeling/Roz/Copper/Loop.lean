import Roz.Copper.Lifecycle
import Roz.Copper.Rollout
import Roz.Copper.Tick
import Roz.Lib.Run

/-!
# The controller loop (`run_controller_loop_with_policy` in `controller.rs`)

One iteration drains the command queues, reads the sensor, checks the agent
watchdog, ticks the active and the candidate controller, handles their failures,
actuates, and advances the candidate's stage.  The phases are functions on
`LoopState`; `iterate` composes them in the order of the source.  The frames
passed to the actuator sink and the e-stop notifications are recorded in order.

Inputs of an iteration: the contents of both queues, a sensor frame, clock
readings, and what each guest does if it is ticked.  Published state, JSON
outputs and logging are left out.  A panic (in `f64::clamp`) ends the thread.
-/

namespace Roz.Copper
open Roz.Core ExactFloat F64 StepRun

/-! ## State and inputs -/

inductive CopperRuntimeCommand where
  | preparedArtifact (load : PreparedController)
  | promoteActive
  | updateParams (params : String)
  | halt
  | resume
  deriving DecidableEq

/-- What the loop is started with.  `fixed n` is the standard library's `{:.n}`. -/
structure LoopConfig where
  deploymentManager : DeploymentManager
  actuator : Bool
  watchdogTimeout : Nat
  sqrt : F64 → F64
  fixed : Nat → F64 → String

structure SensorFrame where
  jointPositions : List F64
  jointVelocities : List F64
  wrench : Option Wrench
  deriving DecidableEq

structure LoopState where
  active : Option LoadedController
  candidate : Option LoadedController
  rollback : Option LoadedController
  lifecycle : ControllerLifecycle
  candidateState : Option DeploymentState
  promotionRequested : Bool
  shadowTicks : Nat
  canaryTicks : Nat
  boundedCanaryTicks : Nat
  lastKnownGoodControllerId : Option String
  candidateLastRejectionReason : Option String
  lastLiveEvidenceBundle : Option ControllerEvidenceBundle
  lastCandidateEvidenceBundle : Option ControllerEvidenceBundle
  tick : Nat
  lastAgentContact : Nat
  lastVelocityCount : Nat
  estopReason : Option String
  sensor : SensorFrame
  sent : List CommandFrame
  estops : List String
  deriving DecidableEq

structure IterInput where
  emergency : List CopperRuntimeCommand
  normal : List CopperRuntimeCommand
  contactAt : Nat
  sensorFrame : Option SensorFrame
  watchdogAt : Nat
  watchdogReportAt : Nat
  activeGuest : GuestOutcome
  candidateGuest : GuestOutcome
  utcNow : Nat
  deriving DecidableEq

namespace LoopState

def initial (now : Nat) : LoopState :=
  { active := none, candidate := none, rollback := none, lifecycle := .new, candidateState := none
    promotionRequested := false, shadowTicks := 0, canaryTicks := 0, boundedCanaryTicks := 0
    lastKnownGoodControllerId := none, candidateLastRejectionReason := none
    lastLiveEvidenceBundle := none, lastCandidateEvidenceBundle := none, tick := 0
    lastAgentContact := now, lastVelocityCount := 0, estopReason := none, sensor := ⟨[], [], none⟩
    sent := [], estops := [] }

variable (cfg : LoopConfig) (s : LoopState)
def send (f : CommandFrame) : LoopState :=
  if cfg.actuator then { s with sent := s.sent ++ [f] } else s

def sendStop : LoopState :=
  s.send cfg (CommandFrame.zero (Nat.max s.lastVelocityCount 6))

variable (s : LoopState)
def notifyEstop (reason : String) : LoopState :=
  { s with estops := s.estops ++ [reason], estopReason := some reason }

/-! ## Slots and evidence -/

def recordFinalizedEvidence (bundle : ControllerEvidenceBundle) : LoopState :=
  match bundle.executionMode with
  | .live => { s with lastLiveEvidenceBundle := some bundle }
  | .verify | .shadow | .canary | .replay => { s with lastCandidateEvidenceBundle := some bundle }

/-- The evidence part of `finalize_controller_slot`; the caller empties the slot. -/
def finalizeEvidence (slot : Option LoadedController) (mode : ExecutionMode) : LoopState :=
  match slot with
  | none => s
  | some c => s.recordFinalizedEvidence (c.evidenceCollector.finalize c.artifact.verificationKey mode)

end LoopState

def executionModeForCandidateState : Option DeploymentState → ExecutionMode
  | some .shadow => .shadow
  | some .canary => .canary
  | _ => .verify

def retirementReasonLabel : DeploymentState → String
  | .rejected => "rejected"
  | .rolledBack => "rolled_back"
  | .verifiedOnly | .shadow | .canary | .active => "retired"

namespace LoopState
variable (cfg : LoopConfig) (s : LoopState) (i : IterInput)
def finalizeActive : LoopState :=
  { s.finalizeEvidence s.active .live with active := none }

def finalizeCandidate : LoopState :=
  { s.finalizeEvidence s.candidate (executionModeForCandidateState s.candidateState) with
    candidate := none }

def finalizeRollback : LoopState :=
  { s.finalizeEvidence s.rollback .live with rollback := none }

variable (c : LoadedController)
def stashLastKnownGoodController : LoopState :=
  { finalizeRollback { s with lastKnownGoodControllerId := some c.controllerId } with
    rollback := some (c.setRunning false) }

/-- The instance in the rollback slot becomes active, and the lifecycle restores its own
last-known-good artifact. -/
def restoreLastKnownGoodController : Except String LifecycleRetirement × LoopState :=
  let s := s.finalizeActive
  match s.rollback with
  | none => (.error "no last-known-good controller instance available", s)
  | some restored =>
    let s := { s with rollback := none }
    match s.lifecycle.restoreLastKnownGoodActive with
    | .error e => (.error e.text, s)
    | .ok (outcome, lifecycle) =>
      (.ok outcome, { s with
          lifecycle
          lastKnownGoodControllerId := outcome.restoredControllerId
          active := some (restored.setRunning true) })

/-! ## Draining the command queues -/

def mapSlots (f : LoadedController → LoadedController) (s : LoopState) : LoopState :=
  { s with active := s.active.map f, candidate := s.candidate.map f, rollback := s.rollback.map f }

def candidateEligible : Bool :=
  match s.candidate with
  | some c => c.artifact.verifierResult.any VerifierVerdict.allowsPromotion
  | none => false

def loadPrepared (load : PreparedController) : LoopState :=
  let s := s.finalizeCandidate
  let lifecycle := s.lifecycle.loadArtifact load.artifact
  { s with
    lifecycle
    candidate := some (.fromPrepared load)
    candidateState := lifecycle.currentState.or (some .verifiedOnly)
    lastKnownGoodControllerId := lifecycle.lastKnownGood.map ControllerArtifact.controllerId
    candidateLastRejectionReason := none
    promotionRequested := false }

/-- The closure `process` of `drain_commands`.  `UpdateParams` changes only what guests
read. -/
def processCommand : CopperRuntimeCommand → LoopState
  | .preparedArtifact load => s.loadPrepared load
  | .promoteActive =>
    if cfg.deploymentManager.allowsRollout && s.candidateEligible then
      { s with promotionRequested := true, candidateState := some .verifiedOnly }
    else s
  | .halt => s.mapSlots (.setRunning false)
  | .resume => s.mapSlots (.setRunning true)
  | .updateParams _ => s

variable (emergency normal : List CopperRuntimeCommand)
def drainCommands : LoopState :=
  (emergency ++ normal).foldl (processCommand cfg) s

/-- The state in which the controllers of the iteration are ticked: commands drained,
agent contact noted, sensor read. -/
def drained : LoopState :=
  let s := s.drainCommands cfg i.emergency i.normal
  { s with
    lastAgentContact := if i.normal.isEmpty then s.lastAgentContact else i.contactAt
    sensor := i.sensorFrame.getD s.sensor }

def isRunning : Option LoadedController → Bool
  | some c => c.running
  | none => false

def anyControllerRunning : Bool := isRunning s.active || isRunning s.candidate

def checkWatchdog : Option LoopState :=
  if i.watchdogAt - s.lastAgentContact ≤ cfg.watchdogTimeout then none
  else if !s.anyControllerRunning then none
  else
    let halted :=
      { s with active := s.active.map (.setRunning false), candidate := s.candidate.map (.setRunning false) }
    some ((halted.sendStop cfg).notifyEstop ("controller_error: agent watchdog timeout (" ++
      toString ((i.watchdogReportAt - s.lastAgentContact) / 1000000) ++ "ms)"))

/-! ## The active controller -/

def tickSlot (guest : GuestOutcome) : Option (ControllerTickResult × LoadedController) :=
  match tickController cfg.sqrt (c.injectSensorState s.sensor.jointPositions s.sensor.jointVelocities)
      s.sensor.wrench guest with
  | none => none
  | some (r, c') => some (r, if r.halted then c'.setRunning false else c')

def tickActive : Option (ControllerTickResult × LoopState) :=
  match s.active with
  | none => some (.none, s)
  | some c =>
    if c.running then
      match s.tickSlot cfg c i.activeGuest with
      | none => none
      | some (r, c') => some (r, { s with active := some c' })
    else some (.none, s)

variable (activeResult : ControllerTickResult)
def handleActiveFailure : LoopState :=
  match activeResult.halted, activeResult.estopReason with
  | true, some reason =>
    match s.restoreLastKnownGoodController with
    | (.ok _, s) =>
      sendStop cfg
        { s with
          promotionRequested := false
          candidateState := none
          shadowTicks := 0
          canaryTicks := 0
          boundedCanaryTicks := 0
          estopReason := none }
    | (.error _, s) =>
      let s := (s.notifyEstop reason).sendStop cfg
      { s with candidate := s.candidate.map (.setRunning false) }
  | _, _ => s

/-! ## The candidate -/

def tickCandidate : Option (Option ControllerTickResult × LoopState) :=
  match s.candidate with
  | none => some (none, s)
  | some c =>
    if c.running then
      match s.tickSlot cfg c i.candidateGuest with
      | none => none
      | some (r, c') => some (some r, { s with candidate := some c' })
    else some (none, s)

def candidateSpans : List F64 :=
  match s.candidate with
  | some c => c.commandLimitSpans
  | none => []

variable (activeFallbackAvailable : Bool)

/-- Why the candidate fails this tick, if it does.  `activeFallbackAvailable` tells whether
an active controller is running. -/
def candidateFailureReason
    (activeResult : ControllerTickResult) (candidateResult : Option ControllerTickResult) : Option String :=
  match candidateResult with
  | none => none
  | some r =>
    if r.halted then some (r.estopReason.getD "candidate controller halted")
    else if s.candidateState = some .shadow ∨ s.candidateState = some .canary then
      if r.command.isNone then
        some ("candidate produced no command during " ++
          (s.candidateState.getD .verifiedOnly).debug ++ " stage")
      else if activeFallbackAvailable then
        match compareStageCommands activeResult.command r.command s.candidateSpans with
        | .ok (some comparison) =>
          if cfg.deploymentManager.maxStageNormalizedCommandDelta < comparison.maxNormalizedDelta then
            some ("candidate divergence exceeded limit: normalized_delta=" ++
              cfg.fixed 3 comparison.maxNormalizedDelta ++ " max_abs_delta=" ++
              cfg.fixed 3 comparison.maxAbsDelta)
          else none
        | .ok none => none
        | .error reason => some reason
      else none
    else none

variable (reason : String)
def rejectCandidate (restoreActive : Bool) : LoopState :=
  let priorState := s.candidateState.getD .verifiedOnly
  let s := { s.finalizeCandidate with candidateState := none, promotionRequested := false }
  let retirement :=
    if restoreActive then s.lifecycle.restoreLastKnownGoodActive else s.lifecycle.retireCurrent
  match retirement with
  | .ok (outcome, lifecycle) =>
    { s with
      lifecycle
      candidateLastRejectionReason := some (retirementReasonLabel outcome.terminalState ++ ": " ++ reason)
      lastKnownGoodControllerId := outcome.restoredControllerId.or s.lastKnownGoodControllerId }
  | .error _ =>
    let terminalState := if priorState.isActuating then DeploymentState.rolledBack else .rejected
    { s with
      candidateLastRejectionReason := some (retirementReasonLabel terminalState ++ ": " ++ reason) }

/-- Reject the candidate: keep the active controller if one is running, else stop. -/
def dropCandidate : LoopState :=
  if activeFallbackAvailable then s.rejectCandidate reason true
  else ((s.notifyEstop reason).rejectCandidate reason false).sendStop cfg

def handleCandidateFailure : Option String → LoopState
  | none => s
  | some reason => s.dropCandidate cfg activeFallbackAvailable reason

/-! ## Canary actuation -/

def candidateIsCanary : Bool :=
  decide (s.candidateState = some .canary) && isRunning s.candidate

/-- The command of a canary bounded to the active one, and whether bounding changed it.
The outer `none` is a panic. -/
def boundedCanaryCommand (candidateResult : Option ControllerTickResult) : Option (Option CommandFrame × Bool) :=
  if s.candidateIsCanary then
    match candidateResult.bind ControllerTickResult.command with
    | none => some (none, false)
    | some candidateCommand =>
      match boundCanaryCommand activeResult.command candidateCommand s.candidateSpans
          cfg.deploymentManager.canaryMaxCommandDelta with
      | none => none
      | some (.ok bounded) => some (some bounded, !eqVec bounded.values candidateCommand.values)
      | some (.error _) => some (some (activeResult.command.getD candidateCommand), true)
  else some (none, false)

/-- Count a bounded tick, and reject the candidate once its budget is exceeded. -/
def enforceBoundedBudget (bounded : Option CommandFrame × Bool) : Option CommandFrame × LoopState :=
  if s.candidateIsCanary && bounded.2 then
    let s := { s with boundedCanaryTicks := s.boundedCanaryTicks + 1 }
    if cfg.deploymentManager.maxBoundedCanaryTicks < s.boundedCanaryTicks then
      (none, s.dropCandidate cfg activeFallbackAvailable
        ("candidate exceeded bounded canary tick budget: bounded_ticks=" ++
          toString s.boundedCanaryTicks ++ " allowed=" ++
          toString cfg.deploymentManager.maxBoundedCanaryTicks))
    else (bounded.1, s)
  else (bounded.1, s)

variable (activeCommand bounded : Option CommandFrame)
def actuatedCommand : Option CommandFrame :=
  if s.candidateIsCanary then bounded.or activeCommand else activeCommand

def actuate : LoopState :=
  match s.actuatedCommand activeCommand bounded with
  | none => s
  | some f => send cfg { s with lastVelocityCount := f.values.length } f

/-! ## Stage advancement -/

def judgeStageEvidence (e : ControllerEvidenceBundle) : ControllerEvidenceBundle :=
  if e.hasSafetyIssues then
    { e with
      verifierStatus := .ofLabel "fail"
      verifierReason := some "stage evidence contains safety issues" }
  else if e.hasUntouchedChannels then
    { e with
      verifierStatus := .ofLabel "fail"
      verifierReason := some ("stage evidence left channels untouched: " ++
        ", ".intercalate e.channelsUntouched) }
  else { e with verifierStatus := .ofLabel "pass", verifierReason := none }

variable (stageMode : ExecutionMode) (targetState : DeploymentState)

/-- Submit the candidate's evidence of a stage and promote it.  Evidence stays submitted
when the promotion is refused. -/
def submitStageEvidenceAndPromote : Except String LifecycleTransition × LoopState :=
  let (rotated, c') := c.rotateEvidence stageMode
  let evidence := judgeStageEvidence rotated
  let s := { s with candidate := some c', lastCandidateEvidenceBundle := some evidence }
  match s.lifecycle.submitEvidence evidence with
  | .error e => (.error e.text, s)
  | .ok lifecycle =>
    let s := { s with lifecycle }
    match s.lifecycle.promoteTo (.ofKey c'.artifact.verificationKey) targetState with
    | .error e => (.error e.text, s)
    | .ok (transition, lifecycle) =>
      let s := { s with lifecycle }
      if transition.toState ≠ targetState then
        (.error ("unexpected lifecycle state after promotion: expected " ++ targetState.debug ++
          ", got " ++ transition.toState.debug), s)
      else (.ok transition, s)

variable (utcNow : Nat)
def promoteCandidateToActive : LoopState :=
  match s.candidate with
  | none => s
  | some c =>
    let promoted := { c with artifact := { c.artifact with promotedAt := some utcNow } }
    let s := { s with candidate := none }
    let s :=
      match s.active with
      | some active => { s with active := none }.stashLastKnownGoodController active
      | none => s
    { s with
      active := some promoted
      candidateState := none
      promotionRequested := false
      shadowTicks := 0
      canaryTicks := 0
      boundedCanaryTicks := 0
      candidateLastRejectionReason := none
      lastKnownGoodControllerId := s.lifecycle.lastKnownGood.map ControllerArtifact.controllerId }

/-- Promote out of a stage, or reject the candidate if the promotion is refused. -/
def promoteStage (label : String) (enter : DeploymentState → LoopState → LoopState) : LoopState :=
  match s.submitStageEvidenceAndPromote c stageMode targetState with
  | (.error error, s) => s.rejectCandidate (label ++ "-stage promotion rejected: " ++ error) s.active.isSome
  | (.ok transition, s) => enter transition.toState s

variable (newState : DeploymentState)
def enterFromVerified (s : LoopState) : LoopState :=
  let s := { s with candidateState := some newState }
  match newState with
  | .shadow => { s with shadowTicks := 0 }
  | .canary => { s with canaryTicks := 0, boundedCanaryTicks := 0 }
  | .active => s.promoteCandidateToActive utcNow
  | .verifiedOnly | .rolledBack | .rejected => s

def enterFromShadow (s : LoopState) : LoopState :=
  match newState with
  | .canary => { s with candidateState := some newState, canaryTicks := 0, boundedCanaryTicks := 0 }
  | .active => { s with candidateState := some newState }.promoteCandidateToActive utcNow
  | .verifiedOnly | .shadow | .rolledBack | .rejected => s

def enterFromCanary (s : LoopState) : LoopState :=
  { s with candidateState := some newState }.promoteCandidateToActive utcNow

def advanceCandidateStage (candidateTickedSuccessfully : Bool)
    (candidateCanaryTickCounts : Bool) (utcNow : Nat) : LoopState :=
  if !s.promotionRequested || !candidateTickedSuccessfully then s
  else
    match s.candidateState with
    | none => s
    | some state =>
      match s.candidate with
      | none => { s with promotionRequested := false }
      | some c =>
        match cfg.deploymentManager.nextTarget state with
        | none => { s with promotionRequested := false }
        | some targetState =>
          match state with
          | .verifiedOnly => s.promoteStage c .verify targetState "verify" (enterFromVerified utcNow)
          | .shadow =>
            let s := { s with shadowTicks := s.shadowTicks + 1 }
            if cfg.deploymentManager.shadowTicksRequired ≤ s.shadowTicks then
              s.promoteStage c .shadow targetState "shadow" (enterFromShadow utcNow)
            else s
          | .canary =>
            if !candidateCanaryTickCounts then { s with canaryTicks := 0 }
            else
              let s := { s with canaryTicks := s.canaryTicks + 1 }
              if cfg.deploymentManager.canaryTicksRequired ≤ s.canaryTicks then
                s.promoteStage c .canary targetState "canary" (enterFromCanary utcNow)
              else s
          | .active | .rolledBack | .rejected => s

/-! ## One iteration -/

/-- The state before stage advancement, with what advancement needs to know: whether the
candidate ticked successfully and whether its canary tick counts. -/
structure Actuated where
  state : LoopState
  candidateTickedSuccessfully : Bool
  candidateCanaryTickCounts : Bool
  deriving DecidableEq

/-- From the ticked active controller to actuation; `none` is a panic of the candidate's
tick or of the canary envelope. -/
def runCandidate (i : IterInput) : Option Actuated :=
  let activeFallbackAvailable := isRunning s.active
  match s.tickCandidate cfg i with
  | none => none
  | some (candidateResult, s) =>
    let reason := s.candidateFailureReason cfg activeFallbackAvailable activeResult candidateResult
    let s := s.handleCandidateFailure cfg activeFallbackAvailable reason
    match s.boundedCanaryCommand cfg activeResult candidateResult with
    | none => none
    | some bounded =>
      let (command, s) := s.enforceBoundedBudget cfg activeFallbackAvailable bounded
      some
        { state := s.actuate cfg activeResult.command command
          candidateTickedSuccessfully := candidateResult.any fun r => !r.halted
          candidateCanaryTickCounts := !bounded.2 }

def runTicks : Flow Actuated :=
  match s.tickActive cfg i with
  | none => .panicked ⟨s, false, false⟩
  | some (activeResult, s) =>
    let s := s.handleActiveFailure cfg activeResult
    match s.runCandidate cfg activeResult i with
    | none => .panicked ⟨s, false, false⟩
    | some a => .next a

def iterate : Flow LoopState :=
  let s := s.drained cfg i
  match s.checkWatchdog cfg i with
  | some s => .next { s with tick := s.tick + 1 }
  | none =>
    match s.runTicks cfg i with
    | .panicked a => .panicked a.state
    | .next a =>
      let s := a.state.advanceCandidateStage cfg a.candidateTickedSuccessfully
        a.candidateCanaryTickCounts i.utcNow
      .next { s with tick := s.tick + 1 }

/-- After the loop: a last drain, and every slot is finalized.  Nothing is sent. -/
def exitLoop : LoopState :=
  (s.drainCommands cfg emergency normal).finalizeActive.finalizeCandidate.finalizeRollback

end LoopState

def runLoop (cfg : LoopConfig) (now : Nat) (inputs : List IterInput) : Flow LoopState :=
  runFrom (LoopState.iterate cfg) (.initial now) inputs

end Roz.Copper
