import Roz.Core.Controller
import Roz.Core.Control

/-!
# The evidence collector (`roz-copper/src/evidence_collector.rs`)

Per-tick telemetry of a controller, finalized into the bundle that promotions are
gated on.  Tick latencies are left out: no gate reads them.  Counters are `Nat`.
-/

namespace Roz.Copper
open Roz.Core ExactFloat F64

structure TickOutput where
  commandValues : List F64
  estop : Bool
  estopReason : Option String
  deriving DecidableEq

structure EvidenceCollector where
  controllerId : String
  tickCount : Nat
  rejectionCount : Nat
  limitClampCount : Nat
  rateClampCount : Nat
  positionLimitStopCount : Nat
  epochInterruptCount : Nat
  trapCount : Nat
  watchdogNearMissCount : Nat
  missedTickCount : Nat
  channelsTouched : List String
  unexpectedChannelsTouched : List String
  allChannels : List String
  configReads : Nat
  commandOscillationDetected : Bool
  previousCommands : List F64
  steadyStateTicks : Nat
  deriving DecidableEq

def steadyStateThreshold : Nat := 50

def steadyStateEpsilon : ℚ := 5 / 1000

def oscillationDeltaThreshold : ℚ := 5 / 100

/-- `prev.signum() != curr.signum() && prev != 0.0 && curr != 0.0`; the sign of NaN is
NaN, which differs from every sign. -/
def signChanged (prev curr : F64) : Bool :=
  match prev, curr with
  | .nan, .fin c => decide (c ≠ 0)
  | .fin p, .nan => decide (p ≠ 0)
  | .nan, _ => true
  | _, .nan => true
  | prev, curr => (prev < .fin 0 && .fin 0 < curr) || (.fin 0 < prev && curr < .fin 0)

namespace EvidenceCollector

def new (controllerId : String) (channelNames : List String) : EvidenceCollector :=
  { controllerId, tickCount := 0, rejectionCount := 0, limitClampCount := 0, rateClampCount := 0
    positionLimitStopCount := 0, epochInterruptCount := 0, trapCount := 0, watchdogNearMissCount := 0
    missedTickCount := 0, channelsTouched := [], unexpectedChannelsTouched := []
    allChannels := channelNames, configReads := 0, commandOscillationDetected := false
    previousCommands := [], steadyStateTicks := 0 }

variable (ec : EvidenceCollector)
def recordUnexpectedChannel (channel : String) : EvidenceCollector :=
  if ec.unexpectedChannelsTouched.contains channel then ec
  else { ec with unexpectedChannelsTouched := ec.unexpectedChannelsTouched ++ [channel] }

/-- Output value `i` was written: any output, zero included, counts as touched. -/
def touchOutput (i : Nat) : EvidenceCollector :=
  match ec.allChannels[i]? with
  | some name =>
    if ec.channelsTouched.contains name then ec
    else { ec with channelsTouched := ec.channelsTouched ++ [name] }
  | none => ec.recordUnexpectedChannel ("unexpected_output_" ++ toString i)

def countIntervention (iv : SafetyIntervention) : EvidenceCollector :=
  match iv.kind with
  | .accelerationLimit => { ec with rateClampCount := ec.rateClampCount + 1 }
  | .positionLimit => { ec with positionLimitStopCount := ec.positionLimitStopCount + 1 }
  | .nanReject => { ec with rejectionCount := ec.rejectionCount + 1 }
  | .unconfiguredJoint | .velocityClamp | .forceLimit | .torqueLimit =>
    { ec with limitClampCount := ec.limitClampCount + 1 }

/-- Oscillation and steady state of one tick's commands against the previous ones. -/
def judgeStability (commands : List F64) : EvidenceCollector :=
  if ec.previousCommands.isEmpty then { ec with steadyStateTicks := 1 }
  else if ec.previousCommands.length ≠ commands.length then { ec with steadyStateTicks := 0 }
  else
    let pairs := ec.previousCommands.zip commands
    let deltas := pairs.map fun p => (p.2.sub p.1).abs
    let signChanges := (pairs.filter fun p => signChanged p.1 p.2).length
    let majorityThreshold := Nat.max commands.length 1 / 2
    if signChanges > majorityThreshold ∨ ∃ d ∈ deltas, .fin oscillationDeltaThreshold < d then
      { ec with commandOscillationDetected := true, steadyStateTicks := 0 }
    else if ∀ d ∈ deltas, ¬ .fin steadyStateEpsilon < d then
      { ec with steadyStateTicks := ec.steadyStateTicks + 1 }
    else { ec with steadyStateTicks := 0 }

def recordTick (output : TickOutput) (interventions : List SafetyIntervention) : EvidenceCollector :=
  let ec := { ec with tickCount := ec.tickCount + 1 }
  let ec := (List.range output.commandValues.length).foldl touchOutput ec
  let ec := interventions.foldl countIntervention ec
  { ec.judgeStability output.commandValues with previousCommands := output.commandValues }

def recordTrap : EvidenceCollector := { ec with trapCount := ec.trapCount + 1 }

/-- `finalize_with_context`, with the digests of the artifact's verification key. -/
def finalize (key : VerificationKey) (mode : ExecutionMode) : ControllerEvidenceBundle :=
  let steadyStateReached := decide (ec.steadyStateTicks ≥ steadyStateThreshold)
  { controllerId := ec.controllerId
    ticksRun := ec.tickCount
    rejectionCount := ec.rejectionCount
    limitClampCount := ec.limitClampCount
    rateClampCount := ec.rateClampCount
    positionLimitStopCount := ec.positionLimitStopCount
    epochInterruptCount := ec.epochInterruptCount
    trapCount := ec.trapCount
    watchdogNearMissCount := ec.watchdogNearMissCount
    channelsTouched := ec.allChannels.filter ec.channelsTouched.contains ++ ec.unexpectedChannelsTouched
    channelsUntouched := ec.allChannels.filter fun c => !ec.channelsTouched.contains c
    unexpectedChannelsTouched := ec.unexpectedChannelsTouched
    configReads := ec.configReads
    controllerStabilitySummary :=
      { commandOscillationDetected := ec.commandOscillationDetected
        idleOutputStable := !ec.commandOscillationDetected && steadyStateReached
        missedTickCount := ec.missedTickCount
        steadyStateReached := steadyStateReached }
    verifierStatus := .pending
    verifierReason := none
    controllerDigest := key.controllerDigest
    modelDigest := key.modelDigest
    calibrationDigest := key.calibrationDigest
    manifestDigest := key.manifestDigest
    witWorldVersion := key.witWorldVersion
    executionMode := mode
    compilerVersion := key.compilerVersion }

end EvidenceCollector
end Roz.Copper
