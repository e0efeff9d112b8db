import Mathlib.Data.List.Basic

/-!
# Controller artifacts, deployment states and evidence (`roz-core/src/controller`)

The data that the copper runtime gates promotions on: deployment states with
their transition table, execution modes, the verification key of an artifact,
verifier verdicts and the evidence bundle of one validation run.  Fields that no
modelled function reads (generator names, creation times, bundle ids, latency
percentiles, freshness) are left out.
-/

namespace Roz.Core

/-! ## Deployment states (`deployment.rs`) -/

inductive DeploymentState where
  | verifiedOnly
  | shadow
  | canary
  | active
  | rolledBack
  | rejected
  deriving DecidableEq, Repr

namespace DeploymentState

def debug : DeploymentState → String
  | verifiedOnly => "VerifiedOnly"
  | shadow => "Shadow"
  | canary => "Canary"
  | active => "Active"
  | rolledBack => "RolledBack"
  | rejected => "Rejected"

def canTransitionTo : DeploymentState → DeploymentState → Bool
  | verifiedOnly, shadow => true
  | verifiedOnly, canary => true
  | verifiedOnly, rejected => true
  | shadow, canary => true
  | shadow, rejected => true
  | shadow, active => true
  | canary, active => true
  | canary, rolledBack => true
  | active, rolledBack => true
  | _, _ => false

def isActuating : DeploymentState → Bool
  | canary | active => true
  | _ => false

def isTerminal : DeploymentState → Bool
  | rolledBack | rejected => true
  | _ => false

end DeploymentState

structure TransitionError where
  fromState : DeploymentState
  toState : DeploymentState
  reason : String
  deriving DecidableEq, Repr

def DeploymentState.transition (self dst : DeploymentState) : Except TransitionError DeploymentState :=
  if self.canTransitionTo dst then .ok dst
  else .error ⟨self, dst, self.debug ++ " cannot transition to " ++ dst.debug⟩

lemma DeploymentState.canTransitionTo_terminal {self dst : DeploymentState}
    (h : self.isTerminal = true) : self.canTransitionTo dst = false := by
  cases self <;> simp [isTerminal] at h <;> cases dst <;> rfl

/-! ## Artifacts (`artifact.rs`, `verification.rs`) -/

inductive ExecutionMode where
  | live
  | replay
  | verify
  | shadow
  | canary
  deriving DecidableEq, Repr

def ExecutionMode.debug : ExecutionMode → String
  | .live => "Live"
  | .replay => "Replay"
  | .verify => "Verify"
  | .shadow => "Shadow"
  | .canary => "Canary"

structure VerificationKey where
  controllerDigest : String
  witWorldVersion : String
  modelDigest : String
  calibrationDigest : String
  manifestDigest : String
  executionMode : ExecutionMode
  compilerVersion : String
  embodimentFamily : Option String
  deriving DecidableEq, Repr

inductive FailureSeverity where
  | critical
  | warning
  deriving DecidableEq, Repr

structure VerifierFailure where
  checkName : String
  reason : String
  severity : FailureSeverity
  deriving DecidableEq, Repr

inductive VerifierVerdict where
  | pass (evidenceSummary : String)
  | fail (failures : List VerifierFailure)
  | partly (passed pending : List String)
  | unavailable (reason : String)
  deriving DecidableEq, Repr

/-- Whether the verdict allows promotion: a failure list of warnings only does. -/
def VerifierVerdict.allowsPromotion : VerifierVerdict → Bool
  | .pass _ => true
  | .fail failures => failures.all fun f => f.severity == .warning
  | .partly _ _ => false
  | .unavailable _ => false

structure ControllerArtifact where
  controllerId : String
  sha256 : String
  channelManifestVersion : Nat
  hostAbiVersion : Nat
  promotedAt : Option Nat
  verificationKey : VerificationKey
  witWorld : String
  verifierResult : Option VerifierVerdict
  deriving DecidableEq, Repr

/-! ## Evidence (`evidence.rs`) -/

inductive VerifierStatus where
  | pending
  | running
  | complete
  | failed
  | unavailable
  deriving DecidableEq, Repr

def VerifierStatus.isPass : VerifierStatus → Bool
  | .complete => true
  | _ => false

def VerifierStatus.asStr : VerifierStatus → String
  | .pending => "pending"
  | .running => "running"
  | .complete => "pass"
  | .failed => "fail"
  | .unavailable => "unavailable"

def VerifierStatus.ofLabel (label : String) : VerifierStatus :=
  if label = "pending" then .pending
  else if label = "running" then .running
  else if label = "pass" then .complete
  else if label = "fail" then .failed
  else .unavailable

structure StabilitySummary where
  commandOscillationDetected : Bool
  idleOutputStable : Bool
  missedTickCount : Nat
  steadyStateReached : Bool
  deriving DecidableEq, Repr

structure ControllerEvidenceBundle where
  controllerId : String
  ticksRun : Nat
  rejectionCount : Nat
  limitClampCount : Nat
  rateClampCount : Nat
  positionLimitStopCount : Nat
  epochInterruptCount : Nat
  trapCount : Nat
  watchdogNearMissCount : Nat
  channelsTouched : List String
  channelsUntouched : List String
  unexpectedChannelsTouched : List String
  configReads : Nat
  controllerStabilitySummary : StabilitySummary
  verifierStatus : VerifierStatus
  verifierReason : Option String
  controllerDigest : String
  modelDigest : String
  calibrationDigest : String
  manifestDigest : String
  witWorldVersion : String
  executionMode : ExecutionMode
  compilerVersion : String
  deriving DecidableEq, Repr

namespace ControllerEvidenceBundle
variable (e : ControllerEvidenceBundle)
def verifierStatusIsPass : Bool := e.verifierStatus.isPass

def hasSafetyIssues : Bool :=
  decide (e.trapCount > 0) || decide (e.epochInterruptCount > 0) ||
    e.controllerStabilitySummary.commandOscillationDetected ||
    !e.unexpectedChannelsTouched.isEmpty

def hasUntouchedChannels : Bool := !e.channelsUntouched.isEmpty

end ControllerEvidenceBundle
end Roz.Core
