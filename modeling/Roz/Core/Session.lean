import Mathlib.Data.Option.Basic

/-!
# Sessions (`roz-core/src/session/activity.rs`, `session/snapshot.rs`, `recovery.rs`)

What a session does, how it fails, what each failure calls for, and the snapshot that is kept of it.
Of the snapshot the fields are modelled that the runtime writes or `can_execute_physical` reads;
time stamps are left out.
-/

namespace Roz.Core

/-! ## Activity -/

inductive RuntimeActivity where
  | observing
  | planning
  | callingTool
  | awaitingApproval
  | executingPhysical
  | verifying
  | pausedSafe
  | degraded
  | idle
  deriving DecidableEq

def RuntimeActivity.robotShouldBeSafe : RuntimeActivity → Bool
  | .pausedSafe => true
  | .degraded => true
  | .awaitingApproval => true
  | _ => false

inductive RuntimeFailureKind where
  | modelError
  | toolError
  | safetyBlocked
  | verificationFailed
  | circuitBreakerTripped
  | approvalTimeout
  | trustViolation
  | controllerTrap
  | controllerWatchdog
  | edgeTransportLost
  | sessionTimeout
  | operatorAbort
  deriving DecidableEq

def RuntimeFailureKind.name : RuntimeFailureKind → String
  | .modelError => "model_error"
  | .toolError => "tool_error"
  | .safetyBlocked => "safety_blocked"
  | .verificationFailed => "verification_failed"
  | .circuitBreakerTripped => "circuit_breaker_tripped"
  | .approvalTimeout => "approval_timeout"
  | .trustViolation => "trust_violation"
  | .controllerTrap => "controller_trap"
  | .controllerWatchdog => "controller_watchdog"
  | .edgeTransportLost => "edge_transport_lost"
  | .sessionTimeout => "session_timeout"
  | .operatorAbort => "operator_abort"

structure ResumeRequirements where
  requiresReobserve : Bool
  requiresReapproval : Bool
  requiresReverification : Bool
  summary : String
  deriving DecidableEq

inductive SafePauseState where
  | running
  | entering (reason : String) (triggeredBy : RuntimeFailureKind)
  | paused (reason : String) (triggeredBy : RuntimeFailureKind) (resumeRequirements : ResumeRequirements)
  deriving DecidableEq

def SafePauseState.isPaused : SafePauseState → Bool
  | .running => false
  | .entering .. => true
  | .paused .. => true

/-! ## Recovery -/

structure RecoveryAction where
  retry : Bool
  maxRetries : Nat
  escalate : Bool
  safePause : Bool
  terminal : Bool
  requiresReobserve : Bool
  requiresReapproval : Bool
  notes : String
  deriving DecidableEq

structure RecoveryConfig where
  modelRetryCount : Nat
  modelRetryBackoffMs : List Nat
  modelFallbackEnabled : Bool
  circuitBreakerThreshold : Nat
  approvalTimeoutSecs : Nat
  escalationEnabled : Bool

def RecoveryConfig.default : RecoveryConfig := ⟨3, [1000, 2000, 4000], true, 3, 300, false⟩

def recoveryActionFor (failure : RuntimeFailureKind) (config : RecoveryConfig) : RecoveryAction :=
  match failure with
  | .modelError =>
    ⟨true, config.modelRetryCount, true, false, false, false, false, "Fallback to alternative model if blueprint allows"⟩
  | .toolError => ⟨true, 1, false, false, false, false, false, "Circuit breaker resets on any success"⟩
  | .safetyBlocked => ⟨false, 0, true, true, false, true, true, "Report guard and reason to operator"⟩
  | .verificationFailed =>
    ⟨false, 0, true, true, false, false, false, "Report failing evidence, operator override possible"⟩
  | .circuitBreakerTripped => ⟨false, 0, true, true, false, false, true, "Requires operator intervention to reset"⟩
  | .approvalTimeout => ⟨false, 0, true, true, false, false, true, "Notify operator, do not replay action"⟩
  | .trustViolation => ⟨false, 0, false, true, true, true, true, "Non-recoverable within session"⟩
  | .controllerTrap => ⟨false, 0, false, true, false, true, false, "Rollback to last-known-good, emit evidence"⟩
  | .controllerWatchdog =>
    ⟨false, 0, false, true, false, true, false, "Rollback, emit evidence, mark controller rejected"⟩
  | .edgeTransportLost => ⟨true, 0, true, true, false, true, false, "Continue local-safe if policy allows"⟩
  | .sessionTimeout => ⟨false, 0, false, true, true, false, false, "Clean shutdown"⟩
  | .operatorAbort => ⟨false, 0, false, true, true, false, false, "Operator's word is final"⟩

lemma safePause_of_terminal {failure config}
    (h : (recoveryActionFor failure config).terminal = true) : (recoveryActionFor failure config).safePause = true := by
  cases failure with
  | modelError => cases h
  | toolError => cases h
  | _ => rfl

/-! ## The snapshot -/

inductive FreshnessState where
  | fresh
  | stale (since : Nat)
  | unknown
  deriving DecidableEq

def FreshnessState.isFresh : FreshnessState → Bool
  | .fresh => true
  | _ => false

inductive TrustLevel where
  | untrusted
  | low
  | medium
  | high
  | verified
  deriving DecidableEq

def TrustLevel.rank : TrustLevel → Nat
  | .untrusted => 0
  | .low => 1
  | .medium => 2
  | .high => 3
  | .verified => 4

structure TrustPosture where
  workspaceTrust : TrustLevel
  hostTrust : TrustLevel
  environmentTrust : TrustLevel
  toolTrust : TrustLevel
  physicalExecutionTrust : TrustLevel
  controllerArtifactTrust : TrustLevel
  edgeTransportTrust : TrustLevel
  deriving DecidableEq

def TrustPosture.default : TrustPosture := ⟨.medium, .medium, .medium, .medium, .untrusted, .untrusted, .medium⟩

structure DelegationScope where
  allowedTools : List String
  trustPosture : TrustPosture
  deriving DecidableEq

def DelegationScope.failClosed : DelegationScope :=
  ⟨[], ⟨.untrusted, .untrusted, .untrusted, .untrusted, .untrusted, .untrusted, .untrusted⟩⟩

inductive EdgeTransportHealth where
  | healthy
  | degraded (affected : List String)
  | disconnected
  deriving DecidableEq

structure SessionSnapshot where
  sessionId : String
  turnIndex : Nat
  telemetryFreshness : FreshnessState
  spatialFreshness : FreshnessState
  pendingBlocker : Option String
  safePauseState : SafePauseState
  hostTrustPosture : TrustPosture
  environmentTrustPosture : TrustPosture
  edgeTransportState : EdgeTransportHealth
  lastFailure : Option RuntimeFailureKind
  deriving DecidableEq

/-- Whether this snapshot indicates the session can safely execute physical actions. -/
def SessionSnapshot.canExecutePhysical (s : SessionSnapshot) : Bool :=
  s.telemetryFreshness.isFresh && s.spatialFreshness.isFresh && !s.safePauseState.isPaused && s.pendingBlocker.isNone

end Roz.Core
