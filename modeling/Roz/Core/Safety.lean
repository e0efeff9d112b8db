import Roz.Lib.ExactFloat

/-!
# Safety limits and interventions (`roz-core/src/embodiment/limits.rs`, `controller/intervention.rs`)

Per-joint and force limits, and the record of what a safety filter changed.  The
reason of an intervention keeps the values that its text is built from; the text
needs the standard library's float formatting, which is a parameter of
`InterventionReason.text`.
-/

namespace Roz.Core
open ExactFloat

structure JointSafetyLimits where
  jointName : String
  maxVelocity : F64
  maxAcceleration : F64
  positionMin : F64
  positionMax : F64
  maxTorque : Option F64
  deriving DecidableEq

namespace JointSafetyLimits

/-- Clamp a velocity to the joint's maximum; `none` is a panic of `f64::clamp`. -/
def clampVelocity (l : JointSafetyLimits) (velocity : F64) : Option F64 :=
  F64.clamp l.maxVelocity.neg l.maxVelocity velocity

def clampAcceleration (l : JointSafetyLimits) (acceleration : F64) : Option F64 :=
  F64.clamp l.maxAcceleration.neg l.maxAcceleration acceleration

end JointSafetyLimits

structure ForceSafetyLimits where
  maxContactForceN : F64
  maxContactTorqueNm : F64
  deriving DecidableEq

inductive InterventionKind where
  | velocityClamp
  | accelerationLimit
  | positionLimit
  | unconfiguredJoint
  | nanReject
  | forceLimit
  | torqueLimit
  deriving DecidableEq, Repr

inductive InterventionReason where
  | nonFinite
  | velocity (cmd limit : F64)
  | acceleration (accel limit : F64)
  | position (pos lower upper : F64)
  | unconfigured (index : Nat)
  | contactForce (force limit : F64)
  | contactTorque (torque limit : F64)
  deriving DecidableEq

/-- The text of a reason; `display` is `{}` and `fixed n` is `{:.n}` of an `f64`. -/
def InterventionReason.text (display : F64 → String) (fixed : Nat → F64 → String) : InterventionReason → String
  | .nonFinite => "NaN/Inf output replaced with zero"
  | .velocity cmd limit => "velocity " ++ display cmd ++ " exceeds limit " ++ display limit
  | .acceleration accel limit => "acceleration " ++ fixed 2 accel ++ " exceeds limit " ++ display limit
  | .position pos lower upper =>
      "position " ++ display pos ++ " at limit [" ++ display lower ++ ", " ++ display upper ++ "]"
  | .unconfigured i => "no safety limits configured for actuator index " ++ toString i
  | .contactForce force limit =>
      "contact force " ++ fixed 1 force ++ "N exceeds limit " ++ display limit ++ "N"
  | .contactTorque torque limit =>
      "contact torque " ++ fixed 1 torque ++ "Nm exceeds limit " ++ display limit ++ "Nm"

structure SafetyIntervention where
  channel : String
  rawValue : F64
  clampedValue : F64
  kind : InterventionKind
  reason : InterventionReason
  deriving DecidableEq

end Roz.Core
