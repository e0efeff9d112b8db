import Roz.Embodiment.Frames

/-!
# The three layers of an embodiment

The base model (`model.rs`, with `limits.rs`, `contact.rs`, `binding.rs` and `workspace.rs`), the
calibration overlay (`calibration.rs`) and the safety overlay (`safety_overlay.rs`), over any
number type.  `Codec` stands for the crates that print and hash them: `serde_json`, `sha2` and
`hex`.  A point in time is a number of nanoseconds.
-/

namespace Roz.Embodiment
open ExactFloat

structure JointSafetyLimits (α : Type) where
  jointName : String
  maxVelocity : α
  maxAcceleration : α
  maxJerk : α
  positionMin : α
  positionMax : α
  maxTorque : Option α

structure ForceSafetyLimits (α : Type) where
  maxContactForceN : α
  maxContactTorqueNm : α
  forceRateLimit : α

structure ContactForceEnvelope (α : Type) where
  linkName : String
  maxNormalForceN : α
  maxShearForceN : α
  maxForceRateNPerS : α

/-! ## Workspace zones -/

inductive WorkspaceShape (α : Type) where
  | box (halfExtents : Vec3 α)
  | sphere (radius : α)
  | cylinder (radius halfHeight : α)

inductive ZoneType where
  | allowed
  | restricted
  | humanPresence
  deriving DecidableEq, Repr

structure WorkspaceZone (α : Type) where
  name : String
  shape : WorkspaceShape α
  originFrame : String
  zoneType : ZoneType
  marginM : α

namespace WorkspaceShape
variable {α : Type} [Scalar α]
open Scalar
variable (point : Vec3 α)
def containsPoint : WorkspaceShape α → Bool
  | .box halfExtents =>
    decide (abs point.x ≤ halfExtents.x) && decide (abs point.y ≤ halfExtents.y) &&
      decide (abs point.z ≤ halfExtents.z)
  | .sphere radius =>
    let distSq := mulAdd point.z point.z (mulAdd point.x point.x (point.y * point.y))
    decide (distSq ≤ radius * radius)
  | .cylinder radius halfHeight =>
    let radialSq := mulAdd point.x point.x (point.y * point.y)
    decide (radialSq ≤ radius * radius) && decide (abs point.z ≤ halfHeight)

/-- The signed distance to the boundary: positive inside, negative outside. -/
def signedMargin : WorkspaceShape α → α
  | .box halfExtents =>
    let q : Vec3 α := ⟨abs point.x - halfExtents.x, abs point.y - halfExtents.y, abs point.z - halfExtents.z⟩
    let outside : Vec3 α := ⟨max q.x 0, max q.y 0, max q.z 0⟩
    let outsideDist := sqrt (mulAdd outside.x outside.x (mulAdd outside.y outside.y (outside.z * outside.z)))
    let insideDist := min (max q.x (max q.y q.z)) 0;
    -(outsideDist + insideDist)
  | .sphere radius =>
    let distance := sqrt (mulAdd point.x point.x (mulAdd point.y point.y (point.z * point.z)))
    radius - distance
  | .cylinder radius halfHeight =>
    let radial := sqrt (mulAdd point.x point.x (point.y * point.y))
    let d0 := radial - radius
    let d1 := abs point.z - halfHeight
    let outsideDist := hypot (max d0 0) (max d1 0)
    let insideDist := min (max d0 d1) 0;
    -(outsideDist + insideDist)

end WorkspaceShape

/-! ## The base model -/

inductive JointType where
  | revolute
  | prismatic
  | fixed
  | continuous
  deriving DecidableEq, Repr

structure Inertial (α : Type) where
  mass : α
  centerOfMass : Vec3 α

inductive Geometry (α : Type) where
  | box (halfExtents : Vec3 α)
  | sphere (radius : α)
  | cylinder (radius length : α)
  | mesh (path : String) (scale : Option (Vec3 α))

structure CollisionBody (α : Type) where
  linkName : String
  geometry : Geometry α
  origin : Transform3D α

structure Link (α : Type) where
  name : String
  parentJoint : Option String
  inertial : Option (Inertial α)
  visualGeometry : Option (Geometry α)
  collisionGeometry : Option (Geometry α)

structure Joint (α : Type) where
  name : String
  jointType : JointType
  parentLink : String
  childLink : String
  axis : Vec3 α
  origin : Transform3D α
  limits : JointSafetyLimits α

inductive TcpType where
  | gripper
  | tool
  | sensor
  | custom
  deriving DecidableEq, Repr

structure ToolCenterPoint (α : Type) where
  name : String
  parentLink : String
  offset : Transform3D α
  tcpType : TcpType

inductive SensorType where
  | jointState
  | forceTorque
  | imu
  | camera
  | pointCloud
  | other
  deriving DecidableEq, Repr

structure CameraFrustum (α : Type) where
  fovHorizontalDeg : α
  fovVerticalDeg : α
  nearClipM : α
  farClipM : α
  resolution : Option (Nat × Nat)

structure SensorMount (α : Type) where
  sensorId : String
  parentLink : String
  offset : Transform3D α
  sensorType : SensorType
  isActuated : Bool
  actuationJoint : Option String
  frustum : Option (CameraFrustum α)

structure EmbodimentFamily where
  familyId : String
  description : String

inductive BindingType where
  | jointPosition
  | jointVelocity
  | forceTorque
  | command
  | gripperPosition
  | gripperForce
  | imuOrientation
  | imuAngularVelocity
  | imuLinearAcceleration
  deriving DecidableEq, Repr

inductive SemanticRole where
  | primaryManipulatorJoint (index : Nat)
  | secondaryManipulatorJoint (index : Nat)
  | primaryGripper
  | secondaryGripper
  | baseTranslation
  | baseRotation
  | headPan
  | headTilt
  | primaryCamera
  | wristCamera
  | forceTorqueSensor
  | custom (role : String)

structure ChannelBinding where
  physicalName : String
  channelIndex : Nat
  bindingType : BindingType
  frameId : String
  units : String
  semanticRole : Option SemanticRole

structure EmbodimentModel (α : Type) where
  modelId : String
  modelDigest : String
  embodimentFamily : Option EmbodimentFamily
  links : List (Link α)
  joints : List (Joint α)
  frameTree : FrameTree α
  collisionBodies : List (CollisionBody α)
  allowedCollisionPairs : List (String × String)
  tcps : List (ToolCenterPoint α)
  sensorMounts : List (SensorMount α)
  workspaceZones : List (WorkspaceZone α)
  watchedFrames : List String
  channelBindings : List ChannelBinding

/-! ## The overlays -/

structure SensorCalibration (α : Type) where
  sensorId : String
  offset : List α
  scale : Option (List α)
  calibratedAt : Int

structure CalibrationOverlay (α : Type) where
  calibrationId : String
  calibrationDigest : String
  calibratedAt : Int
  staleAfter : Option Int
  jointOffsets : Std.ExtTreeMap String α
  frameCorrections : Std.ExtTreeMap String (Transform3D α)
  sensorCalibrations : Std.ExtTreeMap String (SensorCalibration α)
  temperatureRange : Option (α × α)
  validForModelDigest : String

structure SafetyOverlay (α : Type) where
  overlayDigest : String
  workspaceRestrictions : List (WorkspaceZone α)
  jointLimitOverrides : Std.ExtTreeMap String (JointSafetyLimits α)
  maxPayloadKg : Option α
  humanPresenceZones : List (WorkspaceZone α)
  forceLimits : Option (ForceSafetyLimits α)
  contactForceEnvelopes : List (ContactForceEnvelope α)
  contactAllowedZones : List (WorkspaceZone α)
  forceRateLimits : Std.ExtTreeMap String α

/-! ## Digests -/

structure Codec (α : Type) where
  model : EmbodimentModel α → String
  calibration : CalibrationOverlay α → String
  sha256Hex : String → String

namespace EmbodimentModel
variable {α : Type}
def ofFrames (frameTree : FrameTree α) : EmbodimentModel α :=
  ⟨"", "", none, [], [], frameTree, [], [], [], [], [], [], []⟩

def computeDigest (codec : Codec α) (model : EmbodimentModel α) : String :=
  codec.sha256Hex (codec.model { model with modelDigest := "" })

variable (model : EmbodimentModel α) (name : String)
def getJoint : Option (Joint α) :=
  model.joints.find? fun j => j.name == name

def getLink : Option (Link α) :=
  model.links.find? fun l => l.name == name

end EmbodimentModel

namespace CalibrationOverlay
variable {α : Type} (codec : Codec α) (overlay : CalibrationOverlay α)
def computeDigest : String :=
  codec.sha256Hex (codec.calibration { overlay with calibrationDigest := "" })

def isValidForModel (modelDigest : String) : Bool :=
  !overlay.calibrationDigest.isEmpty && overlay.calibrationDigest == overlay.computeDigest codec &&
    overlay.validForModelDigest == modelDigest

end CalibrationOverlay
end Roz.Embodiment
