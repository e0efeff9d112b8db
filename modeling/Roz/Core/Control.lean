import Roz.Core.Safety

/-!
# Command frames and control interfaces (`roz-core/src/command.rs`, `embodiment/binding.rs`)

Frames sent to the hardware, the channels of a control interface and the bindings
of its channels to the joints of an embodiment model.  Units, frame ids and the
manifest's digest are not read by the modelled functions.
-/

namespace Roz.Core
open ExactFloat

structure CommandFrame where
  values : List F64
  deriving DecidableEq

def CommandFrame.zero (n : Nat) : CommandFrame := ⟨List.replicate n (.fin 0)⟩

def CommandFrame.IsZero (f : CommandFrame) : Prop := ∀ v ∈ f.values, v = .fin 0

instance (f : CommandFrame) : Decidable f.IsZero := inferInstanceAs (Decidable (∀ v ∈ f.values, v = .fin 0))

lemma CommandFrame.isZero_zero (n : Nat) : (CommandFrame.zero n).IsZero :=
  fun _ hv => (List.mem_replicate.mp hv).2

inductive CommandInterfaceType where
  | jointVelocity
  | jointPosition
  | jointTorque
  | gripperPosition
  | gripperForce
  | forceTorqueSensor
  | imuSensor
  deriving DecidableEq, Repr

structure ControlChannelDef where
  name : String
  interfaceType : CommandInterfaceType
  deriving DecidableEq, Repr

structure ChannelBinding where
  physicalName : String
  channelIndex : Nat
  deriving DecidableEq, Repr

structure ControlInterfaceManifest where
  channels : List ControlChannelDef
  bindings : List ChannelBinding
  deriving DecidableEq, Repr

structure Joint where
  name : String
  limits : JointSafetyLimits
  deriving DecidableEq

/-- The part of a compiled embodiment runtime that the control profile reads. -/
structure EmbodimentRuntime where
  joints : List Joint
  forceLimits : Option ForceSafetyLimits
  deriving DecidableEq

def EmbodimentRuntime.getJoint (rt : EmbodimentRuntime) (name : String) : Option Joint :=
  rt.joints.find? fun j => j.name == name

end Roz.Core
