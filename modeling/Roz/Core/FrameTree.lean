import Roz.Lib.ExactFloat
import Mathlib.Data.List.AList

/-!
# The frame tree (`roz-core/src/embodiment/frame_tree.rs`)

Frames with parent pointers, the operations that build them, and transform lookup
through the nearest common ancestor.  The loops that follow parents take fuel: `none`
is a loop that does not end.
-/

namespace Roz.Core
open ExactFloat

/-! ## Transforms -/

structure Vec3 where
  x : F64
  y : F64
  z : F64
  deriving DecidableEq

structure Quat where
  w : F64
  x : F64
  y : F64
  z : F64
  deriving DecidableEq

structure Transform3D where
  translation : Vec3
  rotation : Quat
  timestampNs : Nat
  deriving DecidableEq

namespace Transform3D

def identity : Transform3D := ⟨⟨.fin 0, .fin 0, .fin 0⟩, ⟨.fin 1, .fin 0, .fin 0, .fin 0⟩, 0⟩

def rotatePoint (q : Quat) (p : Vec3) : Vec3 :=
  let one : F64 := .fin 1
  let two : F64 := .fin 2
  let xx := q.x.mul q.x
  let yy := q.y.mul q.y
  let zz := q.z.mul q.z
  let xy := q.x.mul q.y
  let xz := q.x.mul q.z
  let yz := q.y.mul q.z
  let wx := q.w.mul q.x
  let wy := q.w.mul q.y
  let wz := q.w.mul q.z
  ⟨(((one.sub (two.mul (yy.add zz))).mul p.x).add ((two.mul (xy.sub wz)).mul p.y)).add
      ((two.mul (xz.add wy)).mul p.z),
    (((two.mul (xy.add wz)).mul p.x).add ((one.sub (two.mul (xx.add zz))).mul p.y)).add
      ((two.mul (yz.sub wx)).mul p.z),
    (((two.mul (xz.sub wy)).mul p.x).add ((two.mul (yz.add wx)).mul p.y)).add
      ((one.sub (two.mul (xx.add yy))).mul p.z)⟩

def compose (self other : Transform3D) : Transform3D :=
  let q1 := self.rotation
  let q2 := other.rotation
  let rotated := rotatePoint q1 other.translation
  { translation :=
      ⟨self.translation.x.add rotated.x, self.translation.y.add rotated.y, self.translation.z.add rotated.z⟩
    rotation :=
      ⟨(((q1.w.mul q2.w).sub (q1.x.mul q2.x)).sub (q1.y.mul q2.y)).sub (q1.z.mul q2.z),
        (((q1.w.mul q2.x).add (q1.x.mul q2.w)).add (q1.y.mul q2.z)).sub (q1.z.mul q2.y),
        (((q1.w.mul q2.y).sub (q1.x.mul q2.z)).add (q1.y.mul q2.w)).add (q1.z.mul q2.x),
        (((q1.w.mul q2.z).add (q1.x.mul q2.y)).sub (q1.y.mul q2.x)).add (q1.z.mul q2.w)⟩
    timestampNs := Nat.max self.timestampNs other.timestampNs }

def inverse (self : Transform3D) : Transform3D :=
  let q := self.rotation
  let invQ : Quat := ⟨q.w, q.x.neg, q.y.neg, q.z.neg⟩
  let invT := rotatePoint invQ self.translation
  ⟨⟨invT.x.neg, invT.y.neg, invT.z.neg⟩, invQ, self.timestampNs⟩

end Transform3D

/-! ## Frames -/

inductive FrameSource where
  | static
  | dynamic
  | computed
  deriving DecidableEq, Repr

structure FrameNode where
  frameId : String
  parentId : Option String
  staticTransform : Transform3D
  source : FrameSource
  deriving DecidableEq

inductive FrameTreeError where
  | frameNotFound (frameId : String)
  | parentNotFound (parentId : String)
  | noCommonAncestor (source target : String)
  | cycleDetected (frameId : String)
  | staticFrameMutation (frameId : String)
  deriving DecidableEq, Repr

def FrameTreeError.text : FrameTreeError → String
  | .frameNotFound id => "frame not found: " ++ id
  | .parentNotFound id => "parent frame not found: " ++ id
  | .noCommonAncestor a b => "no common ancestor between " ++ a ++ " and " ++ b
  | .cycleDetected id => "cycle detected at frame: " ++ id
  | .staticFrameMutation id =>
    "cannot mutate static frame: " ++ id ++ " — use CalibrationOverlay for static geometry corrections"

structure FrameTree where
  frames : AList fun _ : String => FrameNode
  root : Option String

namespace FrameTree

def new : FrameTree := ⟨∅, none⟩

variable (t : FrameTree) (frameId : String)
def setRoot (source : FrameSource) : FrameTree :=
  ⟨t.frames.insert frameId ⟨frameId, none, .identity, source⟩, some frameId⟩

def addFrame (frameId parentId : String) (transform : Transform3D) (source : FrameSource) :
    Except FrameTreeError FrameTree :=
  if parentId ∈ t.frames then
    .ok { t with frames := t.frames.insert frameId ⟨frameId, some parentId, transform, source⟩ }
  else .error (.parentNotFound parentId)

variable (transform : Transform3D)
def updateTransform : Except FrameTreeError FrameTree :=
  match t.frames.lookup frameId with
  | none => .error (.frameNotFound frameId)
  | some node =>
    if node.source = .static then .error (.staticFrameMutation frameId)
    else .ok { t with frames := t.frames.insert frameId { node with staticTransform := transform } }

def overlayTransform (source : Option FrameSource) : Except FrameTreeError FrameTree :=
  match t.frames.lookup frameId with
  | none => .error (.frameNotFound frameId)
  | some node =>
    .ok { t with
      frames := t.frames.insert frameId
        { node with staticTransform := transform, source := source.getD node.source } }

/-! ## Lookup -/

/-- The loop of `chain_to_root`.  Each turn visits another frame, so `frames.len() + 1` turns
are enough. -/
def chainLoop (t : FrameTree) (frameId : String) : (fuel : Nat) → (current : String) → (visited chain : List String) →
    Option (Except FrameTreeError (List String))
  | 0, _, _, _ => none
  | fuel + 1, current, visited, chain =>
    if current ∈ visited then some (.error (.cycleDetected frameId))
    else
      match t.frames.lookup current with
      | none => some (.error (.frameNotFound current))
      | some node =>
        match node.parentId with
        | some parent => t.chainLoop frameId fuel parent (current :: visited) (chain ++ [current])
        | none => some (.ok (chain ++ [current]))

def chainToRoot : Option (Except FrameTreeError (List String)) :=
  t.chainLoop frameId (t.frames.keys.length + 1) frameId [] []

/-- The loop of `compose_chain_to`.  It does not look for cycles: past `frames.len()` turns it
goes round one for ever. -/
def composeLoop (t : FrameTree) (start ancestor : String) : (fuel : Nat) → (current : String) →
    (result : Transform3D) → Option (Except FrameTreeError Transform3D)
  | fuel, current, result =>
    if current = ancestor then some (.ok result)
    else
      match fuel with
      | 0 => none
      | fuel + 1 =>
        match t.frames.lookup current with
        | none => some (.error (.frameNotFound current))
        | some node =>
          match node.parentId with
          | none => some (.error (.noCommonAncestor start ancestor))
          | some parent => t.composeLoop start ancestor fuel parent (node.staticTransform.compose result)

def composeChainTo (start ancestor : String) : Option (Except FrameTreeError Transform3D) :=
  t.composeLoop start ancestor t.frames.keys.length start .identity

/-- `T_from_to`, through the first frame of the target's chain that is in the source's chain. -/
def lookupTransform (source target : String) : Option (Except FrameTreeError Transform3D) :=
  if source = target then some (.ok .identity)
  else
    match t.chainToRoot source with
    | none => none
    | some (.error e) => some (.error e)
    | some (.ok sourceChain) =>
      match t.chainToRoot target with
      | none => none
      | some (.error e) => some (.error e)
      | some (.ok targetChain) =>
        match targetChain.find? fun f => f ∈ sourceChain with
        | none => some (.error (.noCommonAncestor source target))
        | some common =>
          match t.composeChainTo source common with
          | none => none
          | some (.error e) => some (.error e)
          | some (.ok commonSource) =>
            match t.composeChainTo target common with
            | none => none
            | some (.error e) => some (.error e)
            | some (.ok commonTarget) => some (.ok (commonSource.inverse.compose commonTarget))

end FrameTree
end Roz.Core
