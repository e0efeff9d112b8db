import Roz.Lib.Scalar
import Roz.Lib.Ascent
import Roz.Core.FrameTree

/-!
# Frames over any number type (`roz-core/src/embodiment/frame_tree.rs`)

The rigid transforms and the frame tree that the compiled runtime holds.  The maps are sorted,
as `BTreeMap` is, and equal when they hold the same entries.

A lookup always returns, on any tree, cyclic ones included: the chains to the root are checked
for cycles, and the composition only climbs a chain that passed.  What it composes are the
frames below the meeting point on the two chains (`lookupTransform_ok_iff`).
-/

namespace Roz.Embodiment
open ExactFloat Ascent List Option
open Roz.Core (FrameSource FrameTreeError)

/-! ## Transforms -/

structure Vec3 (α : Type) where
  x : α
  y : α
  z : α
  deriving DecidableEq

structure Quat (α : Type) where
  w : α
  x : α
  y : α
  z : α
  deriving DecidableEq

structure Transform3D (α : Type) where
  translation : Vec3 α
  rotation : Quat α
  timestampNs : Nat
  deriving DecidableEq

namespace Transform3D
variable {α : Type} [Arith α]
def identity : Transform3D α := ⟨⟨0, 0, 0⟩, ⟨1, 0, 0, 0⟩, 0⟩

def rotatePoint (q : Quat α) (p : Vec3 α) : Vec3 α :=
  let two : α := Arith.two
  let xx := q.x * q.x
  let yy := q.y * q.y
  let zz := q.z * q.z
  let xy := q.x * q.y
  let xz := q.x * q.z
  let yz := q.y * q.z
  let wx := q.w * q.x
  let wy := q.w * q.y
  let wz := q.w * q.z
  ⟨(1 - two * (yy + zz)) * p.x + two * (xy - wz) * p.y + two * (xz + wy) * p.z,
    two * (xy + wz) * p.x + (1 - two * (xx + zz)) * p.y + two * (yz - wx) * p.z,
    two * (xz - wy) * p.x + two * (yz + wx) * p.y + (1 - two * (xx + yy)) * p.z⟩

def compose (self other : Transform3D α) : Transform3D α :=
  let q1 := self.rotation
  let q2 := other.rotation
  let rotated := rotatePoint q1 other.translation
  { translation :=
      ⟨self.translation.x + rotated.x, self.translation.y + rotated.y, self.translation.z + rotated.z⟩
    rotation :=
      ⟨q1.w * q2.w - q1.x * q2.x - q1.y * q2.y - q1.z * q2.z, q1.w * q2.x + q1.x * q2.w + q1.y * q2.z - q1.z * q2.y,
        q1.w * q2.y - q1.x * q2.z + q1.y * q2.w + q1.z * q2.x,
        q1.w * q2.z + q1.x * q2.y - q1.y * q2.x + q1.z * q2.w⟩
    timestampNs := Nat.max self.timestampNs other.timestampNs }

/-- The inverse, with the conjugate for the inverse of a unit quaternion. -/
def inverse (self : Transform3D α) : Transform3D α :=
  let q := self.rotation
  let invQ : Quat α := ⟨q.w, -q.x, -q.y, -q.z⟩
  let invT := rotatePoint invQ self.translation
  ⟨⟨-invT.x, -invT.y, -invT.z⟩, invQ, self.timestampNs⟩

end Transform3D

/-! ## Frames -/

structure FrameNode (α : Type) where
  frameId : String
  parentId : Option String
  staticTransform : Transform3D α
  source : FrameSource
  deriving DecidableEq

structure FrameTree (α : Type) where
  frames : Std.ExtTreeMap String (FrameNode α)
  root : Option String

namespace FrameTree
variable {α : Type}
def new : FrameTree α := ⟨∅, none⟩

variable (t : FrameTree α) (frameId : String)
def frameExists : Bool := t.frames.contains frameId

def getFrame : Option (FrameNode α) := t.frames[frameId]?

def allFrameIds : List String := t.frames.keys

def setRoot [Arith α] (t : FrameTree α) (frameId : String) (source : FrameSource) : FrameTree α :=
  ⟨t.frames.insert frameId ⟨frameId, none, .identity, source⟩, some frameId⟩

def addFrame (frameId parentId : String) (transform : Transform3D α) (source : FrameSource) :
    Except FrameTreeError (FrameTree α) :=
  if t.frameExists parentId then
    .ok { t with frames := t.frames.insert frameId ⟨frameId, some parentId, transform, source⟩ }
  else .error (.parentNotFound parentId)

def overlayTransform (transform : Transform3D α) (source : Option FrameSource) : Except FrameTreeError (FrameTree α) :=
  match t.getFrame frameId with
  | none => .error (.frameNotFound frameId)
  | some node =>
    .ok { t with
      frames := t.frames.insert frameId
        { node with staticTransform := transform, source := source.getD node.source } }

/-! ## Climbing to the root -/

/-- The loop of `chain_to_root`.  Each turn visits another frame, so `frames.len() + 1` turns
are enough. -/
def chainLoop (t : FrameTree α) (frameId : String) : (fuel : Nat) → (current : String) →
    (visited chain : List String) → Option (Except FrameTreeError (List String))
  | 0, _, _, _ => none
  | fuel + 1, current, visited, chain =>
    if current ∈ visited then some (.error (.cycleDetected frameId))
    else
      match t.getFrame current with
      | none => some (.error (.frameNotFound current))
      | some node =>
        match node.parentId with
        | some parent => t.chainLoop frameId fuel parent (current :: visited) (chain ++ [current])
        | none => some (.ok (chain ++ [current]))

def up (f : String) : Option (Option String) := (t.getFrame f).map FrameNode.parentId

variable {t : FrameTree α} {path : List String} {f : String}
lemma mem_allFrameIds : f ∈ t.allFrameIds ↔ (t.getFrame f).isSome := by
  rw [allFrameIds, Std.ExtTreeMap.mem_keys, getFrame, Std.ExtTreeMap.isSome_getElem?_iff_mem]

lemma frameExists_iff : t.frameExists f = true ↔ (t.getFrame f).isSome := by
  rw [frameExists, getFrame, Std.ExtTreeMap.contains_iff_mem, Std.ExtTreeMap.isSome_getElem?_iff_mem]

section Chain
variable {t : FrameTree α} {current : String} {path : List String}
lemma getFrame_of_up {v} (h : t.up current = some v) :
    ∃ node, t.getFrame current = some node ∧ node.parentId = v := map_eq_some_iff.1 h

lemma length_visited_le {visited : List String} (hnodup : visited.Nodup)
    (hmem : ∀ x ∈ visited, x ∈ t.allFrameIds) : visited.length ≤ t.allFrameIds.length :=
  (subperm_of_subset hnodup hmem).length_le

variable (frameId : String)
lemma chainLoop_isSome : ∀ fuel current visited chain, visited.Nodup → (∀ x ∈ visited, x ∈ t.allFrameIds) →
    t.allFrameIds.length + 1 ≤ fuel + visited.length → (t.chainLoop frameId fuel current visited chain).isSome := by
  intro fuel
  induction fuel with
  | zero =>
    intro current visited chain hnodup hmem hfuel
    have := length_visited_le hnodup hmem
    omega
  | succ fuel ih =>
    intro current visited chain hnodup hmem hfuel
    rw [chainLoop]
    by_cases hseen : current ∈ visited
    · rw [if_pos hseen]
      rfl
    rw [if_neg hseen]
    cases hnode : t.getFrame current with
    | none => rfl
    | some node =>
      cases hparent : node.parentId with
      | none => simp only [hparent, isSome_some]
      | some parent =>
        simp only [hparent]
        refine ih parent _ _ (nodup_cons.2 ⟨hseen, hnodup⟩) ?_ (by rw [length_cons]; omega)
        intro x hx
        rcases mem_cons.1 hx with rfl | hx
        · rw [mem_allFrameIds, hnode]
          rfl
        · exact hmem x hx

lemma chainLoop_ok : ∀ fuel current visited chain, t.chainLoop frameId fuel current visited chain = some (.ok path) →
      ∃ rest, Climb t.up current rest ∧ path = chain ++ rest := by
  intro fuel
  induction fuel with
  | zero =>
    intro current visited chain h
    cases h
  | succ fuel ih =>
    intro current visited chain h
    rw [chainLoop] at h
    by_cases hseen : current ∈ visited
    · rw [if_pos hseen] at h
      cases h
    rw [if_neg hseen] at h
    cases hnode : t.getFrame current with
    | none =>
      rw [hnode] at h
      cases h
    | some node =>
      simp only [hnode] at h
      cases hparent : node.parentId with
      | none =>
        simp only [hparent, Option.some.injEq, Except.ok.injEq] at h
        exact ⟨[current], .top (by simp [up, hnode, hparent]), h.symm⟩
      | some parent =>
        simp only [hparent] at h
        obtain ⟨rest, hclimb, rfl⟩ := ih _ _ _ h
        exact ⟨current :: rest, .step (by simp [up, hnode, hparent]) hclimb, by simp⟩

lemma chainLoop_of_climb (h : Climb t.up current path) :
    ∀ fuel visited chain, path.length ≤ fuel → (∀ x ∈ path, x ∉ visited) →
      t.chainLoop frameId fuel current visited chain = some (.ok (chain ++ path)) := by
  refine h.collect (t.chainLoop frameId) (some <| .ok ·) (fun _ f visited chain htop hnew => ?_)
    fun _ f parent visited chain hstep hnew => ?_
  · obtain ⟨node, hnode, hparent⟩ := getFrame_of_up htop
    simp [chainLoop, hnew, hnode, hparent]
  · obtain ⟨node, hnode, hparent⟩ := getFrame_of_up hstep
    simp [chainLoop, hnew, hnode, hparent]

lemma climb_length_le (h : Climb t.up current path) : path.length ≤ t.allFrameIds.length := by
  refine length_visited_le h.nodup fun x hx => ?_
  have hup := h.up_isSome hx
  rw [up, isSome_map] at hup
  exact mem_allFrameIds.2 hup

end Chain

def chainToRoot (t : FrameTree α) (frameId : String) : Except FrameTreeError (List String) :=
  (t.chainLoop frameId (t.allFrameIds.length + 1) frameId [] []).get
    (chainLoop_isSome frameId _ _ _ _ List.nodup_nil nofun (Nat.le_refl _))

lemma chainToRoot_ok_iff {f} : t.chainToRoot f = .ok path ↔ Climb t.up f path := by
  constructor
  · intro h
    have hloop : t.chainLoop f (t.allFrameIds.length + 1) f [] [] = some (.ok path) :=
      (some_get _).symm.trans (congrArg some h)
    obtain ⟨rest, hclimb, rfl⟩ := chainLoop_ok f _ _ _ _ hloop
    exact hclimb
  · intro h
    have hloop := chainLoop_of_climb f h (t.allFrameIds.length + 1) [] []
      (Nat.le_succ_of_le (climb_length_le h)) nofun
    simp only [chainToRoot, hloop, get_some, nil_append]

/-! ## Lookup -/

variable [Arith α]

/-- The loop of `compose_chain_to`.  It does not look for cycles: past `frames.len()` turns it
goes round one for ever. -/
def composeLoop (t : FrameTree α) (start ancestor : String) : (fuel : Nat) → (current : String) →
    (result : Transform3D α) → Option (Except FrameTreeError (Transform3D α))
  | fuel, current, result =>
    if current = ancestor then some (.ok result)
    else
      match fuel with
      | 0 => none
      | fuel + 1 =>
        match t.getFrame current with
        | none => some (.error (.frameNotFound current))
        | some node =>
          match node.parentId with
          | none => some (.error (.noCommonAncestor start ancestor))
          | some parent => t.composeLoop start ancestor fuel parent (node.staticTransform.compose result)

def composeChainTo (t : FrameTree α) (start ancestor : String) : Option (Except FrameTreeError (Transform3D α)) :=
  t.composeLoop start ancestor t.allFrameIds.length start .identity

/-- The body of `lookup_transform`, with `none` for a composition that does not end. -/
def lookupRun (t : FrameTree α) (source target : String) : Option (Except FrameTreeError (Transform3D α)) :=
  if source = target then some (.ok .identity)
  else
    match t.chainToRoot source with
    | .error e => some (.error e)
    | .ok sourceChain =>
      match t.chainToRoot target with
      | .error e => some (.error e)
      | .ok targetChain =>
        match targetChain.find? fun f => f ∈ sourceChain with
        | none => some (.error (.noCommonAncestor source target))
        | some common =>
          match t.composeChainTo source common with
          | none => none
          | some (.error e) => some (.error e)
          | some (.ok commonSource) =>
            match t.composeChainTo target common with
            | none => none
            | some (.error e) => some (.error e)
            | some (.ok commonTarget) => some (.ok (commonSource.inverse.compose commonTarget))

def below (common : String) (chain : List String) : List String := chain.takeWhile (· ≠ common)

def mount (t : FrameTree α) (result : Transform3D α) (f : String) : Transform3D α :=
  match t.getFrame f with
  | some node => node.staticTransform.compose result
  | none => result

/-- The transforms of the frames of a chain, composed from the bottom up. -/
def along (t : FrameTree α) (frames : List String) : Transform3D α := frames.foldl t.mount .identity

lemma composeChainTo_of_climb {start ancestor} (h : Climb t.up start path) (hmem : ancestor ∈ path) :
    t.composeChainTo start ancestor = some (.ok (t.along (below ancestor path))) := by
  refine h.accumulate (t.composeLoop start ancestor) (some <| .ok ·) t.mount (fun fuel result => ?_)
    (fun fuel f parent result hne hstep => ?_) hmem _ _ (((takeWhile_sublist _).length_le).trans (climb_length_le h))
  · unfold composeLoop
    rw [if_pos rfl]
  · obtain ⟨node, hnode, hparent⟩ := getFrame_of_up hstep
    rw [composeLoop, if_neg hne]
    simp [hnode, hparent, mount]

section Lookup
variable {t : FrameTree α} {source target common : String} {sourceChain targetChain : List String}
lemma mem_of_meet (h : (targetChain.find? fun f => f ∈ sourceChain) = some common) :
    common ∈ targetChain ∧ common ∈ sourceChain :=
  ⟨mem_of_find?_eq_some h, by simpa using find?_some h⟩

lemma lookupRun_of_climb (hne : source ≠ target) (hsource : Climb t.up source sourceChain)
    (htarget : Climb t.up target targetChain) (hmeet : (targetChain.find? fun f => f ∈ sourceChain) = some common) :
    t.lookupRun source target =
      some (.ok ((t.along (below common sourceChain)).inverse.compose (t.along (below common targetChain)))) := by
  obtain ⟨htargetMem, hsourceMem⟩ := mem_of_meet hmeet
  rw [lookupRun, if_neg hne]
  simp only [chainToRoot_ok_iff.2 hsource, chainToRoot_ok_iff.2 htarget, hmeet,
    composeChainTo_of_climb hsource hsourceMem, composeChainTo_of_climb htarget htargetMem]

lemma lookupRun_isSome (t : FrameTree α) (source target : String) : (t.lookupRun source target).isSome := by
  by_cases heq : source = target
  · rw [lookupRun, if_pos heq]
    rfl
  cases hsource : t.chainToRoot source with
  | error e =>
    rw [lookupRun, if_neg heq]
    simp only [hsource, isSome_some]
  | ok sourceChain =>
    cases htarget : t.chainToRoot target with
    | error e =>
      rw [lookupRun, if_neg heq]
      simp only [hsource, htarget, isSome_some]
    | ok targetChain =>
      cases hmeet : targetChain.find? fun f => f ∈ sourceChain with
      | none =>
        rw [lookupRun, if_neg heq]
        simp only [hsource, htarget, hmeet, isSome_some]
      | some common =>
        rw [lookupRun_of_climb heq (chainToRoot_ok_iff.1 hsource) (chainToRoot_ok_iff.1 htarget) hmeet]
        rfl

end Lookup

/-- `T_from_to`, through the first frame of the target's chain that is in the source's chain. -/
def lookupTransform (t : FrameTree α) (source target : String) : Except FrameTreeError (Transform3D α) :=
  (t.lookupRun source target).get (t.lookupRun_isSome source target)

lemma lookupTransform_self (t : FrameTree α) (f : String) : t.lookupTransform f f = .ok .identity := by
  simp [lookupTransform, lookupRun]

lemma lookupTransform_ok_iff {source target transform} (hne : source ≠ target) :
    t.lookupTransform source target = .ok transform ↔
      ∃ sourceChain targetChain common, Climb t.up source sourceChain ∧ Climb t.up target targetChain ∧
        (targetChain.find? fun f => f ∈ sourceChain) = some common ∧
        transform = (t.along (below common sourceChain)).inverse.compose (t.along (below common targetChain)) := by
  constructor
  · intro h
    have hrun : t.lookupRun source target = some (.ok transform) :=
      (some_get _).symm.trans (congrArg some h)
    cases hsource : t.chainToRoot source with
    | error e => simp [lookupRun, hne, hsource] at hrun
    | ok sourceChain =>
      cases htarget : t.chainToRoot target with
      | error e => simp [lookupRun, hne, hsource, htarget] at hrun
      | ok targetChain =>
        cases hmeet : targetChain.find? fun f => f ∈ sourceChain with
        | none => simp [lookupRun, hne, hsource, htarget, hmeet] at hrun
        | some common =>
          have hs := chainToRoot_ok_iff.1 hsource
          have ht := chainToRoot_ok_iff.1 htarget
          rw [lookupRun_of_climb hne hs ht hmeet, Option.some.injEq, Except.ok.injEq] at hrun
          exact ⟨sourceChain, targetChain, common, hs, ht, hmeet, hrun.symm⟩
  · rintro ⟨sourceChain, targetChain, common, hs, ht, hmeet, rfl⟩
    simp only [lookupTransform, lookupRun_of_climb hne hs ht hmeet, get_some]

def Connected (t : FrameTree α) (a b : String) : Prop :=
  ∃ chainA chainB, Climb t.up a chainA ∧ Climb t.up b chainB ∧ chainA.getLast? = chainB.getLast?

omit [Arith α] in
lemma exists_meet {a} {chainA chainB : List String} (ha : Climb t.up a chainA)
    (hlast : chainA.getLast? = chainB.getLast?) : ∃ common, (chainB.find? fun f => f ∈ chainA) = some common := by
  obtain ⟨r, hmemA, hr, -⟩ := ha.exists_getLast?
  have hmemB : r ∈ chainB := mem_of_getLast? (hlast ▸ hr)
  cases hmeet : chainB.find? fun f => f ∈ chainA with
  | some common => exact ⟨common, rfl⟩
  | none => exact absurd (decide_eq_true hmemA) (find?_eq_none.1 hmeet r hmemB)

lemma connected_iff {a b : String} (hne : a ≠ b) :
    (∃ transform, t.lookupTransform a b = .ok transform) ↔ t.Connected a b := by
  constructor
  · rintro ⟨transform, h⟩
    obtain ⟨chainA, chainB, common, ha, hb, hmeet, -⟩ := (lookupTransform_ok_iff hne).1 h
    obtain ⟨hmemB, hmemA⟩ := mem_of_meet hmeet
    exact ⟨chainA, chainB, ha, hb, ha.getLast?_of_meet hb hmemA hmemB⟩
  · rintro ⟨chainA, chainB, ha, hb, hlast⟩
    obtain ⟨common, hmeet⟩ := exists_meet ha hlast
    exact ⟨_, (lookupTransform_ok_iff hne).2 ⟨chainA, chainB, common, ha, hb, hmeet, rfl⟩⟩

/-- The frames whose transforms a lookup composes: those below the meeting point. -/
def composedFrames (t : FrameTree α) (source target : String) : List String :=
  if source = target then []
  else
    match t.chainToRoot source, t.chainToRoot target with
    | .ok sourceChain, .ok targetChain =>
      match targetChain.find? fun f => f ∈ sourceChain with
      | some common => below common sourceChain ++ below common targetChain
      | none => []
    | _, _ => []

omit [Arith α] in
lemma composedFrames_of_climb {source target common sourceChain targetChain}
    (hne : source ≠ target) (hsource : Climb t.up source sourceChain) (htarget : Climb t.up target targetChain)
    (hmeet : (targetChain.find? fun f => f ∈ sourceChain) = some common) :
    t.composedFrames source target = below common sourceChain ++ below common targetChain := by
  rw [composedFrames, if_neg hne, chainToRoot_ok_iff.2 hsource, chainToRoot_ok_iff.2 htarget]
  simp only [hmeet]

end FrameTree
end Roz.Embodiment
