import Roz.Core.Session
import Roz.Embodiment.Runtime

/-!
# Frame snapshots (`frame_snapshot.rs`, `embodiment_runtime.rs`)

A snapshot keeps the compiled frame graph, the transforms that joint positions and live sensors
give at one time, and a freshness for every frame.  Poses are resolved in the graph with those
transforms laid over it (`overlayTree_up`, `frameFreshness_snapshot`).
-/

namespace Roz.Embodiment
open ExactFloat FrameTree List
open Roz.Core (FrameSource FrameTreeError FreshnessState)

inductive ClockDomain where
  | monotonic
  | wallClock
  | sensorClock
  deriving DecidableEq, Repr

structure TimestampedTransform (α : Type) where
  frameId : String
  parentId : Option String
  transform : Transform3D α
  freshness : FreshnessState
  source : FrameSource

structure WorldAnchor (α : Type) where
  anchorId : String
  frameId : String
  transform : Transform3D α
  source : String
  confidence : α

structure FrameSnapshotInput (α : Type) where
  clockDomain : ClockDomain := .monotonic
  jointPositions : Std.ExtTreeMap String α := ∅
  dynamicTransforms : List (TimestampedTransform α) := []
  worldAnchors : List (WorldAnchor α) := []
  validationIssues : List String := []

structure FrameGraphSnapshot (α : Type) where
  snapshotId : Nat
  timestampNs : Nat
  clockDomain : ClockDomain
  frameTree : FrameTree α
  freshness : FreshnessState
  modelDigest : String
  calibrationDigest : String
  activeCalibrationId : Option String
  dynamicTransforms : List (TimestampedTransform α)
  watchedFrames : List String
  frameFreshness : Std.ExtTreeMap String FreshnessState
  sources : List FrameSource
  worldAnchors : List (WorldAnchor α)
  validationIssues : List String

variable {α : Type}
section Joints
variable [Scalar α]
open Scalar
variable (axis : Vec3 α)
def normalizedAxis : Option (Vec3 α) :=
  let normSq := mulAdd axis.x axis.x (mulAdd axis.y axis.y (axis.z * axis.z))
  if normSq ≤ epsilon then none
  else
    let norm := sqrt normSq
    some ⟨axis.x / norm, axis.y / norm, axis.z / norm⟩

def rotationFromAxisAngle (angleRad : α) : Quat α :=
  let halfAngle := angleRad * half
  let sinHalf := sin halfAngle
  ⟨cos halfAngle, axis.x * sinHalf, axis.y * sinHalf, axis.z * sinHalf⟩

variable (joint : Joint α) (position : α) (timestampNs : Nat)
def jointMotion : Except String (Transform3D α) :=
  match joint.jointType with
  | .revolute | .continuous =>
    match normalizedAxis joint.axis with
    | none => .error ("joint `" ++ joint.name ++ "` has invalid zero-length axis")
    | some axis => .ok ⟨⟨0, 0, 0⟩, rotationFromAxisAngle axis position, timestampNs⟩
  | .prismatic =>
    match normalizedAxis joint.axis with
    | none => .error ("joint `" ++ joint.name ++ "` has invalid zero-length axis")
    | some axis =>
      .ok ⟨⟨axis.x * position, axis.y * position, axis.z * position⟩, ⟨1, 0, 0, 0⟩, timestampNs⟩
  | .fixed => .ok .identity

def jointPositionTransform : Except String (Transform3D α) :=
  match jointMotion joint position timestampNs with
  | .error error => .error error
  | .ok motion => .ok (joint.origin.compose motion)

end Joints

def collect {β γ : Type} (results : List (Except β γ)) : List γ × List β :=
  (results.filterMap fun r => match r with | .ok value => some value | .error _ => none,
    results.filterMap fun r => match r with | .ok _ => none | .error note => some note)

namespace EmbodimentRuntime
variable (rt : EmbodimentRuntime α)
def jointStateTransform [Scalar α] (timestampNs : Nat) (jointName : String) (position : α) :
    Except String (TimestampedTransform α) :=
  match rt.model.getJoint jointName with
  | none => .error ("joint position input references missing joint `" ++ jointName ++ "`")
  | some joint =>
    if !rt.frameGraph.frameExists joint.parentLink then
      .error ("joint `" ++ joint.name ++ "` references missing parent link frame `" ++ joint.parentLink ++ "`")
    else if !rt.frameGraph.frameExists joint.childLink then
      .error ("joint `" ++ joint.name ++ "` references missing child link frame `" ++ joint.childLink ++ "`")
    else
      match jointPositionTransform joint position timestampNs with
      | .error error => .error error
      | .ok transform =>
        .ok
          { frameId := joint.childLink
            parentId := some joint.parentLink
            transform := transform
            freshness := if timestampNs = 0 then .unknown else .fresh
            source := .computed }

def jointStateTransforms [Scalar α] (jointPositions : Std.ExtTreeMap String α) (timestampNs : Nat) :
    List (TimestampedTransform α) × List String :=
  let (transforms, issues) := collect (jointPositions.toList.map fun (jointName, position) =>
    rt.jointStateTransform timestampNs jointName position)
  (transforms, sortDedup issues)

/-! ## Building a snapshot -/

def sourceFreshness : FrameSource → FreshnessState
  | .static => .fresh
  | .dynamic | .computed => .unknown

def graphFreshness : Std.ExtTreeMap String FreshnessState :=
  rt.frameGraph.allFrameIds.foldl (fun freshness frameId =>
    match rt.frameGraph.getFrame frameId with
    | none => freshness
    | some node => freshness.insert frameId (sourceFreshness node.source)) ∅

def pushSource (sources : List FrameSource) (source : FrameSource) : List FrameSource :=
  if source ∈ sources then sources else sources ++ [source]

def transformIssues (timestampNs : Nat) (transform : TimestampedTransform α) : List String :=
  match rt.frameGraph.getFrame transform.frameId with
  | none => ["dynamic transform references missing frame `" ++ transform.frameId ++ "`"]
  | some node =>
    (match transform.parentId with
      | none => []
      | some parentId =>
        if node.parentId ≠ some parentId then
          ["dynamic transform for `" ++ transform.frameId ++ "` declared parent `" ++ parentId ++
            "` but compiled graph uses `" ++ node.parentId.getD "<root>" ++ "`"]
        else []) ++
      if timestampNs ≠ 0 ∧ transform.transform.timestampNs > timestampNs then
        ["dynamic transform for `" ++ transform.frameId ++ "` has timestamp " ++
          toString transform.transform.timestampNs ++ " newer than snapshot " ++ toString timestampNs]
      else []

/-- All transforms that are given: those of the joints, then those of the input. -/
def givenTransforms [Scalar α] (timestampNs : Nat) (input : FrameSnapshotInput α) : List (TimestampedTransform α) :=
  (rt.jointStateTransforms input.jointPositions timestampNs).1 ++ input.dynamicTransforms

/-- Build a snapshot at the given time from explicit dynamic transforms and anchors. -/
def buildFrameSnapshotWithInput [Scalar α] (snapshotId timestampNs : Nat) (input : FrameSnapshotInput α) :
    FrameGraphSnapshot α :=
  let given := rt.givenTransforms timestampNs input
  let dynamicTransforms := given.filter fun transform => rt.frameGraph.frameExists transform.frameId
  let frameFreshness := dynamicTransforms.foldl (fun freshness transform =>
    freshness.insert transform.frameId transform.freshness) rt.graphFreshness
  let graphSources := (rt.frameGraph.allFrameIds.filterMap rt.frameGraph.getFrame).map (·.source)
  let (worldAnchors, lostAnchors) := input.worldAnchors.partition fun anchor =>
    rt.frameGraph.frameExists anchor.frameId
  let freshnessInputs :=
    if rt.watchedFrames.isEmpty then frameFreshness.toList.map (·.2)
    else rt.watchedFrames.filterMap fun frameId => frameFreshness[frameId]?
  { snapshotId := snapshotId
    timestampNs := timestampNs
    clockDomain := input.clockDomain
    frameTree := rt.frameGraph
    freshness :=
      if !freshnessInputs.isEmpty && freshnessInputs.all FreshnessState.isFresh then .fresh else .unknown
    modelDigest := rt.modelDigest
    calibrationDigest := rt.calibrationDigest
    activeCalibrationId := rt.activeCalibrationId
    dynamicTransforms := dynamicTransforms
    watchedFrames := rt.watchedFrames
    frameFreshness := frameFreshness
    sources := (graphSources ++ dynamicTransforms.map (·.source)).foldl pushSource []
    worldAnchors := worldAnchors
    validationIssues := sortDedup (rt.validationIssues ++
      (rt.jointStateTransforms input.jointPositions timestampNs).2 ++ input.validationIssues ++
      given.flatMap (rt.transformIssues timestampNs) ++
      lostAnchors.map fun anchor =>
        "world anchor `" ++ anchor.anchorId ++ "` references missing frame `" ++ anchor.frameId ++ "`") }

/-! ## Resolving poses -/

structure ResolvedFramePose (α : Type) where
  frameId : String
  relativeTo : String
  transform : Transform3D α
  freshness : FreshnessState

abbrev WatchedPoseProjection := ResolvedFramePose

end EmbodimentRuntime

namespace FrameGraphSnapshot

def overlayStep (s : FrameTree α × List String) (transform : TimestampedTransform α) : FrameTree α × List String :=
  match s.1.overlayTransform transform.frameId transform.transform (some transform.source) with
  | .ok tree => (tree, s.2)
  | .error error =>
    (s.1, s.2 ++ ["failed to overlay dynamic transform for `" ++ transform.frameId ++
      "` during snapshot projection: " ++ error.text])

variable (snapshot : FrameGraphSnapshot α)

/-- The frame tree with the captured transforms laid over it, and the notes. -/
def overlaySnapshotTree : FrameTree α × List String :=
  let (tree, issues) := snapshot.dynamicTransforms.foldl overlayStep (snapshot.frameTree, [])
  (tree, sortDedup issues)

def projectionTree : FrameTree α := snapshot.overlaySnapshotTree.1

def freshnessOf (frameId : String) : FreshnessState :=
  snapshot.frameFreshness[frameId]?.getD .unknown

end FrameGraphSnapshot

namespace EmbodimentRuntime
variable [Arith α] (rt : EmbodimentRuntime α) (snapshot : FrameGraphSnapshot α)
def resolveFramePose (frameId : String) (relativeTo : Option String) : Except String (ResolvedFramePose α) :=
  match relativeTo.or (snapshot.frameTree.root.or rt.frameGraph.root) with
  | none => .error "frame snapshot missing root frame"
  | some referenceFrame =>
    if !snapshot.projectionTree.frameExists frameId then
      .error ("frame `" ++ frameId ++ "` missing from snapshot frame tree")
    else if !snapshot.projectionTree.frameExists referenceFrame then
      .error ("reference frame `" ++ referenceFrame ++ "` missing from snapshot frame tree")
    else
      match snapshot.projectionTree.lookupTransform referenceFrame frameId with
      | .error error =>
        .error ("failed to resolve frame `" ++ frameId ++ "` from `" ++ referenceFrame ++ "`: " ++ error.text)
      | .ok transform => .ok ⟨frameId, referenceFrame, transform, snapshot.freshnessOf frameId⟩

/-- The body that `tcp_pose_in_snapshot` and `sensor_pose_in_snapshot` share: a fixed offset from
a link.  Anything but fresh becomes unknown. -/
def mountedPose (name parentLink : String) (offset : Transform3D α)
    (relativeTo : Option String) : Except String (ResolvedFramePose α) :=
  match rt.resolveFramePose snapshot parentLink relativeTo with
  | .error error => .error error
  | .ok parentPose =>
    .ok ⟨name, parentPose.relativeTo, parentPose.transform.compose offset,
      if parentPose.freshness.isFresh then .fresh else .unknown⟩

def tcpPoseInSnapshot (tcp : ToolCenterPoint α) (relativeTo : Option String) : Except String (ResolvedFramePose α) :=
  rt.mountedPose snapshot tcp.name tcp.parentLink tcp.offset relativeTo

def sensorPoseInSnapshot (sensor : SensorMount α) (relativeTo : Option String) : Except String (ResolvedFramePose α) :=
  rt.mountedPose snapshot sensor.sensorId sensor.parentLink sensor.offset relativeTo

def watchedPose (referenceFrame frameId : String) : Except String (WatchedPoseProjection α) :=
  if !snapshot.projectionTree.frameExists frameId then
    .error ("watched frame `" ++ frameId ++ "` missing from snapshot frame tree")
  else
    match snapshot.projectionTree.lookupTransform referenceFrame frameId with
    | .ok transform => .ok ⟨frameId, referenceFrame, transform, snapshot.freshnessOf frameId⟩
    | .error error =>
      .error ("failed to project watched frame `" ++ frameId ++ "` from `" ++ referenceFrame ++ "`: " ++ error.text)

def projectWatchedPoses : List (WatchedPoseProjection α) × List String :=
  match snapshot.frameTree.root.or rt.frameGraph.root with
  | none => ([], ["frame snapshot missing root frame for watched-pose projection"])
  | some referenceFrame =>
    let watchedFrames := if snapshot.watchedFrames.isEmpty then rt.watchedFrames else snapshot.watchedFrames
    let (projections, issues) := collect (watchedFrames.map (watchedPose snapshot referenceFrame))
    (projections, sortDedup (snapshot.overlaySnapshotTree.2 ++ issues))

end EmbodimentRuntime

/-! ## Overlays keep the shape -/

lemma overlayTransform_up {t t' : FrameTree α} {f transform source}
    (h : t.overlayTransform f transform source = .ok t') : t'.up = t.up := by
  rw [overlayTransform] at h
  cases hnode : t.getFrame f with
  | none =>
    rw [hnode] at h
    cases h
  | some node =>
    rw [hnode] at h
    cases h
    funext g
    by_cases hgf : f = g
    · subst hgf
      rw [up, up, hnode]
      simp [getFrame]
    · simp [up, getFrame, Std.ExtTreeMap.getElem?_insert, hgf]

lemma overlayStep_up (s : FrameTree α × List String) (transform : TimestampedTransform α) :
    (FrameGraphSnapshot.overlayStep s transform).1.up = s.1.up := by
  rw [FrameGraphSnapshot.overlayStep]
  split
  · next tree h => exact overlayTransform_up h
  · rfl

lemma foldl_overlayStep_up {transforms : List (TimestampedTransform α)} {s} :
    (transforms.foldl FrameGraphSnapshot.overlayStep s).1.up = s.1.up := by
  induction transforms generalizing s with
  | nil => rfl
  | cons transform transforms ih => rw [foldl_cons, ih, overlayStep_up]

lemma projectionTree_up (snapshot : FrameGraphSnapshot α) : snapshot.projectionTree.up = snapshot.frameTree.up :=
  foldl_overlayStep_up

namespace EmbodimentRuntime
variable (rt : EmbodimentRuntime α)
lemma foldl_graphFreshness (ids : List String) (freshness : Std.ExtTreeMap String FreshnessState) (g : String) :
    (ids.foldl (fun freshness frameId =>
        match rt.frameGraph.getFrame frameId with
        | none => freshness
        | some node => freshness.insert frameId (sourceFreshness node.source)) freshness)[g]? =
      if g ∈ ids then
        ((rt.frameGraph.getFrame g).map fun node => sourceFreshness node.source).or freshness[g]?
      else freshness[g]? := by
  induction ids generalizing freshness with
  | nil => simp
  | cons f ids ih =>
    rw [foldl_cons, ih]
    by_cases hgf : f = g
    · subst hgf
      cases hnode : rt.frameGraph.getFrame f <;> simp
    · cases hnode : rt.frameGraph.getFrame f with
      | none => simp [Ne.symm hgf]
      | some node => simp [Std.ExtTreeMap.getElem?_insert, hgf, Ne.symm hgf]

lemma graphFreshness_getElem? (g : String) :
    rt.graphFreshness[g]? = (rt.frameGraph.getFrame g).map fun node => sourceFreshness node.source := by
  rw [graphFreshness, foldl_graphFreshness]
  by_cases hmem : g ∈ rt.frameGraph.allFrameIds
  · simp [hmem]
  · have hnone : rt.frameGraph.getFrame g = none := by
      rw [mem_allFrameIds, Option.not_isSome_iff_eq_none] at hmem
      exact hmem
    simp [hmem, hnone]

variable (transforms : List (TimestampedTransform α))
def lastGiven (g : String) : Option (TimestampedTransform α) :=
  (transforms.filter fun transform => transform.frameId = g).getLast?

lemma foldl_insert_freshness (freshness : Std.ExtTreeMap String FreshnessState) (g : String) :
    (transforms.foldl (fun freshness transform => freshness.insert transform.frameId transform.freshness)
        freshness)[g]? = ((lastGiven transforms g).map (·.freshness)).or freshness[g]? := by
  induction transforms generalizing freshness with
  | nil => simp [lastGiven]
  | cons transform transforms ih =>
    rw [foldl_cons, ih]
    by_cases heq : transform.frameId = g
    · subst heq
      cases hlast : lastGiven transforms transform.frameId with
      | none =>
        rw [lastGiven, getLast?_eq_none_iff] at hlast
        simp [lastGiven, hlast]
      | some last =>
        rw [lastGiven] at hlast
        simp [lastGiven, getLast?_cons, hlast]
    · simp [lastGiven, heq, Std.ExtTreeMap.getElem?_insert]

/-- The freshness that the graph and the input give to a frame: that of the last transform for
it, and otherwise that of its source. -/
def givenFreshness [Scalar α] (timestampNs : Nat) (input : FrameSnapshotInput α) (g : String) : Option FreshnessState :=
  (rt.frameGraph.getFrame g).map fun node =>
    ((lastGiven (rt.givenTransforms timestampNs input) g).map (·.freshness)).getD (sourceFreshness node.source)

lemma frameFreshness_snapshot [Scalar α] (snapshotId timestampNs : Nat) (input : FrameSnapshotInput α) (g : String) :
    (rt.buildFrameSnapshotWithInput snapshotId timestampNs input).frameFreshness[g]? =
      rt.givenFreshness timestampNs input g := by
  show (List.foldl _ rt.graphFreshness _)[g]? = _
  rw [foldl_insert_freshness, graphFreshness_getElem?, givenFreshness]
  cases hnode : rt.frameGraph.getFrame g with
  | none =>
    -- transforms for frames that are not in the graph are dropped
    have hexists : rt.frameGraph.frameExists g = false := by
      rw [← Bool.not_eq_true, frameExists_iff, hnode]
      exact Bool.false_ne_true
    have hempty : ∀ transform ∈ rt.givenTransforms timestampNs input, rt.frameGraph.frameExists transform.frameId = true →
        transform.frameId ≠ g := by
      rintro transform - hknown rfl
      rw [hexists] at hknown
      cases hknown
    have hlast : lastGiven ((rt.givenTransforms timestampNs input).filter fun transform =>
        rt.frameGraph.frameExists transform.frameId) g = none := by
      rw [lastGiven, getLast?_eq_none_iff, filter_filter, filter_eq_nil_iff]
      intro transform hmem
      have := hempty transform hmem
      simp only [Bool.and_eq_true, decide_eq_true_eq, not_and]
      exact fun heq hknown => this hknown heq
    rw [hlast]
    rfl
  | some node =>
    have hexists : rt.frameGraph.frameExists g = true := by
      rw [frameExists_iff, hnode]
      rfl
    have hlast : lastGiven ((rt.givenTransforms timestampNs input).filter fun transform =>
        rt.frameGraph.frameExists transform.frameId) g = lastGiven (rt.givenTransforms timestampNs input) g := by
      rw [lastGiven, lastGiven, filter_filter]
      refine congrArg List.getLast? (filter_congr fun transform _ => ?_)
      by_cases heq : transform.frameId = g
      · simp [heq, hexists]
      · simp [heq]
    rw [hlast]
    cases lastGiven (rt.givenTransforms timestampNs input) g <;> rfl

end EmbodimentRuntime
end Roz.Embodiment
