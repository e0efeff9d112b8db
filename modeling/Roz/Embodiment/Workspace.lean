import Roz.Embodiment.Snapshot

/-!
# Workspace evaluation (`embodiment_runtime.rs`)

A planned pose, or the position of every tool, is measured against all zones of the envelope:
those of the model and those of the safety overlay.  One signed margin per zone, its depth in
the zone's shape less the zone's margin, is folded into three answers.  What the fold keeps is
said by membership alone (`Tally.safe_iff`).
-/

namespace Roz.Embodiment
open ExactFloat
variable {α : Type}

/-! ## The tally of the zones -/

structure WorkspaceZoneCheck (α : Type) where
  zoneName : String
  zoneType : ZoneType
  signedMarginM : α
  containsOrigin : Bool

structure Tally (α : Type) where
  zoneChecks : List (WorkspaceZoneCheck α)
  allowedMargin : Option α
  restrictedClearance : Option α
  inHumanPresence : Bool

namespace Tally
variable [Scalar α]
def empty : Tally α := ⟨[], none, none, false⟩

variable (s : Tally α)
def record (zone : WorkspaceZone α) (signedMargin : α) : Tally α :=
  let containsOrigin := decide (0 ≤ signedMargin)
  let s := { s with zoneChecks := s.zoneChecks ++ [⟨zone.name, zone.zoneType, signedMargin, containsOrigin⟩] }
  match zone.zoneType with
  | .allowed => { s with allowedMargin := some (s.allowedMargin.elim signedMargin fun margin => max margin signedMargin) }
  | .restricted =>
    let clearance := -signedMargin
    { s with restrictedClearance := some (s.restrictedClearance.elim clearance fun margin => min margin clearance) }
  | .humanPresence => if containsOrigin then { s with inHumanPresence := true } else s

def outsideAllowed (hasAllowedZone : Bool) : Bool :=
  hasAllowedZone && !s.allowedMargin.any fun margin => decide (0 ≤ margin)

def inRestricted : Bool := s.restrictedClearance.any fun margin => decide (margin < 0)

def safe (hasAllowedZone : Bool) : Bool := !s.outsideAllowed hasAllowedZone && !s.inRestricted

def alerts (hasAllowedZone : Bool) (subject : String) : List String :=
  (if s.outsideAllowed hasAllowedZone then [subject ++ " lies outside every allowed workspace zone"] else []) ++
    (if s.inRestricted then [subject ++ " entered a restricted workspace zone"] else []) ++
    (if s.inHumanPresence then [subject ++ " is inside a human-presence workspace zone"] else [])

def margin (hasAllowedZone : Bool) : Option α :=
  match hasAllowedZone, s.allowedMargin, s.restrictedClearance with
  | true, some allowedMargin, some restrictedClearance => some (min allowedMargin restrictedClearance)
  | true, some allowedMargin, none => some allowedMargin
  | true, none, some restrictedClearance => some restrictedClearance
  | false, _, some restrictedClearance => some restrictedClearance
  | _, _, _ => none

end Tally

def hasAllowedZone (zones : List (WorkspaceZone α)) : Bool := zones.any fun zone => zone.zoneType == .allowed

structure WorkspacePoseEvaluation (α : Type) where
  relativeTo : String
  pose : Transform3D α
  safe : Bool
  minMarginM : Option α
  inHumanPresence : Bool
  zoneChecks : List (WorkspaceZoneCheck α)
  alerts : List String

structure WorkspaceCheckFrameResult (α : Type) where
  frameId : String
  marginM : Option α
  safe : Bool
  inHumanPresence : Bool
  zoneChecks : List (WorkspaceZoneCheck α)

structure WorkspaceCheckResult (α : Type) where
  safe : Bool
  minMarginM : Option α
  frames : List (WorkspaceCheckFrameResult α)
  alerts : List String

structure WorkspaceFrameMatch (α : Type) where
  zoneName : String
  zoneType : ZoneType
  containsOrigin : Bool
  pointInZone : Vec3 α

structure WorkspaceFrameEvaluation (α : Type) where
  pose : EmbodimentRuntime.ResolvedFramePose α
  zoneMatches : List (WorkspaceFrameMatch α)

namespace EmbodimentRuntime
variable (rt : EmbodimentRuntime α)

/-- Merge model and safety-overlay workspace zones into the active runtime envelope. -/
def workspaceEnvelope : List (WorkspaceZone α) :=
  rt.model.workspaceZones ++ rt.safetyOverlay.elim [] SafetyOverlay.zones

variable [Scalar α]

/-! ## A planned pose -/

def zoneMargin (zone : WorkspaceZone α) (point : Vec3 α) : α := zone.shape.signedMargin point - zone.marginM

/-- The loop of `evaluate_pose_workspace`.  A zone whose frame is missing is passed over. -/
def poseZones (pose : Transform3D α) (relativeTo : String) : List (WorkspaceZone α) → Tally α → Except String (Tally α)
  | [], s => .ok s
  | zone :: zones, s =>
    if !rt.frameGraph.frameExists zone.originFrame then poseZones pose relativeTo zones s
    else
      match rt.frameGraph.lookupTransform zone.originFrame relativeTo with
      | .error error =>
        .error ("failed to evaluate pose relative to workspace zone `" ++ zone.name ++ "`: " ++ error.text)
      | .ok zoneToRelative =>
        poseZones pose relativeTo zones (s.record zone (zoneMargin zone (zoneToRelative.compose pose).translation))

def evaluatePoseWorkspace (pose : Transform3D α) (relativeTo : String) : Except String (WorkspacePoseEvaluation α) :=
  let zones := rt.workspaceEnvelope
  if zones.isEmpty then .ok ⟨relativeTo, pose, true, none, false, [], []⟩
  else if !rt.frameGraph.frameExists relativeTo then
    .error ("pose reference frame `" ++ relativeTo ++ "` missing from embodiment runtime")
  else
    let allowed := hasAllowedZone zones
    match rt.poseZones pose relativeTo zones .empty with
    | .error error => .error error
    | .ok s =>
      .ok
        { relativeTo := relativeTo
          pose := pose
          safe := s.safe allowed
          minMarginM := s.margin allowed
          inHumanPresence := s.inHumanPresence
          zoneChecks := s.zoneChecks
          alerts := s.alerts allowed "planned pose" }

/-! ## The tools of a snapshot -/

/-- The loop over the zones for one tool, with the alerts and whether all zones were measured. -/
def tcpZones (snapshot : FrameGraphSnapshot α) (tcp : ToolCenterPoint α) :
    List (WorkspaceZone α) → Tally α × List String × Bool → Tally α × List String × Bool
  | [], s => s
  | zone :: zones, (s, alerts, frameSafe) =>
    match rt.tcpPoseInSnapshot snapshot tcp (some zone.originFrame) with
    | .error error =>
      tcpZones snapshot tcp zones (s, alerts ++ ["failed to evaluate tcp `" ++ tcp.name ++
        "` relative to workspace zone `" ++ zone.name ++ "`: " ++ error], false)
    | .ok pose =>
      tcpZones snapshot tcp zones (s.record zone (zoneMargin zone pose.transform.translation), alerts, frameSafe)

variable (snapshot : FrameGraphSnapshot α)
def checkTcp (zones : List (WorkspaceZone α)) (tcp : ToolCenterPoint α) : WorkspaceCheckFrameResult α × List String :=
  let allowed := hasAllowedZone zones
  let (s, alerts, frameSafe) := rt.tcpZones snapshot tcp zones (.empty, [], true)
  ({ frameId := tcp.name
     marginM := s.margin allowed
     safe := frameSafe && s.safe allowed
     inHumanPresence := s.inHumanPresence
     zoneChecks := s.zoneChecks },
    alerts ++ s.alerts allowed ("tcp `" ++ tcp.name ++ "`"))

def checkWorkspaceSnapshot : WorkspaceCheckResult α :=
  let zones := rt.workspaceEnvelope
  if rt.model.tcps.isEmpty || zones.isEmpty then ⟨true, none, [], []⟩
  else
    let results := rt.model.tcps.map (rt.checkTcp snapshot zones)
    let frames := results.map (·.1)
    { safe := frames.all (·.safe)
      minMarginM := (frames.filterMap (·.marginM)).foldl (fun acc margin =>
        some (acc.elim margin fun current => min current margin)) none
      frames := frames
      alerts := sortDedup (results.flatMap (·.2)) }

variable (jointPositions : List α)

/-- Joint positions by the order of the model's joints; of two joints with one name the later
position stays. -/
def jointPositionInputs : Std.ExtTreeMap String α :=
  ((rt.model.joints.zip jointPositions).map fun (joint, position) => (joint.name, position)).foldl
    (fun positions (name, position) => positions.insert name position) ∅

def checkWorkspace : WorkspaceCheckResult α :=
  rt.checkWorkspaceSnapshot
    (rt.buildFrameSnapshotWithInput 0 0 { jointPositions := rt.jointPositionInputs jointPositions })

def evaluateWorkspaceFrame (frameId : String) (relativeTo : Option String) :
    Except String (WorkspaceFrameEvaluation α) := do
  let pose ← rt.resolveFramePose snapshot frameId relativeTo
  let known := rt.workspaceEnvelope.filter fun zone => snapshot.projectionTree.frameExists zone.originFrame
  let zoneMatches ← known.mapM fun zone =>
    match snapshot.projectionTree.lookupTransform zone.originFrame frameId with
    | .error error =>
      .error ("failed to evaluate frame `" ++ frameId ++ "` in workspace zone `" ++ zone.name ++ "`: " ++ error.text)
    | .ok transform =>
      .ok ⟨zone.name, zone.zoneType, zone.shape.containsPoint transform.translation, transform.translation⟩
  return ⟨pose, zoneMatches⟩

end EmbodimentRuntime

/-! ## What the tally keeps -/

variable (zones : List (WorkspaceZone α)) (margin : WorkspaceZone α → Option α)

/-- Some zone of the type could be measured, and its margin has the property. -/
def SomeZone (zoneType : ZoneType) (P : α → Prop) : Prop :=
  ∃ zone ∈ zones, zone.zoneType = zoneType ∧ ∃ m, margin zone = some m ∧ P m

def measured : List (WorkspaceZone α × α) :=
  zones.filterMap fun zone => (margin zone).map fun m => (zone, m)

lemma mem_measured {zones margin zone} {m : α} :
    (zone, m) ∈ measured zones margin ↔ zone ∈ zones ∧ margin zone = some m := by
  rw [measured, List.mem_filterMap]
  constructor
  · rintro ⟨zone', hmem, hmap⟩
    obtain ⟨m', hm, heq⟩ := Option.map_eq_some_iff.1 hmap
    cases heq
    exact ⟨hmem, hm⟩
  · rintro ⟨hmem, hm⟩
    exact ⟨zone, hmem, by rw [hm]; rfl⟩

namespace Tally
variable [Scalar α] (s : Tally α)
def recordAll (entries : List (WorkspaceZone α × α)) : Tally α :=
  entries.foldl (fun s entry => s.record entry.1 entry.2) s

lemma recordAll_iff (obs : Tally α → Prop) {zoneType} {P}
    (hrecord : ∀ s zone m, obs (s.record zone m) ↔ obs s ∨ zone.zoneType = zoneType ∧ P m)
    (zones : List (WorkspaceZone α)) (margin : WorkspaceZone α → Option α) (s : Tally α) :
    obs (s.recordAll (measured zones margin)) ↔ obs s ∨ SomeZone zones margin zoneType P := by
  have hall : ∀ (entries : List (WorkspaceZone α × α)) (s : Tally α),
      obs (s.recordAll entries) ↔ obs s ∨ ∃ entry ∈ entries, entry.1.zoneType = zoneType ∧ P entry.2 := by
    intro entries
    induction entries with
    | nil => simp [recordAll]
    | cons entry entries ih =>
      intro s
      have hstep : s.recordAll (entry :: entries) = (s.record entry.1 entry.2).recordAll entries := rfl
      rw [hstep, ih, hrecord]
      simp [or_assoc]
  rw [hall]
  refine or_congr Iff.rfl ⟨?_, ?_⟩
  · rintro ⟨⟨zone, m⟩, hmem, htype, hP⟩
    obtain ⟨hzone, hm⟩ := mem_measured.1 hmem
    exact ⟨zone, hzone, htype, m, hm, hP⟩
  · rintro ⟨zone, hzone, htype, m, hm, hP⟩
    exact ⟨(zone, m), mem_measured.2 ⟨hzone, hm⟩, htype, hP⟩

lemma inHumanPresence_record (zone : WorkspaceZone α) (m : α) :
    (s.record zone m).inHumanPresence = true ↔ s.inHumanPresence = true ∨ zone.zoneType = .humanPresence ∧ 0 ≤ m := by
  cases htype : zone.zoneType with
  | allowed => simp [record, htype]
  | restricted => simp [record, htype]
  | humanPresence => by_cases h : 0 ≤ m <;> simp [record, htype, h]

section Extrema
variable [ZeroExtrema α] (s : Tally α) (zone : WorkspaceZone α)
lemma allowed_record (m : α) : ((s.record zone m).allowedMargin.any fun margin => decide (0 ≤ margin)) = true ↔
      (s.allowedMargin.any fun margin => decide (0 ≤ margin)) = true ∨ zone.zoneType = .allowed ∧ 0 ≤ m := by
  cases htype : zone.zoneType with
  | allowed => cases hs : s.allowedMargin <;> simp [record, htype, hs, ZeroExtrema.zero_le_max]
  | restricted => simp [record, htype]
  | humanPresence => by_cases h : 0 ≤ m <;> simp [record, htype, h]

lemma inRestricted_record (m : α) : (s.record zone m).inRestricted = true ↔
    s.inRestricted = true ∨ zone.zoneType = .restricted ∧ -m < 0 := by
  cases htype : zone.zoneType with
  | allowed => simp [record, inRestricted, htype]
  | restricted => cases hs : s.restrictedClearance <;> simp [record, inRestricted, htype, hs, ZeroExtrema.min_lt_zero]
  | humanPresence => by_cases h : 0 ≤ m <;> simp [record, inRestricted, htype, h]

end Extrema
end Tally
open Tally
section Verdict
variable [Scalar α] (zones : List (WorkspaceZone α)) (margin : WorkspaceZone α → Option α)

/-- The verdict of the fold: in an allowed zone if there are any, and in no restricted zone. -/
def ZonesSafe : Prop :=
  (hasAllowedZone zones = true → SomeZone zones margin .allowed (0 ≤ ·)) ∧
    ¬SomeZone zones margin .restricted (-· < 0)

lemma Tally.inHumanPresence_measured : (Tally.empty.recordAll (measured zones margin)).inHumanPresence = true ↔
    SomeZone zones margin .humanPresence (0 ≤ ·) := by
  rw [recordAll_iff (·.inHumanPresence = true) inHumanPresence_record]
  simp [Tally.empty]

section Extrema
variable [ZeroExtrema α]
lemma Tally.allowed_measured :
    ((Tally.empty.recordAll (measured zones margin)).allowedMargin.any fun margin => decide (0 ≤ margin)) = true ↔
      SomeZone zones margin .allowed (0 ≤ ·) := by
  rw [recordAll_iff (fun s => (s.allowedMargin.any fun margin => decide (0 ≤ margin)) = true)
    allowed_record]
  simp [Tally.empty]

lemma Tally.inRestricted_measured : (Tally.empty.recordAll (measured zones margin)).inRestricted = true ↔
    SomeZone zones margin .restricted (-· < 0) := by
  rw [recordAll_iff (·.inRestricted = true) inRestricted_record]
  simp [Tally.empty, inRestricted]

lemma Tally.safe_measured :
    (Tally.empty.recordAll (measured zones margin)).safe (hasAllowedZone zones) = true ↔ ZonesSafe zones margin := by
  rw [ZonesSafe, ← allowed_measured, ← inRestricted_measured, safe, outsideAllowed]
  cases hasAllowedZone zones <;> simp

end Extrema
end Verdict

namespace EmbodimentRuntime
variable [Scalar α] (rt : EmbodimentRuntime α)

/-! ## The verdict on a pose -/

variable (pose : Transform3D α) (relativeTo : String)

/-- The margin of a planned pose in a zone, if the zone's frame exists and is connected. -/
def poseMargin (zone : WorkspaceZone α) : Option α :=
  if rt.frameGraph.frameExists zone.originFrame then
    match rt.frameGraph.lookupTransform zone.originFrame relativeTo with
    | .ok zoneToRelative => some (zoneMargin zone (zoneToRelative.compose pose).translation)
    | .error _ => none
  else none

def ZonesConnected (zones : List (WorkspaceZone α)) : Prop :=
  ∀ zone ∈ zones, rt.frameGraph.frameExists zone.originFrame = true →
    ∃ transform, rt.frameGraph.lookupTransform zone.originFrame relativeTo = .ok transform

variable {pose : Transform3D α} {relativeTo : String}
lemma poseZones_ok_iff {zones s s'} : rt.poseZones pose relativeTo zones s = .ok s' ↔
    rt.ZonesConnected relativeTo zones ∧ s' = s.recordAll (measured zones (rt.poseMargin pose relativeTo)) := by
  induction zones generalizing s with
  | nil =>
    simp only [poseZones, Except.ok.injEq]
    exact ⟨fun h => ⟨fun _ hmem => (nomatch hmem), h.symm⟩, fun h => h.2.symm⟩
  | cons zone zones ih =>
    rw [poseZones]
    by_cases hexists : rt.frameGraph.frameExists zone.originFrame = true
    · cases hlookup : rt.frameGraph.lookupTransform zone.originFrame relativeTo with
      | error error =>
        simp only [hexists, Bool.not_true, Bool.false_eq_true, if_false]
        constructor
        · intro h
          cases h
        · rintro ⟨hconnected, -⟩
          obtain ⟨transform, htransform⟩ := hconnected zone (.head _) hexists
          rw [hlookup] at htransform
          cases htransform
      | ok transform =>
        simp only [hexists, Bool.not_true, Bool.false_eq_true, if_false]
        rw [ih]
        simp [ZonesConnected, hlookup, measured, poseMargin, hexists, recordAll]
    · simp only [Bool.not_eq_true] at hexists
      simp only [hexists, Bool.not_false, if_true]
      rw [ih]
      simp [ZonesConnected, measured, poseMargin, hexists]

lemma evaluatePoseWorkspace_isOk (pose : Transform3D α) (relativeTo : String) :
    (∃ e, rt.evaluatePoseWorkspace pose relativeTo = .ok e) ↔ rt.workspaceEnvelope = [] ∨
        rt.frameGraph.frameExists relativeTo = true ∧ rt.ZonesConnected relativeTo rt.workspaceEnvelope := by
  rw [evaluatePoseWorkspace]
  by_cases hzones : rt.workspaceEnvelope = []
  · simp [hzones]
  by_cases hexists : rt.frameGraph.frameExists relativeTo = true
  · simp only [List.isEmpty_iff, hzones, hexists, Bool.not_true, Bool.false_eq_true, if_false, false_or, true_and]
    constructor
    · rintro ⟨e, h⟩
      split at h
      · cases h
      · next s hs => exact (rt.poseZones_ok_iff.1 hs).1
    · intro hconnected
      rw [(rt.poseZones_ok_iff).2 ⟨hconnected, rfl⟩]
      exact ⟨_, rfl⟩
  · simp [hzones, hexists]

lemma evaluatePoseWorkspace_ok [ZeroExtrema α] {e} (h : rt.evaluatePoseWorkspace pose relativeTo = .ok e) :
    (e.safe = true ↔ ZonesSafe rt.workspaceEnvelope (rt.poseMargin pose relativeTo)) ∧ (e.inHumanPresence = true ↔
        SomeZone rt.workspaceEnvelope (rt.poseMargin pose relativeTo) .humanPresence (0 ≤ ·)) := by
  rw [evaluatePoseWorkspace] at h
  dsimp only at h
  split at h
  · next hzones =>
    cases h
    rw [List.isEmpty_iff.1 hzones]
    simp [ZonesSafe, SomeZone, hasAllowedZone]
  · split at h
    · cases h
    · split at h
      · cases h
      · next s hs =>
        cases h
        obtain ⟨-, rfl⟩ := rt.poseZones_ok_iff.1 hs
        exact ⟨safe_measured _ _, inHumanPresence_measured _ _⟩

/-! ## The verdict on a tool -/

def tcpMargin (snapshot : FrameGraphSnapshot α) (tcp : ToolCenterPoint α) (zone : WorkspaceZone α) : Option α :=
  match rt.tcpPoseInSnapshot snapshot tcp (some zone.originFrame) with
  | .ok pose => some (zoneMargin zone pose.transform.translation)
  | .error _ => none

variable (snapshot : FrameGraphSnapshot α)
lemma tcpZones_eq (tcp : ToolCenterPoint α) (zones : List (WorkspaceZone α))
    (s : Tally α) (alerts : List String) (frameSafe : Bool) :
    (rt.tcpZones snapshot tcp zones (s, alerts, frameSafe)).1 =
        s.recordAll (measured zones (rt.tcpMargin snapshot tcp)) ∧
      (rt.tcpZones snapshot tcp zones (s, alerts, frameSafe)).2.2 =
        (frameSafe && zones.all fun zone => (rt.tcpMargin snapshot tcp zone).isSome) := by
  induction zones generalizing s alerts frameSafe with
  | nil => simp [tcpZones, measured, recordAll]
  | cons zone zones ih =>
    rw [tcpZones]
    cases hpose : rt.tcpPoseInSnapshot snapshot tcp (some zone.originFrame) with
    | error error =>
      have hmargin : rt.tcpMargin snapshot tcp zone = none := by rw [tcpMargin, hpose]
      simp only [ih]
      simp [measured, hmargin]
    | ok pose =>
      have hmargin : rt.tcpMargin snapshot tcp zone = some (zoneMargin zone pose.transform.translation) := by
        rw [tcpMargin, hpose]
      simp only [ih]
      simp [measured, hmargin, recordAll]

lemma checkTcp_spec [ZeroExtrema α] (zones : List (WorkspaceZone α))
    (tcp : ToolCenterPoint α) : ((rt.checkTcp snapshot zones tcp).1.safe = true ↔
        (∀ zone ∈ zones, (rt.tcpMargin snapshot tcp zone).isSome) ∧ ZonesSafe zones (rt.tcpMargin snapshot tcp)) ∧
      ((rt.checkTcp snapshot zones tcp).1.inHumanPresence = true ↔
        SomeZone zones (rt.tcpMargin snapshot tcp) .humanPresence (0 ≤ ·)) := by
  obtain ⟨hs, hsafe⟩ := rt.tcpZones_eq snapshot tcp zones .empty [] true
  constructor
  · show (_ && _) = true ↔ _
    rw [hs, hsafe, Bool.true_and, Bool.and_eq_true, List.all_eq_true, safe_measured]
  · show inHumanPresence _ = true ↔ _
    rw [hs, inHumanPresence_measured]

lemma checkWorkspaceSnapshot_safe [ZeroExtrema α] : (rt.checkWorkspaceSnapshot snapshot).safe = true ↔
    ∀ tcp ∈ rt.model.tcps, (rt.checkTcp snapshot rt.workspaceEnvelope tcp).1.safe = true := by
  rw [checkWorkspaceSnapshot]
  by_cases htcps : rt.model.tcps = []
  · simp [htcps]
  by_cases hzones : rt.workspaceEnvelope = []
  · simp [hzones, checkTcp_spec, ZonesSafe, SomeZone, hasAllowedZone]
  · simp [htcps, hzones]

end EmbodimentRuntime
end Roz.Embodiment
