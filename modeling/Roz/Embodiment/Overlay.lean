import Roz.Embodiment.Workspace

/-!
# Adding zones to a safety overlay

The zones of an overlay join the envelope under their own type, whichever of its lists they are
in.  A restricted zone can only take positions away, and a first allowed zone too; but among
allowed zones one is enough, so an overlay that brings another one lets new positions in
(`overlay_restricts_iff`).

The laws of `max` and `min` are all that is used of the numbers.
-/

namespace Roz.Embodiment
open ExactFloat List
variable {α : Type}

/-- The second overlay has all zones of the first and maybe more; without an overlay there are
none. -/
inductive MoreZones : Option (SafetyOverlay α) → Option (SafetyOverlay α) → Prop
  | overlay (more : SafetyOverlay α) : MoreZones none (some more)
  | zones {overlay more : SafetyOverlay α}
      (restrictions : overlay.workspaceRestrictions ⊆ more.workspaceRestrictions)
      (humanPresence : overlay.humanPresenceZones ⊆ more.humanPresenceZones)
      (contactAllowed : overlay.contactAllowedZones ⊆ more.contactAllowedZones) : MoreZones (some overlay) (some more)

def envelope (model : EmbodimentModel α) (overlay : Option (SafetyOverlay α)) : List (WorkspaceZone α) :=
  model.workspaceZones ++ overlay.elim [] SafetyOverlay.zones

lemma MoreZones.envelope_subset {overlay more} (h : MoreZones overlay more)
    (model : EmbodimentModel α) : envelope model overlay ⊆ envelope model more := by
  cases h with
  | overlay more =>
    rw [envelope, Option.elim_none, append_nil]
    exact subset_append_left _ _
  | @zones overlay more hrestrictions hpresence hcontact =>
    intro zone hmem
    simp only [envelope, Option.elim_some, SafetyOverlay.zones, mem_append] at hmem ⊢
    rcases hmem with hmodel | (hmem | hmem) | hmem
    · exact .inl hmodel
    · exact .inr (.inl (.inl (hrestrictions hmem)))
    · exact .inr (.inl (.inr (hpresence hmem)))
    · exact .inr (.inr (hcontact hmem))

section Subset
variable {zones more : List (WorkspaceZone α)} {margin : WorkspaceZone α → Option α}
lemma SomeZone.mono {zoneType P} (h : SomeZone zones margin zoneType P)
    (hsub : zones ⊆ more) : SomeZone more margin zoneType P := by
  obtain ⟨zone, hmem, hzone⟩ := h
  exact ⟨zone, hsub hmem, hzone⟩

lemma hasAllowedZone_mono (hsub : zones ⊆ more) (h : hasAllowedZone zones = true) : hasAllowedZone more = true := by
  obtain ⟨zone, hmem, htype⟩ := any_eq_true.1 h
  exact any_eq_true.2 ⟨zone, hsub hmem, htype⟩

lemma zonesSafe_of_subset [Scalar α] (hsub : zones ⊆ more) (h : ZonesSafe more margin) :
    ZonesSafe zones margin ↔ (hasAllowedZone zones = true → SomeZone zones margin .allowed (0 ≤ ·)) :=
  ⟨fun hsafe => hsafe.1, fun hallowed => ⟨hallowed, fun hrestricted => h.2 (hrestricted.mono hsub)⟩⟩

end Subset

namespace EmbodimentRuntime
variable [Scalar α] (rt : EmbodimentRuntime α) (pose : Transform3D α)
def PoseSafe (relativeTo : String) : Prop :=
  ∃ e, rt.evaluatePoseWorkspace pose relativeTo = .ok e ∧ e.safe = true

variable (before : List (WorkspaceZone α))

/-- If there were allowed zones, and the pose is in an allowed zone now and in no restricted
zone, then it is in one of those that were there. -/
def PoseKept (pose : Transform3D α) (relativeTo : String) : Prop :=
  rt.frameGraph.frameExists relativeTo = true → rt.ZonesConnected relativeTo rt.workspaceEnvelope →
    ¬SomeZone rt.workspaceEnvelope (rt.poseMargin pose relativeTo) .restricted (-· < 0) →
    SomeZone rt.workspaceEnvelope (rt.poseMargin pose relativeTo) .allowed (0 ≤ ·) →
    hasAllowedZone before = true → SomeZone before (rt.poseMargin pose relativeTo) .allowed (0 ≤ ·)

def TcpsKept (snapshot : FrameGraphSnapshot α) : Prop :=
  (∀ tcp ∈ rt.model.tcps, (∀ zone ∈ rt.workspaceEnvelope, (rt.tcpMargin snapshot tcp zone).isSome) ∧
      ¬SomeZone rt.workspaceEnvelope (rt.tcpMargin snapshot tcp) .restricted (-· < 0) ∧
      SomeZone rt.workspaceEnvelope (rt.tcpMargin snapshot tcp) .allowed (0 ≤ ·)) →
    hasAllowedZone before = true →
    ∀ tcp ∈ rt.model.tcps, SomeZone before (rt.tcpMargin snapshot tcp) .allowed (0 ≤ ·)

def jointSnapshot (jointPositions : List α) : FrameGraphSnapshot α :=
  rt.buildFrameSnapshotWithInput 0 0 { jointPositions := rt.jointPositionInputs jointPositions }

lemma poseSafe_iff [ZeroExtrema α] (relativeTo : String) : rt.PoseSafe pose relativeTo ↔ (rt.workspaceEnvelope = [] ∨
        rt.frameGraph.frameExists relativeTo = true ∧ rt.ZonesConnected relativeTo rt.workspaceEnvelope) ∧
      ZonesSafe rt.workspaceEnvelope (rt.poseMargin pose relativeTo) := by
  rw [← rt.evaluatePoseWorkspace_isOk pose relativeTo]
  constructor
  · rintro ⟨e, he, hsafe⟩
    exact ⟨⟨e, he⟩, (rt.evaluatePoseWorkspace_ok he).1.1 hsafe⟩
  · rintro ⟨⟨e, he⟩, hsafe⟩
    exact ⟨e, he, (rt.evaluatePoseWorkspace_ok he).1.2 hsafe⟩

section Compile
variable (codec : Codec α) (model : EmbodimentModel α) (calibration : Option (CalibrationOverlay α))
  (overlay more : Option (SafetyOverlay α))

lemma workspaceEnvelope_compile :
    (compile codec model calibration overlay).workspaceEnvelope = envelope model overlay := rfl

lemma poseMargin_compile (pose : Transform3D α) (relativeTo : String) :
    (compile codec model calibration overlay).poseMargin pose relativeTo =
      (compile codec model calibration more).poseMargin pose relativeTo := rfl

lemma tcpMargin_compile (jointPositions : List α) (tcp : ToolCenterPoint α) :
    (compile codec model calibration overlay).tcpMargin
        ((compile codec model calibration overlay).jointSnapshot jointPositions) tcp =
      (compile codec model calibration more).tcpMargin
        ((compile codec model calibration more).jointSnapshot jointPositions) tcp := rfl

end Compile

section Restrict
variable [ZeroExtrema α] {codec : Codec α} {model : EmbodimentModel α} {calibration : Option (CalibrationOverlay α)}
  {overlay more : Option (SafetyOverlay α)}

lemma poseSafe_restricts_iff (h : MoreZones overlay more) (pose : Transform3D α) (relativeTo : String) :
    ((compile codec model calibration more).PoseSafe pose relativeTo →
        (compile codec model calibration overlay).PoseSafe pose relativeTo) ↔
      (compile codec model calibration more).PoseKept (envelope model overlay) pose relativeTo := by
  have hsub := h.envelope_subset model
  rw [poseSafe_iff, poseSafe_iff, PoseKept, poseMargin_compile codec model calibration overlay more,
    workspaceEnvelope_compile, workspaceEnvelope_compile]
  constructor
  · intro hrestricts hexists hconnected hrestricted hallowed hbefore
    exact (hrestricts ⟨.inr ⟨hexists, hconnected⟩, fun _ => hallowed, hrestricted⟩).2.1 hbefore
  · rintro hkept ⟨hevaluable, hsafe⟩
    have hevaluable' : envelope model overlay = [] ∨
        (compile codec model calibration overlay).frameGraph.frameExists relativeTo = true ∧
          (compile codec model calibration overlay).ZonesConnected relativeTo (envelope model overlay) := by
      rcases hevaluable with hnil | ⟨hexists, hconnected⟩
      · exact .inl (subset_nil.1 (hnil ▸ hsub))
      · exact .inr ⟨hexists, fun zone hmem => hconnected zone (hsub hmem)⟩
    refine ⟨hevaluable', (zonesSafe_of_subset hsub hsafe).2 fun hbefore => ?_⟩
    rcases hevaluable with hnil | ⟨hexists, hconnected⟩
    · have hempty : envelope model overlay = [] := subset_nil.1 (hnil ▸ hsub)
      rw [hempty] at hbefore
      cases hbefore
    · exact hkept hexists hconnected hsafe.2 (hsafe.1 (hasAllowedZone_mono hsub hbefore)) hbefore

lemma checkWorkspace_restricts_iff (h : MoreZones overlay more) (jointPositions : List α) :
    (((compile codec model calibration more).checkWorkspace jointPositions).safe = true →
        ((compile codec model calibration overlay).checkWorkspace jointPositions).safe = true) ↔
      (compile codec model calibration more).TcpsKept (envelope model overlay)
        ((compile codec model calibration more).jointSnapshot jointPositions) := by
  have hsub := h.envelope_subset model
  have hsafe_iff : ∀ overlay, ((compile codec model calibration overlay).checkWorkspace jointPositions).safe = true ↔
      ∀ tcp ∈ model.tcps,
        (∀ zone ∈ envelope model overlay, ((compile codec model calibration more).tcpMargin
          ((compile codec model calibration more).jointSnapshot jointPositions) tcp zone).isSome) ∧
        ZonesSafe (envelope model overlay) ((compile codec model calibration more).tcpMargin
          ((compile codec model calibration more).jointSnapshot jointPositions) tcp) := by
    intro overlay
    rw [checkWorkspace, ← jointSnapshot, checkWorkspaceSnapshot_safe]
    refine forall₂_congr fun tcp _ => ?_
    rw [(checkTcp_spec _ _ _ _).1, workspaceEnvelope_compile, tcpMargin_compile codec model calibration overlay more]
  rw [hsafe_iff, hsafe_iff, TcpsKept, workspaceEnvelope_compile]
  constructor
  · intro hrestricts hmore hbefore tcp htcp
    exact (hrestricts (fun tcp htcp => ⟨(hmore tcp htcp).1, fun _ => (hmore tcp htcp).2.2, (hmore tcp htcp).2.1⟩)
      tcp htcp).2.1 hbefore
  · intro hkept hmore tcp htcp
    obtain ⟨hmeasured, hsafe⟩ := hmore tcp htcp
    refine ⟨fun zone hmem => hmeasured zone (hsub hmem), (zonesSafe_of_subset hsub hsafe).2 fun hbefore => ?_⟩
    have hallowed := hasAllowedZone_mono hsub hbefore
    exact hkept (fun tcp htcp => ⟨(hmore tcp htcp).1, (hmore tcp htcp).2.2, (hmore tcp htcp).2.1 hallowed⟩)
      hbefore tcp htcp

theorem overlay_restricts_iff (h : MoreZones overlay more) : (∀ pose relativeTo,
      ((compile codec model calibration more).PoseSafe pose relativeTo →
          (compile codec model calibration overlay).PoseSafe pose relativeTo) ↔
        (compile codec model calibration more).PoseKept (envelope model overlay) pose relativeTo) ∧ ∀ jointPositions,
      (((compile codec model calibration more).checkWorkspace jointPositions).safe = true →
          ((compile codec model calibration overlay).checkWorkspace jointPositions).safe = true) ↔
        (compile codec model calibration more).TcpsKept (envelope model overlay)
          ((compile codec model calibration more).jointSnapshot jointPositions) :=
  ⟨poseSafe_restricts_iff h, checkWorkspace_restricts_iff h⟩

end Restrict

/-! ## An overlay that lets a pose in -/

variable (zoneType : ZoneType)
def worldBall (radius : ℝ) : WorkspaceZone ℝ := ⟨"ball", .sphere radius, "world", zoneType, 0⟩

noncomputable def ballModel : EmbodimentModel ℝ :=
  { EmbodimentModel.ofFrames (FrameTree.new.setRoot "world" .static) with workspaceZones := [worldBall .allowed 1] }

def farPose : Transform3D ℝ := ⟨⟨5, 0, 0⟩, ⟨1, 0, 0, 0⟩, 0⟩

def plainCodec : Codec ℝ := ⟨fun _ => "", fun _ => "", id⟩

def contactOverlay (zones : List (WorkspaceZone ℝ)) : SafetyOverlay ℝ := ⟨"", [], ∅, none, [], none, [], zones, ∅⟩

lemma world_exists : (compile plainCodec ballModel none none).frameGraph.frameExists "world" = true := by
  decide

lemma poseMargin_worldBall {zoneType radius} :
    (compile plainCodec ballModel none none).poseMargin farPose "world" (worldBall zoneType radius) =
      some (radius - 5) := by
  rw [poseMargin, worldBall]
  simp only [world_exists, if_true, FrameTree.lookupTransform_self]
  simp [zoneMargin, WorkspaceShape.signedMargin, Transform3D.compose, Transform3D.identity, Transform3D.rotatePoint,
    farPose]

lemma farPose_unsafe : ¬(compile plainCodec ballModel none none).PoseSafe farPose "world" := by
  rw [poseSafe_iff]
  rintro ⟨-, hallowed, -⟩
  obtain ⟨zone, hmem, -, m, hm, hnonneg⟩ := hallowed (by decide)
  obtain rfl : zone = worldBall .allowed 1 := mem_singleton.1 hmem
  rw [poseMargin_worldBall] at hm
  cases hm
  norm_num at hnonneg

def wideOverlay : SafetyOverlay ℝ := contactOverlay [worldBall zoneType 10]

lemma farPose_safe_with_overlay :
    (compile plainCodec ballModel none (some (wideOverlay .allowed))).PoseSafe farPose "world" := by
  have henvelope : (compile plainCodec ballModel none (some (wideOverlay .allowed))).workspaceEnvelope =
      [worldBall .allowed 1, worldBall .allowed 10] := rfl
  have hzone : ∀ zone ∈ [worldBall .allowed 1, worldBall .allowed 10],
      zone.zoneType = .allowed ∧ zone.originFrame = "world" := by
    intro zone hmem
    rcases mem_pair.1 hmem with rfl | rfl
    · exact ⟨rfl, rfl⟩
    · exact ⟨rfl, rfl⟩
  rw [poseSafe_iff, henvelope, poseMargin_compile plainCodec ballModel none _ none]
  refine ⟨.inr ⟨world_exists, fun zone hmem _ => ?_⟩, fun _ => ?_, ?_⟩
  · rw [(hzone zone hmem).2]
    exact ⟨_, FrameTree.lookupTransform_self _ _⟩
  · exact ⟨worldBall .allowed 10, .tail _ (.head _), rfl, _, poseMargin_worldBall, by norm_num⟩
  · rintro ⟨zone, hmem, htype, -⟩
    rw [(hzone zone hmem).1] at htype
    cases htype

/-- The overlay lets in a pose that the model keeps out. -/
theorem overlay_lets_pose_in : MoreZones none (some (wideOverlay .allowed)) ∧
      ¬((compile plainCodec ballModel none (some (wideOverlay .allowed))).PoseSafe farPose "world" →
        (compile plainCodec ballModel none none).PoseSafe farPose "world") :=
  ⟨.overlay _, fun h => farPose_unsafe (h farPose_safe_with_overlay)⟩

theorem restricted_overlay_restricts : MoreZones none (some (wideOverlay .restricted)) ∧
      ((compile plainCodec ballModel none (some (wideOverlay .restricted))).PoseSafe farPose "world" →
        (compile plainCodec ballModel none none).PoseSafe farPose "world") := by
  refine ⟨.overlay _, ((overlay_restricts_iff (.overlay _)).1 farPose "world").2 ?_⟩
  rintro - - hrestricted
  refine absurd ⟨worldBall .restricted 10, .tail _ (.head _), rfl, _, poseMargin_worldBall, ?_⟩ hrestricted
  norm_num

end EmbodimentRuntime
end Roz.Embodiment
