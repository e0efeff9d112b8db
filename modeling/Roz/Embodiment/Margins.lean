import Roz.Embodiment.Overlay
import Roz.Embodiment.Freshness
import Roz.Embodiment.Placement

/-!
# What a safe verdict says about space

With exact numbers and unit rotations, the verdicts of `evaluate_pose_workspace` and of
`check_workspace` can be read in space.  The margin of a zone is subtracted from the depth in the
zone whatever its type.  For an allowed zone that is right; a restricted zone, which should be
kept clear of by its margin, is entered up to its margin instead, and a human-presence zone is
left too early.  A planned pose moreover passes over zones whose frame is missing
(`margins_respected_iff`).
-/

namespace Roz.Embodiment
open ExactFloat SignedDepth FrameTree Transform3D EmbodimentRuntime List

/-! ## Zones in space -/

/-- A position among zones that have a place in space, as far as their frames are resolved. -/
structure Scene where
  zones : List (WorkspaceZone ℝ)
  Resolved : WorkspaceZone ℝ → Prop
  region : WorkspaceZone ℝ → Set Point
  position : Point

namespace Scene
variable (S : Scene) (zoneType : ZoneType)
def Has (zone : WorkspaceZone ℝ) : Prop :=
  zone ∈ S.zones ∧ zone.zoneType = zoneType ∧ S.Resolved zone

structure Respected (safe inHumanPresence : Bool) : Prop where
  resolved : safe = true → ∀ zone ∈ S.zones, S.Resolved zone
  restricted : safe = true → ∀ zone, S.Has .restricted zone → Clear (S.region zone) zone.marginM S.position
  allowed : safe = true → hasAllowedZone S.zones = true →
    ∃ zone, S.Has .allowed zone ∧ Within (S.region zone) zone.marginM S.position
  humanPresence : inHumanPresence = false → ∀ zone, S.Has .humanPresence zone →
    Clear (S.region zone) zone.marginM S.position

/-- Deeper in a restricted zone than its margin, or within no allowed zone though there are some. -/
def Refused : Prop :=
  (∃ zone, S.Has .restricted zone ∧ Deep (S.region zone) zone.marginM S.position) ∨
    (hasAllowedZone S.zones = true ∧
      ∀ zone, S.Has .allowed zone → ¬Within (S.region zone) zone.marginM S.position)

def NearNo : Prop :=
  ∀ zone, S.Has zoneType zone → ¬Near (S.region zone) zone.marginM S.position

/-- Within a human-presence zone, or near none. -/
def PresenceKept : Prop :=
  (∃ zone, S.Has .humanPresence zone ∧ Within (S.region zone) zone.marginM S.position) ∨ S.NearNo .humanPresence

def AllResolved : Prop := ∀ zone ∈ S.zones, S.Resolved zone

def PoseMarginsKept : Prop := (S.Refused ∨ S.AllResolved ∧ S.NearNo .restricted) ∧ S.PresenceKept

/-- The same for a tool, for which a zone that is not resolved is a refusal. -/
def TcpMarginsKept : Prop := (S.AllResolved → S.Refused ∨ S.NearNo .restricted) ∧ S.PresenceKept

/-- The margins that a verdict is folded from, one for each resolved zone: the depth in the zone
less the zone's margin. -/
structure Measures (margin : WorkspaceZone ℝ → Option ℝ) : Prop where
  resolved_iff : ∀ zone ∈ S.zones, (S.Resolved zone ↔ ∃ m, margin zone = some m)
  within_iff : ∀ zone ∈ S.zones, ∀ m, margin zone = some m →
    (Within (S.region zone) zone.marginM S.position ↔ 0 ≤ m)
  deep_iff : ∀ zone ∈ S.zones, ∀ m, margin zone = some m →
    (Deep (S.region zone) zone.marginM S.position ↔ 0 < m)

variable {S}
section Measures
variable {margin : WorkspaceZone ℝ → Option ℝ} (h : S.Measures margin)

include h

lemma Measures.someZone_iff {P : Set Point → ℝ → Point → Prop} {Q}
    (hPQ : ∀ zone ∈ S.zones, ∀ m, margin zone = some m → (P (S.region zone) zone.marginM S.position ↔ Q m))
    (zoneType : ZoneType) : SomeZone S.zones margin zoneType Q ↔
      ∃ zone, S.Has zoneType zone ∧ P (S.region zone) zone.marginM S.position := by
  constructor
  · rintro ⟨zone, hmem, htype, m, hm, hQ⟩
    exact ⟨zone, ⟨hmem, htype, (h.resolved_iff zone hmem).2 ⟨m, hm⟩⟩, (hPQ zone hmem m hm).2 hQ⟩
  · rintro ⟨zone, ⟨hmem, htype, hresolved⟩, hP⟩
    obtain ⟨m, hm⟩ := (h.resolved_iff zone hmem).1 hresolved
    exact ⟨zone, hmem, htype, m, hm, (hPQ zone hmem m hm).1 hP⟩

lemma Measures.zonesSafe_iff : ZonesSafe S.zones margin ↔ ¬S.Refused := by
  have hdeep : ∀ zone ∈ S.zones, ∀ m, margin zone = some m →
      (Deep (S.region zone) zone.marginM S.position ↔ -m < 0) := by
    intro zone hmem m hm
    rw [h.deep_iff zone hmem m hm, neg_lt_zero]
  rw [ZonesSafe, h.someZone_iff h.within_iff, h.someZone_iff hdeep, Refused, not_or, and_comm]
  refine and_congr Iff.rfl ?_
  push Not
  exact Iff.rfl

end Measures

variable {A : Set Point} {m : ℝ} {p : Point}
lemma clear_of_not_near (hnear : ¬Near A m p) (hdeep : ¬Deep A m p) : Clear A m p := by
  by_contra hclear
  exact hnear ((near_iff A m p).2 ⟨hdeep, hclear⟩)

lemma not_near_of_clear (hclear : Clear A m p) : ¬Near A m p :=
  fun hnear => ((near_iff A m p).1 hnear).2 hclear

lemma respected_iff {safe inHumanPresence guard} (hsafe : safe = true ↔ guard ∧ ¬S.Refused)
    (hpresence : inHumanPresence = true ↔
      ∃ zone, S.Has .humanPresence zone ∧ Within (S.region zone) zone.marginM S.position) :
    S.Respected safe inHumanPresence ↔
      (guard → S.Refused ∨ S.AllResolved ∧ S.NearNo .restricted) ∧ S.PresenceKept := by
  constructor
  · intro hrespected
    constructor
    · intro hguard
      by_cases hrefused : S.Refused
      · exact .inl hrefused
      have hs := hsafe.2 ⟨hguard, hrefused⟩
      exact .inr ⟨hrespected.resolved hs, fun zone hzone => not_near_of_clear (hrespected.restricted hs zone hzone)⟩
    · by_cases hin : inHumanPresence = true
      · exact .inl (hpresence.1 hin)
      · exact .inr fun zone hzone =>
          not_near_of_clear (hrespected.humanPresence (Bool.not_eq_true _ ▸ hin) zone hzone)
  · rintro ⟨hkept, hpresenceKept⟩
    have hs : safe = true → ¬S.Refused ∧ S.AllResolved ∧ S.NearNo .restricted := by
      intro h
      obtain ⟨hguard, hrefused⟩ := hsafe.1 h
      exact ⟨hrefused, (hkept hguard).resolve_left hrefused⟩
    refine ⟨fun h => (hs h).2.1, fun h zone hzone => ?_, fun h hallowed => ?_, fun h zone hzone => ?_⟩
    · exact clear_of_not_near ((hs h).2.2 zone hzone) fun hdeep => (hs h).1 (.inl ⟨zone, hzone, hdeep⟩)
    · by_contra hnone
      exact (hs h).1 (.inr ⟨hallowed, fun zone hzone hwithin => hnone ⟨zone, hzone, hwithin⟩⟩)
    · have hout : ∀ zone, S.Has .humanPresence zone → ¬Within (S.region zone) zone.marginM S.position := by
        intro zone hzone hwithin
        rw [hpresence.2 ⟨zone, hzone, hwithin⟩] at h
        cases h
      have hnear : S.NearNo .humanPresence := hpresenceKept.resolve_left fun ⟨zone, hzone, hwithin⟩ => hout zone hzone hwithin
      refine clear_of_not_near (hnear zone hzone) fun hdeep => hout zone hzone ?_
      exact ⟨hdeep.1, fun q hq => (hdeep.2 q hq).le⟩

end Scene

/-! ## The scene of a pose -/

def FrameTree.Resolves (t : FrameTree ℝ) (frame link : String) : Prop :=
  t.frameExists link = true ∧ t.frameExists frame = true ∧ ∃ transform, t.lookupTransform frame link = .ok transform

variable {t : FrameTree ℝ}

/-- A point given by its offset from a link, among zones given in their frames. -/
noncomputable def FrameTree.Placement.scene (P : t.Placement) (zones : List (WorkspaceZone ℝ)) (link : String)
    (offset : Transform3D ℝ) : Scene where
  zones := zones
  Resolved zone := t.Resolves zone.originFrame link
  region zone := P.place zone.originFrame '' zone.shape.region
  position := P.place link (toPoint offset.translation)

lemma FrameTree.Placement.measures (ht : t.Rigid) (P : t.Placement)
    {zones} (hmargin : ∀ zone ∈ zones, 0 ≤ zone.marginM) {link offset margin}
    (hsome : ∀ zone ∈ zones, ∀ m, margin zone = some m ↔ t.Resolves zone.originFrame link ∧
      ∃ transform, t.lookupTransform zone.originFrame link = .ok transform ∧
        m = zoneMargin zone (transform.compose offset).translation) :
    (P.scene zones link offset).Measures margin := by
  have hplace : ∀ (zone : WorkspaceZone ℝ) transform, t.lookupTransform zone.originFrame link = .ok transform →
      (P.scene zones link offset).position =
        P.place zone.originFrame (toPoint (transform.compose offset).translation) := by
    intro zone transform hlookup
    rw [toPoint_translation_compose, P.lookupTransform ht hlookup]
    rfl
  refine ⟨fun zone hmem => ?_, fun zone hmem m hm => ?_, fun zone hmem m hm => ?_⟩
  · constructor
    · intro hresolved
      obtain ⟨-, -, transform, hlookup⟩ := id hresolved
      exact ⟨_, (hsome zone hmem _).2 ⟨hresolved, transform, hlookup, rfl⟩⟩
    · rintro ⟨m, hm⟩
      exact ((hsome zone hmem m).1 hm).1
  · obtain ⟨-, transform, hlookup, rfl⟩ := (hsome zone hmem m).1 hm
    rw [hplace zone transform hlookup]
    refine (within_image _).trans ((zone.shape.within_region_iff (hmargin zone hmem) _).trans ?_)
    rw [ofPoint_toPoint, zoneMargin, sub_nonneg]
  · obtain ⟨-, transform, hlookup, rfl⟩ := (hsome zone hmem m).1 hm
    rw [hplace zone transform hlookup]
    refine (deep_image _).trans ((zone.shape.deep_region_iff (hmargin zone hmem) _).trans ?_)
    rw [ofPoint_toPoint, zoneMargin, sub_pos]

namespace EmbodimentRuntime

/-! ## The verdicts -/

variable {rt : EmbodimentRuntime ℝ} {pose : Transform3D ℝ} {relativeTo : String} {zone : WorkspaceZone ℝ} {m : ℝ}
lemma poseMargin_eq_some_iff
    (hexists : rt.frameGraph.frameExists relativeTo = true) : rt.poseMargin pose relativeTo zone = some m ↔
      rt.frameGraph.Resolves zone.originFrame relativeTo ∧
        ∃ transform, rt.frameGraph.lookupTransform zone.originFrame relativeTo = .ok transform ∧
          m = zoneMargin zone (transform.compose pose).translation := by
  rw [poseMargin, FrameTree.Resolves]
  by_cases hzone : rt.frameGraph.frameExists zone.originFrame = true
  · cases hlookup : rt.frameGraph.lookupTransform zone.originFrame relativeTo with
    | error e => simp
    | ok transform => simp [hexists, hzone, eq_comm]
  · simp [hzone]

variable {tcp : ToolCenterPoint ℝ}
lemma tcpMargin_eq_some_iff {snapshot} : rt.tcpMargin snapshot tcp zone = some m ↔
    snapshot.projectionTree.Resolves zone.originFrame tcp.parentLink ∧
      ∃ transform, snapshot.projectionTree.lookupTransform zone.originFrame tcp.parentLink = .ok transform ∧
        m = zoneMargin zone (transform.compose tcp.offset).translation := by
  rw [tcpMargin, tcpPoseInSnapshot, mountedPose, resolveFramePose, FrameTree.Resolves]
  by_cases hlink : snapshot.projectionTree.frameExists tcp.parentLink = true
  · by_cases hzone : snapshot.projectionTree.frameExists zone.originFrame = true
    · cases hlookup : snapshot.projectionTree.lookupTransform zone.originFrame tcp.parentLink with
      | error e => simp [hlink, hzone, hlookup]
      | ok transform =>
        simp only [hlink, hzone, hlookup, Option.some_or, Bool.not_true, Bool.false_eq_true, if_false, Option.some.injEq,
          Except.ok.injEq, exists_eq', exists_eq_left', true_and]
        exact eq_comm
    · simp [hlink, hzone]
  · simp [hlink]

lemma frames_checkWorkspace {jointPositions} {i : Nat} {frame}
    (hframe : (rt.checkWorkspace jointPositions).frames[i]? = some frame)
    (htcp : rt.model.tcps[i]? = some tcp) :
    frame = (rt.checkTcp (rt.jointSnapshot jointPositions) rt.workspaceEnvelope tcp).1 := by
  rw [checkWorkspace, checkWorkspaceSnapshot] at hframe
  dsimp only at hframe
  split at hframe
  · simp at hframe
  · simp only [map_map, getElem?_map, htcp, Option.map_some, Option.some.injEq] at hframe
    exact hframe.symm

lemma pose_respected_iff (hrigid : rt.Rigid) (hmargin : ∀ zone ∈ rt.workspaceEnvelope, 0 ≤ zone.marginM)
    (P : rt.frameGraph.Placement) {e}
    (he : rt.evaluatePoseWorkspace pose relativeTo = .ok e) :
    (P.scene rt.workspaceEnvelope relativeTo pose).Respected e.safe e.inHumanPresence ↔
      (P.scene rt.workspaceEnvelope relativeTo pose).PoseMarginsKept := by
  have hmeasures : (P.scene rt.workspaceEnvelope relativeTo pose).Measures (rt.poseMargin pose relativeTo) := by
    refine P.measures hrigid.frameGraph hmargin fun zone hmem m => poseMargin_eq_some_iff ?_
    rcases (rt.evaluatePoseWorkspace_isOk pose relativeTo).1 ⟨e, he⟩ with hnil | ⟨hexists, -⟩
    · rw [hnil] at hmem
      cases hmem
    · exact hexists
  obtain ⟨hsafe, hpresence⟩ := rt.evaluatePoseWorkspace_ok he
  rw [Scene.respected_iff (by rw [hsafe, true_and]; exact hmeasures.zonesSafe_iff)
    (hpresence.trans (hmeasures.someZone_iff hmeasures.within_iff _)), true_imp_iff]
  exact Iff.rfl

lemma tcp_respected_iff (hrigid : rt.Rigid) (hmargin : ∀ zone ∈ rt.workspaceEnvelope, 0 ≤ zone.marginM)
    (jointPositions : List ℝ) (P : (rt.jointSnapshot jointPositions).projectionTree.Placement)
    (tcp : ToolCenterPoint ℝ) : (P.scene rt.workspaceEnvelope tcp.parentLink tcp.offset).Respected
        (rt.checkTcp (rt.jointSnapshot jointPositions) rt.workspaceEnvelope tcp).1.safe
        (rt.checkTcp (rt.jointSnapshot jointPositions) rt.workspaceEnvelope tcp).1.inHumanPresence ↔
      (P.scene rt.workspaceEnvelope tcp.parentLink tcp.offset).TcpMarginsKept := by
  have hmeasures : (P.scene rt.workspaceEnvelope tcp.parentLink tcp.offset).Measures
      (rt.tcpMargin (rt.jointSnapshot jointPositions) tcp) :=
    P.measures (rigid_projectionTree hrigid _ _) hmargin fun zone _ m => tcpMargin_eq_some_iff
  obtain ⟨hsafe, hpresence⟩ := rt.checkTcp_spec (rt.jointSnapshot jointPositions) rt.workspaceEnvelope tcp
  have hresolved : (∀ zone ∈ rt.workspaceEnvelope,
      (rt.tcpMargin (rt.jointSnapshot jointPositions) tcp zone).isSome = true) ↔
      (P.scene rt.workspaceEnvelope tcp.parentLink tcp.offset).AllResolved := by
    refine forall₂_congr fun zone hmem => ?_
    rw [Option.isSome_iff_exists]
    exact (hmeasures.resolved_iff zone hmem).symm
  rw [Scene.respected_iff (hsafe.trans (and_congr hresolved hmeasures.zonesSafe_iff))
    (hpresence.trans (hmeasures.someZone_iff hmeasures.within_iff _)), Scene.TcpMarginsKept]
  refine and_congr (forall_congr' fun hall => or_congr Iff.rfl ?_) Iff.rfl
  exact and_iff_right hall

/-! ## A room with one ball -/

noncomputable def unitBall (zoneType : ZoneType) (marginM : ℝ) : WorkspaceZone ℝ :=
  ⟨"ball", .sphere 1, "world", zoneType, marginM⟩

noncomputable def room (zone : WorkspaceZone ℝ) : EmbodimentRuntime ℝ :=
  compile plainCodec
    { EmbodimentModel.ofFrames (FrameTree.new.setRoot "world" .static) with workspaceZones := [zone] } none none

def aside (x : ℝ) : Transform3D ℝ := ⟨⟨x, 0, 0⟩, ⟨1, 0, 0, 0⟩, 0⟩

section Room
variable (zoneType : ZoneType) (marginM x : ℝ)
lemma room_world : (room (unitBall zoneType marginM)).frameGraph.frameExists "world" = true := by
  show (FrameTree.new.setRoot "world" .static : FrameTree ℝ).frameExists "world" = true
  decide

lemma room_rigid : (room (unitBall zoneType marginM)).Rigid := by
  refine ⟨fun f node hnode => ?_, nofun⟩
  have hgraph : (room (unitBall zoneType marginM)).frameGraph = FrameTree.new.setRoot "world" .static := rfl
  rw [hgraph, getFrame, setRoot, Std.ExtTreeMap.getElem?_insert] at hnode
  split at hnode
  · cases hnode
    exact unitNorm_identity
  · simp [FrameTree.new] at hnode

lemma room_resolves : (room (unitBall zoneType marginM)).frameGraph.Resolves "world" "world" :=
  ⟨room_world zoneType marginM, room_world zoneType marginM, _, lookupTransform_self _ _⟩

lemma signedMargin_aside : (unitBall zoneType marginM).shape.signedMargin (aside x).translation = 1 - |x| := by
  simp [unitBall, WorkspaceShape.signedMargin, aside, Real.sqrt_mul_self_eq_abs]

lemma room_poseMargin : (room (unitBall zoneType marginM)).poseMargin (aside x) "world" (unitBall zoneType marginM) =
    some (1 - |x| - marginM) := by
  rw [poseMargin_eq_some_iff (room_world zoneType marginM)]
  refine ⟨room_resolves zoneType marginM, .identity, lookupTransform_self _ _, ?_⟩
  have htranslation : (identity.compose (aside x)).translation = (aside x).translation := by
    simp [compose, identity, rotatePoint, aside]
  rw [zoneMargin, htranslation, signedMargin_aside]
  rfl

lemma room_evaluates : ∃ e, (room (unitBall zoneType marginM)).evaluatePoseWorkspace (aside x) "world" = .ok e := by
  rw [evaluatePoseWorkspace_isOk]
  refine .inr ⟨room_world zoneType marginM, fun zone hmem _ => ?_⟩
  obtain rfl : zone = unitBall zoneType marginM := mem_singleton.1 hmem
  exact ⟨_, lookupTransform_self _ _⟩

end Room

/-- The verdicts on a planned pose and on every tool keep the margins of the zones exactly where
the position is not near a restricted or human-presence zone, or the verdict is decided by
another zone; and for a planned pose no zone may be left out. -/
theorem margins_respected_iff (hrigid : rt.Rigid) (hmargin : ∀ zone ∈ rt.workspaceEnvelope, 0 ≤ zone.marginM) :
    (∀ (P : rt.frameGraph.Placement) (pose : Transform3D ℝ) (relativeTo : String) (e : WorkspacePoseEvaluation ℝ),
      rt.evaluatePoseWorkspace pose relativeTo = .ok e →
        ((P.scene rt.workspaceEnvelope relativeTo pose).Respected e.safe e.inHumanPresence ↔
          (P.scene rt.workspaceEnvelope relativeTo pose).PoseMarginsKept)) ∧
    ∀ (jointPositions : List ℝ) (P : (rt.jointSnapshot jointPositions).projectionTree.Placement) (i : Nat)
      (frame : WorkspaceCheckFrameResult ℝ) (tcp : ToolCenterPoint ℝ),
      (rt.checkWorkspace jointPositions).frames[i]? = some frame → rt.model.tcps[i]? = some tcp →
        ((P.scene rt.workspaceEnvelope tcp.parentLink tcp.offset).Respected frame.safe frame.inHumanPresence ↔
          (P.scene rt.workspaceEnvelope tcp.parentLink tcp.offset).TcpMarginsKept) := by
  refine ⟨fun P pose relativeTo e he => pose_respected_iff hrigid hmargin P he, ?_⟩
  intro jointPositions P i frame tcp hframe htcp
  obtain rfl := frames_checkWorkspace hframe htcp
  exact tcp_respected_iff hrigid hmargin jointPositions P tcp

/-- A pose just inside the ball, no deeper than its margin, is reported as safe though the ball is
restricted. -/
theorem restricted_ball_entered : (room (unitBall .restricted (1 / 10))).Rigid ∧
      (∀ zone ∈ (room (unitBall .restricted (1 / 10))).workspaceEnvelope, 0 ≤ zone.marginM) ∧
      ∃ (P : (room (unitBall .restricted (1 / 10))).frameGraph.Placement) (e : WorkspacePoseEvaluation ℝ),
        (room (unitBall .restricted (1 / 10))).evaluatePoseWorkspace (aside (19 / 20)) "world" = .ok e ∧
          ¬(P.scene (room (unitBall .restricted (1 / 10))).workspaceEnvelope "world" (aside (19 / 20))).Respected
            e.safe e.inHumanPresence := by
  have hrigid := room_rigid .restricted (1 / 10)
  obtain ⟨P⟩ := exists_placement hrigid.frameGraph
  obtain ⟨e, he⟩ := room_evaluates .restricted (1 / 10) (19 / 20)
  refine ⟨hrigid, fun zone hmem => ?_, P, e, he, fun hrespected => ?_⟩
  · obtain rfl : zone = unitBall .restricted (1 / 10) := mem_singleton.1 hmem
    norm_num [unitBall]
  have hsafe : e.safe = true := by
    refine (evaluatePoseWorkspace_ok _ he).1.2 ⟨fun hallowed => ?_, ?_⟩
    · cases hallowed
    · rintro ⟨zone, hmem, -, m, hm, hneg⟩
      obtain rfl : zone = unitBall .restricted (1 / 10) := mem_singleton.1 hmem
      rw [room_poseMargin] at hm
      cases hm
      norm_num [abs_of_pos] at hneg
  have hclear := hrespected.restricted hsafe (unitBall .restricted (1 / 10))
    ⟨.head _, rfl, room_resolves .restricted (1 / 10)⟩
  refine hclear.1 ⟨toPoint (aside (19 / 20)).translation, ?_, rfl⟩
  rw [(WorkspaceShape.signedMargin_isDepth _).mem_iff, ofPoint_toPoint, signedMargin_aside]
  norm_num [abs_of_pos]

theorem allowed_ball_respected : (room (unitBall .allowed 0)).Rigid ∧
      (∀ zone ∈ (room (unitBall .allowed 0)).workspaceEnvelope, 0 ≤ zone.marginM) ∧
      ∃ (P : (room (unitBall .allowed 0)).frameGraph.Placement) (e : WorkspacePoseEvaluation ℝ),
        (room (unitBall .allowed 0)).evaluatePoseWorkspace (aside 0) "world" = .ok e ∧ e.safe = true ∧
          (P.scene (room (unitBall .allowed 0)).workspaceEnvelope "world" (aside 0)).Respected
            e.safe e.inHumanPresence := by
  have hrigid := room_rigid .allowed 0
  have hmargin : ∀ zone ∈ (room (unitBall .allowed 0)).workspaceEnvelope, 0 ≤ zone.marginM := by
    intro zone hmem
    obtain rfl : zone = unitBall .allowed 0 := mem_singleton.1 hmem
    exact le_rfl
  have hno : ∀ (P : (room (unitBall .allowed 0)).frameGraph.Placement) zoneType, zoneType ≠ .allowed →
      (P.scene (room (unitBall .allowed 0)).workspaceEnvelope "world" (aside 0)).NearNo zoneType := by
    rintro P zoneType hne zone ⟨hmem, htype, -⟩
    obtain rfl : zone = unitBall .allowed 0 := mem_singleton.1 hmem
    exact absurd htype.symm hne
  obtain ⟨P⟩ := exists_placement hrigid.frameGraph
  obtain ⟨e, he⟩ := room_evaluates .allowed 0 0
  refine ⟨hrigid, hmargin, P, e, he, (evaluatePoseWorkspace_ok _ he).1.2 ⟨fun _ => ?_, ?_⟩,
    ((margins_respected_iff hrigid hmargin).1 P _ _ e he).2 ⟨.inr ⟨fun zone hmem => ?_, hno P _ ?_⟩, .inr (hno P _ ?_)⟩⟩
  · exact ⟨unitBall .allowed 0, .head _, rfl, _, room_poseMargin _ _ _, by norm_num⟩
  · rintro ⟨zone, hmem, htype, -⟩
    obtain rfl : zone = unitBall .allowed 0 := mem_singleton.1 hmem
    cases htype
  · obtain rfl : zone = unitBall .allowed 0 := mem_singleton.1 hmem
    exact room_resolves .allowed 0
  · decide
  · decide

end EmbodimentRuntime
end Roz.Embodiment
