import Roz.Embodiment.Snapshot

/-!
# What a fresh pose rests on

The freshness of a pose is looked up for the posed frame alone, while its transform is composed
of every frame between it and the reference.  Any frame of the same tree can be the reference,
so every pose that is called fresh rests on fresh transforms only if freshness is even: in a
tree with a fresh frame, all frames below the root are fresh (`fresh_poses_iff`).
-/

namespace Roz.Embodiment
open ExactFloat Ascent FrameTree List
open Roz.Core (FrameSource FreshnessState)
variable {α : Type} [Scalar α]

namespace FrameGraphSnapshot

/-- Every frame whose transform is composed between the two is fresh in the snapshot. -/
def RestsOnFresh (snapshot : FrameGraphSnapshot α) (relativeTo frameId : String) : Prop :=
  ∀ g ∈ snapshot.projectionTree.composedFrames relativeTo frameId, snapshot.frameFreshness[g]? = some .fresh

end FrameGraphSnapshot
open FrameGraphSnapshot
namespace EmbodimentRuntime
variable (rt : EmbodimentRuntime α)

/-- Each pose that is reported fresh rests on fresh frames; a tool or sensor is mounted on a
link at a fixed offset, so its pose rests on what the link's pose rests on. -/
structure FreshPoses (snapshot : FrameGraphSnapshot α) : Prop where
  resolved : ∀ frameId relativeTo pose, rt.resolveFramePose snapshot frameId relativeTo = .ok pose →
    pose.freshness = .fresh → snapshot.RestsOnFresh pose.relativeTo frameId
  watched : ∀ pose ∈ (rt.projectWatchedPoses snapshot).1, pose.freshness = .fresh →
    snapshot.RestsOnFresh pose.relativeTo pose.frameId
  tcp : ∀ tcp relativeTo pose, rt.tcpPoseInSnapshot snapshot tcp relativeTo = .ok pose →
    pose.freshness = .fresh → snapshot.RestsOnFresh pose.relativeTo tcp.parentLink
  sensor : ∀ sensor relativeTo pose, rt.sensorPoseInSnapshot snapshot sensor relativeTo = .ok pose →
    pose.freshness = .fresh → snapshot.RestsOnFresh pose.relativeTo sensor.parentLink

/-- With a fresh frame, every frame of its tree that has a parent is given fresh. -/
def EvenlyFresh (timestampNs : Nat) (input : FrameSnapshotInput α) : Prop :=
  ∀ f g parent, (∃ transform, rt.frameGraph.lookupTransform g f = .ok transform) →
    rt.givenFreshness timestampNs input f = some .fresh → rt.frameGraph.up g = some (some parent) →
    rt.givenFreshness timestampNs input g = some .fresh

section Resolve
variable {rt} {snapshot : FrameGraphSnapshot α} {frameId : String} {relativeTo : Option String}
  {pose : ResolvedFramePose α}

lemma resolveFramePose_ok (h : rt.resolveFramePose snapshot frameId relativeTo = .ok pose) :
    pose.freshness = snapshot.freshnessOf frameId ∧
      snapshot.projectionTree.lookupTransform pose.relativeTo frameId = .ok pose.transform := by
  rw [resolveFramePose] at h
  split at h
  · cases h
  · split at h
    · cases h
    · split at h
      · cases h
      · split at h
        · cases h
        · next hlookup =>
          cases h
          exact ⟨rfl, hlookup⟩

lemma mountedPose_ok {name parentLink offset}
    (h : rt.mountedPose snapshot name parentLink offset relativeTo = .ok pose) (hfresh : pose.freshness = .fresh) :
    ∃ parentPose, rt.resolveFramePose snapshot parentLink relativeTo = .ok parentPose ∧
      parentPose.freshness = .fresh ∧ parentPose.relativeTo = pose.relativeTo := by
  rw [mountedPose] at h
  split at h
  · cases h
  · next parentPose hparent =>
    cases h
    refine ⟨parentPose, hparent, ?_, rfl⟩
    cases hstate : parentPose.freshness with
    | fresh => rfl
    | stale since => simp [hstate, FreshnessState.isFresh] at hfresh
    | unknown => simp [hstate, FreshnessState.isFresh] at hfresh

lemma mem_collect_fst {β γ : Type} {results : List (Except β γ)} {value} :
    value ∈ (collect results).1 ↔ .ok value ∈ results := by
  rw [collect, mem_filterMap]
  constructor
  · rintro ⟨result, hmem, hvalue⟩
    cases result with
    | error note => cases hvalue
    | ok value' =>
      cases hvalue
      exact hmem
  · intro hmem
    exact ⟨_, hmem, rfl⟩

lemma projectWatchedPoses_mem (h : pose ∈ (rt.projectWatchedPoses snapshot).1) :
    pose.freshness = snapshot.freshnessOf pose.frameId ∧
      snapshot.projectionTree.lookupTransform pose.relativeTo pose.frameId = .ok pose.transform := by
  rw [projectWatchedPoses] at h
  split at h
  · cases h
  · obtain ⟨frameId, -, hpose⟩ := mem_map.1 (mem_collect_fst.1 h)
    rw [watchedPose] at hpose
    split at hpose
    · cases hpose
    · split at hpose
      · next hlookup =>
        cases hpose
        exact ⟨rfl, hlookup⟩
      · cases hpose

end Resolve

/-! ## The frames between two frames -/

omit [Scalar α] in
lemma freshnessOf_eq_fresh {snapshot : FrameGraphSnapshot α} {f} :
    snapshot.freshnessOf f = .fresh ↔ snapshot.frameFreshness[f]? = some .fresh := by
  rw [freshnessOf]
  cases snapshot.frameFreshness[f]? <;> simp

end EmbodimentRuntime

namespace FrameTree

omit [Scalar α]

variable {t : FrameTree α} {f g r : String} {chain : List String}
lemma Connected.of_mem_chain (h : t.Connected r f) (hr : Climb t.up r chain) (hg : g ∈ chain) : t.Connected g f := by
  obtain ⟨chainR, chainF, hr', hf, hlast⟩ := h
  obtain rfl := hr.unique hr'
  obtain ⟨post, hpost, -⟩ := hr.of_mem hg
  exact ⟨post, chainF, hpost, hf, (hr.getLast?_of_mem hg hpost).trans hlast⟩

lemma Connected.refl_of_climb (hf : Climb t.up f chain) : t.Connected f f :=
  ⟨chain, chain, hf, hf, rfl⟩

lemma of_mem_composedFrames (h : t.Connected r f) (hmem : g ∈ t.composedFrames r f) :
    t.Connected g f ∧ ∃ parent, t.up g = some (some parent) := by
  obtain ⟨chainR, chainF, hr, hf, hlast⟩ := id h
  by_cases hne : r = f
  · rw [composedFrames, if_pos hne] at hmem
    cases hmem
  obtain ⟨common, hmeet⟩ := exists_meet hr hlast
  obtain ⟨hcommonF, hcommonR⟩ := mem_of_meet hmeet
  rw [composedFrames_of_climb hne hr hf hmeet, mem_append] at hmem
  rcases hmem with hmem | hmem
  · exact ⟨h.of_mem_chain hr ((takeWhile_sublist _).subset hmem), hr.parent_of_mem_takeWhile hcommonR hmem⟩
  · exact ⟨(Connected.refl_of_climb hf).of_mem_chain hf ((takeWhile_sublist _).subset hmem),
      hf.parent_of_mem_takeWhile hcommonF hmem⟩

/-- A frame with a parent, connected to `f`, is composed in some lookup of `f`: from itself, or
from the root if it is on the chain of `f`. -/
lemma exists_composedFrames (h : t.Connected g f) (hne : g ≠ f) {parent}
    (hparent : t.up g = some (some parent)) : ∃ r, r ≠ f ∧ t.Connected r f ∧ g ∈ t.composedFrames r f := by
  obtain ⟨chainG, chainF, hg, hf, hlast⟩ := id h
  by_cases hmem : g ∈ chainF
  · obtain ⟨r, hrmem, hrlast, htop⟩ := hf.exists_getLast?
    have hr : Climb t.up r [r] := .top htop
    have hgr : g ≠ r := by
      rintro rfl
      rw [htop] at hparent
      cases hparent
    have hrf : r ≠ f := by
      rintro rfl
      rw [hf.unique hr, mem_singleton] at hmem
      exact hne hmem
    have hmeet : (chainF.find? fun x => x ∈ [r]) = some r := by
      obtain ⟨common, hcommon⟩ := exists_meet hr (hrlast ▸ rfl : ([r] : List String).getLast? = chainF.getLast?)
      rw [hcommon, mem_singleton.1 (mem_of_meet hcommon).2]
    refine ⟨r, hrf, ⟨[r], chainF, hr, hf, hrlast ▸ rfl⟩, ?_⟩
    rw [composedFrames_of_climb hrf hr hf hmeet]
    exact mem_append_right _ (hf.mem_takeWhile_of_getLast? hrlast hmem hgr)
  · obtain ⟨common, hmeet⟩ := exists_meet hg hlast
    have hcommon := (mem_of_meet hmeet).1
    have hgc : g ≠ common := fun heq => hmem (heq ▸ hcommon)
    refine ⟨g, hne, h, ?_⟩
    rw [composedFrames_of_climb hne hg hf hmeet]
    exact mem_append_left _ (hg.self_mem_takeWhile hgc)

end FrameTree

namespace EmbodimentRuntime
variable (rt : EmbodimentRuntime α) (snapshotId timestampNs : Nat) (input : FrameSnapshotInput α)
lemma projectionTree_snapshot_up :
    (rt.buildFrameSnapshotWithInput snapshotId timestampNs input).projectionTree.up = rt.frameGraph.up :=
  projectionTree_up _

omit [Scalar α] in
lemma connected_congr {t t' : FrameTree α} (h : t.up = t'.up) (a b : String) : t.Connected a b ↔ t'.Connected a b := by
  rw [FrameTree.Connected, FrameTree.Connected, h]

omit [Scalar α] in
lemma frameExists_of_climb {t : FrameTree α} {f chain} (h : Climb t.up f chain) : t.frameExists f = true := by
  have hup := h.up_isSome h.head_mem
  rw [up, Option.isSome_map] at hup
  exact frameExists_iff.2 hup

variable {rt snapshotId timestampNs input}
lemma EvenlyFresh.restsOnFresh (h : rt.EvenlyFresh timestampNs input) {r f} {transform : Transform3D α}
    (hlookup : (rt.buildFrameSnapshotWithInput snapshotId timestampNs input).projectionTree.lookupTransform r f =
      .ok transform) (hfresh : (rt.buildFrameSnapshotWithInput snapshotId timestampNs input).freshnessOf f = .fresh) :
    (rt.buildFrameSnapshotWithInput snapshotId timestampNs input).RestsOnFresh r f := by
  intro g hmem
  rw [freshnessOf_eq_fresh, frameFreshness_snapshot] at hfresh
  rw [frameFreshness_snapshot]
  by_cases hrf : r = f
  · rw [composedFrames, if_pos hrf] at hmem
    cases hmem
  obtain ⟨hconnected, parent, hparent⟩ :=
    of_mem_composedFrames ((connected_iff hrf).1 ⟨transform, hlookup⟩) hmem
  by_cases hgf : g = f
  · exact hgf ▸ hfresh
  rw [connected_congr (projectionTree_snapshot_up rt snapshotId timestampNs input)] at hconnected
  rw [projectionTree_snapshot_up] at hparent
  exact h f g parent ((connected_iff hgf).2 hconnected) hfresh hparent

lemma evenlyFresh_of_resolved (h : ∀ frameId relativeTo pose,
      rt.resolveFramePose (rt.buildFrameSnapshotWithInput snapshotId timestampNs input) frameId relativeTo = .ok pose →
        pose.freshness = .fresh →
        (rt.buildFrameSnapshotWithInput snapshotId timestampNs input).RestsOnFresh pose.relativeTo frameId) :
    rt.EvenlyFresh timestampNs input := by
  intro f g parent hlookup hfresh hparent
  by_cases hgf : g = f
  · exact hgf ▸ hfresh
  have hconnected := (connected_iff hgf).1 hlookup
  have hup := projectionTree_snapshot_up rt snapshotId timestampNs input
  rw [← connected_congr hup] at hconnected
  rw [← hup] at hparent
  -- the reference from which the transform of `g` is composed
  obtain ⟨r, hrf, hrconnected, hmem⟩ := exists_composedFrames hconnected hgf hparent
  obtain ⟨transform, htransform⟩ := (connected_iff hrf).2 hrconnected
  obtain ⟨chainR, chainF, hr, hf, -⟩ := hrconnected
  have hpose : rt.resolveFramePose (rt.buildFrameSnapshotWithInput snapshotId timestampNs input) f (some r) =
      .ok ⟨f, r, transform, (rt.buildFrameSnapshotWithInput snapshotId timestampNs input).freshnessOf f⟩ := by
    simp [resolveFramePose, frameExists_of_climb hf, frameExists_of_climb hr, htransform]
  have hpose' := h f (some r) _ hpose (freshnessOf_eq_fresh.2 (by rw [frameFreshness_snapshot]; exact hfresh)) g hmem
  rw [frameFreshness_snapshot] at hpose'
  exact hpose'

variable (rt snapshotId timestampNs input)

theorem fresh_poses_iff :
    rt.FreshPoses (rt.buildFrameSnapshotWithInput snapshotId timestampNs input) ↔ rt.EvenlyFresh timestampNs input := by
  constructor
  · intro h
    exact evenlyFresh_of_resolved h.resolved
  · intro h
    have hresolved : ∀ frameId relativeTo pose,
        rt.resolveFramePose (rt.buildFrameSnapshotWithInput snapshotId timestampNs input) frameId relativeTo = .ok pose →
          pose.freshness = .fresh →
          (rt.buildFrameSnapshotWithInput snapshotId timestampNs input).RestsOnFresh pose.relativeTo frameId := by
      intro frameId relativeTo pose hpose hfresh
      obtain ⟨hstate, hlookup⟩ := resolveFramePose_ok hpose
      exact h.restsOnFresh hlookup (hstate ▸ hfresh)
    refine ⟨hresolved, ?_, ?_, ?_⟩
    · intro pose hmem hfresh
      obtain ⟨hstate, hlookup⟩ := projectWatchedPoses_mem hmem
      exact h.restsOnFresh hlookup (hstate ▸ hfresh)
    · intro tcp relativeTo pose hpose hfresh
      obtain ⟨parentPose, hparent, hparentFresh, hrelative⟩ := mountedPose_ok hpose hfresh
      exact hrelative ▸ hresolved _ _ _ hparent hparentFresh
    · intro sensor relativeTo pose hpose hfresh
      obtain ⟨parentPose, hparent, hparentFresh, hrelative⟩ := mountedPose_ok hpose hfresh
      exact hrelative ▸ hresolved _ _ _ hparent hparentFresh

noncomputable def toolOnArm : EmbodimentRuntime ℝ :=
  let frames := ((∅ : Std.ExtTreeMap String (FrameNode ℝ)).insert "world" ⟨"world", none, .identity, .static⟩).insert
    "arm" ⟨"arm", some "world", .identity, .dynamic⟩ |>.insert "tool" ⟨"tool", some "arm", .identity, .static⟩
  .compile ⟨fun _ => "", fun _ => "", id⟩ (.ofFrames ⟨frames, some "world"⟩) none none

/-- The tool's own transform never changes, so its pose is called fresh; where the arm is, nobody
has said. -/
theorem fresh_pose_on_unknown_arm : ¬toolOnArm.FreshPoses (toolOnArm.buildFrameSnapshotWithInput 0 1 {}) := by
  intro h
  have hpose : ((toolOnArm.resolveFramePose (toolOnArm.buildFrameSnapshotWithInput 0 1 {}) "tool" none).toOption.map
      fun pose => (pose.freshness, pose.relativeTo)) = some (.fresh, "world") := by decide
  have harm : "arm" ∈ (toolOnArm.buildFrameSnapshotWithInput 0 1 {}).projectionTree.composedFrames "world" "tool" := by
    decide
  have hunknown : (toolOnArm.buildFrameSnapshotWithInput 0 1 {}).frameFreshness["arm"]? ≠ some .fresh := by
    decide
  cases hresolved : toolOnArm.resolveFramePose (toolOnArm.buildFrameSnapshotWithInput 0 1 {}) "tool" none with
  | error error =>
    rw [hresolved] at hpose
    cases hpose
  | ok pose =>
    rw [hresolved] at hpose
    obtain ⟨hfresh, hrelative⟩ := Prod.mk.inj (Option.some.inj hpose)
    exact hunknown (h.resolved "tool" none pose hresolved hfresh "arm" (hrelative ▸ harm))

end EmbodimentRuntime
end Roz.Embodiment
