import Mathlib.Data.List.Destutter
import Roz.Embodiment.Model

/-!
# The compiled runtime (`roz-core/src/embodiment/embodiment_runtime.rs`)

`compile` builds the runtime from the three layers: it recomputes the model digest, applies the
calibration if that is valid for the model, rebuilds the frame graph from the root outwards with
the corrected transforms, and hashes the three digests into one.

The rounds of the frame graph always end, since each one places a frame or gives up
(`compileRounds_isSome`).
-/

namespace Roz.Embodiment
open ExactFloat

def sortDedup (texts : List String) : List String := (texts.insertionSort (· ≤ ·)).destutter (· ≠ ·)

structure EmbodimentRuntime (α : Type) where
  model : EmbodimentModel α
  calibration : Option (CalibrationOverlay α)
  safetyOverlay : Option (SafetyOverlay α)
  modelDigest : String
  calibrationDigest : String
  safetyDigest : String
  combinedDigest : String
  frameGraph : FrameTree α
  activeCalibrationId : Option String
  jointCount : Nat
  tcpCount : Nat
  watchedFrames : List String
  validationIssues : List String

variable {α : Type}

/-! ## The frame graph -/

structure CompiledFrameGraph (α : Type) where
  frameGraph : FrameTree α
  validationIssues : List String

/-- One round: what is compiled, what is pending, and whether a frame was placed. -/
structure Round (α : Type) where
  compiled : FrameTree α
  pending : List String
  progressed : Bool

/-- The loop body of a round: a frame whose parent is compiled is placed below it, with the
correction of the calibration if there is one. -/
def Round.place (source : FrameTree α) (calibration : Option (CalibrationOverlay α)) (s : Round α)
    (frameId : String) : Round α :=
  match source.getFrame frameId with
  | none => s
  | some node =>
    match node.parentId with
    | none => s
    | some parentId =>
      if s.compiled.frameExists parentId then
        let transform := (calibration.bind fun overlay => overlay.frameCorrections[frameId]?).getD node.staticTransform
        match s.compiled.addFrame frameId parentId transform node.source with
        | .ok compiled => ⟨compiled, s.pending.erase frameId, true⟩
        | .error _ => s
      else s

/-- The `while` loop over the rounds.  A round without progress falls back to the source tree. -/
def compileRounds (source : FrameTree α) (calibration : Option (CalibrationOverlay α)) :
    (fuel : Nat) → (compiled : FrameTree α) → (pending : List String) → Option (CompiledFrameGraph α)
  | fuel, compiled, pending =>
    if pending.isEmpty then some ⟨compiled, []⟩
    else
      match fuel with
      | 0 => none
      | fuel + 1 =>
        let round := pending.foldl (Round.place source calibration) ⟨compiled, pending, false⟩
        if round.progressed then compileRounds source calibration fuel round.compiled round.pending
        else
          some ⟨source, ["frame graph compilation fell back to source tree for unresolved frames: " ++
            ", ".intercalate round.pending]⟩

variable (source : FrameTree α) (calibration : Option (CalibrationOverlay α))
lemma Round.place_cases (s : Round α) (frameId : String) : s.place source calibration frameId = s ∨
    ∃ compiled, s.place source calibration frameId = ⟨compiled, s.pending.erase frameId, true⟩ := by
  rw [Round.place]
  split
  · exact .inl rfl
  · split
    · exact .inl rfl
    · split
      · dsimp only
        split
        · next compiled _ => exact .inr ⟨compiled, rfl⟩
        · exact .inl rfl
      · exact .inl rfl

/-- A round never adds to what is pending, keeps it without repetition, and has placed a frame
exactly if less is pending.  The frames still to be visited are pending. -/
lemma foldl_place_pending (n : Nat) :
    ∀ (todo : List String) (s : Round α), todo.Nodup → s.pending.Nodup → (∀ f ∈ todo, f ∈ s.pending) →
      s.pending.length ≤ n → (s.progressed = true → s.pending.length < n) →
      let s' := todo.foldl (Round.place source calibration) s
      s'.pending.Nodup ∧ (s'.progressed = true → s'.pending.length < n) := by
  intro todo
  induction todo with
  | nil =>
    intro s _ hnodup _ _ hless
    exact ⟨hnodup, hless⟩
  | cons f todo ih =>
    intro s htodo hnodup hmem hle hless
    obtain ⟨hf, htodo⟩ := List.nodup_cons.1 htodo
    have hmemRest : ∀ g ∈ todo, g ∈ s.pending := fun g hg => hmem g (.tail _ hg)
    rw [List.foldl_cons]
    rcases s.place_cases source calibration f with hstay | ⟨compiled, hplaced⟩
    · rw [hstay]
      exact ih s htodo hnodup hmemRest hle hless
    · have hlen := List.length_erase_of_mem (hmem f (.head _))
      have hpos := List.length_pos_of_mem (hmem f (.head _))
      rw [hplaced]
      refine ih _ htodo (hnodup.erase f) (fun g hg => ?_) (by dsimp only; omega) (fun _ => by dsimp only; omega)
      exact (List.mem_erase_of_ne fun heq : g = f => hf (heq ▸ hg)).2 (hmemRest g hg)

lemma compileRounds_isSome : ∀ fuel compiled pending, pending.Nodup → pending.length ≤ fuel →
    (compileRounds source calibration fuel compiled pending).isSome := by
  intro fuel
  induction fuel with
  | zero =>
    intro compiled pending _ hfuel
    obtain rfl := List.length_eq_zero_iff.1 (Nat.le_zero.1 hfuel)
    rfl
  | succ fuel ih =>
    intro compiled pending hnodup hfuel
    unfold compileRounds
    split
    · rfl
    · obtain ⟨hnodup', hless⟩ := foldl_place_pending source calibration pending.length pending
        ⟨compiled, pending, false⟩ hnodup hnodup (fun _ h => h) (Nat.le_refl _) nofun
      dsimp only
      split
      · next hprogressed =>
        have := hless hprogressed
        exact ih _ _ hnodup' (by omega)
      · rfl

def pendingFrames (source : FrameTree α) (rootId : String) : List String :=
  source.allFrameIds.filter fun frameId => frameId ≠ rootId

lemma pendingFrames_nodup (rootId : String) : (pendingFrames source rootId).Nodup :=
  Std.ExtTreeMap.nodup_keys.filter _

def compiledFrameGraph [Arith α] (model : EmbodimentModel α) (calibration : Option (CalibrationOverlay α)) :
    CompiledFrameGraph α :=
  match model.frameTree.root with
  | none => ⟨.new, ["frame tree missing root frame"]⟩
  | some rootId =>
    match model.frameTree.getFrame rootId with
    | none => ⟨.new, ["frame tree root `" ++ rootId ++ "` missing node definition"]⟩
    | some rootNode =>
      let pending := pendingFrames model.frameTree rootId
      (compileRounds model.frameTree calibration pending.length (FrameTree.new.setRoot rootId rootNode.source) pending).get
        (compileRounds_isSome _ _ _ _ _ (pendingFrames_nodup _ _) (Nat.le_refl _))

/-! ## Watched frames -/

def SafetyOverlay.zones (overlay : SafetyOverlay α) : List (WorkspaceZone α) :=
  overlay.workspaceRestrictions ++ overlay.humanPresenceZones ++ overlay.contactAllowedZones

variable (model : EmbodimentModel α)
def inferWatchedFrames (calibration : Option (CalibrationOverlay α))
    (safetyOverlay : Option (SafetyOverlay α)) : List String :=
  let mentioned :=
    model.tcps.map (·.parentLink) ++ model.sensorMounts.map (·.parentLink) ++
      model.workspaceZones.map (·.originFrame) ++ model.channelBindings.map (·.frameId) ++
      (calibration.elim [] fun overlay => overlay.frameCorrections.keys) ++
      (safetyOverlay.elim [] fun overlay => overlay.zones.map (·.originFrame))
  sortDedup (model.frameTree.root.toList ++ mentioned.filter fun frameId => model.frameTree.frameExists frameId)

def resolveWatchedFrames (calibration : Option (CalibrationOverlay α))
    (safetyOverlay : Option (SafetyOverlay α)) (frameGraph : FrameTree α) : List String × List String :=
  if model.watchedFrames.isEmpty then
    let watched := inferWatchedFrames model calibration safetyOverlay
    (watched, if watched.isEmpty then [] else ["watched frames inferred from legacy model fields"])
  else
    let (known, missing) := model.watchedFrames.partition fun frameId => frameGraph.frameExists frameId
    (sortDedup known, missing.map fun frameId => "watched frame `" ++ frameId ++ "` missing from compiled frame graph")

/-! ## Validation -/

def missingFrameIssue (frameGraph : FrameTree α) (subject frameId : String) : List String :=
  if frameGraph.frameExists frameId then [] else [subject ++ " references missing frame `" ++ frameId ++ "`"]

def collectValidationIssues (calibration : Option (CalibrationOverlay α))
    (calibrationApplied : Bool) (safetyOverlay : Option (SafetyOverlay α)) (frameGraph : FrameTree α) : List String :=
  let modelIssues :=
    (if model.frameTree.root.isNone then ["model frame tree has no root"] else []) ++
      (model.tcps.flatMap fun tcp =>
        missingFrameIssue frameGraph ("tcp `" ++ tcp.name ++ "` parent link") tcp.parentLink) ++
      (model.sensorMounts.flatMap fun sensor =>
        missingFrameIssue frameGraph ("sensor `" ++ sensor.sensorId ++ "` parent link") sensor.parentLink) ++
      (model.workspaceZones.flatMap fun zone =>
        missingFrameIssue frameGraph ("workspace zone `" ++ zone.name ++ "`") zone.originFrame) ++
      (model.channelBindings.flatMap fun binding =>
        missingFrameIssue frameGraph ("channel binding `" ++ binding.physicalName ++ "`") binding.frameId)
  let calibrationIssues := calibration.elim [] fun calibration =>
    (if calibrationApplied then []
      else ["calibration `" ++ calibration.calibrationId ++
        "` was not applied because it is not valid for model digest `" ++ model.modelDigest ++ "`"]) ++
      (calibration.frameCorrections.keys.flatMap fun frameId =>
        missingFrameIssue frameGraph ("calibration `" ++ calibration.calibrationId ++ "` correction") frameId)
  let overlayIssues := safetyOverlay.elim [] fun overlay =>
    ((overlay.jointLimitOverrides.keys.filter fun jointName => (model.getJoint jointName).isNone).map fun jointName =>
        "safety overlay joint override references missing joint `" ++ jointName ++ "`") ++
      ((overlay.contactForceEnvelopes.filter fun envelope => (model.getLink envelope.linkName).isNone).map fun envelope =>
        "safety overlay contact envelope references missing link `" ++ envelope.linkName ++ "`") ++
      ((overlay.forceRateLimits.keys.filter fun sensorId =>
          !model.sensorMounts.any fun mount => mount.sensorId == sensorId).map fun sensorId =>
        "safety overlay force-rate limit references missing sensor `" ++ sensorId ++ "`") ++
      (overlay.zones.flatMap fun zone =>
        missingFrameIssue frameGraph ("safety zone `" ++ zone.name ++ "`") zone.originFrame)
  sortDedup (modelIssues ++ calibrationIssues ++ overlayIssues)

/-! ## Compilation -/

/-- The calibration that is applied: the given one, if it is valid for the model. -/
def appliedCalibration (codec : Codec α) (model : EmbodimentModel α) (calibration : Option (CalibrationOverlay α)) :
    Option (CalibrationOverlay α) :=
  calibration.filter fun overlay => overlay.isValidForModel codec (model.computeDigest codec)

def EmbodimentRuntime.compile [Arith α] (codec : Codec α) (model : EmbodimentModel α)
    (calibration : Option (CalibrationOverlay α)) (safetyOverlay : Option (SafetyOverlay α)) : EmbodimentRuntime α :=
  let modelDigest := model.computeDigest codec
  let digestIssues :=
    if model.modelDigest ≠ modelDigest then
      ["model digest was normalized at runtime: provided=" ++ model.modelDigest ++ " computed=" ++ modelDigest]
    else []
  let validCalibration := appliedCalibration codec model calibration
  let model := { model with modelDigest := modelDigest }
  let calibrationDigest := validCalibration.elim "none" (·.calibrationDigest)
  let safetyDigest := safetyOverlay.elim "none" (·.overlayDigest)
  let compiled := compiledFrameGraph model validCalibration
  let (watchedFrames, watchedFrameIssues) :=
    resolveWatchedFrames model validCalibration safetyOverlay compiled.frameGraph
  { model := model
    calibration := calibration
    safetyOverlay := safetyOverlay
    modelDigest := modelDigest
    calibrationDigest := calibrationDigest
    safetyDigest := safetyDigest
    combinedDigest := codec.sha256Hex (modelDigest ++ ":" ++ calibrationDigest ++ ":" ++ safetyDigest)
    frameGraph := compiled.frameGraph
    activeCalibrationId := validCalibration.map (·.calibrationId)
    jointCount := model.joints.length
    tcpCount := model.tcps.length
    watchedFrames := watchedFrames
    validationIssues := sortDedup (digestIssues ++ compiled.validationIssues ++ watchedFrameIssues ++
      collectValidationIssues model calibration validCalibration.isSome safetyOverlay compiled.frameGraph) }

end Roz.Embodiment
