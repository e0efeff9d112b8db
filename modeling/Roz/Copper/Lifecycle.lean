import Roz.Core.Controller

/-!
# The controller lifecycle (`roz-copper/src/controller_lifecycle.rs`)

`ControllerLifecycle` moves one artifact at a time through
`verifiedOnly → shadow → canary → active` behind the evidence gates of
`promote_to`, and keeps one last-known-good artifact to go back to.  Every
operation that fails leaves the lifecycle unchanged, so an operation returns
either an error or its result with the new lifecycle.

For each operation there is one inversion lemma saying all that a success does
(`promoteTo_ok_iff`, `retireCurrent_ok_iff`).
-/

namespace Roz.Copper
open Roz.Core

structure RuntimeDigests where
  controllerDigest : String
  witWorldVersion : String
  modelDigest : String
  calibrationDigest : String
  manifestDigest : String
  executionMode : ExecutionMode
  compilerVersion : String
  embodimentFamily : Option String
  deriving DecidableEq, Repr

def RuntimeDigests.ofKey (key : VerificationKey) : RuntimeDigests :=
  ⟨key.controllerDigest, key.witWorldVersion, key.modelDigest, key.calibrationDigest,
    key.manifestDigest, key.executionMode, key.compilerVersion, key.embodimentFamily⟩

structure LifecycleTransition where
  controllerId : String
  fromState : DeploymentState
  toState : DeploymentState
  deriving DecidableEq, Repr

structure LifecycleRetirement where
  controllerId : String
  terminalState : DeploymentState
  restoredControllerId : Option String
  restoredState : Option DeploymentState
  deriving DecidableEq, Repr

inductive LifecycleError where
  | noArtifact
  | noEvidence
  | invalidTransition (e : TransitionError)
  | digestMismatch (field expected actual : String)
  | safetyIssues (detail : String)
  | evidenceVerifierStatus (status : VerifierStatus) (reason : Option String)
  | evidenceExecutionModeMismatch (expected actual : ExecutionMode)
  | evidenceDigestMismatch (field expected actual : String)
  | untouchedChannels (channels : List String)
  | noLastKnownGood
  | evidenceMismatch (expected actual : String)
  deriving DecidableEq, Repr

def LifecycleError.text : LifecycleError → String
  | .noArtifact => "no artifact loaded"
  | .noEvidence => "no evidence submitted"
  | .invalidTransition e => "invalid transition: invalid transition from " ++ e.fromState.debug ++
      " to " ++ e.toState.debug ++ ": " ++ e.reason
  | .digestMismatch field expected actual =>
      "digest mismatch on " ++ field ++ ": expected=" ++ expected ++ " actual=" ++ actual
  | .safetyIssues msg => "safety issues in evidence: " ++ msg
  | .evidenceVerifierStatus status (some reason) =>
      "evidence verifier status is " ++ status.asStr ++ ": " ++ reason
  | .evidenceVerifierStatus status none => "evidence verifier status is " ++ status.asStr
  | .evidenceExecutionModeMismatch expected actual =>
      "evidence execution_mode mismatch: expected=" ++ expected.debug ++ " actual=" ++ actual.debug
  | .evidenceDigestMismatch field expected actual =>
      "evidence mismatch on " ++ field ++ ": expected=" ++ expected ++ " actual=" ++ actual
  | .untouchedChannels channels => "evidence left channels untouched: " ++ ", ".intercalate channels
  | .noLastKnownGood => "no last-known-good artifact available"
  | .evidenceMismatch expected actual =>
      "evidence controller_id mismatch: expected=" ++ expected ++ " actual=" ++ actual

structure ControllerLifecycle where
  currentArtifact : Option ControllerArtifact
  currentState : Option DeploymentState
  evidence : Option ControllerEvidenceBundle
  lastKnownGood : Option ControllerArtifact
  deriving DecidableEq, Repr

/-! ## The operations -/

def nextPromotionState : DeploymentState → DeploymentState
  | .verifiedOnly => .shadow
  | .shadow => .canary
  | .canary | .active | .rolledBack | .rejected => .active

def evidenceModeForState : DeploymentState → ExecutionMode
  | .verifiedOnly => .verify
  | .shadow => .shadow
  | .canary => .canary
  | .active | .rolledBack | .rejected => .live

def formatOptionalField (value : Option String) : String := value.getD "<none>"

def retirementStateFor (current : DeploymentState) : Except TransitionError DeploymentState :=
  match current with
  | .verifiedOnly | .shadow => current.transition .rejected
  | .canary | .active => current.transition .rolledBack
  | .rolledBack | .rejected => .error ⟨current, current, current.debug ++ " is already terminal"⟩

variable (checks : List (String × String × String))
def firstMismatch : Option (String × String × String) :=
  checks.find? fun c => decide (c.2.1 ≠ c.2.2)

variable (key : VerificationKey) (e : ControllerEvidenceBundle)
def evidenceChecks : List (String × String × String) :=
  [("controller_digest", key.controllerDigest, e.controllerDigest),
   ("wit_world_version", key.witWorldVersion, e.witWorldVersion),
   ("model_digest", key.modelDigest, e.modelDigest),
   ("calibration_digest", key.calibrationDigest, e.calibrationDigest),
   ("manifest_digest", key.manifestDigest, e.manifestDigest),
   ("compiler_version", key.compilerVersion, e.compilerVersion)]

def runtimeChecks (rd : RuntimeDigests) : List (String × String × String) :=
  [("controller_digest", key.controllerDigest, rd.controllerDigest),
   ("wit_world_version", key.witWorldVersion, rd.witWorldVersion),
   ("model_digest", key.modelDigest, rd.modelDigest),
   ("calibration_digest", key.calibrationDigest, rd.calibrationDigest),
   ("manifest_digest", key.manifestDigest, rd.manifestDigest),
   ("compiler_version", key.compilerVersion, rd.compilerVersion)]

def promotionGates (current : DeploymentState) (rd : RuntimeDigests) : Except LifecycleError Unit :=
  if e.verifierStatusIsPass = false then
    .error (.evidenceVerifierStatus e.verifierStatus e.verifierReason)
  else if e.executionMode ≠ evidenceModeForState current then
    .error (.evidenceExecutionModeMismatch (evidenceModeForState current) e.executionMode)
  else if e.hasSafetyIssues then
    .error (.safetyIssues ("traps=" ++ toString e.trapCount ++ " epoch_interrupts=" ++
      toString e.epochInterruptCount ++ " oscillation=" ++
      toString e.controllerStabilitySummary.commandOscillationDetected))
  else if e.hasUntouchedChannels then .error (.untouchedChannels e.channelsUntouched)
  else
    match firstMismatch (evidenceChecks key e) with
    | some (field, expected, actual) => .error (.evidenceDigestMismatch field expected actual)
    | none =>
      match firstMismatch (runtimeChecks key rd) with
      | some (field, expected, actual) => .error (.digestMismatch field expected actual)
      | none =>
        if key.executionMode ≠ rd.executionMode then
          .error (.digestMismatch "execution_mode" key.executionMode.debug rd.executionMode.debug)
        else if key.embodimentFamily ≠ rd.embodimentFamily then
          .error (.digestMismatch "embodiment_family" (formatOptionalField key.embodimentFamily)
            (formatOptionalField rd.embodimentFamily))
        else .ok ()

namespace ControllerLifecycle

def new : ControllerLifecycle := ⟨none, none, none, none⟩

variable (lc : ControllerLifecycle)

/-- An `Active` controller becomes the last-known-good before it is replaced. -/
def loadArtifact (artifact : ControllerArtifact) : ControllerLifecycle :=
  { currentArtifact := some artifact
    currentState := some .verifiedOnly
    evidence := none
    lastKnownGood :=
      if lc.currentState = some .active then lc.currentArtifact else lc.lastKnownGood }

def submitEvidence (e : ControllerEvidenceBundle) : Except LifecycleError ControllerLifecycle :=
  match lc.currentArtifact with
  | none => .error .noArtifact
  | some artifact =>
    if e.controllerId ≠ artifact.controllerId then
      .error (.evidenceMismatch artifact.controllerId e.controllerId)
    else .ok { lc with evidence := some e }

def stage : DeploymentState := lc.currentState.getD .verifiedOnly

variable (rd : RuntimeDigests)
def promoteTo (target : DeploymentState) : Except LifecycleError (LifecycleTransition × ControllerLifecycle) :=
  match lc.currentArtifact with
  | none => .error .noArtifact
  | some artifact =>
    match lc.evidence with
    | none => .error .noEvidence
    | some e =>
      match promotionGates artifact.verificationKey e lc.stage rd with
      | .error err => .error err
      | .ok () =>
        match lc.stage.transition target with
        | .error err => .error (.invalidTransition err)
        | .ok newState =>
          .ok (⟨artifact.controllerId, lc.stage, newState⟩, { lc with evidence := none, currentState := some newState })

def promote : Except LifecycleError (LifecycleTransition × ControllerLifecycle) :=
  lc.promoteTo rd (nextPromotionState lc.stage)

def retireCurrent : Except LifecycleError (LifecycleRetirement × ControllerLifecycle) :=
  match lc.currentArtifact with
  | none => .error .noArtifact
  | some artifact =>
    match retirementStateFor lc.stage with
    | .error err => .error (.invalidTransition err)
    | .ok terminalState =>
      .ok (⟨artifact.controllerId, terminalState, none, none⟩,
        { lc with currentState := some terminalState, evidence := none })

/-- The restored artifact comes back as `VerifiedOnly` and is no longer the
last-known-good. -/
def rollback : Except LifecycleError (LifecycleRetirement × ControllerLifecycle) :=
  match lc.lastKnownGood with
  | none => .error .noLastKnownGood
  | some lkg =>
    match lc.retireCurrent with
    | .error err => .error err
    | .ok (retirement, _) =>
      .ok ({ retirement with
              restoredControllerId := some lkg.controllerId
              restoredState := some .verifiedOnly },
        ⟨some lkg, some .verifiedOnly, none, none⟩)

/-- The restored artifact comes back as `Active` and stays the last-known-good. -/
def restoreLastKnownGoodActive : Except LifecycleError (LifecycleRetirement × ControllerLifecycle) :=
  match lc.lastKnownGood with
  | none => .error .noLastKnownGood
  | some lkg =>
    match lc.retireCurrent with
    | .error err => .error err
    | .ok (retirement, _) =>
      .ok ({ retirement with
              restoredControllerId := some lkg.controllerId
              restoredState := some .active },
        ⟨some lkg, some .active, none, some lkg⟩)

end ControllerLifecycle

/-! ## What a success means -/

/-- What gates 3 to 7 establish: the evidence passed in the mode of the stage, shows no
issue, and both it and the runtime carry the digests of the key. -/
structure PromotionGate (key : VerificationKey) (e : ControllerEvidenceBundle)
    (stage : DeploymentState) (rd : RuntimeDigests) : Prop where
  pass : e.verifierStatusIsPass = true
  mode : e.executionMode = evidenceModeForState stage
  noSafetyIssues : e.hasSafetyIssues = false
  noUntouchedChannels : e.hasUntouchedChannels = false
  controllerDigest : key.controllerDigest = e.controllerDigest
  witWorldVersion : key.witWorldVersion = e.witWorldVersion
  modelDigest : key.modelDigest = e.modelDigest
  calibrationDigest : key.calibrationDigest = e.calibrationDigest
  manifestDigest : key.manifestDigest = e.manifestDigest
  compilerVersion : key.compilerVersion = e.compilerVersion
  runtime : rd = RuntimeDigests.ofKey key

lemma firstMismatch_eq_none : firstMismatch checks = none ↔ ∀ c ∈ checks, c.2.1 = c.2.2 := by
  unfold firstMismatch
  rw [List.find?_eq_none]
  simp

variable (key : VerificationKey) (e : ControllerEvidenceBundle)
lemma evidenceChecks_match : firstMismatch (evidenceChecks key e) = none ↔
    key.controllerDigest = e.controllerDigest ∧ key.witWorldVersion = e.witWorldVersion ∧
    key.modelDigest = e.modelDigest ∧ key.calibrationDigest = e.calibrationDigest ∧
    key.manifestDigest = e.manifestDigest ∧ key.compilerVersion = e.compilerVersion := by
  rw [firstMismatch_eq_none]
  simp [evidenceChecks]

lemma runtimeChecks_match (rd : RuntimeDigests) :
    (firstMismatch (runtimeChecks key rd) = none ∧ key.executionMode = rd.executionMode ∧
      key.embodimentFamily = rd.embodimentFamily) ↔ rd = RuntimeDigests.ofKey key := by
  rw [firstMismatch_eq_none]
  obtain ⟨c, w, m, cal, man, mode, comp, fam⟩ := rd
  simp only [runtimeChecks, RuntimeDigests.ofKey, List.mem_cons, List.not_mem_nil, or_false,
    forall_eq_or_imp, forall_eq, RuntimeDigests.mk.injEq]
  constructor
  · rintro ⟨⟨rfl, rfl, rfl, rfl, rfl, rfl⟩, rfl, rfl⟩
    simp
  · rintro ⟨rfl, rfl, rfl, rfl, rfl, rfl, rfl, rfl⟩
    simp

lemma promotionGates_ok_iff (stage : DeploymentState) (rd : RuntimeDigests) :
    promotionGates key e stage rd = .ok () ↔ PromotionGate key e stage rd := by
  unfold promotionGates
  constructor
  · intro h
    split at h
    · cases h
    · next hp =>
      split at h
      · cases h
      · next hm =>
        split at h
        · cases h
        · next hs =>
          split at h
          · cases h
          · next hu =>
            split at h
            · cases h
            · next he =>
              split at h
              · cases h
              · next hr =>
                split at h
                · cases h
                · next hmode =>
                  split at h
                  · cases h
                  · next hfam =>
                    obtain ⟨h1, h2, h3, h4, h5, h6⟩ := (evidenceChecks_match key e).1 he
                    exact ⟨by simpa using hp, by simpa using hm, by simpa using hs, by simpa using hu,
                      h1, h2, h3, h4, h5, h6,
                      (runtimeChecks_match key rd).1 ⟨hr, by simpa using hmode, by simpa using hfam⟩⟩
  · rintro ⟨hp, hm, hs, hu, h1, h2, h3, h4, h5, h6, hrt⟩
    obtain ⟨hr, hmode, hfam⟩ := (runtimeChecks_match key rd).2 hrt
    rw [if_neg (by simp [hp]), if_neg (by simp [hm]), if_neg (by simp [hs]), if_neg (by simp [hu]),
      (evidenceChecks_match key e).2 ⟨h1, h2, h3, h4, h5, h6⟩]
    simp only [hr]
    rw [if_neg (by simp [hmode]), if_neg (by simp [hfam])]

namespace ControllerLifecycle
variable (lc lc' : ControllerLifecycle) (r : LifecycleRetirement)
lemma submitEvidence_ok_iff {e} : lc.submitEvidence e = .ok lc' ↔
    ∃ a, lc.currentArtifact = some a ∧ e.controllerId = a.controllerId ∧ lc' = { lc with evidence := some e } := by
  unfold submitEvidence
  cases ha : lc.currentArtifact with
  | none => simp
  | some a =>
    simp only
    by_cases hid : e.controllerId = a.controllerId
    · simp [hid, eq_comm]
    · simp [hid]

lemma promoteTo_ok_iff {rd target t} :
    lc.promoteTo rd target = .ok (t, lc') ↔ ∃ a e, lc.currentArtifact = some a ∧ lc.evidence = some e ∧
        PromotionGate a.verificationKey e lc.stage rd ∧ lc.stage.canTransitionTo target = true ∧
        t = ⟨a.controllerId, lc.stage, target⟩ ∧ lc' = { lc with evidence := none, currentState := some target } := by
  unfold promoteTo
  cases ha : lc.currentArtifact with
  | none => simp
  | some a =>
    cases he : lc.evidence with
    | none => simp
    | some e =>
      simp only [Option.some.injEq, exists_and_left, exists_eq_left']
      rw [← promotionGates_ok_iff]
      cases promotionGates a.verificationKey e lc.stage rd with
      | error err => simp
      | ok u =>
        unfold DeploymentState.transition
        cases hc : lc.stage.canTransitionTo target <;> simp [eq_comm]

/-- The terminal state of a retirement: `Rejected` before the controller could
actuate, `RolledBack` after. -/
def terminalFor : DeploymentState → DeploymentState
  | .verifiedOnly | .shadow => .rejected
  | _ => .rolledBack

variable (st : DeploymentState)
lemma retirementStateFor_eq (h : st.isTerminal = false) : retirementStateFor st = .ok (terminalFor st) := by
  cases st <;> first | rfl | cases h

lemma terminalFor_isTerminal : (terminalFor st).isTerminal = true := by cases st <;> rfl

def retired (lc : ControllerLifecycle) : ControllerLifecycle :=
  { lc with currentState := some (terminalFor lc.stage), evidence := none }

lemma retireCurrent_ok_iff : lc.retireCurrent = .ok (r, lc') ↔
    ∃ a, lc.currentArtifact = some a ∧ lc.stage.isTerminal = false ∧
      r = ⟨a.controllerId, terminalFor lc.stage, none, none⟩ ∧ lc' = lc.retired := by
  unfold retireCurrent
  cases ha : lc.currentArtifact with
  | none => simp
  | some a =>
    cases ht : lc.stage.isTerminal with
    | false =>
      rw [retirementStateFor_eq _ ht]
      simp [retired, ha, eq_comm]
    | true =>
      cases hs : lc.stage <;> simp [hs, DeploymentState.isTerminal] at ht <;>
        simp [retirementStateFor]

/-- What `rollback` and `restore_last_known_good_active` have in common: `next` is the lifecycle of
the artifact that comes back. -/
lemma restore_ok_iff (state : DeploymentState) (next : ControllerArtifact → ControllerLifecycle) :
    (match lc.lastKnownGood with
      | none => .error .noLastKnownGood
      | some lkg =>
        match lc.retireCurrent with
        | .error err => .error err
        | .ok (retirement, _) =>
          .ok ({ retirement with restoredControllerId := some lkg.controllerId, restoredState := some state },
            next lkg) : Except LifecycleError (LifecycleRetirement × ControllerLifecycle)) = .ok (r, lc') ↔
      ∃ a g, lc.currentArtifact = some a ∧ lc.lastKnownGood = some g ∧ lc.stage.isTerminal = false ∧
        r = ⟨a.controllerId, terminalFor lc.stage, some g.controllerId, some state⟩ ∧ lc' = next g := by
  cases hg : lc.lastKnownGood with
  | none => simp
  | some g =>
    simp only
    cases hr : lc.retireCurrent with
    | error err =>
      simp only [reduceCtorEq, false_iff]
      rintro ⟨a, g', ha, -, ht, -, -⟩
      have := (retireCurrent_ok_iff lc _ _).2 ⟨a, ha, ht, rfl, rfl⟩
      rw [hr] at this
      cases this
    | ok p =>
      obtain ⟨r0, lc0⟩ := p
      obtain ⟨a, ha, ht, rfl, -⟩ := (retireCurrent_ok_iff lc _ _).1 hr
      simp [ha, ht, eq_comm]

lemma rollback_ok_iff : lc.rollback = .ok (r, lc') ↔
    ∃ a g, lc.currentArtifact = some a ∧ lc.lastKnownGood = some g ∧ lc.stage.isTerminal = false ∧
      r = ⟨a.controllerId, terminalFor lc.stage, some g.controllerId, some .verifiedOnly⟩ ∧
      lc' = ⟨some g, some .verifiedOnly, none, none⟩ :=
  restore_ok_iff lc lc' r .verifiedOnly fun g => ⟨some g, some .verifiedOnly, none, none⟩

lemma restoreLastKnownGoodActive_ok_iff : lc.restoreLastKnownGoodActive = .ok (r, lc') ↔
    ∃ a g, lc.currentArtifact = some a ∧ lc.lastKnownGood = some g ∧ lc.stage.isTerminal = false ∧
      r = ⟨a.controllerId, terminalFor lc.stage, some g.controllerId, some .active⟩ ∧
      lc' = ⟨some g, some .active, none, some g⟩ :=
  restore_ok_iff lc lc' r .active fun g => ⟨some g, some .active, none, some g⟩

end ControllerLifecycle
end Roz.Copper
