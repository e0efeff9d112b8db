import Roz.Copper.LoopAdvance

/-!
# The slots and the lifecycle agree

The loop keeps its controllers in three slots; the lifecycle keeps the current and
the last-known-good artifact on its own.  A controller in the active slot should
be the one the lifecycle regards as active (`SlotsAgree`).  Two kinds of iteration
separate them:

* the active controller fails hard while it is itself the lifecycle's
  last-known-good (a candidate was loaded after its promotion): the slots go back
  to the instance before it, the lifecycle restores the failed controller;
* the candidate is lost while the active controller is loaded but halted: the
  lifecycle retires its current artifact and does not go back to the active one.

Without such iterations the two agree in every state reached
(`slots_agree_of_covered`).
-/

namespace Roz.Copper
open Roz.Core ExactFloat F64 StepRun LoopCore LoadedController ControllerArtifact DeploymentState

/-! ## Agreement -/

def SameArtifact (a b : ControllerArtifact) : Prop :=
  { a with promotedAt := none } = { b with promotedAt := none }

instance (a b : ControllerArtifact) : Decidable (SameArtifact a b) := by
  unfold SameArtifact
  infer_instance

lemma SameArtifact.trans {a b c} (h : SameArtifact a b) (h' : SameArtifact b c) : SameArtifact a c := Eq.trans h h'

lemma SameArtifact.controllerId {a b} (h : SameArtifact a b) : a.controllerId = b.controllerId := by
  unfold SameArtifact at h
  exact (ControllerArtifact.mk.inj h).1

namespace ControllerLifecycle
variable (lc : ControllerLifecycle) (art : ControllerArtifact)
def HoldsActive : Prop :=
  lc.currentState = some .active ∧ ∃ cur ∈ lc.currentArtifact, SameArtifact cur art

def HoldsLastKnownGood : Prop :=
  ∃ g ∈ lc.lastKnownGood, SameArtifact g art

def Stages : Prop :=
  lc.currentArtifact = some art ∧
    (lc.currentState = some .verifiedOnly ∨ lc.currentState = some .shadow ∨ lc.currentState = some .canary)

instance (lc : ControllerLifecycle) (art : ControllerArtifact) : Decidable (lc.HoldsActive art) := by
  unfold HoldsActive
  infer_instance

instance (lc : ControllerLifecycle) (art : ControllerArtifact) : Decidable (lc.HoldsLastKnownGood art) := by
  unfold HoldsLastKnownGood
  infer_instance

variable {lc : ControllerLifecycle}
lemma Stages.restorable {art} (h : lc.Stages art) : lc.stage.isTerminal = false := by
  rcases h.2 with h | h | h <;> simp [stage, h, isTerminal]

lemma not_canTransitionTo_of_active {target}
    (h : lc.currentState = some .active) (ht : target = .shadow ∨ target = .canary ∨ target = .active) :
    lc.stage.canTransitionTo target = false := by
  rcases ht with rfl | rfl | rfl <;> simp [stage, h, canTransitionTo]

end ControllerLifecycle

/-- The lifecycle regards a controller in the active slot as the active one: as its current
artifact in state `Active` or, while a candidate is loaded, as its last-known-good. -/
def SlotsAgree (s : LoopState) : Prop :=
  ∀ c ∈ s.active, s.lifecycle.HoldsActive c.artifact ∨
    s.candidate ≠ none ∧ s.lifecycle.HoldsLastKnownGood c.artifact

instance (s : LoopState) : Decidable (SlotsAgree s) := by
  unfold SlotsAgree
  infer_instance

variable (cfg : LoopConfig)

/-- When the active controller fails hard in this iteration and a controller is restored,
it is the one the lifecycle reports as restored. -/
def RestoreAgrees (s : LoopState) (i : IterInput) : Prop :=
  ∀ r s1 outcome s2, (s.drained cfg i).checkWatchdog cfg i = none →
    (s.drained cfg i).tickActive cfg i = some (r, s1) → r.halted = true →
    s1.restoreLastKnownGoodController = (.ok outcome, s2) →
    ∃ c, s2.active = some c ∧ outcome.restoredControllerId = some c.controllerId

/-! ## The slots as artifacts -/

structure Slots where
  active : Option ControllerArtifact
  candidate : Option ControllerArtifact
  rollback : Option ControllerArtifact
  lifecycle : ControllerLifecycle

def artifactOf (o : Option LoadedController) : Option ControllerArtifact := o.map LoadedController.artifact

@[simp] lemma artifactOf_none : artifactOf none = none := rfl

@[simp] lemma artifactOf_some (c : LoadedController) : artifactOf (some c) = some c.artifact := rfl

@[simp] lemma artifactOf_setRunning (b : Bool) (o : Option LoadedController) :
    artifactOf (o.map (.setRunning b)) = artifactOf o := by cases o <;> rfl

def LoopCore.slots (k : LoopCore) : Slots :=
  ⟨artifactOf k.active, artifactOf k.candidate, artifactOf k.rollback, k.lifecycle⟩

/-- The invariant behind agreement.  A stashed instance is the last-known-good until a
candidate is loaded over the controller that replaced it. -/
structure SlotInv (v : Slots) : Prop where
  alone : ∀ a ∈ v.active, v.candidate = none → v.lifecycle.HoldsActive a
  joined : ∀ a ∈ v.active, ∀ c ∈ v.candidate, v.lifecycle.HoldsLastKnownGood a ∧
    (v.lifecycle.Stages c ∨ v.lifecycle.HoldsActive a)
  orphan : ∀ c ∈ v.candidate, v.active = none →
    v.lifecycle.Stages c ∨ v.lifecycle.currentState = some .active
  stashed : ∀ rb ∈ v.rollback, ∃ a ∈ v.active,
    v.lifecycle.HoldsLastKnownGood rb ∨ v.lifecycle.HoldsLastKnownGood a

namespace SlotInv
open ControllerLifecycle

lemma new : SlotInv ⟨none, none, none, .new⟩ :=
  ⟨by simp, by simp, by simp, by simp⟩

lemma restored (candidate : Option ControllerArtifact) (rb g : ControllerArtifact) (h : SameArtifact g rb) :
    SlotInv ⟨some rb, candidate, none, ⟨some g, some .active, none, some g⟩⟩ := by
  have hact : HoldsActive ⟨some g, some .active, none, some g⟩ rb := ⟨rfl, g, rfl, h⟩
  refine ⟨fun a ha _ => ?_, fun a ha c _ => ?_, fun _ _ hn => ?_, fun _ hrb => ?_⟩
  · obtain rfl := Option.some.inj ha
    exact hact
  · obtain rfl := Option.some.inj ha
    exact ⟨⟨g, rfl, h⟩, Or.inr hact⟩
  · cases hn
  · cases hrb

variable {v : Slots} (h : SlotInv v)
include h

lemma load (art : ControllerArtifact) :
    SlotInv { v with candidate := some art, lifecycle := v.lifecycle.loadArtifact art } := by
  have hstages : (v.lifecycle.loadArtifact art).Stages art := ⟨rfl, Or.inl rfl⟩
  -- an active controller that is current becomes the last-known-good
  have hlkg : ∀ a ∈ v.active, (v.lifecycle.loadArtifact art).HoldsLastKnownGood a := by
    intro a ha
    have hold : v.lifecycle.HoldsActive a ∨ v.lifecycle.currentState ≠ some .active ∧
        v.lifecycle.HoldsLastKnownGood a := by
      cases hc : v.candidate with
      | none => exact Or.inl (h.alone a ha hc)
      | some c =>
        obtain ⟨hg, hst | hact⟩ := h.joined a ha c hc
        · refine Or.inr ⟨fun hs => ?_, hg⟩
          rcases hst.2 with hst | hst | hst <;> rw [hst] at hs <;> cases hs
        · exact Or.inl hact
    rcases hold with ⟨hs, hcur⟩ | ⟨hs, hg⟩
    · simpa [HoldsLastKnownGood, loadArtifact, hs] using hcur
    · simpa [HoldsLastKnownGood, loadArtifact, hs] using hg
  refine ⟨by simp, fun a ha c hc => ?_, fun c hc _ => ?_, fun rb hrb => ?_⟩
  · obtain rfl : art = c := by simpa using hc
    exact ⟨hlkg a ha, Or.inl hstages⟩
  · obtain rfl : art = c := by simpa using hc
    exact Or.inl hstages
  · obtain ⟨a, ha, -⟩ := h.stashed rb hrb
    exact ⟨a, ha, Or.inr (hlkg a ha)⟩

lemma reject_joined (ev : Option ControllerEvidenceBundle) (a c : ControllerArtifact)
    (ha : v.active = some a) (hc : v.candidate = some c) : SlotInv { v with
      candidate := none
      lifecycle := LoopState.rejectedLifecycle { v.lifecycle with evidence := ev } true } := by
  obtain ⟨⟨g, hg, hsame⟩, hcur⟩ := h.joined a ha c hc
  have hrestore : ∃ r, restoreLastKnownGoodActive { v.lifecycle with evidence := ev } =
      .ok (r, ⟨some g, some .active, none, some g⟩) := by
    rcases hcur with hst | hact
    · exact ⟨_, (restoreLastKnownGoodActive_ok_iff _ _ _).2 ⟨c, g, hst.1, hg, hst.restorable, rfl, rfl⟩⟩
    · obtain ⟨hs, cur, hcur, -⟩ := hact
      refine ⟨_, (restoreLastKnownGoodActive_ok_iff _ _ _).2 ⟨cur, g, hcur, hg, ?_, rfl, rfl⟩⟩
      simp [ControllerLifecycle.stage, hs, isTerminal]
  obtain ⟨r, hr⟩ := hrestore
  have hlc : LoopState.rejectedLifecycle { v.lifecycle with evidence := ev } true =
      ⟨some g, some .active, none, some g⟩ := by simp [LoopState.rejectedLifecycle, hr]
  rw [hlc]
  refine ⟨fun a' ha' _ => ?_, fun _ _ c hc => ?_, fun c hc => ?_, fun rb hrb => ?_⟩
  · obtain rfl : a = a' := by simpa [ha] using ha'
    exact ⟨rfl, g, rfl, hsame⟩
  · simp at hc
  · simp at hc
  · exact ⟨a, ha, Or.inr ⟨g, rfl, hsame⟩⟩

lemma reject_orphan {lc} (ha : v.active = none) : SlotInv { v with candidate := none, lifecycle := lc } := by
  refine ⟨fun a ha' => ?_, fun _ _ c hc => ?_, fun c hc => ?_, fun rb hrb => ?_⟩
  · simp [ha] at ha'
  · simp at hc
  · simp at hc
  · obtain ⟨a, ha', -⟩ := h.stashed rb hrb
    simp [ha] at ha'

lemma stop : SlotInv { v with active := none, rollback := none } := by
  refine ⟨by simp, by simp, fun c hc _ => ?_, by simp⟩
  cases ha : v.active with
  | none => exact h.orphan c hc ha
  | some a => exact (h.joined a ha c hc).2.imp id fun hact => hact.1

variable {c : ControllerArtifact} {target : DeploymentState}
lemma stages_of_allowed (hc : v.candidate = some c) (ht : target = .shadow ∨ target = .canary ∨ target = .active)
    (hallowed : v.lifecycle.stage.canTransitionTo target = true) : v.lifecycle.Stages c := by
  have hnot : v.lifecycle.currentState ≠ some .active := by
    intro hs
    rw [not_canTransitionTo_of_active hs ht] at hallowed
    cases hallowed
  cases ha : v.active with
  | none => exact (h.orphan c hc ha).resolve_right hnot
  | some a => exact (h.joined a ha c hc).2.resolve_right fun hact => hnot hact.1

lemma enterStage (hc : v.candidate = some c)
    (ht : target = .shadow ∨ target = .canary) (hallowed : v.lifecycle.stage.canTransitionTo target = true) :
    SlotInv { v with lifecycle := { v.lifecycle with evidence := none, currentState := some target } } := by
  have hst := h.stages_of_allowed hc (ht.imp id Or.inl) hallowed
  have hst' : Stages { v.lifecycle with evidence := none, currentState := some target } c :=
    ⟨hst.1, Or.inr (ht.imp (congrArg some) (congrArg some))⟩
  refine ⟨fun a _ hn => ?_, fun a ha c' hc' => ?_, fun c' hc' _ => ?_, h.stashed⟩
  · rw [hc] at hn
    cases hn
  · obtain rfl := Option.some.inj (hc.symm.trans hc')
    exact ⟨(h.joined a ha c hc).1, Or.inl hst'⟩
  · obtain rfl := Option.some.inj (hc.symm.trans hc')
    exact Or.inl hst'

lemma activate (c art : ControllerArtifact) (hc : v.candidate = some c)
    (hallowed : v.lifecycle.stage.canTransitionTo .active = true) (hart : SameArtifact c art) : SlotInv
      { active := some art
        candidate := none
        rollback := v.active.or v.rollback
        lifecycle := { v.lifecycle with evidence := none, currentState := some .active } } := by
  have hst := h.stages_of_allowed hc (Or.inr (Or.inr rfl)) hallowed
  refine ⟨fun a ha _ => ?_, fun _ _ c hc => ?_, fun c hc => ?_, fun rb hrb => ?_⟩
  · obtain rfl := Option.some.inj ha
    exact ⟨rfl, c, hst.1, hart⟩
  · cases hc
  · cases hc
  · refine ⟨art, rfl, Or.inl ?_⟩
    cases ha : v.active with
    | none =>
      -- without an active controller nothing is stashed
      have hrb' : rb ∈ v.rollback := by simpa [ha] using hrb
      obtain ⟨a, ha', -⟩ := h.stashed rb hrb'
      simp [ha] at ha'
    | some a =>
      obtain rfl : a = rb := by simpa [ha] using hrb
      exact (h.joined a ha c hc).1

end SlotInv

namespace LoopState
variable (cfg : LoopConfig) (s : LoopState) (i : IterInput)
def activeFails : Bool :=
  match s.tickActive cfg i with
  | some (r, _) => r.halted
  | none => false

/-- The candidate is lost without comparison to an active command: it halts, or it yields
no command in a stage that needs one. -/
def candidateLost : Bool :=
  match s.tickCandidate cfg i with
  | some (some r, _) =>
    r.halted || decide (s.candidateState = some .shadow ∨ s.candidateState = some .canary) && r.command.isNone
  | _ => false

lemma activeFails_of_tick {cfg} {s : LoopState} {i c c' r} (hc : s.active = some c) (hrun : c.running = true)
    (ht : s.tickSlot cfg c i.activeGuest = some (r, c')) : s.activeFails cfg i = r.halted := by
  unfold activeFails tickActive
  simp [hc, hrun, ht]

lemma candidateLost_of_tick (c c' : LoadedController)
    (r : ControllerTickResult) (hc : s.candidate = some c) (hrun : c.running = true)
    (ht : s.tickSlot cfg c i.candidateGuest = some (r, c')) (h : r.halted = true ∨
      (s.candidateState = some .shadow ∨ s.candidateState = some .canary) ∧ r.command = none) :
    s.candidateLost cfg i = true := by
  unfold candidateLost tickCandidate
  simp only [hc, hrun, ht, if_true, Bool.or_eq_true, Bool.and_eq_true, decide_eq_true_eq, Option.isNone_iff_eq_none]
  exact h

end LoopState
open LoopState ControllerLifecycle

/-- The iteration ticks no controllers, or
* a controller that fails hard with an instance stashed is not the lifecycle's
  last-known-good (unless the stashed instance has the same artifact), and
* no candidate is lost beside a halted active controller. -/
def SlotsCovered (s : LoopState) (i : IterInput) : Prop :=
  let d := s.drained cfg i
  d.checkWatchdog cfg i = none →
    (d.activeFails cfg i = true → ∀ c ∈ d.active, ∀ rb ∈ d.rollback,
      ¬ d.lifecycle.HoldsLastKnownGood c.artifact ∨ SameArtifact c.artifact rb.artifact) ∧
    ((∃ c ∈ d.active, c.running = false) → d.candidateLost cfg i = false)

instance (cfg : LoopConfig) (s : LoopState) (i : IterInput) : Decidable (SlotsCovered cfg s i) := by
  unfold SlotsCovered
  infer_instance

/-! ## Each phase keeps the invariant -/

variable (cfg : LoopConfig) {s s' : LoopState} (i : IterInput) {r : ControllerTickResult}
lemma slotInv_processCommand (c : CopperRuntimeCommand) (h : SlotInv s.core.slots) :
    SlotInv (processCommand cfg s c).core.slots := by
  refine processCommand_invariant cfg (fun k => SlotInv k.slots) c h (fun load => h.load load.artifact) h fun _ => ?_
  simpa [mapSlots, slots] using h

lemma slotInv_drained (h : SlotInv s.core.slots) : SlotInv (s.drained cfg i).core.slots :=
  drained_invariant cfg (fun k => SlotInv k.slots) (fun _ _ h => h)
    (fun _ c h => slotInv_processCommand cfg c h) s i h

lemma SlotInv.restores {v} (h : SlotInv v) {a rb g} (ha : v.active = some a)
    (hrb : v.rollback = some rb) (hg : v.lifecycle.lastKnownGood = some g)
    (hcov : ¬ v.lifecycle.HoldsLastKnownGood a ∨ SameArtifact a rb) : SameArtifact g rb := by
  have hmem : ∀ art, v.lifecycle.HoldsLastKnownGood art → SameArtifact g art := by
    rintro art ⟨g', hg', hsame⟩
    obtain rfl := Option.some.inj (hg.symm.trans hg')
    exact hsame
  obtain ⟨a', ha', hst⟩ := h.stashed rb hrb
  obtain rfl := Option.some.inj (ha.symm.trans ha')
  rcases hst with hst | hst
  · exact hmem rb hst
  · exact (hmem a hst).trans (hcov.resolve_left fun hn => hn hst)

lemma slotInv_activeStep (h : SlotInv s.core.slots) (hstep : ActiveStep cfg s i r s')
    (hcov : s.activeFails cfg i = true → ∀ c ∈ s.active, ∀ rb ∈ s.rollback,
      ¬ s.lifecycle.HoldsLastKnownGood c.artifact ∨ SameArtifact c.artifact rb.artifact) : SlotInv s'.core.slots := by
  cases hstep with
  | idle _ hcore => rwa [hcore]
  | ticked c c' hc _ ht _ hcore =>
    rw [hcore]
    have hart := (tickSlot_cases cfg s c c' r ht).1
    simpa [slots, hart, hc] using h
  | restored c c' rb reason outcome lc n hc hrun ht hrb hlc hcore =>
    rw [hcore]
    have hfail := activeFails_of_tick hc hrun ht
    obtain ⟨cur, g, -, hg, -, -, rfl⟩ := (restoreLastKnownGoodActive_ok_iff _ _ _).1 hlc
    refine SlotInv.restored (artifactOf s.candidate) rb.artifact g ?_
    exact h.restores (by simp [slots, hc]) (by simp [slots, hrb]) hg
      (hcov hfail c hc rb hrb)
  | stopped c c' reason n _ _ _ _ hcore =>
    rw [hcore]
    simpa [slots] using h.stop

lemma slotInv_candidateStep (a : Actuated) (h : SlotInv s.core.slots) (hstep : CandidateStep cfg s r i a)
    (hcov : (∃ c ∈ s.active, c.running = false) → s.candidateLost cfg i = false) : SlotInv a.state.core.slots := by
  cases hstep with
  | idle _ _ hcore => rwa [hcore]
  | kept c c' rc f hc _ ht _ _ hcore =>
    rw [hcore]
    have hart := (tickSlot_cases cfg s c c' rc ht).1
    simpa [slots, hart, hc] using h
  | dropped c c' rc n hc hrun ht hwhy hcore =>
    rw [hcore]
    cases ha : s.active with
    | none => exact h.reject_orphan (by simp [slots, ha])
    | some act =>
      cases hact : act.running with
      | true =>
        have hrunning : isRunning s.active = true := by simp [ha, isRunning, hact]
        simp only [isRunning, hact]
        exact h.reject_joined s.lifecycle.evidence act.artifact c.artifact (by simp [slots, ha])
          (by simp [slots, hc])
      | false =>
        have hlost := candidateLost_of_tick cfg s i c c' rc hc hrun ht
          (hwhy (by simp [ha, isRunning, hact]))
        rw [hcov ⟨act, ha, hact⟩] at hlost
        cases hlost

lemma slotInv_advanceStep (a : Actuated) (s' : LoopState) (h : SlotInv a.state.core.slots)
    (hstep : AdvanceStep cfg a s') : SlotInv s'.core.slots := by
  cases hstep with
  | unchanged hcore => rwa [hcore]
  | refused c ev hc _ _ hcore =>
    rw [hcore]
    cases ha : a.state.active with
    | none => exact h.reject_orphan (by simp [slots, ha])
    | some act => exact h.reject_joined ev act.artifact c.artifact (by simp [slots, ha]) (by simp [slots, hc])
  | staged c c' target hp _ htarget hart _ hcore =>
    rw [hcore]
    have hc : a.state.core.slots.candidate = some c.artifact := by simp [slots, hp.loaded]
    have := h.enterStage hc htarget hp.allowed
    simpa [slots, hart, hp.loaded] using this
  | activated c c' utcNow hp _ hart _ hcore =>
    rw [hcore]
    have hc : a.state.core.slots.candidate = some c.artifact := by simp [slots, hp.loaded]
    have := h.activate c.artifact c'.artifact hc hp.allowed (by rw [hart]; rfl)
    cases ha : a.state.active <;> simpa [slots, ha, setRunning] using this

lemma activeStep_of_halted (hstep : ActiveStep cfg s i r s') (h : ∃ c ∈ s'.active, c.running = false) :
    s'.core = s.core := by
  obtain ⟨c, hc, hrun⟩ := h
  have hmem : ∀ k : LoopCore, s'.core = k → k.active = some c := fun k hk => hk ▸ hc
  cases hstep with
  | idle _ hcore => exact hcore
  | ticked c0 c' _ hrun0 ht hok hcore =>
    obtain rfl := Option.some.inj (hmem _ hcore)
    rw [tickSlot_running ht hok, hrun0] at hrun
    cases hrun
  | restored _ _ rb _ _ _ _ _ _ _ _ _ hcore =>
    obtain rfl := Option.some.inj (hmem _ hcore)
    cases hrun
  | stopped _ _ _ _ _ _ _ _ hcore => cases hmem _ hcore

lemma candidateLost_congr (h : s'.core = s.core) : s'.candidateLost cfg i = s.candidateLost cfg i := by
  obtain ⟨-, h2, -, -, h5, -, h7⟩ := LoopCore.mk.inj h
  simp only [candidateLost, tickCandidate, tickSlot, h2, h5, h7]
  cases s.candidate with
  | none => rfl
  | some c =>
    simp only
    cases c.running with
    | false => rfl
    | true => cases tickController cfg.sqrt _ s.sensor.wrench i.candidateGuest <;> rfl

lemma slotInv_iterate (h : SlotInv s.core.slots) (hcov : SlotsCovered cfg s i) (hs : s.iterate cfg i = .next s') :
    SlotInv s'.core.slots := by
  have hd := slotInv_drained cfg i h
  cases iterate_step cfg s hs with
  | watchdog n _ hcore =>
    rw [hcore]
    simpa [slots] using hd
  | ticks hwatch _ hact hcand hadv =>
    obtain ⟨hfail, hlost⟩ := hcov hwatch
    refine slotInv_advanceStep cfg _ s' (slotInv_candidateStep cfg i _
      (slotInv_activeStep cfg i hd hact hfail) hcand fun hex => ?_) hadv
    have hcore := activeStep_of_halted cfg i hact hex
    rw [candidateLost_congr cfg i hcore]
    obtain ⟨c, hc, hrun⟩ := hex
    exact hlost ⟨c, (congrArg LoopCore.active hcore).symm.trans hc, hrun⟩

lemma slotsAgree_of_slotInv (h : SlotInv s.core.slots) : SlotsAgree s := by
  intro c hc
  have hc' : c.artifact ∈ s.core.slots.active := by simp [slots, Option.mem_def.1 hc]
  cases hcand : s.candidate with
  | none => exact Or.inl (h.alone c.artifact hc' (by simp [slots, hcand]))
  | some cand => exact Or.inr ⟨by simp, (h.joined c.artifact hc' cand.artifact (by simp [slots, hcand])).1⟩

lemma restoreAgrees_of_slotInv (h : SlotInv s.core.slots) (hcov : SlotsCovered cfg s i) : RestoreAgrees cfg s i := by
  intro r s1 outcome s2 hwatch htick hhalt hrestore
  obtain ⟨hfail, -⟩ := hcov hwatch
  have hd := slotInv_drained cfg i h
  rcases tickActive_cases cfg _ i r htick with ⟨-, rfl, -⟩ | ⟨c, c', hc, hrun, ht, rfl⟩
  · cases hhalt
  rcases restoreLastKnownGoodController_cases { s.drained cfg i with active := some c' } with
    ⟨rb, out, lc, s3, hrb, hlc, hres, hcore⟩ | ⟨e, s3, -, hres, -⟩
  · obtain ⟨hout, rfl⟩ := Prod.mk.inj (hrestore.symm.trans hres)
    obtain rfl := Except.ok.inj hout
    obtain ⟨cur, g, -, hg, -, rfl, -⟩ := (restoreLastKnownGoodActive_ok_iff _ _ _).1 hlc
    have hsame := hd.restores (by simp [slots, hc])
      (by simpa [slots] using congrArg artifactOf hrb) hg
      (hfail ((activeFails_of_tick hc hrun ht).trans hhalt) c hc rb hrb)
    exact ⟨_, congrArg LoopCore.active hcore, congrArg some hsame.controllerId⟩
  · cases (Prod.mk.inj (hrestore.symm.trans hres)).1

/-! ## Runs -/

theorem slots_agree_of_covered (cfg : LoopConfig) (now : Nat) (inputs : List IterInput)
    (h : EveryStep (iterate cfg) (.initial now) (SlotsCovered cfg) inputs) :
    (∀ pre post s, inputs = pre ++ post → runLoop cfg now pre = .next s → SlotsAgree s) ∧
    EveryStep (iterate cfg) (.initial now) (RestoreAgrees cfg) inputs := by
  have hinv : ∀ pre post s, inputs = pre ++ post → runLoop cfg now pre = .next s → SlotInv s.core.slots := by
    intro pre post s he hr
    exact (h.of_append he).invariant (fun s => SlotInv s.core.slots)
      (fun s i s' hs hok => slotInv_iterate cfg i hs hok) SlotInv.new pre s hr
  refine ⟨fun pre post s he hr => slotsAgree_of_slotInv (hinv pre post s he hr), ?_⟩
  intro pre i post s he hr
  exact restoreAgrees_of_slotInv cfg i (hinv pre (i :: post) s he hr) (h pre i post s he hr)

def rolloutRun (load : PreparedController) : List IterInput :=
  [iterationWith [] [.preparedArtifact load, .promoteActive] (commanding 1) (commanding 1),
    iterationWith [] [] (commanding 1) (commanding 1)]

def failAfterPromotion : List IterInput :=
  rolloutRun (velocityController "a") ++ rolloutRun (velocityController "b") ++ [iterationWith [] [] (.trap "fault") (commanding 1)]

theorem slots_agree_failAfterPromotion : isRunning (runLoop quickConfig 0 failAfterPromotion).state.active = true ∧
    SlotsAgree (runLoop quickConfig 0 failAfterPromotion).state :=
  ⟨by with_unfolding_all decide,
    (slots_agree_of_covered quickConfig 0 failAfterPromotion (by with_unfolding_all decide)).1 failAfterPromotion [] _
      (List.append_nil _).symm (by with_unfolding_all decide)⟩

def failUnderCandidate : List IterInput :=
  rolloutRun (velocityController "a") ++ rolloutRun (velocityController "b") ++
    [iterationWith [] [.preparedArtifact (velocityController "c")] (.trap "fault") (commanding 1)]

def loseCandidateWhileHalted : List IterInput :=
  rolloutRun (velocityController "a") ++
    [iterationWith [] [.halt, .preparedArtifact (velocityController "b")] (commanding 1) (.trap "fault")]

theorem slots_disagree : (∃ s, runLoop quickConfig 0 failUnderCandidate = .next s ∧
      s.active.map LoadedController.controllerId = some "a" ∧
      s.lifecycle.currentArtifact.map ControllerArtifact.controllerId = some "b" ∧ ¬ SlotsAgree s) ∧
    (∃ s, runLoop quickConfig 0 loseCandidateWhileHalted = .next s ∧
      s.active.map LoadedController.controllerId = some "a" ∧
      s.lifecycle.currentArtifact.map ControllerArtifact.controllerId = some "b" ∧ ¬ SlotsAgree s) :=
  ⟨⟨(runLoop quickConfig 0 failUnderCandidate).state, by with_unfolding_all decide⟩,
    ⟨(runLoop quickConfig 0 loseCandidateWhileHalted).state, by with_unfolding_all decide⟩⟩

end Roz.Copper
