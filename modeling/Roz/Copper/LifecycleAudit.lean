import Roz.Copper.Lifecycle
import Roz.Lib.Run

/-!
# Audit of lifecycle operation sequences

`Audit` runs the lifecycle next to a log of what happened to each *loaded
instance* (an instance is named by the number of the operation that loaded it):
which evidence submission each promotion consumed, and which instances have been
retired.  The log is derived from the operations and their results only, and the
audited lifecycle is the real one (`run_lifecycle`) (`promotion_gate_sound`).
-/

namespace Roz.Copper
open Roz.Core ControllerLifecycle List

inductive LifecycleOp where
  | loadArtifact (a : ControllerArtifact)
  | submitEvidence (e : ControllerEvidenceBundle)
  | promote (rd : RuntimeDigests)
  | promoteTo (rd : RuntimeDigests) (target : DeploymentState)
  | retireCurrent
  | rollback
  | restoreLastKnownGoodActive
  deriving DecidableEq

def ControllerLifecycle.apply (lc : ControllerLifecycle) : LifecycleOp → ControllerLifecycle
  | .loadArtifact a => lc.loadArtifact a
  | .submitEvidence e =>
    match lc.submitEvidence e with
    | .ok lc' => lc'
    | .error _ => lc
  | .promote rd =>
    match lc.promote rd with
    | .ok (_, lc') => lc'
    | .error _ => lc
  | .promoteTo rd target =>
    match lc.promoteTo rd target with
    | .ok (_, lc') => lc'
    | .error _ => lc
  | .retireCurrent =>
    match lc.retireCurrent with
    | .ok (_, lc') => lc'
    | .error _ => lc
  | .rollback =>
    match lc.rollback with
    | .ok (_, lc') => lc'
    | .error _ => lc
  | .restoreLastKnownGoodActive =>
    match lc.restoreLastKnownGoodActive with
    | .ok (_, lc') => lc'
    | .error _ => lc

/-! ## The log -/

/-- An accepted evidence submission: when it was made, and which instance was
current in which state at that moment. -/
structure Submission where
  serial : Nat
  load : Option Nat
  state : Option DeploymentState
  evidence : ControllerEvidenceBundle
  deriving DecidableEq

structure Promotion where
  load : Option Nat
  artifact : Option ControllerArtifact
  fromState : DeploymentState
  toState : DeploymentState
  submission : Option Submission
  runtime : RuntimeDigests
  deriving DecidableEq

/-- The lifecycle with its log.  `currentChain` and `lastKnownGoodChain` are the
promotions of the current and of the last-known-good instance since each of them
was last in `VerifiedOnly`; `retirements` pairs an instance with the time of its
retirement. -/
structure Audit where
  lifecycle : ControllerLifecycle
  clock : Nat
  loads : List (Nat × ControllerArtifact)
  currentLoad : Option Nat
  currentChain : List Promotion
  lastKnownGoodLoad : Option Nat
  lastKnownGoodChain : List Promotion
  pending : Option Submission
  promotions : List Promotion
  retirements : List (Nat × Nat)
  deriving DecidableEq

namespace Audit

def new : Audit := ⟨.new, 0, [], none, [], none, [], none, [], []⟩

variable (t : Audit)
def retiring : List (Nat × Nat) :=
  t.currentLoad.toList.map (fun n => (n, t.clock)) ++ t.retirements

def failed : Audit := { t with clock := t.clock + 1 }

variable (rd : RuntimeDigests)
def promotion (tr : LifecycleTransition) : Promotion :=
  ⟨t.currentLoad, t.lifecycle.currentArtifact, tr.fromState, tr.toState, t.pending, rd⟩

def promoted : Except LifecycleError (LifecycleTransition × ControllerLifecycle) → Audit
  | .error _ => t.failed
  | .ok (tr, lc') =>
    { t with
      lifecycle := lc'
      clock := t.clock + 1
      currentChain := t.currentChain ++ [t.promotion rd tr]
      pending := none
      promotions := t.promotions ++ [t.promotion rd tr]
      retirements := if tr.toState.isTerminal then t.retiring else t.retirements }

def step : LifecycleOp → Audit
  | .loadArtifact a =>
    let replacesActive := decide (t.lifecycle.currentState = some .active)
    { t with
      lifecycle := t.lifecycle.loadArtifact a
      clock := t.clock + 1
      loads := t.loads ++ [(t.clock, a)]
      currentLoad := some t.clock
      currentChain := []
      lastKnownGoodLoad := if replacesActive then t.currentLoad else t.lastKnownGoodLoad
      lastKnownGoodChain := if replacesActive then t.currentChain else t.lastKnownGoodChain
      pending := none }
  | .submitEvidence e =>
    match t.lifecycle.submitEvidence e with
    | .error _ => t.failed
    | .ok lc' =>
      { t with
        lifecycle := lc'
        clock := t.clock + 1
        pending := some ⟨t.clock, t.currentLoad, t.lifecycle.currentState, e⟩ }
  | .promote rd => t.promoted rd (t.lifecycle.promote rd)
  | .promoteTo rd target => t.promoted rd (t.lifecycle.promoteTo rd target)
  | .retireCurrent =>
    match t.lifecycle.retireCurrent with
    | .error _ => t.failed
    | .ok (_, lc') =>
      { t with lifecycle := lc', clock := t.clock + 1, pending := none, retirements := t.retiring }
  | .rollback =>
    match t.lifecycle.rollback with
    | .error _ => t.failed
    | .ok (_, lc') =>
      -- the restored instance is back in `VerifiedOnly`
      { t with
        lifecycle := lc'
        clock := t.clock + 1
        currentLoad := t.lastKnownGoodLoad
        currentChain := []
        lastKnownGoodLoad := none
        lastKnownGoodChain := []
        pending := none
        retirements := t.retiring }
  | .restoreLastKnownGoodActive =>
    match t.lifecycle.restoreLastKnownGoodActive with
    | .error _ => t.failed
    | .ok (_, lc') =>
      { t with
        lifecycle := lc'
        clock := t.clock + 1
        currentLoad := t.lastKnownGoodLoad
        currentChain := t.lastKnownGoodChain
        pending := none
        retirements := t.retiring }

variable (ops : List LifecycleOp)
def run : Audit := ops.foldl step new

lemma runFrom_next : StepRun.runFrom (fun t op => .next (step t op)) new ops = .next (run ops) :=
  StepRun.runFrom_total step ops new

lemma promoted_lifecycle {r} : (t.promoted rd r).lifecycle = match r with
      | .ok (_, lc') => lc'
      | .error _ => t.lifecycle := by cases r <;> rfl

lemma step_lifecycle (op : LifecycleOp) : (t.step op).lifecycle = t.lifecycle.apply op := by
  cases op with
  | loadArtifact a => rfl
  | submitEvidence e =>
    simp only [step, apply]
    cases t.lifecycle.submitEvidence e <;> rfl
  | promote rd => exact promoted_lifecycle t rd
  | promoteTo rd target => exact promoted_lifecycle t rd
  | retireCurrent =>
    simp only [step, apply]
    cases t.lifecycle.retireCurrent <;> rfl
  | rollback =>
    simp only [step, apply]
    cases t.lifecycle.rollback <;> rfl
  | restoreLastKnownGoodActive =>
    simp only [step, apply]
    cases t.lifecycle.restoreLastKnownGoodActive <;> rfl

lemma run_lifecycle : (run ops).lifecycle = ops.foldl apply .new :=
  (foldl_hom Audit.lifecycle fun t op => (step_lifecycle t op).symm).symm

end Audit

/-! ## Gated chains -/

/-- The promotions lead from one stage to another, each starting where the
previous one ended. -/
def ChainFrom : DeploymentState → List Promotion → DeploymentState → Prop
  | st, [], final => st = final
  | st, p :: ps, final => p.fromState = st ∧ ChainFrom p.toState ps final

/-- A promotion of instance `n` of artifact `a` that consumed evidence submitted
while `n` was current in the source stage and that passed every gate. -/
structure GatedStep (n : Nat) (a : ControllerArtifact) (p : Promotion) : Prop where
  load : p.load = some n
  artifact : p.artifact = some a
  advance : p.fromState.canTransitionTo p.toState = true
  submission : ∃ sub, p.submission = some sub ∧ n < sub.serial ∧ sub.load = some n ∧
    sub.state = some p.fromState ∧ PromotionGate a.verificationKey sub.evidence p.fromState p.runtime

/-- Two promotions in the order of a chain consume different submissions of
different bundles. -/
def DistinctEvidence (p q : Promotion) : Prop :=
  ∀ sub sub', p.submission = some sub → q.submission = some sub' →
    sub.serial < sub'.serial ∧ sub.evidence ≠ sub'.evidence

structure GatedChain (t : Audit) (n : Nat) (a : ControllerArtifact) (final : DeploymentState)
    (chain : List Promotion) : Prop where
  loaded : (n, a) ∈ t.loads
  logged : chain.Sublist t.promotions
  stages : ChainFrom .verifiedOnly chain final
  steps : ∀ p ∈ chain, GatedStep n a p
  distinct : chain.Pairwise DistinctEvidence

variable {chain : List Promotion} {final : DeploymentState}
lemma chainFrom_snoc {p} :
    ∀ st, ChainFrom st chain p.fromState → p.toState = final → ChainFrom st (chain ++ [p]) final := by
  induction chain with
  | nil => intro st h hf; exact ⟨h.symm, hf⟩
  | cons q qs ih => intro st h hf; exact ⟨h.1, ih _ h.2 hf⟩

def stageRank : DeploymentState → Nat
  | .verifiedOnly => 0
  | .shadow => 1
  | .canary => 2
  | .active => 3
  | .rolledBack => 4
  | .rejected => 4

lemma rank_lt_of_canTransitionTo {a b} (h : a.canTransitionTo b = true) : stageRank a < stageRank b := by
  revert h
  cases a <;> cases b <;> decide

lemma chainFrom_rank : ∀ st, ChainFrom st chain final → (∀ p ∈ chain, p.fromState.canTransitionTo p.toState = true) →
      stageRank st ≤ stageRank final ∧ ∀ p ∈ chain, stageRank p.fromState < stageRank final := by
  induction chain with
  | nil =>
    intro st h _
    rw [show st = final from h]
    exact ⟨Nat.le_refl _, by simp⟩
  | cons q qs ih =>
    intro st h hadv
    obtain ⟨rfl, h2⟩ := h
    have hq := rank_lt_of_canTransitionTo (hadv q mem_cons_self)
    obtain ⟨hle, hlt⟩ := ih q.toState h2 fun p hp => hadv p (mem_cons_of_mem _ hp)
    refine ⟨by omega, fun p hp => ?_⟩
    rcases mem_cons.mp hp with rfl | hp
    · omega
    · exact hlt p hp

lemma evidenceMode_ne_of_rank_lt {a b c} (hab : stageRank a < stageRank b)
    (hbc : b.canTransitionTo c = true) (hc : c.isTerminal = false) :
    evidenceModeForState a ≠ evidenceModeForState b := by
  revert hab hbc hc
  cases a <;> cases b <;> cases c <;> decide

variable {a : ControllerArtifact} {t t' : Audit} {n : Nat}
lemma GatedChain.mono {final} (h : GatedChain t n a final chain) (hl : t.loads ⊆ t'.loads)
    (hp : t.promotions.Sublist t'.promotions) : GatedChain t' n a final chain :=
  ⟨hl h.loaded, h.logged.trans hp, h.stages, h.steps, h.distinct⟩

lemma GatedChain.snoc {p} (h : GatedChain t n a p.fromState chain) (hs : GatedStep n a p)
    (hterm : p.toState.isTerminal = false) (hl : t.loads ⊆ t'.loads) (hp : t'.promotions = t.promotions ++ [p])
    (hafter : ∀ q ∈ chain, ∀ sub sub', q.submission = some sub → p.submission = some sub' →
      sub.serial < sub'.serial) : GatedChain t' n a p.toState (chain ++ [p]) := by
  obtain ⟨sub', hsub', -, -, -, hgate'⟩ := hs.submission
  have hadv : ∀ q ∈ chain, q.fromState.canTransitionTo q.toState = true :=
    fun q hq => (h.steps q hq).advance
  have hrank := (chainFrom_rank _ h.stages hadv).2
  refine ⟨hl h.loaded, ?_, chainFrom_snoc _ h.stages rfl, ?_, ?_⟩
  · rw [hp]
    exact h.logged.append (List.Sublist.refl _)
  · intro q hq
    rcases mem_append.mp hq with hq | hq
    · exact h.steps q hq
    · rw [mem_singleton.mp hq]; exact hs
  · rw [pairwise_append]
    refine ⟨h.distinct, by simp, fun q hq r hr => ?_⟩
    rw [mem_singleton.mp hr]
    intro sub sub2 h1 h2
    refine ⟨hafter q hq sub sub2 h1 h2, fun he => ?_⟩
    -- equal bundles would have one execution mode, but the two stages have different ones
    obtain ⟨sub1, hsub1, -, -, -, hgate⟩ := (h.steps q hq).submission
    have e1 : sub1 = sub := Option.some.inj (hsub1.symm.trans h1)
    have e2 : sub' = sub2 := Option.some.inj (hsub'.symm.trans h2)
    apply evidenceMode_ne_of_rank_lt (hrank q hq) hs.advance hterm
    rw [← hgate.mode, ← hgate'.mode, e1, e2, he]

/-! ## The invariant of every operation sequence -/

def Audit.horizon (t : Audit) : Nat := t.pending.elim t.clock Submission.serial

def SpentBefore (bound : Nat) (chain : List Promotion) : Prop :=
  ∀ p ∈ chain, ∀ sub, p.submission = some sub → sub.serial < bound

/-- `chain` is a gated chain of instance `n`, of evidence submitted before `bound`. -/
structure ChainSound (t : Audit) (bound n : Nat) (a : ControllerArtifact) (st : DeploymentState)
    (chain : List Promotion) : Prop where
  gated : GatedChain t n a st chain
  spent : SpentBefore bound chain

lemma ChainSound.mono {t t' b b' n a st} (h : ChainSound t b n a st chain) (hl : t.loads ⊆ t'.loads)
    (hp : t.promotions.Sublist t'.promotions) (hb : b ≤ b') : ChainSound t' b' n a st chain :=
  ⟨h.gated.mono hl hp, fun p hp sub hs => Nat.lt_of_lt_of_le (h.spent p hp sub hs) hb⟩

lemma chainSound_nil {t b n} (h : (n, a) ∈ t.loads) : ChainSound t b n a .verifiedOnly [] :=
  ⟨⟨h, nil_sublist _, rfl, by simp, List.Pairwise.nil⟩, by simp [SpentBefore]⟩

structure Audit.Sound (t : Audit) : Prop where
  current : ∀ a, t.lifecycle.currentArtifact = some a → ∃ n st, t.currentLoad = some n ∧
    t.lifecycle.currentState = some st ∧ n < t.horizon ∧
    (st.isTerminal = false → ChainSound t t.horizon n a st t.currentChain)
  state : t.lifecycle.currentArtifact = none → t.lifecycle.currentState = none
  evidence : ∀ e, t.lifecycle.evidence = some e → ∃ sub, t.pending = some sub ∧ sub.evidence = e ∧
    sub.load = t.currentLoad ∧ sub.state = t.lifecycle.currentState
  pending : ∀ sub, t.pending = some sub → sub.serial < t.clock
  lastKnownGood : ∀ g, t.lifecycle.lastKnownGood = some g → ∃ m, t.lastKnownGoodLoad = some m ∧
    m < t.clock ∧ ChainSound t t.clock m g .active t.lastKnownGoodChain

namespace Audit

lemma Sound.horizon_le {t : Audit} (h : t.Sound) : t.horizon ≤ t.clock := by
  unfold horizon
  cases hp : t.pending with
  | none => exact Nat.le_refl _
  | some sub => exact Nat.le_of_lt (h.pending sub hp)

lemma forall_of_eq_none {α : Type} {o} {P : α → Prop} (h : o = none) : ∀ x, o = some x → P x := by
  intro x hx
  rw [h] at hx
  cases hx

lemma sound_new : new.Sound :=
  ⟨forall_of_eq_none rfl, fun _ => rfl, forall_of_eq_none rfl, forall_of_eq_none rfl,
    forall_of_eq_none rfl⟩

variable {t : Audit} (h : t.Sound)
include h

lemma Sound.failed : t.failed.Sound := by
  have hz : t.horizon ≤ t.failed.horizon := by
    unfold horizon Audit.failed
    cases t.pending with
    | none => exact Nat.le_succ _
    | some sub => exact Nat.le_refl _
  refine ⟨fun a ha => ?_, h.state, h.evidence, fun sub hs => Nat.lt_succ_of_lt (h.pending sub hs),
    fun g hg => ?_⟩
  · obtain ⟨n, st, hn, hst, hlt, hc⟩ := h.current a ha
    exact ⟨n, st, hn, hst, by omega, fun ht => (hc ht).mono (List.Subset.refl _) (List.Sublist.refl _) hz⟩
  · obtain ⟨m, hm, hlt, hch⟩ := h.lastKnownGood g hg
    exact ⟨m, hm, Nat.lt_succ_of_lt hlt, hch.mono (List.Subset.refl _) (List.Sublist.refl _) (Nat.le_succ _)⟩

lemma Sound.keep_lastKnownGood {t'}
    (hg : t'.lifecycle.lastKnownGood = t.lifecycle.lastKnownGood) (hm : t'.lastKnownGoodLoad = t.lastKnownGoodLoad)
    (hch : t'.lastKnownGoodChain = t.lastKnownGoodChain) (hl : t.loads ⊆ t'.loads)
    (hp : t.promotions.Sublist t'.promotions) (hc : t'.clock = t.clock + 1) :
    ∀ g, t'.lifecycle.lastKnownGood = some g → ∃ m, t'.lastKnownGoodLoad = some m ∧
      m < t'.clock ∧ ChainSound t' t'.clock m g .active t'.lastKnownGoodChain := by
  intro g h1
  obtain ⟨m, hm', hlt, hs⟩ := h.lastKnownGood g (hg ▸ h1)
  refine ⟨m, hm.trans hm', by omega, ?_⟩
  rw [hch]
  exact hs.mono hl hp (by omega)

lemma Sound.loadArtifact (a : ControllerArtifact) : (t.step (.loadArtifact a)).Sound := by
  have hl : t.loads ⊆ t.loads ++ [(t.clock, a)] := subset_append_left _ _
  refine ⟨fun b hb => ?_, nofun, forall_of_eq_none rfl, forall_of_eq_none rfl,
    fun g hg => ?_⟩
  · obtain rfl : a = b := Option.some.inj hb
    exact ⟨t.clock, .verifiedOnly, rfl, rfl, Nat.lt_succ_self _, fun _ =>
      chainSound_nil (mem_append_right _ (mem_singleton.mpr rfl))⟩
  · by_cases hact : t.lifecycle.currentState = some .active
    · -- the replaced controller was active: its chain becomes the last-known-good's
      simp only [step, ControllerLifecycle.loadArtifact, hact, if_true, decide_true] at hg ⊢
      obtain ⟨n, st, hn, hst, hlt, hc⟩ := h.current g hg
      obtain rfl : st = .active := Option.some.inj (hst.symm.trans hact)
      have hz := h.horizon_le
      exact ⟨n, hn, by omega, (hc rfl).mono hl (List.Sublist.refl _) (by omega)⟩
    · simp only [step, ControllerLifecycle.loadArtifact, if_neg hact, decide_eq_true_eq] at hg ⊢
      obtain ⟨m, hm, hlt, hch⟩ := h.lastKnownGood g hg
      exact ⟨m, hm, by omega, hch.mono hl (List.Sublist.refl _) (by omega)⟩

lemma Sound.submitEvidence (e : ControllerEvidenceBundle) : (t.step (.submitEvidence e)).Sound := by
  simp only [step]
  cases hs : t.lifecycle.submitEvidence e with
  | error err => exact h.failed
  | ok lc' =>
    obtain ⟨a0, ha0, -, rfl⟩ := (submitEvidence_ok_iff _ _).1 hs
    have hz := h.horizon_le
    refine ⟨fun a ha => ?_, h.state, fun e' he' => ?_, fun sub hsub => ?_, ?_⟩
    · obtain ⟨n, st, hn, hst, hlt, hc⟩ := h.current a ha
      exact ⟨n, st, hn, hst, Nat.lt_of_lt_of_le hlt hz, fun ht =>
        (hc ht).mono (List.Subset.refl _) (List.Sublist.refl _) hz⟩
    · exact ⟨_, rfl, Option.some.inj he', rfl, rfl⟩
    · obtain rfl := Option.some.inj hsub
      exact Nat.lt_succ_self _
    · exact h.keep_lastKnownGood rfl rfl rfl (List.Subset.refl _) (List.Sublist.refl _) rfl

lemma Sound.promotion_step {rd target tr lc'} (hs : t.lifecycle.promoteTo rd target = .ok (tr, lc')) :
    ∃ a n st sub, t.lifecycle.currentArtifact = some a ∧ t.currentLoad = some n ∧
      t.lifecycle.currentState = some st ∧ t.pending = some sub ∧ n < sub.serial ∧
      tr.fromState = st ∧ tr.toState = target ∧
      GatedStep n a (t.promotion rd tr) ∧ ChainSound t sub.serial n a st t.currentChain := by
  obtain ⟨a, e, ha, he, hgate, hadv, rfl, -⟩ := (promoteTo_ok_iff _ _).1 hs
  obtain ⟨n, st, hn, hst, hlt, hc⟩ := h.current a ha
  obtain ⟨sub, hsub, hse, hsl, hss⟩ := h.evidence e he
  have hstage : t.lifecycle.stage = st := by simp [stage, hst]
  have hz : t.horizon = sub.serial := by simp [horizon, hsub]
  have hnt : st.isTerminal = false := by
    cases hb : st.isTerminal with
    | false => rfl
    | true => rw [hstage, DeploymentState.canTransitionTo_terminal hb] at hadv; cases hadv
  rw [hz] at hlt hc
  refine ⟨a, n, st, sub, ha, hn, hst, hsub, hlt, hstage, rfl, ?_, hc hnt⟩
  refine ⟨hn, ha, hadv, sub, hsub, hlt, hsl.trans hn, ?_, ?_⟩
  · exact hss.trans (hst.trans (congrArg some hstage.symm))
  · rw [hse]; exact hgate

lemma Sound.promoteTo (rd : RuntimeDigests) (target : DeploymentState) :
    (t.promoted rd (t.lifecycle.promoteTo rd target)).Sound := by
  cases hs : t.lifecycle.promoteTo rd target with
  | error err => exact h.failed
  | ok p =>
    obtain ⟨tr, lc'⟩ := p
    obtain ⟨a, n, st, sub, ha, hn, hst, hsub, hlt, hfrom, hto, hstep, hch⟩ := h.promotion_step hs
    have hclk := h.pending sub hsub
    obtain ⟨-, -, -, -, -, -, -, rfl⟩ := (promoteTo_ok_iff _ _).1 hs
    refine ⟨fun b hb => ?_, fun hx => ?_, forall_of_eq_none rfl, forall_of_eq_none rfl, ?_⟩
    · obtain rfl : a = b := Option.some.inj (ha.symm.trans hb)
      refine ⟨n, target, hn, rfl, ?_, fun ht => ⟨?_, ?_⟩⟩
      · show n < t.clock + 1
        omega
      · rw [← hto] at ht ⊢
        refine GatedChain.snoc (t := t) (p := t.promotion rd tr) ?_ hstep ht (List.Subset.refl _) rfl ?_
        · show GatedChain t n a tr.fromState t.currentChain
          rw [hfrom]
          exact hch.gated
        · intro q hq s1 s2 h1 h2
          obtain rfl : sub = s2 := Option.some.inj (hsub.symm.trans h2)
          exact hch.spent q hq s1 h1
      · intro q hq s1 h1
        show s1.serial < t.clock + 1
        rcases mem_append.mp hq with hq | hq
        · have := hch.spent q hq s1 h1
          omega
        · rw [mem_singleton.mp hq] at h1
          obtain rfl : sub = s1 := Option.some.inj (hsub.symm.trans h1)
          omega
    · rw [show t.lifecycle.currentArtifact = none from hx] at ha
      cases ha
    · exact h.keep_lastKnownGood rfl rfl rfl (List.Subset.refl _) (sublist_append_left _ _) rfl

lemma Sound.retireCurrent : (t.step .retireCurrent).Sound := by
  simp only [step]
  cases hs : t.lifecycle.retireCurrent with
  | error err => exact h.failed
  | ok p =>
    obtain ⟨r, lc'⟩ := p
    obtain ⟨a, ha, ht, rfl, rfl⟩ := (retireCurrent_ok_iff _ _ _).1 hs
    refine ⟨fun b hb => ?_, fun hx => ?_, forall_of_eq_none rfl, forall_of_eq_none rfl, ?_⟩
    · obtain ⟨n, st, hn, hst, hlt, -⟩ := h.current b hb
      have hz := h.horizon_le
      refine ⟨n, _, hn, rfl, ?_, fun hterm => ?_⟩
      · show n < t.clock + 1
        omega
      · rw [terminalFor_isTerminal] at hterm
        cases hterm
    · rw [show t.lifecycle.currentArtifact = none from hx] at ha
      cases ha
    · exact h.keep_lastKnownGood rfl rfl rfl (List.Subset.refl _) (List.Sublist.refl _) rfl

lemma Sound.rollback : (t.step .rollback).Sound := by
  simp only [step]
  cases hs : t.lifecycle.rollback with
  | error err => exact h.failed
  | ok p =>
    obtain ⟨r, lc'⟩ := p
    obtain ⟨a, g, ha, hg, ht, rfl, rfl⟩ := (rollback_ok_iff _ _ _).1 hs
    obtain ⟨m, hm, hlt, hch⟩ := h.lastKnownGood g hg
    refine ⟨fun b hb => ?_, nofun, forall_of_eq_none rfl, forall_of_eq_none rfl,
      forall_of_eq_none rfl⟩
    obtain rfl : g = b := Option.some.inj hb
    exact ⟨m, .verifiedOnly, hm, rfl, Nat.lt_succ_of_lt hlt, fun _ => chainSound_nil hch.gated.loaded⟩

lemma Sound.restoreLastKnownGoodActive : (t.step .restoreLastKnownGoodActive).Sound := by
  simp only [step]
  cases hs : t.lifecycle.restoreLastKnownGoodActive with
  | error err => exact h.failed
  | ok p =>
    obtain ⟨r, lc'⟩ := p
    obtain ⟨a, g, ha, hg, ht, rfl, rfl⟩ := (restoreLastKnownGoodActive_ok_iff _ _ _).1 hs
    obtain ⟨m, hm, hlt, hch⟩ := h.lastKnownGood g hg
    refine ⟨fun b hb => ?_, nofun, forall_of_eq_none rfl, forall_of_eq_none rfl,
      fun b hb => ?_⟩
    · obtain rfl : g = b := Option.some.inj hb
      exact ⟨m, .active, hm, rfl, Nat.lt_succ_of_lt hlt, fun _ =>
        hch.mono (List.Subset.refl _) (List.Sublist.refl _) (Nat.le_succ _)⟩
    · obtain rfl : g = b := Option.some.inj hb
      exact ⟨m, hm, Nat.lt_succ_of_lt hlt, hch.mono (List.Subset.refl _) (List.Sublist.refl _) (Nat.le_succ _)⟩

lemma Sound.step (op : LifecycleOp) : (t.step op).Sound := by
  cases op with
  | loadArtifact a => exact h.loadArtifact a
  | submitEvidence e => exact h.submitEvidence e
  | promote rd => exact h.promoteTo rd _
  | promoteTo rd target => exact h.promoteTo rd target
  | retireCurrent => exact h.retireCurrent
  | rollback => exact h.rollback
  | restoreLastKnownGoodActive => exact h.restoreLastKnownGoodActive

omit h in
lemma sound_run (ops : List LifecycleOp) : (run ops).Sound := by
  refine StepRun.run_invariant Sound (fun t op t' h ht => ?_) sound_new _ (runFrom_next ops)
  obtain rfl : t.step op = t' := StepRun.Flow.next.inj ht
  exact h.step op

end Audit

/-- **Promotion gate soundness.**  After every sequence of lifecycle operations, an
artifact in `Canary` or `Active` has passed a gated chain of promotions to that
state since its instance was loaded, and the last-known-good artifact has passed
one to `Active`. -/
theorem promotion_gate_sound (ops : List LifecycleOp) :
    (Audit.run ops).lifecycle = ops.foldl ControllerLifecycle.apply .new ∧
    (∀ st, (Audit.run ops).lifecycle.currentState = some st → st = .canary ∨ st = .active →
      ∃ a n chain, (Audit.run ops).lifecycle.currentArtifact = some a ∧
        (Audit.run ops).currentLoad = some n ∧ GatedChain (Audit.run ops) n a st chain) ∧
    (∀ g, (Audit.run ops).lifecycle.lastKnownGood = some g → ∃ m chain, (Audit.run ops).lastKnownGoodLoad = some m ∧
        GatedChain (Audit.run ops) m g .active chain) := by
  have h := Audit.sound_run ops
  refine ⟨Audit.run_lifecycle ops, fun st hst hact => ?_, fun g hg => ?_⟩
  · cases ha : (Audit.run ops).lifecycle.currentArtifact with
    | none =>
      rw [h.state ha] at hst
      cases hst
    | some a =>
      obtain ⟨n, st', hn, hst', -, hc⟩ := h.current a ha
      obtain rfl : st' = st := Option.some.inj (hst'.symm.trans hst)
      have hch := hc (by rcases hact with rfl | rfl <;> rfl)
      exact ⟨a, n, _, rfl, hn, hch.gated⟩
  · obtain ⟨m, hm, -, hch⟩ := h.lastKnownGood g hg
    exact ⟨m, _, hm, hch.gated⟩

end Roz.Copper
