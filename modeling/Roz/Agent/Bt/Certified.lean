import Roz.Agent.Bt.Runner

/-!
# What the success of a skill certifies

`ticked n b k` is the root after `k` ticks from the blackboard `b`, without any checks.
A run of a new runner that succeeds with `n` ticks has ticked the root just so, and
has seen the pre-conditions on `b`, the hold-conditions after each tick but the last
and the post-conditions after the last (`success_certified`).

A run whose pre-conditions fail leaves the runner as it was.  With no ticks allowed
it still halts the root, and a node that was never ticked has nothing to halt
(`haltsIdle_steps`).
-/

namespace Roz.Agent.Bt
open BtNode
variable {β : Type}

/-! ## Nodes that were never ticked -/

def BtNode.HaltsIdle (n : BtNode β) : Prop := ∀ b, n.halt n.fresh n.created b = ⟨n.fresh, n.created, b⟩

lemma haltsIdle_chain (goOn : BtStatus) (ns : List (BtNode β)) : (chainNode goOn ns).HaltsIdle := fun _ => rfl

lemma haltAll_idle (ns : List (BtNode β)) (h : ∀ n ∈ ns, n.HaltsIdle) (b : β) :
    haltAll ns (freshAll ns) (createdAll ns) b = ⟨freshAll ns, createdAll ns, b⟩ := by
  induction ns with
  | nil => rfl
  | cons n ns ih =>
    simp only [haltAll, freshAll, createdAll]
    rw [h n List.mem_cons_self b, ih fun m hm => h m (List.mem_cons_of_mem _ hm)]

lemma haltsIdle_decorator (d : DecoratorType) (n : BtNode β) (h : n.HaltsIdle) : (buildDecorator d n).HaltsIdle := by
  intro b
  have hb := h b
  cases d with
  | retry maxAttempts => simp only [buildDecorator, RetryNode, hb]
  | timeout secs => simp only [buildDecorator, TimeoutNode, hb]
  | invert => exact hb
  | «repeat» count => simp only [buildDecorator, RepeatNode, hb]
  | «while» => exact hb
  | repeatUntilFailure => exact hb

lemma haltsIdle_steps (env : Environment β) : BuildSteps env fun _ n => n.HaltsIdle where
  action _ _ _ _ := rfl
  condition _ _ := rfl
  sequence _ ns _ := haltsIdle_chain .success ns
  fallback _ ns _ := haltsIdle_chain .failure ns
  parallel ts ns k h := by
    refine haltAll_idle ns ?_
    induction h with
    | nil => exact nofun
    | cons hn _ ih => exact List.forall_mem_cons.2 ⟨hn, ih⟩
  decorator d _ n hn := haltsIdle_decorator d n hn

/-! ## Ticks of the root alone -/

def BtNode.ticked (n : BtNode β) (b : β) : (k : Nat) → Halted n.Control n.Executors β
  | 0 => ⟨n.fresh, n.created, b⟩
  | k + 1 =>
    let s := n.ticked b k
    let t := n.tick s.control s.executors s.blackboard
    ⟨t.control, t.executors, t.blackboard⟩

def Satisfied (evaluateCondition : String → β → ConditionResult) (expressions : List String) (b : β) : Prop :=
  ∀ expression ∈ expressions, evaluateCondition expression b = .satisfied

lemma checkConditions_eq_allSatisfied {evaluateCondition expressions}
    {b : β} : checkConditions evaluateCondition expressions b = .allSatisfied ↔
      Satisfied evaluateCondition expressions b := by
  unfold Satisfied
  induction expressions with
  | nil => simp [checkConditions]
  | cons expression rest ih =>
    rw [checkConditions, List.forall_mem_cons]
    cases evaluateCondition expression b with
    | satisfied => simpa using ih
    | violated reason => simp

namespace SkillRunner

/-- The runner in state `s` has ticked its root `k` times from `b`, the checks being passed so far. -/
structure Ran (r : SkillRunner β) (b : β) (k : Nat) (s : r.State) : Prop where
  control : s.control = (r.root.ticked b k).control
  executors : s.executors = (r.root.ticked b k).executors
  blackboard : s.blackboard = (r.root.ticked b k).blackboard
  ticks : s.ticks = k
  started : s.started = decide (0 < k)
  pre : 0 < k → Satisfied r.evaluateCondition r.checker.pre b
  hold : ∀ j, 1 ≤ j → j ≤ k → Satisfied r.evaluateCondition r.checker.hold (r.root.ticked b j).blackboard

variable {r : SkillRunner β} {b : β}
lemma ran_new : Ran r b 0 (r.new b) where
  control := rfl
  executors := rfl
  blackboard := rfl
  ticks := rfl
  started := rfl
  pre := fun h => absurd h (Nat.lt_irrefl 0)
  hold := fun j h1 h2 => by omega

/-- What a success after `n` ticks certifies; `s` is the state it leaves. -/
structure Certified (r : SkillRunner β) (b : β) (n : Nat) (s : r.State) : Prop where
  ticked : s.blackboard = (r.root.ticked b n).blackboard
  pre : Satisfied r.evaluateCondition r.checker.pre b
  hold : ∀ k, 1 ≤ k → k < n → Satisfied r.evaluateCondition r.checker.hold (r.root.ticked b k).blackboard
  post : Satisfied r.evaluateCondition r.checker.post s.blackboard

lemma tickRoot_cases {k} {s} (h : Ran r b k s) (hpre : Satisfied r.evaluateCondition r.checker.pre b) {out} {s'}
    (ht : r.tickRoot { s with started := true } = (out, s')) :
    (out = .running → Ran r b (k + 1) s') ∧
    (out = .completed true → s'.ticks = k + 1 ∧ Certified r b (k + 1) s') := by
  have htick : r.root.tick s.control s.executors s.blackboard =
      r.root.tick (r.root.ticked b k).control (r.root.ticked b k).executors (r.root.ticked b k).blackboard := by
    rw [h.control, h.executors, h.blackboard]
  unfold tickRoot at ht
  simp only [htick, h.ticks] at ht
  have hhold : ∀ j, 1 ≤ j → j < k + 1 →
      Satisfied r.evaluateCondition r.checker.hold (r.root.ticked b j).blackboard :=
    fun j h1 h2 => h.hold j h1 (by omega)
  split at ht
  · -- still running: the hold-conditions decide
    split at ht
    · cases ht
      exact ⟨nofun, nofun⟩
    · next hsat =>
      cases ht
      refine ⟨fun _ => ⟨rfl, rfl, rfl, rfl, by simp, fun _ => hpre, fun j h1 h2 => ?_⟩, nofun⟩
      rcases Nat.lt_or_eq_of_le h2 with hlt | rfl
      · exact hhold j h1 hlt
      · exact checkConditions_eq_allSatisfied.1 hsat
  · -- success: the post-conditions decide
    split at ht
    · cases ht
      exact ⟨nofun, nofun⟩
    · next hsat =>
      cases ht
      exact ⟨nofun, fun _ =>
        ⟨rfl, rfl, hpre, hhold, checkConditions_eq_allSatisfied.1 hsat⟩⟩
  · cases ht
    exact ⟨nofun, nofun⟩

lemma tick_cases {k} {s} (h : Ran r b k s) {out} {s'}
    (ht : r.tick s = (out, s')) : (out = .running → Ran r b (k + 1) s') ∧
    (out = .completed true → s'.ticks = k + 1 ∧ Certified r b (k + 1) s') := by
  unfold tick at ht
  split at ht
  · next hstarted =>
    have hk : 0 < k := by simpa [h.started] using hstarted
    have hs : s = { s with started := true } := by rw [← hstarted]
    rw [hs] at ht
    exact tickRoot_cases h (h.pre hk) ht
  · next hstarted =>
    have hk : k = 0 := by simpa [h.started] using hstarted
    split at ht
    · cases ht
      exact ⟨nofun, nofun⟩
    · next hsat =>
      have hb : s.blackboard = b := by
        rw [h.blackboard, hk]
        rfl
      rw [checkConditions_eq_allSatisfied, hb] at hsat
      exact tickRoot_cases h hsat ht

lemma runLoop_certified {maxTicks} :
    ∀ remaining k (s : r.State), Ran r b k s → (r.runLoop maxTicks remaining s).1.success = true →
      k + 1 ≤ (r.runLoop maxTicks remaining s).1.ticks ∧ (r.runLoop maxTicks remaining s).1.ticks ≤ k + remaining ∧
      Certified r b (r.runLoop maxTicks remaining s).1.ticks (r.runLoop maxTicks remaining s).2 := by
  intro remaining
  induction remaining with
  | zero => exact nofun
  | succ remaining ih =>
    intro k s h hs
    rw [runLoop] at hs ⊢
    split at hs
    · next s' ht =>
      obtain ⟨h1, h2, h3⟩ := ih (k + 1) s' ((tick_cases h ht).1 rfl) hs
      exact ⟨by omega, by omega, h3⟩
    · next success s' ht =>
      obtain rfl : success = true := hs
      obtain ⟨hticks, hcert⟩ := (tick_cases h ht).2 rfl
      simp only [hticks]
      exact ⟨Nat.le_refl _, by omega, hcert⟩
    · cases hs
    · cases hs
    · cases hs

lemma runToCompletion_of_pre_violated (hidle : r.root.HaltsIdle) (maxTicks : Nat)
    (hpre : ¬ Satisfied r.evaluateCondition r.checker.pre b) : (r.runToCompletion maxTicks (r.new b)).2 = r.new b ∧
    (r.runToCompletion maxTicks (r.new b)).1.ticks = 0 := by
  unfold runToCompletion
  cases maxTicks with
  | zero =>
    have hhalt : r.haltRoot (r.new b) = r.new b := by
      unfold haltRoot new
      simp only [hidle b]
    simp only [runLoop, hhalt]
    exact ⟨trivial, rfl⟩
  | succ m =>
    have htick : ∃ condition reason, r.tick (r.new b) = (.preViolation condition reason, r.new b) := by
      rw [← checkConditions_eq_allSatisfied] at hpre
      unfold tick
      simp only [new, Bool.false_eq_true, if_false]
      split
      · next condition reason _ => exact ⟨condition, reason, rfl⟩
      · next hsat => exact absurd hsat hpre
    obtain ⟨condition, reason, ht⟩ := htick
    simp only [runLoop, ht]
    exact ⟨trivial, rfl⟩

theorem success_certified (env : Environment β) (t : TreeNode) (r : SkillRunner β) (hbuild : build env t = .ok r.root)
    (b : β) (maxTicks : Nat) : ((r.runToCompletion maxTicks (r.new b)).1.success = true →
      1 ≤ (r.runToCompletion maxTicks (r.new b)).1.ticks ∧ (r.runToCompletion maxTicks (r.new b)).1.ticks ≤ maxTicks ∧
      Certified r b (r.runToCompletion maxTicks (r.new b)).1.ticks (r.runToCompletion maxTicks (r.new b)).2) ∧
    (¬ Satisfied r.evaluateCondition r.checker.pre b → (r.runToCompletion maxTicks (r.new b)).2 = r.new b ∧
      (r.runToCompletion maxTicks (r.new b)).1.ticks = 0) := by
  refine ⟨fun hs => ?_, runToCompletion_of_pre_violated ((haltsIdle_steps env).build t r.root hbuild) maxTicks⟩
  obtain ⟨h1, h2, h3⟩ := runLoop_certified maxTicks 0 (r.new b) ran_new hs
  rw [Nat.zero_add] at h2
  exact ⟨h1, h2, h3⟩

end SkillRunner

def countTwo : ActionExecutor Nat where
  State := Unit
  created := ()
  onStart := fun _ b => (.running, (), b + 1)
  onRunning := fun _ b => (.success, (), b + 1)
  onHalted := fun _ b => ((), b)

def countIs (expression : String) (b : Nat) : ConditionResult :=
  if expression = toString b then .satisfied else .violated "count differs"

def countRunner : SkillRunner Nat where
  root := ActionNode "count" countTwo
  checker := ⟨["0"], ["1"], ["2"]⟩
  evaluateCondition := countIs

theorem countRunner_certified : (countRunner.runToCompletion 5 (countRunner.new 0)).1.ticks = 2 ∧
    countRunner.Certified 0 2 (countRunner.runToCompletion 5 (countRunner.new 0)).2 := by
  have hticks : (countRunner.runToCompletion 5 (countRunner.new 0)).1.ticks = 2 := by decide
  have h := (SkillRunner.success_certified ⟨fun _ => some countTwo, countIs⟩ (.action "count" "count") countRunner rfl
    0 5).1 (by decide)
  rw [hticks] at h
  exact ⟨hticks, h.2.2⟩

end Roz.Agent.Bt
