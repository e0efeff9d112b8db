import Roz.Agent.Bt.Composite
import Roz.Agent.Bt.Runner

/-!
# Quiescence of behavior trees

When the root's tick returns Success or Failure, and after it is halted, no action
node should be left running; and when a runner returns, every executor that reported
Running last should have been halted.  Both hold in every run of a guarded tree, and
fail for a parallel node that completes over a running child (`quiescent_of_guarded`).
-/

namespace Roz.Agent.Bt
open BtNode
variable {β : Type}

/-! ## Built trees -/

lemma sound_all {ts} {ns : List (BtNode β)}
    (h : List.Forall₂ (fun t n => guarded t = true → Sound n t) ts ns) (hg : guardedAll ts = true) :
    List.Forall₂ Sound ns ts := by
  induction h with
  | nil => exact .nil
  | cons hn _ ih =>
    simp only [guardedAll, Bool.and_eq_true] at hg
    exact .cons (hn hg.1) (ih hg.2)

lemma sound_steps (env : Environment β) : BuildSteps env fun t n => guarded t = true → Sound n t where
  action name actionType _ _ := sound_action name actionType _
  condition expression _ := sound_condition env.evaluateCondition expression
  sequence ts ns h hg := sound_sequence (sound_all h (by simpa [guarded] using hg))
  fallback ts ns h hg := sound_fallback (sound_all h (by simpa [guarded] using hg))
  parallel ts ns k h hg := by
    simp only [guarded, Bool.and_eq_true, decide_eq_true_eq] at hg
    exact sound_parallel (sound_all h hg.2) k hg.1
  decorator d t n hn hg := sound_decorator (hn (by simpa [guarded] using hg)) d

namespace SkillRunner
variable {r : SkillRunner β}

/-- The states of a runner between calls: the blackboard can be written, the runner be
ticked and run. -/
inductive Reach (r : SkillRunner β) : r.State → Prop
  | new (empty : β) : Reach r (r.new empty)
  | write {s : r.State} (b : β) (h : Reach r s) : Reach r { s with blackboard := b }
  | tick {s : r.State} (h : Reach r s) : Reach r (r.tick s).2
  | runToCompletion {s : r.State} (maxTicks : Nat) (h : Reach r s) : Reach r (r.runToCompletion maxTicks s).2

def State.Quiescent (s : r.State) : Prop := r.root.Quiescent s.control s.executors

/-- The root is in a state of one of its runs, and before the first tick nothing is running. -/
structure Valid (s : r.State) : Prop where
  reach : r.root.Reach s.control s.executors
  unstarted : s.started = false → s.Quiescent

variable {t : TreeNode}
lemma haltRoot_valid (hn : Sound r.root t) (s : r.State) (h : Valid s) :
    Valid (r.haltRoot s) ∧ (r.haltRoot s).Quiescent := by
  have hq : (r.haltRoot s).Quiescent := hn.halts s.control s.executors s.blackboard h.reach
  exact ⟨⟨h.reach.halt s.blackboard, fun _ => hq⟩, hq⟩

lemma tickRoot_valid (hn : Sound r.root t) (s : r.State) (h : Valid s) (hstarted : s.started = true) :
    Valid (r.tickRoot s).2 ∧ ((r.tickRoot s).1 ≠ .running → (r.tickRoot s).2.Quiescent) := by
  let ticked := r.root.tick s.control s.executors s.blackboard
  have hv : Valid (r := r) ⟨ticked.control, ticked.executors, ticked.blackboard, s.started, s.ticks + 1⟩ :=
    ⟨h.reach.tick s.blackboard, fun hs => by simp [hstarted] at hs⟩
  have hdone := hn.completes s.control s.executors s.blackboard h.reach
  unfold tickRoot
  dsimp only
  split
  · split
    · obtain ⟨hhalted, hq⟩ := haltRoot_valid hn _ hv
      exact ⟨hhalted, fun _ => hq⟩
    · exact ⟨hv, fun hne => absurd rfl hne⟩
  · next hst =>
    have hq := hdone (by simp [hst])
    split <;> exact ⟨hv, fun _ => hq⟩
  · next hst => exact ⟨hv, fun _ => hdone (by simp [hst])⟩

lemma tick_valid (hn : Sound r.root t) (s : r.State) (h : Valid s) :
    Valid (r.tick s).2 ∧ ((r.tick s).1 ≠ .running → (r.tick s).2.Quiescent) := by
  unfold tick
  split
  · next hstarted => exact tickRoot_valid hn s h hstarted
  · next hstarted =>
    have hq := h.unstarted (by simpa using hstarted)
    split
    · exact ⟨h, fun _ => hq⟩
    · exact tickRoot_valid hn _ ⟨h.reach, fun _ => hq⟩ rfl

lemma runLoop_valid (hn : Sound r.root t) (maxTicks : Nat) : ∀ (remaining : Nat) (s : r.State), Valid s →
    Valid (r.runLoop maxTicks remaining s).2 ∧ (r.runLoop maxTicks remaining s).2.Quiescent := by
  intro remaining
  induction remaining with
  | zero => exact fun s h => haltRoot_valid hn s h
  | succ remaining ih =>
    intro s h
    obtain ⟨hv, hq⟩ := tick_valid hn s h
    unfold runLoop
    split <;> next heq =>
      rw [heq] at hv hq
      first
      | exact ih _ hv
      | exact ⟨hv, hq (by simp)⟩

lemma Reach.valid (hn : Sound r.root t) {s} (h : r.Reach s) : Valid s := by
  induction h with
  | new empty => exact ⟨.built, fun _ => hn.built⟩
  | write b _ ih => exact ⟨ih.reach, ih.unstarted⟩
  | tick _ ih => exact (tick_valid hn _ ih).1
  | runToCompletion maxTicks _ ih => exact (runLoop_valid hn maxTicks maxTicks _ ih).1

end SkillRunner

/-! ## Quiescence -/

theorem quiescent_of_guarded (env : Environment β) (t : TreeNode) (n : BtNode β) (hbuild : build env t = .ok n)
    (hg : guarded t = true) :
    (∀ c e b, n.Reach c e →
      ((n.tick c e b).status ≠ .running → n.Quiescent (n.tick c e b).control (n.tick c e b).executors) ∧
      n.Quiescent (n.halt c e b).control (n.halt c e b).executors) ∧
    ∀ (checker : ConditionChecker) (evaluateCondition : String → β → ConditionResult)
      (s : SkillRunner.State ⟨n, checker, evaluateCondition⟩) (maxTicks : Nat),
      SkillRunner.Reach ⟨n, checker, evaluateCondition⟩ s →
      let returned := (SkillRunner.runToCompletion ⟨n, checker, evaluateCondition⟩ maxTicks s).2
      ∀ a ∈ n.actions returned.control returned.executors, a.isRunning = false ∧ a.Released := by
  have hn := (sound_steps env).build t n hbuild hg
  refine ⟨fun c e b hr => ⟨hn.completes c e b hr, hn.halts c e b hr⟩, ?_⟩
  intro checker evaluateCondition s maxTicks hr returned a ha
  have hvalid := SkillRunner.Reach.valid (r := ⟨n, checker, evaluateCondition⟩) hn hr
  obtain ⟨hv, hq⟩ := SkillRunner.runLoop_valid (r := ⟨n, checker, evaluateCondition⟩) hn maxTicks maxTicks s hvalid
  exact ⟨hq a ha, a.released_of_not_running (hn.consistent _ _ hv.reach a ha) (hq a ha)⟩

def holdPosition : ActionExecutor Unit where
  State := Unit
  created := ()
  onStart := fun _ _ => (.running, (), ())
  onRunning := fun _ _ => (.running, (), ())
  onHalted := fun _ _ => ((), ())

def holdEnvironment : Environment Unit where
  create := fun actionType => if actionType = "hold_position" then some holdPosition else none
  evaluateCondition := fun _ _ => .satisfied

/-- An action monitored by a condition that never lets the parallel node succeed. -/
def monitoredTree : TreeNode :=
  .parallel [.action "hold" "hold_position", .decorator .while (.condition "clear")] 1

def monitoredNode : BtNode Unit :=
  ParallelNode [ActionNode "hold" holdPosition,
    WhileNode (ConditionNode holdEnvironment.evaluateCondition "clear")] 1

theorem quiescent_monitoredTree :
    build holdEnvironment monitoredTree = .ok monitoredNode ∧ guarded monitoredTree = true ∧
    ∀ c e b, monitoredNode.Reach c e → ((monitoredNode.tick c e b).status ≠ .running →
        monitoredNode.Quiescent (monitoredNode.tick c e b).control (monitoredNode.tick c e b).executors) ∧
      monitoredNode.Quiescent (monitoredNode.halt c e b).control (monitoredNode.halt c e b).executors :=
  ⟨rfl, by decide, (quiescent_of_guarded holdEnvironment monitoredTree monitoredNode rfl (by decide)).1⟩

def raceTree : TreeNode :=
  .parallel [.action "hold" "hold_position", .condition "arrived"] 1

def raceNode : BtNode Unit :=
  ParallelNode [ActionNode "hold" holdPosition, ConditionNode holdEnvironment.evaluateCondition "arrived"] 1

/-- The race is won by the condition; the action is left running, and is never halted. -/
theorem race_leaves_action_running : build holdEnvironment raceTree = .ok raceNode ∧
    (let ticked := raceNode.tick raceNode.fresh raceNode.created ()
     ticked.status = .success ∧ ¬ raceNode.Quiescent ticked.control ticked.executors) ∧
    let runner : SkillRunner Unit := ⟨raceNode, ⟨[], [], []⟩, holdEnvironment.evaluateCondition⟩
    let (result, s) := runner.runToCompletion 10 (runner.new ())
    result = ⟨true, 1, none⟩ ∧
    raceNode.actions s.control s.executors = [⟨"hold", true, [.onStart .running]⟩] ∧
    ∃ a ∈ raceNode.actions s.control s.executors, ¬ a.Released := by
  refine ⟨rfl, ⟨rfl, fun hq => ?_⟩, rfl, rfl, ⟨"hold", true, [.onStart .running]⟩, .head _, fun h => ?_⟩
  · exact absurd (hq ⟨"hold", true, [.onStart .running]⟩ (.head _)) (by decide)
  · exact absurd (h rfl) (by decide)

end Roz.Agent.Bt
