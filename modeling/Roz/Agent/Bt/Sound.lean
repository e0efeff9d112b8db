import Roz.Agent.Bt.Node

/-!
# Sound nodes

What a tick of a subtree can return is read off its syntax tree (`may`), and whether
an action below it can be running (`holdsAction`).  A tree is `guarded` if no parallel
node of it can complete while a child with an action is running.

A node is sound for a tree if on every run of ticks and halts it returns what the
tree may return, and leaves no action running when it completes or is halted (`sound_action`,
`sound_decorator`).
-/

namespace Roz.Agent.Bt
open ExecutorCall
variable {β : Type}

/-! ## Runs of a node -/

variable (a : ActionView)

/-- The flag of an action tells whether the latest call of its executor reported Running. -/
def ActionView.Consistent : Prop :=
  a.isRunning = true ↔ a.calls.head?.bind ExecutorCall.reported = some .running

def ActionView.Released : Prop :=
  (a.calls.filterMap ExecutorCall.reported).head? = some .running → a.calls.head? = some .onHalted

lemma ActionView.released_of_not_running (hc : a.Consistent) (h : a.isRunning = false) : a.Released := by
  intro hlast
  unfold ActionView.Consistent at hc
  rw [h] at hc
  cases hcalls : a.calls with
  | nil => simp [hcalls] at hlast
  | cons call rest =>
    cases call with
    | onHalted => rfl
    | onStart st => simp_all [reported]
    | onRunning st => simp_all [reported]

namespace BtNode

/-- The states a node can reach by ticks and halts, each with any blackboard. -/
inductive Reach (n : BtNode β) : n.Control → n.Executors → Prop
  | built : Reach n n.fresh n.created
  | tick {c : n.Control} {e : n.Executors} (b : β) (h : Reach n c e) :
      Reach n (n.tick c e b).control (n.tick c e b).executors
  | halt {c : n.Control} {e : n.Executors} (b : β) (h : Reach n c e) :
      Reach n (n.halt c e b).control (n.halt c e b).executors

lemma Reach.invariant {n : BtNode β} (J : n.Control → n.Executors → Prop) (hbuilt : J n.fresh n.created)
    (htick : ∀ c e b, J c e → J (n.tick c e b).control (n.tick c e b).executors)
    (hhalt : ∀ c e b, J c e → J (n.halt c e b).control (n.halt c e b).executors)
    {c e} (h : n.Reach c e) : J c e := by
  induction h with
  | built => exact hbuilt
  | tick b _ ih => exact htick _ _ b ih
  | halt b _ ih => exact hhalt _ _ b ih

def Quiescent (n : BtNode β) (c : n.Control) (e : n.Executors) : Prop :=
  ∀ a ∈ n.actions c e, a.isRunning = false

def Consistent (n : BtNode β) (c : n.Control) (e : n.Executors) : Prop :=
  ∀ a ∈ n.actions c e, a.Consistent

end BtNode
open BtNode

/-! ## What a tree can do, from its syntax -/

mutual

def may : TreeNode → BtStatus → Bool
  | .action _ _, _ => true
  | .condition _, st => st != .running
  | .sequence ts, st => if st = .success then mayAll ts .success else mayAny ts st
  | .fallback ts, st => if st = .failure then mayAll ts .failure else mayAny ts st
  | .parallel ts k, .success => decide (k ≤ countMay ts .success)
  | .parallel ts k, .failure => decide (ts.length - countMay ts .failure < k)
  | .parallel ts _, .running => mayAny ts .running
  | .decorator (.retry m) t, st => may t st || (decide (st = .running) && decide (1 < m) && may t .failure)
  | .decorator (.timeout k) t, .failure => decide (k = 0) || may t .failure || may t .running
  | .decorator (.timeout k) t, st => decide (0 < k) && may t st
  | .decorator .invert t, st => may t st.invert
  | .decorator (.repeat k) t, .success => decide (k = 0) || may t .success
  | .decorator (.repeat k) t, st => decide (0 < k) && may t st
  | .decorator .while t, .running => may t .running || may t .success
  | .decorator .while t, .failure => may t .failure
  | .decorator .while _, .success => false
  | .decorator .repeatUntilFailure t, .running => may t .running || may t .success
  | .decorator .repeatUntilFailure t, .success => may t .failure
  | .decorator .repeatUntilFailure _, .failure => false
  | .subTree _, _ => false

def mayAll : List TreeNode → BtStatus → Bool
  | [], _ => true
  | t :: ts, st => may t st && mayAll ts st

def mayAny : List TreeNode → BtStatus → Bool
  | [], _ => false
  | t :: ts, st => may t st || mayAny ts st

def countMay : List TreeNode → BtStatus → Nat
  | [], _ => 0
  | t :: ts, st => (if may t st then 1 else 0) + countMay ts st

end

mutual

def holdsAction : TreeNode → Bool
  | .action _ _ => true
  | .condition _ => false
  | .sequence ts | .fallback ts | .parallel ts _ => anyHoldsAction ts
  | .decorator (.timeout 0) _ | .decorator (.repeat 0) _ => false
  | .decorator _ t => holdsAction t
  | .subTree _ => false

def anyHoldsAction : List TreeNode → Bool
  | [] => false
  | t :: ts => holdsAction t || anyHoldsAction ts

end

/-- A child that can be running keeps the parallel node from completing: the others cannot
reach the threshold, and cannot make it unreachable. -/
def ParallelGuarded (ts : List TreeNode) (k : Nat) : Prop :=
  ∀ i : Fin ts.length, holdsAction (ts.get i) = true →
    countMay (ts.eraseIdx i) .success < k ∧ k ≤ ts.length - countMay (ts.eraseIdx i) .failure

instance (ts : List TreeNode) (k : Nat) : Decidable (ParallelGuarded ts k) := by
  unfold ParallelGuarded
  infer_instance

mutual

def guarded : TreeNode → Bool
  | .action _ _ | .condition _ | .subTree _ => true
  | .sequence ts | .fallback ts => guardedAll ts
  | .parallel ts k => decide (ParallelGuarded ts k) && guardedAll ts
  | .decorator _ t => guarded t

def guardedAll : List TreeNode → Bool
  | [] => true
  | t :: ts => guarded t && guardedAll ts

end

structure Sound (n : BtNode β) (t : TreeNode) : Prop where
  returns : ∀ c e b, n.Reach c e → may t (n.tick c e b).status = true
  completes : ∀ c e b, n.Reach c e → (n.tick c e b).status ≠ .running →
    n.Quiescent (n.tick c e b).control (n.tick c e b).executors
  halts : ∀ c e b, n.Reach c e → n.Quiescent (n.halt c e b).control (n.halt c e b).executors
  built : n.Quiescent n.fresh n.created
  idle : holdsAction t = false → ∀ c e, n.Reach c e → n.Quiescent c e
  consistent : ∀ c e, n.Reach c e → n.Consistent c e

/-! ## Leaves -/

lemma consistent_action (name : String) (ex : ActionExecutor β) (c : (ActionNode name ex).Control)
    (e : (ActionNode name ex).Executors) (h : (ActionNode name ex).Reach c e) :
    (ActionNode name ex).Consistent c e := by
  refine h.invariant (ActionNode name ex).Consistent ?_ ?_ ?_
  · intro a ha
    obtain rfl := List.mem_singleton.1 ha
    simp [ActionView.Consistent, ActionNode]
  · intro c e b _ a ha
    obtain rfl := List.mem_singleton.1 ha
    simp only [ActionView.Consistent, ActionNode]
    split <;> simp [reported]
  · intro c e b ih
    simp only [ActionNode]
    split
    · intro a ha
      obtain rfl := List.mem_singleton.1 ha
      simp [ActionView.Consistent, reported]
    · exact ih

lemma sound_action (name actionType : String) (ex : ActionExecutor β) :
    Sound (ActionNode name ex) (.action name actionType) where
  returns := fun _ _ _ _ => rfl
  completes := by
    intro c e b _ hst a ha
    obtain rfl := List.mem_singleton.1 ha
    exact decide_eq_false hst
  halts := by
    intro c e b _ a ha
    obtain rfl := List.mem_singleton.1 ha
    simp only [ActionNode]
    split
    · rfl
    · next h => exact Bool.eq_false_iff.2 h
  built := by
    intro a ha
    obtain rfl := List.mem_singleton.1 ha
    rfl
  idle := nofun
  consistent := consistent_action name ex

lemma sound_condition (evaluateCondition : String → β → ConditionResult) (expression : String) :
    Sound (ConditionNode evaluateCondition expression) (.condition expression) where
  returns := by
    intro c e b _
    simp only [ConditionNode]
    split <;> rfl
  completes := nofun
  halts := nofun
  built := nofun
  idle := nofun
  consistent := nofun

section Decorators
attribute [local simp] may holdsAction

variable {child : BtNode β} {t : TreeNode}
lemma reach_invert {c e} (h : (InvertNode child).Reach c e) : child.Reach c e :=
  Reach.invariant (n := InvertNode child) (fun c e => child.Reach c e) .built (fun _ _ b h => h.tick b)
    (fun _ _ b h => h.halt b) h

lemma reach_retry {m c e} (h : (RetryNode child m).Reach c e) : child.Reach c.2 e := by
  refine Reach.invariant (n := RetryNode child m) (fun c e => child.Reach c.2 e) .built (fun c e b h => ?_)
    (fun c e b h => h.halt b) h
  simp only [RetryNode]
  split
  · exact h.tick b
  · exact h.tick b
  · split
    · exact h.tick b
    · exact (h.tick b).halt _

/-- What the loop of a repeat node returns, started with `remaining` rounds to go. -/
structure RepeatReturns (child : BtNode β) (t : TreeNode) (remaining current : Nat)
    (r : Ticked (Nat × child.Control) child.Executors β) : Prop where
  reach : child.Reach r.control.2 r.executors
  completes : r.status ≠ .running → r.control.1 = 0 ∧ child.Quiescent r.control.2 r.executors
  success : r.status = .success → remaining = 0 ∨ may t .success = true
  failure : r.status = .failure → 0 < remaining ∧ may t .failure = true
  running : r.status = .running → 0 < remaining ∧ r.control.1 < current + remaining ∧ may t .running = true

structure LoopReturns (child : BtNode β) (t : TreeNode) (onFailure : BtStatus) (iterations : Nat)
    (r : Ticked child.Control child.Executors β) : Prop where
  reach : child.Reach r.control r.executors
  completes : r.status ≠ .running → r.status = onFailure ∧ may t .failure = true ∧
    child.Quiescent r.control r.executors
  running : r.status = .running → onFailure = .running ∨ iterations = 0 ∨ may t .running = true ∨
    may t .success = true

variable (h : Sound child t)
include h

lemma sound_invert : Sound (InvertNode child) (.decorator .invert t) where
  returns := by
    intro c e b hr
    have := h.returns c e b (reach_invert hr)
    simp only [may, InvertNode]
    cases hst : (child.tick c e b).status <;> simpa [hst, BtStatus.invert] using this
  completes := by
    intro c e b hr hst
    refine h.completes c e b (reach_invert hr) fun hrun => hst ?_
    simp only [InvertNode, hrun, BtStatus.invert]
  halts := fun c e b hr => h.halts c e b (reach_invert hr)
  built := h.built
  idle := fun hno c e hr => h.idle (by simpa using hno) c e (reach_invert hr)
  consistent := fun c e hr => h.consistent c e (reach_invert hr)

lemma sound_retry (m : Nat) : Sound (RetryNode child m) (.decorator (.retry m) t) where
  returns := by
    intro c e b hr
    have hmay := h.returns c.2 e b (reach_retry hr)
    simp only [RetryNode]
    split
    · next hst => rw [hst] at hmay; simp [hmay]
    · next hst => rw [hst] at hmay; simp [hmay]
    · next hst =>
      rw [hst] at hmay
      split
      · simp [hmay]
      · next hm =>
        -- another attempt is left, so more than one is allowed
        have hm' : 1 < m := by omega
        simp [hmay, hm']
  completes := by
    intro c e b hr hst
    have hq := h.completes c.2 e b (reach_retry hr)
    revert hst
    simp only [RetryNode]
    split
    · next hs => exact fun _ => hq (by simp [hs])
    · exact fun hst => absurd rfl hst
    · next hs =>
      split
      · exact fun _ => hq (by simp [hs])
      · exact fun hst => absurd rfl hst
  halts := fun c e b hr => h.halts c.2 e b (reach_retry hr)
  built := h.built
  idle := fun hno c e hr => h.idle (by simpa using hno) c.2 e (reach_retry hr)
  consistent := fun c e hr => h.consistent c.2 e (reach_retry hr)

variable {k : Nat}
lemma reach_timeout {c e} (hr : (TimeoutNode child k).Reach c e) :
    child.Reach c.2 e ∧ (0 < c.1 → may t .running = true) ∧ (k = 0 → child.Quiescent c.2 e) := by
  refine Reach.invariant (n := TimeoutNode child k)
    (fun c e => child.Reach c.2 e ∧ (0 < c.1 → may t .running = true) ∧ (k = 0 → child.Quiescent c.2 e))
    ⟨.built, fun hpos => absurd hpos (Nat.lt_irrefl 0), fun _ => h.built⟩ (fun c e b ih => ?_)
    (fun c e b ih => ?_) hr
  · obtain ⟨ihr, -, -⟩ := ih
    simp only [TimeoutNode]
    split
    · exact ⟨ihr.halt b, fun hpos => absurd hpos (Nat.lt_irrefl 0), fun _ => h.halts _ _ b ihr⟩
    · next hk =>
      refine ⟨ihr.tick b, fun hpos => ?_, fun hk0 => absurd hk0 (by omega)⟩
      have hmay := h.returns c.2 e b ihr
      split at hpos
      · next hrun => rwa [hrun] at hmay
      · exact absurd hpos (Nat.lt_irrefl 0)
  · exact ⟨ih.1.halt b, fun hpos => absurd hpos (Nat.lt_irrefl 0), fun _ => h.halts _ _ b ih.1⟩

lemma sound_timeout (k : Nat) : Sound (TimeoutNode child k) (.decorator (.timeout k) t) where
  returns := by
    intro c e b hr
    obtain ⟨hreach, hticks, -⟩ := reach_timeout h hr
    simp only [TimeoutNode]
    split
    · next hk =>
      -- out of ticks: none were allowed, or the child has been running
      rcases Nat.eq_zero_or_pos k with hk0 | hk0
      · simp [hk0]
      · simp [hticks (by omega)]
    · next hk =>
      have hmay := h.returns c.2 e b hreach
      have hpos : 0 < k := by omega
      cases hst : (child.tick c.2 e b).status <;> rw [hst] at hmay <;> simp [hmay, hpos]
  completes := by
    intro c e b hr hst
    obtain ⟨hreach, -, -⟩ := reach_timeout h hr
    revert hst
    simp only [TimeoutNode]
    split
    · exact fun _ => h.halts c.2 e b hreach
    · exact fun hst => h.completes c.2 e b hreach hst
  halts := fun c e b hr => h.halts c.2 e b (reach_timeout h hr).1
  built := h.built
  idle := by
    intro hno c e hr
    obtain ⟨hreach, -, hzero⟩ := reach_timeout h hr
    cases k with
    | zero => exact hzero rfl
    | succ k => exact h.idle (by simpa using hno) c.2 e hreach
  consistent := fun c e hr => h.consistent c.2 e (reach_timeout h hr).1

lemma repeatLoop_returns {remaining} : ∀ current c e b, child.Reach c e → (remaining = 0 → child.Quiescent c e) →
      RepeatReturns child t remaining current (repeatLoop child remaining current c e b) := by
  induction remaining with
  | zero =>
    intro current c e b hr hq
    exact ⟨hr, fun _ => ⟨rfl, hq rfl⟩, fun _ => Or.inl rfl, nofun, nofun⟩
  | succ remaining ih =>
    intro current c e b hr _
    have hmay := h.returns c e b hr
    have hdone := h.completes c e b hr
    simp only [repeatLoop]
    split
    · next hst =>
      rw [hst] at hmay
      have hrest := ih (current + 1) _ _
        (child.halt (child.tick c e b).control (child.tick c e b).executors (child.tick c e b).blackboard).blackboard
        ((hr.tick b).halt (child.tick c e b).blackboard) fun _ => h.halts _ _ _ (hr.tick b)
      refine ⟨hrest.reach, hrest.completes, fun _ => Or.inr hmay, fun hf => ?_, fun hrun => ?_⟩
      · exact ⟨Nat.succ_pos _, (hrest.failure hf).2⟩
      · obtain ⟨-, hlt, hm⟩ := hrest.running hrun
        exact ⟨Nat.succ_pos _, by omega, hm⟩
    · next hst =>
      rw [hst] at hmay
      refine ⟨hr.tick b, fun hne => absurd rfl hne, nofun, nofun, fun _ => ?_⟩
      exact ⟨Nat.succ_pos _, by dsimp only; omega, hmay⟩
    · next hst =>
      rw [hst] at hmay
      refine ⟨hr.tick b, fun _ => ⟨rfl, hdone (by simp [hst])⟩, nofun, fun _ => ?_,
        nofun⟩
      exact ⟨Nat.succ_pos _, hmay⟩

variable {c : (RepeatNode child k).Control} {e : (RepeatNode child k).Executors}
lemma reach_repeat (hr : (RepeatNode child k).Reach c e) :
    child.Reach c.2 e ∧ (k = 0 → child.Quiescent c.2 e) ∧ (0 < k → c.1 < k) := by
  refine Reach.invariant (n := RepeatNode child k)
    (fun c e => child.Reach c.2 e ∧ (k = 0 → child.Quiescent c.2 e) ∧ (0 < k → c.1 < k))
    ⟨.built, fun _ => h.built, fun hk => hk⟩ (fun c e b ih => ?_)
    (fun c e b ih => ⟨ih.1.halt b, fun _ => h.halts _ _ b ih.1, fun hk => hk⟩) hr
  obtain ⟨ihr, ihq, ihk⟩ := ih
  have hret : RepeatReturns child t (k - c.1) c.1 ((RepeatNode child k).tick c e b) :=
    repeatLoop_returns h c.1 c.2 e b ihr fun h0 => ihq (by omega)
  by_cases hrun : ((RepeatNode child k).tick c e b).status = .running
  · obtain ⟨hpos, hlt, -⟩ := hret.running hrun
    exact ⟨hret.reach, fun hk => by omega, fun _ => by omega⟩
  · obtain ⟨hzero, hq⟩ := hret.completes hrun
    exact ⟨hret.reach, fun _ => hq, fun hk => by omega⟩

lemma repeat_returns (b : β) (hr : (RepeatNode child k).Reach c e) :
    RepeatReturns child t (k - c.1) c.1 ((RepeatNode child k).tick c e b) := by
  obtain ⟨hreach, hq, hk⟩ := reach_repeat h hr
  exact repeatLoop_returns h c.1 c.2 e b hreach fun h0 => hq (by omega)

lemma sound_repeat (k : Nat) : Sound (RepeatNode child k) (.decorator (.repeat k) t) where
  returns := by
    intro c e b hr
    obtain ⟨-, -, hk⟩ := reach_repeat h hr
    have hret := repeat_returns h b hr
    cases hst : ((RepeatNode child k).tick c e b).status with
    | success =>
      rcases hret.success hst with h0 | hm
      · have : k = 0 := by omega
        simp [this]
      · simp [hm]
    | failure =>
      obtain ⟨hpos, hm⟩ := hret.failure hst
      have hk : 0 < k := by omega
      simp [hk, hm]
    | running =>
      obtain ⟨hpos, -, hm⟩ := hret.running hst
      have hk : 0 < k := by omega
      simp [hk, hm]
  completes := by
    intro c e b hr hst
    exact ((repeat_returns h b hr).completes hst).2
  halts := fun c e b hr => h.halts c.2 e b (reach_repeat h hr).1
  built := h.built
  idle := by
    intro hno c e hr
    obtain ⟨hreach, hq, -⟩ := reach_repeat h hr
    cases k with
    | zero => exact hq rfl
    | succ k => exact h.idle (by simpa using hno) c.2 e hreach
  consistent := fun c e hr => h.consistent c.2 e (reach_repeat h hr).1

lemma successLoop_returns (onFailure : BtStatus) (iterations : Nat) : ∀ c e b, child.Reach c e →
    LoopReturns child t onFailure iterations (successLoop child onFailure iterations c e b) := by
  induction iterations with
  | zero => exact fun c e b hr => ⟨hr, fun hne => absurd rfl hne, fun _ => Or.inr (Or.inl rfl)⟩
  | succ iterations ih =>
    intro c e b hr
    have hmay := h.returns c e b hr
    have hdone := h.completes c e b hr
    simp only [successLoop]
    split
    · next hst =>
      rw [hst] at hmay
      have hrest := ih _ _
        (child.halt (child.tick c e b).control (child.tick c e b).executors (child.tick c e b).blackboard).blackboard
        ((hr.tick b).halt (child.tick c e b).blackboard)
      exact ⟨hrest.reach, hrest.completes, fun _ => Or.inr (Or.inr (Or.inr hmay))⟩
    · next hst =>
      rw [hst] at hmay
      exact ⟨hr.tick b, fun _ => ⟨rfl, hmay, hdone (by simp [hst])⟩, fun hrun => Or.inl hrun⟩
    · next hst =>
      rw [hst] at hmay
      exact ⟨hr.tick b, fun hne => absurd rfl hne, fun _ => Or.inr (Or.inr (Or.inl hmay))⟩

variable {onFailure : BtStatus}
lemma reach_successLoop {c e} (hr : (successLoopNode child onFailure k).Reach c e) : child.Reach c e :=
  Reach.invariant (n := successLoopNode child onFailure k) (fun c e => child.Reach c e) .built
    (fun c e b ih => (successLoop_returns h onFailure k c e b ih).reach) (fun _ _ b ih => ih.halt b) hr

lemma sound_successLoop {t'}
    (hloop : onFailure ≠ .running ∧ 0 < k) (hfail : may t .failure = true → may t' onFailure = true)
    (hrun : may t .running = true ∨ may t .success = true → may t' .running = true)
    (hholds : holdsAction t' = holdsAction t) : Sound (successLoopNode child onFailure k) t' where
  returns := by
    intro c e b hr
    have hret := successLoop_returns h onFailure k c e b (reach_successLoop h hr)
    show may t' (successLoop child onFailure k c e b).status = true
    by_cases hst : (successLoop child onFailure k c e b).status = .running
    · rw [hst]
      refine hrun ?_
      rcases hret.running hst with h1 | h1 | h1
      · exact absurd h1 hloop.1
      · omega
      · exact h1
    · obtain ⟨heq, hm, -⟩ := hret.completes hst
      rw [heq]
      exact hfail hm
  completes := fun c e b hr hst =>
    ((successLoop_returns h onFailure k c e b (reach_successLoop h hr)).completes hst).2.2
  halts := fun c e b hr => h.halts c e b (reach_successLoop h hr)
  built := h.built
  idle := fun hno c e hr => h.idle (hholds ▸ hno) c e (reach_successLoop h hr)
  consistent := fun c e hr => h.consistent c e (reach_successLoop h hr)

lemma sound_decorator (d : DecoratorType) : Sound (buildDecorator d child) (.decorator d t) := by
  cases d with
  | retry m => exact sound_retry h m
  | timeout k => exact sound_timeout h k
  | invert => exact sound_invert h
  | «repeat» k => exact sound_repeat h k
  | «while» =>
    exact sound_successLoop h (by decide) (fun hm => by simpa using hm)
      (fun hm => by simpa using hm) (by simp)
  | repeatUntilFailure =>
    exact sound_successLoop h (by decide) (fun hm => by simpa using hm)
      (fun hm => by simpa using hm) (by simp)

end Decorators
end Roz.Agent.Bt
