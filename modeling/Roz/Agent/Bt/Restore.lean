import Roz.Agent.Bt.Sound

/-!
# Halted trees are as good as new

The control state of a tree is everything its nodes remember between ticks, apart
from the executors: the running index of a sequence or a fallback, the counters of the
decorators, the flag of an action.  In a tree without parallel nodes it is back to that
of the freshly built tree after every halt and after every tick that completes
(`restored_of_parallelFree`).
-/

namespace Roz.Agent.Bt
open BtNode
variable {β : Type}

namespace BtNode

/-- The control states of a node, whatever its executors and the blackboard did between the
calls. -/
inductive Visits (n : BtNode β) : n.Control → Prop
  | built : Visits n n.fresh
  | tick {c : n.Control} (h : Visits n c) (e : n.Executors) (b : β) : Visits n (n.tick c e b).control
  | halt {c : n.Control} (h : Visits n c) (e : n.Executors) (b : β) : Visits n (n.halt c e b).control

lemma Visits.invariant {n : BtNode β} (J : n.Control → Prop) (hbuilt : J n.fresh)
    (htick : ∀ c e b, J c → J (n.tick c e b).control) (hhalt : ∀ c e b, J c → J (n.halt c e b).control)
    {c} (h : n.Visits c) : J c := by
  induction h with
  | built => exact hbuilt
  | tick _ e b ih => exact htick _ e b ih
  | halt _ e b ih => exact hhalt _ e b ih

structure Restores (n : BtNode β) : Prop where
  completes : ∀ c e b, n.Visits c → (n.tick c e b).status ≠ .running → (n.tick c e b).control = n.fresh
  halts : ∀ c e b, n.Visits c → (n.halt c e b).control = n.fresh

end BtNode

lemma restores_action (name : String) (ex : ActionExecutor β) : (ActionNode name ex).Restores where
  completes := fun _ _ _ _ hst => decide_eq_false hst
  halts := by
    intro c e b _
    simp only [ActionNode]
    split
    · rfl
    · next h => exact Bool.eq_false_iff.2 h

section Decorators
variable {child : BtNode β}
lemma visits_retry {m c} (h : (RetryNode child m).Visits c) : child.Visits c.2 := by
  refine Visits.invariant (n := RetryNode child m) (fun c => child.Visits c.2) .built (fun c e b h => ?_)
    (fun c e b h => h.halt e b) h
  simp only [RetryNode]
  split
  · exact h.tick e b
  · exact h.tick e b
  · split
    · exact h.tick e b
    · exact (h.tick e b).halt _ _

lemma visits_timeout {k c} (h : (TimeoutNode child k).Visits c) : child.Visits c.2 := by
  refine Visits.invariant (n := TimeoutNode child k) (fun c => child.Visits c.2) .built (fun c e b h => ?_)
    (fun c e b h => h.halt e b) h
  simp only [TimeoutNode]
  split
  · exact h.halt e b
  · exact h.tick e b

variable (h : child.Restores)
include h

lemma restores_invert : (InvertNode child).Restores := by
  have hv : ∀ c, (InvertNode child).Visits c → child.Visits c := fun c hr =>
    Visits.invariant (n := InvertNode child) (fun c => child.Visits c) .built (fun _ e b h => h.tick e b)
      (fun _ e b h => h.halt e b) hr
  refine ⟨fun c e b hr hst => ?_, fun c e b hr => h.halts c e b (hv c hr)⟩
  refine h.completes c e b (hv c hr) fun hrun => hst ?_
  simp only [InvertNode, hrun, BtStatus.invert]

lemma restores_retry (m : Nat) : (RetryNode child m).Restores where
  completes := by
    intro c e b hr
    have hdone := h.completes c.2 e b (visits_retry hr)
    simp only [RetryNode]
    split
    · next hs =>
      intro _
      rw [hdone (by simp [hs])]
    · exact fun hst => absurd rfl hst
    · next hs =>
      split
      · intro _
        rw [hdone (by simp [hs])]
      · exact fun hst => absurd rfl hst
  halts := by
    intro c e b hr
    simp only [RetryNode]
    rw [h.halts c.2 e b (visits_retry hr)]

lemma restores_timeout (k : Nat) : (TimeoutNode child k).Restores where
  completes := by
    intro c e b hr
    have hv := visits_timeout hr
    simp only [TimeoutNode]
    split
    · intro _
      rw [h.halts c.2 e b hv]
    · intro hst
      rw [if_neg hst, h.completes c.2 e b hv hst]
  halts := by
    intro c e b hr
    simp only [TimeoutNode]
    rw [h.halts c.2 e b (visits_timeout hr)]

/-- The repetitions of a child that is put back after each of them: the loop ends with a
repetition running, or with everything put back. -/
lemma repeatLoop_restores : ∀ remaining current c e b, child.Visits c → (remaining = 0 → c = child.fresh) →
      let r := repeatLoop child remaining current c e b
      child.Visits r.control.2 ∧ (r.control.1 < current + remaining ∨ r.control = (0, child.fresh)) ∧
        (r.status ≠ .running → r.control = (0, child.fresh)) := by
  intro remaining
  induction remaining with
  | zero =>
    intro current c e b hv hfresh
    rw [repeatLoop, hfresh rfl]
    exact ⟨.built, .inr rfl, fun _ => rfl⟩
  | succ remaining ih =>
    intro current c e b hv _
    have hdone := h.completes c e b hv
    simp only [repeatLoop]
    split
    · rw [show current + (remaining + 1) = current + 1 + remaining by omega]
      exact ih _ _ _ _ ((hv.tick e b).halt _ _) fun _ => h.halts _ _ _ (hv.tick e b)
    · exact ⟨hv.tick e b, .inl (by dsimp only; omega), fun hst => absurd rfl hst⟩
    · next hs =>
      rw [hdone (by simp [hs])]
      exact ⟨.built, .inr rfl, fun _ => rfl⟩

lemma visits_repeat {k c}
    (hr : (RepeatNode child k).Visits c) : child.Visits c.2 ∧ (k - c.1 = 0 → c.2 = child.fresh) := by
  have hinv : child.Visits c.2 ∧ (c.1 < k ∨ c = (0, child.fresh)) := by
    refine Visits.invariant (n := RepeatNode child k)
      (fun c => child.Visits c.2 ∧ (c.1 < k ∨ c = (0, child.fresh))) ⟨.built, .inr rfl⟩ ?_ ?_ hr
    · rintro ⟨current, c⟩ e b ⟨hv, hcur⟩
      have hfresh : k - current = 0 → c = child.fresh := by
        intro hk
        rcases hcur with hlt | heq
        · exact absurd hk (Nat.sub_ne_zero_of_lt hlt)
        · exact congrArg Prod.snd heq
      obtain ⟨hv', hlt, -⟩ := repeatLoop_restores h (k - current) current c e b hv hfresh
      refine ⟨hv', hlt.imp_left fun hlt => ?_⟩
      rcases hcur with hcur | heq
      · rwa [Nat.add_sub_cancel' (Nat.le_of_lt hcur)] at hlt
      · cases heq
        rwa [Nat.zero_add] at hlt
    · rintro ⟨current, c⟩ e b ⟨hv, -⟩
      exact ⟨hv.halt e b, .inr (by simp only [RepeatNode]; rw [h.halts c e b hv])⟩
  refine ⟨hinv.1, fun hk => ?_⟩
  rcases hinv.2 with hlt | heq
  · exact absurd hk (Nat.sub_ne_zero_of_lt hlt)
  · exact congrArg Prod.snd heq

lemma restores_repeat (k : Nat) : (RepeatNode child k).Restores where
  completes := by
    intro c e b hr hst
    obtain ⟨hv, hfresh⟩ := visits_repeat h hr
    exact (repeatLoop_restores h (k - c.1) c.1 c.2 e b hv hfresh).2.2 hst
  halts := by
    intro c e b hr
    simp only [RepeatNode]
    rw [h.halts c.2 e b (visits_repeat h hr).1]

variable (onFailure : BtStatus)
lemma successLoop_restores : ∀ iterations c e b, child.Visits c → let r := successLoop child onFailure iterations c e b
      child.Visits r.control ∧ (r.status ≠ .running → r.control = child.fresh) := by
  intro iterations
  induction iterations with
  | zero => exact fun c e b hv => ⟨hv, fun hst => absurd rfl hst⟩
  | succ iterations ih =>
    intro c e b hv
    have hdone := h.completes c e b hv
    simp only [successLoop]
    split
    · exact ih _ _ _ ((hv.tick e b).halt _ _)
    · next hs => exact ⟨hv.tick e b, fun _ => hdone (by simp [hs])⟩
    · exact ⟨hv.tick e b, fun hst => absurd rfl hst⟩

lemma restores_successLoop (iterations : Nat) : (successLoopNode child onFailure iterations).Restores := by
  have hv : ∀ c, (successLoopNode child onFailure iterations).Visits c → child.Visits c := by
    intro c hr
    exact Visits.invariant (n := successLoopNode child onFailure iterations) (fun c => child.Visits c) .built
      (fun c e b hv => (successLoop_restores h onFailure iterations c e b hv).1) (fun _ e b hv => hv.halt e b) hr
  exact ⟨fun c e b hr => (successLoop_restores h onFailure iterations c e b (hv c hr)).2,
    fun c e b hr => h.halts c e b (hv c hr)⟩

lemma restores_decorator (d : DecoratorType) : (buildDecorator d child).Restores := by
  cases d with
  | retry m => exact restores_retry h m
  | timeout k => exact restores_timeout h k
  | invert => exact restores_invert h
  | «repeat» k => exact restores_repeat h k
  | «while» => exact restores_successLoop h .failure 1000
  | repeatUntilFailure => exact restores_successLoop h .success 1000

end Decorators

/-! ## Sequence and fallback -/

def VisitsAll : (ns : List (BtNode β)) → Controls ns → Prop
  | [], _ => True
  | n :: ns, (c, cs) => n.Visits c ∧ VisitsAll ns cs

variable (ns : List (BtNode β))
lemma visitsAll_fresh : VisitsAll ns (freshAll ns) := by
  induction ns with
  | nil => trivial
  | cons n ns ih => exact ⟨.built, ih⟩

def FreshBut : (ns : List (BtNode β)) → (index : Nat) → Controls ns → Prop
  | [], _, _ => True
  | _ :: ns, 0, (_, cs) => cs = freshAll ns
  | n :: ns, index + 1, (c, cs) => c = n.fresh ∧ FreshBut ns index cs

def ChainFresh (index : Option Nat) (cs : Controls ns) : Prop :=
  match index with
  | none => cs = freshAll ns
  | some i => FreshBut ns i cs

section Chain
variable {ns : List (BtNode β)}
lemma freshBut_of_chainFresh (index : Option Nat) (cs : Controls ns) (h : ChainFresh ns index cs) :
    FreshBut ns (index.getD 0) cs := by
  cases index with
  | some i => exact h
  | none =>
    obtain rfl : cs = freshAll ns := h
    cases ns with
    | nil => trivial
    | cons n ns => rfl

structure ChainRestores (ns : List (BtNode β))
    (p : Option Nat × Ticked (Controls ns) (ExecutorsAll ns) β) : Prop where
  visits : VisitsAll ns p.2.control
  at_index : ChainFresh ns p.1 p.2.control
  completes : p.2.status ≠ .running → p.1 = none

lemma ChainRestores.cons {n e p} (h : ChainRestores ns p) : ChainRestores (n :: ns)
      (p.1.map (· + 1), ⟨p.2.status, (n.fresh, p.2.control), (e, p.2.executors), p.2.blackboard⟩) where
  visits := ⟨.built, h.visits⟩
  at_index := by
    have hat := h.at_index
    cases hp : p.1 with
    | none =>
      rw [hp] at hat
      exact congrArg (n.fresh, ·) hat
    | some i =>
      rw [hp] at hat
      exact ⟨rfl, hat⟩
  completes := fun hst => by rw [h.completes hst]; rfl

variable {goOn : BtStatus}
lemma tickFrom_restores (hgo : goOn ≠ .running) (h : ∀ n ∈ ns, n.Restores) :
    ∀ start cs es b, VisitsAll ns cs → FreshBut ns start cs → ChainRestores ns (tickFrom goOn ns start cs es b) := by
  induction ns with
  | nil =>
    intro start cs es b _ _
    cases start <;> exact ⟨trivial, rfl, fun _ => rfl⟩
  | cons n ns ih =>
    have hn := h n (.head _)
    have hns := ih fun m hm => h m (.tail _ hm)
    intro start ⟨c, cs⟩ ⟨e, es⟩ b ⟨hv, hvs⟩ hbut
    cases start with
    | succ start =>
      obtain ⟨rfl, hrest⟩ := hbut
      exact (hns start cs es b hvs hrest).cons
    | zero =>
      obtain rfl : cs = freshAll ns := hbut
      have hdone := hn.completes c e b hv
      simp only [tickFrom]
      split
      · next hst =>
        rw [hdone (hst ▸ hgo)]
        exact (hns 0 (freshAll ns) es _ hvs (freshBut_of_chainFresh none _ rfl)).cons
      · next hst =>
        refine ⟨⟨hv.tick e b, hvs⟩, ?_, fun hne => if_neg hne⟩
        split
        · rfl
        · next hne => exact congrArg (·, freshAll ns) (hdone hne)

lemma haltAt_restores (h : ∀ n ∈ ns, n.Restores) :
    ∀ i cs es b, VisitsAll ns cs → FreshBut ns i cs → (haltAt ns i cs es b).control = freshAll ns := by
  induction ns with
  | nil =>
    intro i cs es b _ _
    cases i <;> rfl
  | cons n ns ih =>
    intro i ⟨c, cs⟩ ⟨e, es⟩ b ⟨hv, hvs⟩ hbut
    cases i with
    | zero =>
      obtain rfl : cs = freshAll ns := hbut
      exact congrArg (·, freshAll ns) (h n (.head _) |>.halts c e b hv)
    | succ i =>
      obtain ⟨rfl, hrest⟩ := hbut
      exact congrArg (n.fresh, ·) (ih (fun m hm => h m (.tail _ hm)) i cs es b hvs hrest)

lemma visits_chain (hgo : goOn ≠ .running) (h : ∀ n ∈ ns, n.Restores) {c} (hr : (chainNode goOn ns).Visits c) :
    VisitsAll ns c.2 ∧ ChainFresh ns c.1 c.2 := by
  refine Visits.invariant (n := chainNode goOn ns) (fun c => VisitsAll ns c.2 ∧ ChainFresh ns c.1 c.2)
    ⟨visitsAll_fresh ns, rfl⟩ ?_ ?_ hr
  · rintro ⟨index, cs⟩ es b ⟨hv, hat⟩
    have hret := tickFrom_restores hgo h (index.getD 0) cs es b hv (freshBut_of_chainFresh index cs hat)
    exact ⟨hret.visits, hret.at_index⟩
  · rintro ⟨index, cs⟩ es b ⟨hv, hat⟩
    cases index with
    | none => exact ⟨hv, hat⟩
    | some i =>
      have hfresh := haltAt_restores h i cs es b hv hat
      simp only [chainNode]
      rw [hfresh]
      exact ⟨visitsAll_fresh ns, rfl⟩

lemma restores_chain (hgo : goOn ≠ .running) (h : ∀ n ∈ ns, n.Restores) : (chainNode goOn ns).Restores where
  completes := by
    rintro ⟨index, cs⟩ es b hr hst
    obtain ⟨hv, hat⟩ := visits_chain hgo h hr
    have hret := tickFrom_restores hgo h (index.getD 0) cs es b hv (freshBut_of_chainFresh index cs hat)
    have hnone := hret.completes hst
    have hfresh := hret.at_index
    rw [hnone] at hfresh
    exact Prod.ext hnone hfresh
  halts := by
    rintro ⟨index, cs⟩ es b hr
    obtain ⟨hv, hat⟩ := visits_chain hgo h hr
    cases index with
    | none => exact congrArg (none, ·) hat
    | some i => exact congrArg (none, ·) (haltAt_restores h i cs es b hv hat)

end Chain

/-! ## Built trees -/

mutual

def parallelFree : TreeNode → Bool
  | .action _ _ | .condition _ | .subTree _ => true
  | .sequence ts | .fallback ts => parallelFreeAll ts
  | .parallel _ _ => false
  | .decorator _ t => parallelFree t

def parallelFreeAll : List TreeNode → Bool
  | [] => true
  | t :: ts => parallelFree t && parallelFreeAll ts

end

lemma restores_all {ts} {ns : List (BtNode β)}
    (h : List.Forall₂ (fun t n => parallelFree t = true → n.Restores) ts ns) (hp : parallelFreeAll ts = true) :
    ∀ n ∈ ns, n.Restores := by
  induction h with
  | nil => exact nofun
  | cons hn _ ih =>
    simp only [parallelFreeAll, Bool.and_eq_true] at hp
    exact List.forall_mem_cons.2 ⟨hn hp.1, ih hp.2⟩

lemma restores_steps (env : Environment β) : BuildSteps env fun t n => parallelFree t = true → n.Restores where
  action name _ _ _ := restores_action name _
  condition _ _ := ⟨fun _ _ _ _ _ => rfl, fun _ _ _ _ => rfl⟩
  sequence ts ns h hp := restores_chain (by decide) (restores_all h (by simpa [parallelFree] using hp))
  fallback ts ns h hp := restores_chain (by decide) (restores_all h (by simpa [parallelFree] using hp))
  parallel ts ns k _ hp := by simp [parallelFree] at hp
  decorator d t n hn hp := restores_decorator (hn (by simpa [parallelFree] using hp)) d

lemma BtNode.Reach.visits {n : BtNode β} {c e} (h : n.Reach c e) : n.Visits c :=
  h.invariant (fun c _ => n.Visits c) .built (fun _ e b h => h.tick e b) (fun _ e b h => h.halt e b)

/-! ## Restored trees -/

inductive NodeCall (β : Type) where
  | tick
  | halt
  | write (blackboard : β)

/-- Make the calls in order: the statuses returned, and the node and the blackboard they leave. -/
def BtNode.replay (n : BtNode β) : List (NodeCall β) → n.Control → n.Executors → β →
    List BtStatus × Halted n.Control n.Executors β
  | [], c, e, b => ([], ⟨c, e, b⟩)
  | .tick :: calls, c, e, b =>
    let t := n.tick c e b
    let (statuses, h) := n.replay calls t.control t.executors t.blackboard
    (t.status :: statuses, h)
  | .halt :: calls, c, e, b =>
    let h := n.halt c e b
    n.replay calls h.control h.executors h.blackboard
  | .write b :: calls, c, e, _ => n.replay calls c e b

theorem restored_of_parallelFree (env : Environment β) (t : TreeNode) (n : BtNode β) (hbuild : build env t = .ok n)
    (hp : parallelFree t = true) (c : n.Control) (e : n.Executors) (b : β) (hr : n.Reach c e) :
    ((n.tick c e b).status ≠ .running → (n.tick c e b).control = n.fresh ∧
      ∀ calls e' b', n.replay calls (n.tick c e b).control e' b' = n.replay calls n.fresh e' b') ∧
    (n.halt c e b).control = n.fresh ∧
    ∀ calls e' b', n.replay calls (n.halt c e b).control e' b' = n.replay calls n.fresh e' b' := by
  have hn := (restores_steps env).build t n hbuild hp
  have hhalt := hn.halts c e b hr.visits
  refine ⟨fun hst => ?_, hhalt, fun calls e' b' => by rw [hhalt]⟩
  have hdone := hn.completes c e b hr.visits hst
  exact ⟨hdone, fun calls e' b' => by rw [hdone]⟩

def twoTicks : ActionExecutor Unit where
  State := Unit
  created := ()
  onStart := fun _ _ => (.running, (), ())
  onRunning := fun _ _ => (.success, (), ())
  onHalted := fun _ _ => ((), ())

def twoTicksEnvironment : Environment Unit where
  create := fun actionType => if actionType = "two_ticks" then some twoTicks else none
  evaluateCondition := fun _ _ => .violated "no"

def retriedTree : TreeNode :=
  .decorator (.timeout 9) (.decorator (.retry 3) (.sequence [.action "go" "two_ticks", .condition "there"]))

def retriedNode : BtNode Unit :=
  TimeoutNode (RetryNode (SequenceNode [ActionNode "go" twoTicks,
    ConditionNode twoTicksEnvironment.evaluateCondition "there"]) 3) 9

theorem restored_retriedTree :
    let s := (retriedNode.replay [.tick, .tick, .tick] retriedNode.fresh retriedNode.created ()).2
    s.control = (3, 1, some 0, true, (), ()) ∧
    (retriedNode.halt s.control s.executors ()).control = retriedNode.fresh :=
  ⟨rfl, (restored_of_parallelFree twoTicksEnvironment retriedTree retriedNode rfl rfl _ _ ()
    (.tick () (.tick () (.tick () .built)))).2.1⟩

end Roz.Agent.Bt
