import Mathlib.Data.List.Basic

/-!
# Behavior trees (`roz-core/src/bt`, `roz-agent/src/bt`)

The syntax tree of a skill, the live nodes, and `TreeNodeBuilder::build`.

A live node is a component in the sense of the `BtNode` trait: `tick` and `halt`
act on the node's control state, on the states of the action executors below it,
and on the blackboard.  Executors, conditions and the blackboard are arbitrary.
Each executor is kept together with the calls it has received, latest first.

Node names other than those of actions, ports and subtrees are left out; counters
are natural numbers.
-/

namespace Roz.Agent.Bt

/-! ## Syntax (`tree.rs`, `status.rs`) -/

inductive BtStatus where
  | success
  | failure
  | running
  deriving DecidableEq, Repr

inductive DecoratorType where
  | retry (maxAttempts : Nat)
  | timeout (secs : Nat)
  | invert
  | repeat (count : Nat)
  | while
  | repeatUntilFailure
  deriving DecidableEq, Repr

inductive TreeNode where
  | action (name actionType : String)
  | condition (expression : String)
  | sequence (children : List TreeNode)
  | fallback (children : List TreeNode)
  | parallel (children : List TreeNode) (successThreshold : Nat)
  | decorator (decoratorType : DecoratorType) (child : TreeNode)
  | subTree (skillName : String)

/-! ## Nodes (`node.rs`) -/

variable {β : Type}

/-- Custom action execution logic, as a state machine over the blackboard. -/
structure ActionExecutor (β : Type) where
  State : Type
  created : State
  onStart : State → β → BtStatus × State × β
  onRunning : State → β → BtStatus × State × β
  onHalted : State → β → State × β

inductive ExecutorCall where
  | onStart (reported : BtStatus)
  | onRunning (reported : BtStatus)
  | onHalted
  deriving DecidableEq, Repr

def ExecutorCall.reported : ExecutorCall → Option BtStatus
  | .onStart st | .onRunning st => some st
  | .onHalted => none

/-- What is seen of an action node: its flag, and the calls its executor has received,
latest first. -/
structure ActionView where
  name : String
  isRunning : Bool
  calls : List ExecutorCall
  deriving DecidableEq, Repr

structure Ticked (γ ε β : Type) where
  status : BtStatus
  control : γ
  executors : ε
  blackboard : β

structure Halted (γ ε β : Type) where
  control : γ
  executors : ε
  blackboard : β

/-- A live node.  `fresh` and `created` are the states it is built with; `actions` lists the
action nodes of its subtree. -/
structure BtNode (β : Type) where
  Control : Type
  Executors : Type
  fresh : Control
  created : Executors
  tick : Control → Executors → β → Ticked Control Executors β
  halt : Control → Executors → β → Halted Control Executors β
  actions : Control → Executors → List ActionView

/-! ## Leaves (`action.rs`, `condition.rs`) -/

def ActionNode (name : String) (ex : ActionExecutor β) : BtNode β where
  Control := Bool
  Executors := ex.State × List ExecutorCall
  fresh := false
  created := (ex.created, [])
  tick := fun isRunning e b =>
    let (status, state, b) := if isRunning then ex.onRunning e.1 b else ex.onStart e.1 b
    let call := if isRunning then ExecutorCall.onRunning status else .onStart status
    ⟨status, decide (status = .running), (state, call :: e.2), b⟩
  halt := fun isRunning e b =>
    if isRunning then
      let (state, b) := ex.onHalted e.1 b
      ⟨false, (state, .onHalted :: e.2), b⟩
    else ⟨isRunning, e, b⟩
  actions := fun isRunning e => [⟨name, isRunning, e.2⟩]

inductive ConditionResult where
  | satisfied
  | violated (reason : String)
  deriving DecidableEq, Repr

def ConditionNode (evaluateCondition : String → β → ConditionResult) (expression : String) : BtNode β where
  Control := Unit
  Executors := Unit
  fresh := ()
  created := ()
  tick := fun _ _ b =>
    match evaluateCondition expression b with
    | .satisfied => ⟨.success, (), (), b⟩
    | .violated _ => ⟨.failure, (), (), b⟩
  halt := fun _ _ b => ⟨(), (), b⟩
  actions := fun _ _ => []

namespace BtNode

def Controls : List (BtNode β) → Type
  | [] => Unit
  | n :: ns => n.Control × Controls ns

def ExecutorsAll : List (BtNode β) → Type
  | [] => Unit
  | n :: ns => n.Executors × ExecutorsAll ns

def freshAll : (ns : List (BtNode β)) → Controls ns
  | [] => ()
  | n :: ns => (n.fresh, freshAll ns)

def createdAll : (ns : List (BtNode β)) → ExecutorsAll ns
  | [] => ()
  | n :: ns => (n.created, createdAll ns)

def actionsAll : (ns : List (BtNode β)) → Controls ns → ExecutorsAll ns → List ActionView
  | [], _, _ => []
  | n :: ns, (c, cs), (e, es) => n.actions c e ++ actionsAll ns cs es

end BtNode

/-! ## Sequence and fallback (`sequence.rs`, `fallback.rs`) -/

open BtNode

/-- Tick the children from index `start` on while they return `goOn`; the index is that of
the child that returned `Running`. -/
def tickFrom (goOn : BtStatus) : (ns : List (BtNode β)) → (start : Nat) → Controls ns → ExecutorsAll ns → β →
    Option Nat × Ticked (Controls ns) (ExecutorsAll ns) β
  | [], _, cs, es, b => (none, ⟨goOn, cs, es, b⟩)
  | _ :: ns, start + 1, (c, cs), (e, es), b =>
    let (index, r) := tickFrom goOn ns start cs es b
    (index.map (· + 1), ⟨r.status, (c, r.control), (e, r.executors), r.blackboard⟩)
  | n :: ns, 0, (c, cs), (e, es), b =>
    let t := n.tick c e b
    if t.status = goOn then
      let (index, r) := tickFrom goOn ns 0 cs es t.blackboard
      (index.map (· + 1), ⟨r.status, (t.control, r.control), (t.executors, r.executors), r.blackboard⟩)
    else
      (if t.status = .running then some 0 else none,
        ⟨t.status, (t.control, cs), (t.executors, es), t.blackboard⟩)

def haltAt : (ns : List (BtNode β)) → (index : Nat) → Controls ns → ExecutorsAll ns → β →
    Halted (Controls ns) (ExecutorsAll ns) β
  | [], _, cs, es, b => ⟨cs, es, b⟩
  | n :: _, 0, (c, cs), (e, es), b =>
    let h := n.halt c e b
    ⟨(h.control, cs), (h.executors, es), h.blackboard⟩
  | _ :: ns, index + 1, (c, cs), (e, es), b =>
    let h := haltAt ns index cs es b
    ⟨(c, h.control), (e, h.executors), h.blackboard⟩

/-- Children ticked left to right while they return `goOn`, with the index of the running
child remembered. -/
def chainNode (goOn : BtStatus) (children : List (BtNode β)) : BtNode β where
  Control := Option Nat × Controls children
  Executors := ExecutorsAll children
  fresh := (none, freshAll children)
  created := createdAll children
  tick := fun c es b =>
    let (index, r) := tickFrom goOn children (c.1.getD 0) c.2 es b
    ⟨r.status, (index, r.control), r.executors, r.blackboard⟩
  halt := fun c es b =>
    match c.1 with
    | some index =>
      let h := haltAt children index c.2 es b
      ⟨(none, h.control), h.executors, h.blackboard⟩
    | none => ⟨(none, c.2), es, b⟩
  actions := fun c es => actionsAll children c.2 es

variable (children : List (BtNode β))
def SequenceNode : BtNode β := chainNode .success children

def FallbackNode : BtNode β := chainNode .failure children

/-! ## Parallel (`parallel.rs`) -/

def tickAll : (ns : List (BtNode β)) → Controls ns → ExecutorsAll ns → β →
    Nat × Nat × Halted (Controls ns) (ExecutorsAll ns) β
  | [], cs, es, b => (0, 0, ⟨cs, es, b⟩)
  | n :: ns, (c, cs), (e, es), b =>
    let t := n.tick c e b
    let (successCount, failureCount, r) := tickAll ns cs es t.blackboard
    (if t.status = .success then successCount + 1 else successCount,
      if t.status = .failure then failureCount + 1 else failureCount,
      ⟨(t.control, r.control), (t.executors, r.executors), r.blackboard⟩)

def haltAll : (ns : List (BtNode β)) → Controls ns → ExecutorsAll ns → β → Halted (Controls ns) (ExecutorsAll ns) β
  | [], cs, es, b => ⟨cs, es, b⟩
  | n :: ns, (c, cs), (e, es), b =>
    let h := n.halt c e b
    let r := haltAll ns cs es h.blackboard
    ⟨(h.control, r.control), (h.executors, r.executors), r.blackboard⟩

def parallelStatus (successThreshold total successCount failureCount : Nat) : BtStatus :=
  if successThreshold ≤ successCount then .success
  else if total - failureCount < successThreshold then .failure
  else .running

def ParallelNode (successThreshold : Nat) : BtNode β where
  Control := Controls children
  Executors := ExecutorsAll children
  fresh := freshAll children
  created := createdAll children
  tick := fun cs es b =>
    let (successCount, failureCount, r) := tickAll children cs es b
    ⟨parallelStatus successThreshold children.length successCount failureCount, r.control, r.executors, r.blackboard⟩
  halt := fun cs es b => haltAll children cs es b
  actions := fun cs es => actionsAll children cs es

/-! ## Decorators (`decorator.rs`) -/

variable (child : BtNode β)
def RetryNode (maxAttempts : Nat) : BtNode β where
  Control := Nat × child.Control
  Executors := child.Executors
  fresh := (0, child.fresh)
  created := child.created
  tick := fun (attempts, c) e b =>
    let t := child.tick c e b
    match t.status with
    | .success => ⟨.success, (0, t.control), t.executors, t.blackboard⟩
    | .running => ⟨.running, (attempts, t.control), t.executors, t.blackboard⟩
    | .failure =>
      if maxAttempts ≤ attempts + 1 then ⟨.failure, (0, t.control), t.executors, t.blackboard⟩
      else
        let h := child.halt t.control t.executors t.blackboard
        ⟨.running, (attempts + 1, h.control), h.executors, h.blackboard⟩
  halt := fun (_, c) e b =>
    let h := child.halt c e b
    ⟨(0, h.control), h.executors, h.blackboard⟩
  actions := fun (_, c) e => child.actions c e

def TimeoutNode (maxTicks : Nat) : BtNode β where
  Control := Nat × child.Control
  Executors := child.Executors
  fresh := (0, child.fresh)
  created := child.created
  tick := fun (ticks, c) e b =>
    if maxTicks < ticks + 1 then
      let h := child.halt c e b
      ⟨.failure, (0, h.control), h.executors, h.blackboard⟩
    else
      let t := child.tick c e b
      ⟨t.status, (if t.status = .running then ticks + 1 else 0, t.control), t.executors, t.blackboard⟩
  halt := fun (_, c) e b =>
    let h := child.halt c e b
    ⟨(0, h.control), h.executors, h.blackboard⟩
  actions := fun (_, c) e => child.actions c e

def BtStatus.invert : BtStatus → BtStatus
  | .success => .failure
  | .failure => .success
  | .running => .running

def InvertNode : BtNode β where
  Control := child.Control
  Executors := child.Executors
  fresh := child.fresh
  created := child.created
  tick := fun c e b =>
    let t := child.tick c e b
    ⟨t.status.invert, t.control, t.executors, t.blackboard⟩
  halt := child.halt
  actions := child.actions

def repeatLoop (child : BtNode β) : (remaining current : Nat) → child.Control → child.Executors → β →
    Ticked (Nat × child.Control) child.Executors β
  | 0, _, c, e, b => ⟨.success, (0, c), e, b⟩
  | remaining + 1, current, c, e, b =>
    let t := child.tick c e b
    match t.status with
    | .success =>
      let h := child.halt t.control t.executors t.blackboard
      repeatLoop child remaining (current + 1) h.control h.executors h.blackboard
    | .running => ⟨.running, (current, t.control), t.executors, t.blackboard⟩
    | .failure => ⟨.failure, (0, t.control), t.executors, t.blackboard⟩

def RepeatNode (count : Nat) : BtNode β where
  Control := Nat × child.Control
  Executors := child.Executors
  fresh := (0, child.fresh)
  created := child.created
  tick := fun (current, c) e b => repeatLoop child (count - current) current c e b
  halt := fun (_, c) e b =>
    let h := child.halt c e b
    ⟨(0, h.control), h.executors, h.blackboard⟩
  actions := fun (_, c) e => child.actions c e

/-- Tick the child again while it succeeds, at most `iterations` times; a failure is
reported as `onFailure`. -/
def successLoop (child : BtNode β) (onFailure : BtStatus) : (iterations : Nat) → child.Control →
    child.Executors → β → Ticked child.Control child.Executors β
  | 0, c, e, b => ⟨.running, c, e, b⟩
  | iterations + 1, c, e, b =>
    let t := child.tick c e b
    match t.status with
    | .success =>
      let h := child.halt t.control t.executors t.blackboard
      successLoop child onFailure iterations h.control h.executors h.blackboard
    | .failure => ⟨onFailure, t.control, t.executors, t.blackboard⟩
    | .running => ⟨.running, t.control, t.executors, t.blackboard⟩

def successLoopNode (onFailure : BtStatus) (maxIterations : Nat) : BtNode β where
  Control := child.Control
  Executors := child.Executors
  fresh := child.fresh
  created := child.created
  tick := fun c e b => successLoop child onFailure maxIterations c e b
  halt := child.halt
  actions := child.actions

def WhileNode : BtNode β := successLoopNode child .failure 1000

def RepeatUntilFailureNode : BtNode β := successLoopNode child .success 1000

/-! ## The builder (`builder.rs`) -/

inductive BuildError where
  | unknownActionType (actionType : String)
  | subTreeNotSupported
  deriving DecidableEq, Repr

def BuildError.text : BuildError → String
  | .unknownActionType actionType => "unknown action type: " ++ actionType
  | .subTreeNotSupported => "subtree references not supported in single-skill builds"

/-- What a tree is built against: the executor registry's `create`, and the evaluation of
condition expressions. -/
structure Environment (β : Type) where
  create : String → Option (ActionExecutor β)
  evaluateCondition : String → β → ConditionResult

def buildDecorator (decoratorType : DecoratorType) (child : BtNode β) : BtNode β :=
  match decoratorType with
  | .retry maxAttempts => RetryNode child maxAttempts
  | .timeout secs => TimeoutNode child secs
  | .invert => InvertNode child
  | .repeat count => RepeatNode child count
  | .while => WhileNode child
  | .repeatUntilFailure => RepeatUntilFailureNode child

mutual

def build (env : Environment β) : TreeNode → Except BuildError (BtNode β)
  | .action name actionType =>
    match env.create actionType with
    | none => .error (.unknownActionType actionType)
    | some executor => .ok (ActionNode name executor)
  | .condition expression => .ok (ConditionNode env.evaluateCondition expression)
  | .sequence children =>
    match buildAll env children with
    | .error e => .error e
    | .ok built => .ok (SequenceNode built)
  | .fallback children =>
    match buildAll env children with
    | .error e => .error e
    | .ok built => .ok (FallbackNode built)
  | .parallel children successThreshold =>
    match buildAll env children with
    | .error e => .error e
    | .ok built => .ok (ParallelNode built successThreshold)
  | .decorator decoratorType child =>
    match build env child with
    | .error e => .error e
    | .ok built => .ok (buildDecorator decoratorType built)
  | .subTree _ => .error .subTreeNotSupported

def buildAll (env : Environment β) : List TreeNode → Except BuildError (List (BtNode β))
  | [] => .ok []
  | t :: ts =>
    match build env t with
    | .error e => .error e
    | .ok n =>
      match buildAll env ts with
      | .error e => .error e
      | .ok ns => .ok (n :: ns)

end

/-- `P` is kept by every step of the builder. -/
structure BuildSteps (env : Environment β) (P : TreeNode → BtNode β → Prop) : Prop where
  action : ∀ name actionType executor, P (.action name actionType) (ActionNode name executor)
  condition : ∀ expression, P (.condition expression) (ConditionNode env.evaluateCondition expression)
  sequence : ∀ ts ns, List.Forall₂ P ts ns → P (.sequence ts) (SequenceNode ns)
  fallback : ∀ ts ns, List.Forall₂ P ts ns → P (.fallback ts) (FallbackNode ns)
  parallel : ∀ ts ns k, List.Forall₂ P ts ns → P (.parallel ts k) (ParallelNode ns k)
  decorator : ∀ d t n, P t n → P (.decorator d t) (buildDecorator d n)

section Induction
variable {env : Environment β} {P : TreeNode → BtNode β → Prop}

mutual

lemma BuildSteps.build (hP : BuildSteps env P) : ∀ (t : TreeNode) (n : BtNode β), Bt.build env t = .ok n → P t n
  | .action name actionType, n, h => by
    simp only [Bt.build] at h
    split at h
    · cases h
    · cases h
      exact hP.action name actionType _
  | .condition expression, n, h => by
    cases h
    exact hP.condition expression
  | .sequence ts, n, h => by
    simp only [Bt.build] at h
    split at h
    · cases h
    · next built heq =>
      cases h
      exact hP.sequence ts built (hP.buildAll ts built heq)
  | .fallback ts, n, h => by
    simp only [Bt.build] at h
    split at h
    · cases h
    · next built heq =>
      cases h
      exact hP.fallback ts built (hP.buildAll ts built heq)
  | .parallel ts k, n, h => by
    simp only [Bt.build] at h
    split at h
    · cases h
    · next built heq =>
      cases h
      exact hP.parallel ts built k (hP.buildAll ts built heq)
  | .decorator d t, n, h => by
    simp only [Bt.build] at h
    split at h
    · cases h
    · next built heq =>
      cases h
      exact hP.decorator d t built (hP.build t built heq)
  | .subTree _, n, h => by cases h

lemma BuildSteps.buildAll (hP : BuildSteps env P) : ∀ (ts : List TreeNode) (ns : List (BtNode β)),
    Bt.buildAll env ts = .ok ns → List.Forall₂ P ts ns
  | [], ns, h => by
    cases h
    exact .nil
  | t :: ts, ns, h => by
    simp only [Bt.buildAll] at h
    split at h
    · cases h
    · next n hn =>
      split at h
      · cases h
      · next rest hrest =>
        cases h
        exact .cons (hP.build t n hn) (hP.buildAll ts rest hrest)

end
end Induction
end Roz.Agent.Bt
