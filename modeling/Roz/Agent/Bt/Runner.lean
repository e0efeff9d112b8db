import Roz.Agent.Bt.Node

/-!
# Running a skill (`conditions.rs`, `runner.rs`)

`SkillRunner` ticks the root of a behavior tree, with the pre-conditions checked
before the first tick, the hold-conditions after every tick that leaves the tree
running, and the post-conditions after success.
-/

namespace Roz.Agent.Bt
variable {β : Type}
structure ConditionChecker where
  pre : List String
  hold : List String
  post : List String
  deriving DecidableEq, Repr

inductive CheckResult where
  | allSatisfied
  | violated (condition reason : String)
  deriving DecidableEq, Repr

def checkConditions (evaluateCondition : String → β → ConditionResult) : List String → β → CheckResult
  | [], _ => .allSatisfied
  | expression :: rest, b =>
    match evaluateCondition expression b with
    | .violated reason => .violated expression reason
    | .satisfied => checkConditions evaluateCondition rest b

/-! ## The runner -/

inductive SkillTickResult where
  | running
  | completed (success : Bool)
  | preViolation (condition reason : String)
  | holdViolation (condition reason : String)
  | postViolation (condition reason : String)
  deriving DecidableEq, Repr

structure SkillResult where
  success : Bool
  ticks : Nat
  message : Option String
  deriving DecidableEq, Repr

structure SkillRunner (β : Type) where
  root : BtNode β
  checker : ConditionChecker
  evaluateCondition : String → β → ConditionResult

namespace SkillRunner

structure State (r : SkillRunner β) where
  control : r.root.Control
  executors : r.root.Executors
  blackboard : β
  started : Bool
  ticks : Nat

variable (r : SkillRunner β)
def new (empty : β) : r.State := ⟨r.root.fresh, r.root.created, empty, false, 0⟩

variable (s : r.State)
def haltRoot : r.State :=
  let h := r.root.halt s.control s.executors s.blackboard
  { s with control := h.control, executors := h.executors, blackboard := h.blackboard }

def tickRoot : SkillTickResult × r.State :=
  let t := r.root.tick s.control s.executors s.blackboard
  let s := { s with
    control := t.control, executors := t.executors, blackboard := t.blackboard, ticks := s.ticks + 1 }
  match t.status with
  | .running =>
    match checkConditions r.evaluateCondition r.checker.hold s.blackboard with
    | .violated condition reason => (.holdViolation condition reason, r.haltRoot s)
    | .allSatisfied => (.running, s)
  | .success =>
    match checkConditions r.evaluateCondition r.checker.post s.blackboard with
    | .violated condition reason => (.postViolation condition reason, s)
    | .allSatisfied => (.completed true, s)
  | .failure => (.completed false, s)

def tick : SkillTickResult × r.State :=
  if s.started then r.tickRoot s
  else
    match checkConditions r.evaluateCondition r.checker.pre s.blackboard with
    | .violated condition reason => (.preViolation condition reason, s)
    | .allSatisfied => r.tickRoot { s with started := true }

def runLoop (r : SkillRunner β) (maxTicks : Nat) : (remaining : Nat) → r.State → SkillResult × r.State
  | 0, s =>
    let s := r.haltRoot s
    (⟨false, s.ticks, some ("Max ticks (" ++ toString maxTicks ++ ") exceeded")⟩, s)
  | remaining + 1, s =>
    match r.tick s with
    | (.running, s) => r.runLoop maxTicks remaining s
    | (.completed success, s) => (⟨success, s.ticks, none⟩, s)
    | (.preViolation condition reason, s) =>
      (⟨false, s.ticks, some ("Pre-condition violation: " ++ condition ++ " — " ++ reason)⟩, s)
    | (.holdViolation condition reason, s) =>
      (⟨false, s.ticks, some ("Hold violation: " ++ condition ++ " — " ++ reason)⟩, s)
    | (.postViolation condition reason, s) =>
      (⟨false, s.ticks, some ("Post-condition violation: " ++ condition ++ " — " ++ reason)⟩, s)

def runToCompletion (maxTicks : Nat) (s : r.State) : SkillResult × r.State :=
  r.runLoop maxTicks maxTicks s

end SkillRunner
end Roz.Agent.Bt
