import Roz.Agent.Message

/-!
# The safety stack and human approval

From `roz-agent/src/safety/stack.rs` and `agent_loop/approvals.rs`.  A guard is a function of the
call and the world state.  What comes of the wait for a human is an input.

The stack lets a call through as its guards leave it: each has passed the call as it stood at
its turn, and after the last one that changed it every guard has allowed exactly what comes out
(`evaluate_approved`).
-/

namespace Roz.Agent

inductive SafetyVerdict where
  | allow
  | modify (clamped : ToolCall) (reason : String)
  | block (reason : String)
  | requireConfirmation (reason : String) (timeoutSecs : Nat)

structure SafetyGuard (World : Type) where
  name : String
  check : ToolCall → World → SafetyVerdict

inductive SafetyResult where
  | approved (call : ToolCall)
  | blocked (guard reason : String)
  | needsHuman (reason : String) (timeoutSecs : Nat)

section Stack
variable {World : Type}
def evaluate (guards : List (SafetyGuard World)) (action : ToolCall) (state : World) : SafetyResult :=
  match guards with
  | [] => .approved action
  | guard :: guards =>
    match guard.check action state with
    | .allow => evaluate guards action state
    | .modify clamped _ => evaluate guards clamped state
    | .block reason => .blocked guard.name reason
    | .requireConfirmation reason timeoutSecs => .needsHuman reason timeoutSecs

inductive PassedInTurn (state : World) : List (SafetyGuard World) → ToolCall → ToolCall → Prop
  | nil (call : ToolCall) : PassedInTurn state [] call call
  | allow {guard : SafetyGuard World} {guards : List (SafetyGuard World)} {call out : ToolCall}
      (h : guard.check call state = .allow) (rest : PassedInTurn state guards call out) :
      PassedInTurn state (guard :: guards) call out
  | modify {guard : SafetyGuard World} {guards : List (SafetyGuard World)} {call clamped out : ToolCall}
      {reason : String} (h : guard.check call state = .modify clamped reason)
      (rest : PassedInTurn state guards clamped out) : PassedInTurn state (guard :: guards) call out

variable (state : World) (guards : List (SafetyGuard World))

/-- The last guard that changed the call made exactly `out`, and every guard after it allows
exactly `out`; if none changed it, every guard allows the call itself. -/
def Cleared (call out : ToolCall) : Prop :=
  (call = out ∧ ∀ guard ∈ guards, guard.check out state = .allow) ∨
    ∃ before guard after stood reason, guards = before ++ guard :: after ∧ PassedInTurn state before call stood ∧
      guard.check stood state = .modify out reason ∧ ∀ later ∈ after, later.check out state = .allow

/-- A guard asked for confirmation of the call as the guards before it left it. -/
def AskedHuman (call : ToolCall) (reason : String) (timeoutSecs : Nat) : Prop :=
  ∃ before guard after stood, guards = before ++ guard :: after ∧ PassedInTurn state before call stood ∧
    guard.check stood state = .requireConfirmation reason timeoutSecs

variable {state : World} {guards : List (SafetyGuard World)} {call : ToolCall}
variable {guard : SafetyGuard World} {reason : String} {out : ToolCall}
lemma Cleared.cons_allow (h : guard.check call state = .allow)
    (hc : Cleared state guards call out) : Cleared state (guard :: guards) call out := by
  rcases hc with ⟨rfl, hall⟩ | ⟨before, last, after, stood, reason, rfl, hbefore, hlast, hafter⟩
  · exact .inl ⟨rfl, List.forall_mem_cons.2 ⟨h, hall⟩⟩
  · exact .inr ⟨guard :: before, last, after, stood, reason, rfl, .allow h hbefore, hlast, hafter⟩

lemma Cleared.cons_modify {clamped out}
    (h : guard.check call state = .modify clamped reason) (hc : Cleared state guards clamped out) :
    Cleared state (guard :: guards) call out := by
  rcases hc with ⟨rfl, hall⟩ | ⟨before, last, after, stood, reason', rfl, hbefore, hlast, hafter⟩
  · exact .inr ⟨[], guard, guards, call, reason, rfl, .nil call, h, hall⟩
  · exact .inr ⟨guard :: before, last, after, stood, reason', rfl, .modify h hbefore, hlast, hafter⟩

variable {timeoutSecs : Nat}
lemma AskedHuman.cons {state guards call call'}
    (h : ∀ before stood, PassedInTurn state before call' stood → PassedInTurn state (guard :: before) call stood)
    (ha : AskedHuman state guards call' reason timeoutSecs) : AskedHuman state (guard :: guards) call reason timeoutSecs := by
  obtain ⟨before, asking, after, stood, rfl, hbefore, hasking⟩ := ha
  exact ⟨guard :: before, asking, after, stood, rfl, h before stood hbefore, hasking⟩

lemma evaluate_spec (state : World) (guards : List (SafetyGuard World)) : ∀ call, match evaluate guards call state with
      | .approved out => Cleared state guards call out
      | .blocked _ _ => True
      | .needsHuman reason timeoutSecs => AskedHuman state guards call reason timeoutSecs := by
  induction guards with
  | nil => exact fun call => .inl ⟨rfl, nofun⟩
  | cons guard guards ih =>
    intro call
    rw [evaluate]
    cases hcheck : guard.check call state with
    | allow =>
      dsimp only
      have hrest := ih call
      revert hrest
      cases evaluate guards call state with
      | approved out => exact Cleared.cons_allow hcheck
      | blocked _ _ => exact id
      | needsHuman reason timeoutSecs => exact AskedHuman.cons fun _ _ => .allow hcheck
    | modify clamped reason =>
      dsimp only
      have hrest := ih clamped
      revert hrest
      cases evaluate guards clamped state with
      | approved out => exact Cleared.cons_modify hcheck
      | blocked _ _ => exact id
      | needsHuman reason timeoutSecs => exact AskedHuman.cons fun _ _ => .modify hcheck
    | block reason => trivial
    | requireConfirmation reason timeoutSecs => exact ⟨[], guard, guards, call, rfl, .nil call, hcheck⟩

lemma evaluate_approved (h : evaluate guards call state = .approved out) : Cleared state guards call out := by
  have hspec := evaluate_spec state guards call
  rwa [h] at hspec

lemma evaluate_needsHuman (h : evaluate guards call state = .needsHuman reason timeoutSecs) :
    AskedHuman state guards call reason timeoutSecs := by
  have hspec := evaluate_spec state guards call
  rwa [h] at hspec

end Stack

/-! ## Approval -/

structure ApprovalDecision where
  approved : Bool
  modifier : Option Json

inductive ApprovalWait where
  | decided (decision : ApprovalDecision)
  | channelClosed
  | timedOut
  | cancelled

inductive ApprovalGateResult where
  | approved (call : ToolCall)
  | rejected (result : ToolResult)

def jsonValueKind : Json → String
  | .null => "null"
  | .bool _ => "bool"
  | .number _ => "number"
  | .string _ => "string"
  | .array _ => "array"
  | .object _ => "object"

mutual

def mergeApprovalModifierIntoValue : (base modifier : Json) → Except String Json
  | .object base, .object modifier => (mergeFields base modifier).map .object
  | .array base, .array modifier =>
    if base.length ≠ modifier.length then
      .error ("modifier cannot change array length from " ++ toString base.length ++ " to " ++ toString modifier.length)
    else (mergeItems base modifier).map .array
  | .object _, _ => .error "modifier cannot replace an object input with a non-object value"
  | _, .object _ => .error "modifier cannot introduce a new object where the original input was not an object"
  | .array _, _ => .error "modifier cannot replace an array input with a non-array value"
  | _, .array _ => .error "modifier cannot introduce a new array where the original input was not an array"
  | .null, .null => .ok .null
  | .bool _, .bool value => .ok (.bool value)
  | .number _, .number value => .ok (.number value)
  | .string _, .string value => .ok (.string value)
  | base, modifier =>
    .error ("modifier cannot change value type from '" ++ jsonValueKind base ++ "' to '" ++ jsonValueKind modifier ++ "'")

def mergeFields (base : List (String × Json)) : (modifier : List (String × Json)) → Except String (List (String × Json))
  | [] => .ok base
  | (key, value) :: modifier =>
    match base.lookup key with
    | none => .error ("modifier attempted to add unknown field '" ++ key ++ "'")
    | some existing =>
      match mergeApprovalModifierIntoValue existing value with
      | .error e => .error e
      | .ok merged => mergeFields (base.map fun field => if field.1 = key then (key, merged) else field) modifier

def mergeItems : (base modifier : List Json) → Except String (List Json)
  | existing :: base, value :: modifier =>
    match mergeApprovalModifierIntoValue existing value with
    | .error e => .error e
    | .ok merged => (mergeItems base modifier).map (merged :: ·)
  | _, _ => .ok []

end

def ApprovalWait.decision : ApprovalWait → ApprovalDecision
  | .decided decision => decision
  | _ => ⟨false, none⟩

def gateToolCallForHumanApproval (call : ToolCall) (wait : ApprovalWait) : ApprovalGateResult :=
  if wait.decision.approved then
    match wait.decision.modifier with
    | none => .approved call
    | some modifier =>
      match mergeApprovalModifierIntoValue call.params modifier with
      | .error e => .rejected (.ofError ("Invalid approval modifier for " ++ call.tool ++ ": " ++ e))
      | .ok merged => .approved { call with params := merged }
  else .rejected (.ofError ("Permission denied by user for: " ++ call.tool))

lemma gate_approved {call out wait} (h : gateToolCallForHumanApproval call wait = .approved out) :
    wait.decision.approved = true ∧ out.id = call.id ∧ out.tool = call.tool := by
  unfold gateToolCallForHumanApproval at h
  split at h
  · rename_i happroved
    cases hmodifier : wait.decision.modifier with
    | none =>
      rw [hmodifier] at h
      cases h
      exact ⟨happroved, rfl, rfl⟩
    | some modifier =>
      rw [hmodifier] at h
      cases hmerge : mergeApprovalModifierIntoValue call.params modifier with
      | error e =>
        simp only [hmerge] at h
        cases h
      | ok merged =>
        simp only [hmerge, ApprovalGateResult.approved.injEq] at h
        subst h
        exact ⟨happroved, rfl, rfl⟩
  · cases h

/-! ## The outcome that the gate reports -/

mutual

def Json.beq : Json → Json → Bool
  | .null, .null => true
  | .bool a, .bool b => a == b
  | .number a, .number b => a == b
  | .string a, .string b => a == b
  | .array a, .array b => beqItems a b
  | .object a, .object b => beqFields a b
  | _, _ => false

def beqItems : List Json → List Json → Bool
  | [], [] => true
  | a :: as, b :: bs => a.beq b && beqItems as bs
  | _, _ => false

def beqFields : List (String × Json) → List (String × Json) → Bool
  | [], [] => true
  | (key, a) :: as, (key', b) :: bs => key == key' && a.beq b && beqFields as bs
  | _, _ => false

end

structure Modification where
  field : String
  oldValue : String
  newValue : String
  reason : Option String
  deriving DecidableEq

inductive ApprovalOutcome where
  | approved
  -- no denial here has a category
  | denied (reason : Option String)
  | modified (modifications : List Modification)
  | partialApproval (approvedSteps deniedSteps : List Nat)
  deriving DecidableEq

def ApprovalOutcome.isDenied : ApprovalOutcome → Bool
  | .denied _ => true
  | _ => false

section Outcome
variable (print : Json → String)

mutual

def collectModifierChanges : (base modifier : Json) → (path : String) → List Modification
  | .object base, .object modifier, path => collectFields base modifier path
  | .array base, .array modifier, path => collectItems 0 base modifier path
  | base, modifier, path =>
    if base.beq modifier then []
    else [⟨if path = "" then "$" else path, print base, print modifier, none⟩]

def collectFields (base : List (String × Json)) : (modifier : List (String × Json)) → (path : String) →
    List Modification
  | [], _ => []
  | (key, value) :: modifier, path =>
    (match base.lookup key with
      | none => []
      | some existing => collectModifierChanges existing value (if path = "" then key else path ++ "." ++ key)) ++
      collectFields base modifier path

def collectItems : (index : Nat) → (base modifier : List Json) → (path : String) → List Modification
  | index, existing :: base, value :: modifier, path =>
    collectModifierChanges existing value (path ++ "[" ++ toString index ++ "]") ++
      collectItems (index + 1) base modifier path
  | _, _, _, _ => []

end

def approvalOutcomeForDecision (base : Json) (decision : ApprovalDecision) (denialReason : Option String) :
    ApprovalOutcome :=
  if decision.approved then
    match decision.modifier with
    | none => .approved
    | some modifier =>
      let modifications := collectModifierChanges print base modifier ""
      if modifications.isEmpty then .approved else .modified modifications
  else .denied denialReason

def ApprovalWait.denialReason : ApprovalWait → Option String
  | .decided decision => if decision.approved then none else some "denied by user"
  | .channelClosed => some "approval channel closed"
  | .timedOut => some "approval timed out"
  | .cancelled => some "approval wait cancelled"

/-- The outcome that `gate_tool_call_for_human_approval` reports, given how its wait ends. -/
def gateOutcome (call : ToolCall) (wait : ApprovalWait) : ApprovalOutcome :=
  match wait.decision.approved, wait.decision.modifier with
  | true, some modifier =>
    match mergeApprovalModifierIntoValue call.params modifier with
    | .error e => .denied (some ("invalid approval modifier: " ++ e))
    | .ok _ => approvalOutcomeForDecision print call.params wait.decision none
  | _, _ => approvalOutcomeForDecision print call.params wait.decision wait.denialReason

end Outcome
end Roz.Agent
