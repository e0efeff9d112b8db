import Roz.Agent.Safety
import Mathlib.Data.List.AList

/-!
# Tool dispatch (`roz-agent/src/agent_loop/dispatch.rs`, `dispatch/mod.rs`)

What a tool execution returns and how a wait for approval ends are inputs, per call of the batch.
Contiguous pure calls run concurrently; as their results are inputs, the batch is modelled call
by call (`handed_guarded`).
-/

namespace Roz.Agent
open List

inductive Execution where
  | returned (result : ToolResult)
  | failed (error : String)
  | timedOut

structure ToolEntry where
  schema : ToolSchema
  enabled : Bool
  category : ToolCategory

structure ToolDispatcher where
  tools : AList fun _ : String => ToolEntry
  -- the `Debug` text of the timeout
  timeoutText : String

namespace ToolDispatcher

def category (d : ToolDispatcher) (name : String) : ToolCategory :=
  match d.tools.lookup name with
  | none => .physical
  | some entry => entry.category

variable (d : ToolDispatcher) (schema : ToolSchema)
def registerWithCategory (category : ToolCategory) : ToolDispatcher :=
  { d with tools := d.tools.insert schema.name ⟨schema, true, category⟩ }

def setEnabled (name : String) (enabled : Bool) : ToolDispatcher :=
  match d.tools.lookup name with
  | none => d
  | some entry => { d with tools := d.tools.insert name { entry with enabled := enabled } }

def entries (d : ToolDispatcher) : List (String × ToolEntry) := d.tools.entries.map fun e => (e.1, e.2)

def schemas : List ToolSchema :=
  (d.entries.filter fun e => e.2.enabled).map fun e => e.2.schema

def schemasFiltered (names : List String) : List ToolSchema :=
  (d.entries.filter fun e => e.2.enabled && names.contains e.1).map fun e => e.2.schema

def catalogProperty (required : List String) (property : String × Json) : String :=
  let type := ((property.2.get "type").bind Json.asStr).getD "any"
  let label := if property.1 ∈ required then "required" else "optional"
  let description := ((property.2.get "description").bind Json.asStr).getD ""
  "- " ++ property.1 ++ " (" ++ type ++ ", " ++ label ++ ")" ++
    if description = "" then "\n" else ": " ++ description ++ "\n"

def catalogTool : String :=
  let required := (((schema.parameters.get "required").bind Json.asArray).getD []).filterMap Json.asStr
  let properties := ((schema.parameters.get "properties").bind Json.asObject).getD []
  "\n### " ++ schema.name ++ "\n" ++ schema.description ++ "\n" ++
    if properties.isEmpty then ""
    else "\nParameters:\n" ++ String.join ((properties.mergeSort fun a b => a.1 ≤ b.1).map (catalogProperty required))

def toolCatalog : String :=
  let enabled := d.entries.filter fun e => e.2.enabled
  if enabled.isEmpty then ""
  else "## Available Tools\n" ++ String.join ((enabled.mergeSort fun a b => a.1 ≤ b.1).map fun e => catalogTool e.2.schema)

def dispatch (execute : ToolCall → Execution) (call : ToolCall) : ToolResult :=
  match d.tools.lookup call.tool with
  | none => .ofError ("unknown tool: " ++ call.tool)
  | some entry =>
    if entry.enabled then
      match execute call with
      | .returned result => result
      | .failed e => .ofError ("tool error: " ++ e)
      | .timedOut => .ofError ("tool timed out after " ++ d.timeoutText)
    else .ofError ("tool is disabled and not available: " ++ call.tool)

end ToolDispatcher

def maxToolOutputChars : Nat := 20000

def headChars : Nat := 8000

def tailChars : Nat := 8000

def truncateToolOutput (content : String) : String :=
  let chars := content.toList
  if chars.length ≤ maxToolOutputChars then content
  else
    String.ofList (chars.take headChars) ++ "\n\n[... ~" ++ toString (chars.length - headChars - tailChars) ++
      " chars omitted ...]\n\n" ++ String.ofList (chars.drop (chars.length - tailChars))

/-- What a batch meets: for its `i`-th call, how a tool executes and how a wait for approval
ends. -/
structure BatchInputs where
  execute : Nat → ToolCall → Execution
  wait : Nat → ApprovalWait

/-- What comes of a call: its result, and the call handed to the dispatcher if one was. -/
structure CallOutcome where
  result : ToolResult
  handed : Option ToolCall

section Dispatch
variable {World : Type}
structure Actor (World : Type) where
  dispatcher : ToolDispatcher
  safety : List (SafetyGuard World)
  hasApprovalRuntime : Bool

namespace Actor
variable (a : Actor World) (inputs : BatchInputs)
def handOver (i : Nat) (call : ToolCall) : CallOutcome :=
  ⟨a.dispatcher.dispatch (inputs.execute i) call, some call⟩

def waitForHumanApproval (i : Nat) (call : ToolCall) : CallOutcome :=
  match gateToolCallForHumanApproval call (inputs.wait i) with
  | .approved effectiveCall => a.handOver inputs i effectiveCall
  | .rejected result => ⟨result, none⟩

variable (spatialCtx : World)
def dispatchCall (inputs : BatchInputs) (i : Nat) (call : ToolCall) : CallOutcome :=
  if a.dispatcher.category call.tool = .pure then a.handOver inputs i call
  else
    match evaluate a.safety call spatialCtx with
    | .approved approvedCall => a.handOver inputs i approvedCall
    | .blocked guard reason => ⟨.ofError ("Blocked by " ++ guard ++ ": " ++ reason), none⟩
    | .needsHuman reason _ =>
      if a.hasApprovalRuntime then a.waitForHumanApproval inputs i call
      else ⟨.ofError ("Human approval required but no approval runtime is configured: " ++ reason), none⟩

def outcomes (inputs : BatchInputs) (toolCalls : List ToolCall) : List CallOutcome :=
  toolCalls.mapIdx (a.dispatchCall spatialCtx inputs)

variable (print : ToolResult → String)

/-- The content of the results message for one call; `print` is the JSON text of a result. -/
def resultEntry (call : ToolCall) (outcome : CallOutcome) : String × String × String × Bool :=
  (call.id, call.tool, truncateToolOutput (print outcome.result), outcome.result.error.isSome)

def dispatchToolCalls (spatialCtx : World) (inputs : BatchInputs)
    (toolCalls : List ToolCall) (messages : List Message) : List Message :=
  let results := List.zipWith (resultEntry print) toolCalls (a.outcomes spatialCtx inputs toolCalls)
  if results.isEmpty then messages else messages ++ [.toolResults results]

lemma dispatchToolCalls_eq (spatialCtx : World)
    (inputs : BatchInputs) {toolCalls} (h : toolCalls ≠ []) (messages : List Message) :
    ∃ m, a.dispatchToolCalls print spatialCtx inputs toolCalls messages = messages ++ [m] ∧ m.role = .user ∧
      m.resultIds = toolCalls.map ToolCall.id := by
  have hids : (List.zipWith (resultEntry print) toolCalls (a.outcomes spatialCtx inputs toolCalls)).map Prod.fst =
      toolCalls.map ToolCall.id := by
    rw [map_zipWith]
    refine ext_getElem? fun i => ?_
    simp only [getElem?_zipWith, outcomes, getElem?_mapIdx, getElem?_map]
    cases toolCalls[i]? <;> rfl
  have hne : List.zipWith (resultEntry print) toolCalls (a.outcomes spatialCtx inputs toolCalls) ≠ [] := by
    intro hnil
    rw [hnil, map_nil] at hids
    exact h (map_eq_nil_iff.1 hids.symm)
  refine ⟨.toolResults (List.zipWith (resultEntry print) toolCalls (a.outcomes spatialCtx inputs toolCalls)), ?_, rfl, ?_⟩
  · simp only [dispatchToolCalls]
    rw [if_neg (by simpa using hne)]
  · rw [Message.resultIds_toolResults, hids]

end Actor
end Dispatch

/-- Whatever call of a batch reaches the dispatcher without being pure was cleared by the guards
in turn, or a guard asked for it and a human approved it. -/
theorem handed_guarded {World : Type} (a : Actor World) (spatialCtx : World) (inputs : BatchInputs)
    (toolCalls : List ToolCall) (i : Nat) (call handed : ToolCall) (hcall : toolCalls[i]? = some call)
    (hkind : a.dispatcher.category call.tool ≠ .pure)
    (hhanded : (a.outcomes spatialCtx inputs toolCalls)[i]?.bind CallOutcome.handed = some handed) :
    Cleared spatialCtx a.safety call handed ∨
      ∃ reason timeoutSecs, AskedHuman spatialCtx a.safety call reason timeoutSecs ∧
        (∃ decision, inputs.wait i = .decided decision ∧ decision.approved = true) ∧
        handed.id = call.id ∧ handed.tool = call.tool := by
  simp only [Actor.outcomes, getElem?_mapIdx, hcall, Option.map_some, Option.bind_some] at hhanded
  unfold Actor.dispatchCall at hhanded
  rw [if_neg hkind] at hhanded
  cases heval : evaluate a.safety call spatialCtx with
  | approved approvedCall =>
    rw [heval] at hhanded
    obtain rfl : approvedCall = handed := by simpa [Actor.handOver] using hhanded
    exact .inl (evaluate_approved heval)
  | blocked guard reason =>
    simp [heval] at hhanded
  | needsHuman reason timeoutSecs =>
    simp only [heval] at hhanded
    split at hhanded
    · unfold Actor.waitForHumanApproval at hhanded
      cases hgate : gateToolCallForHumanApproval call (inputs.wait i) with
      | approved effectiveCall =>
        rw [hgate] at hhanded
        obtain rfl : effectiveCall = handed := by simpa [Actor.handOver] using hhanded
        obtain ⟨happroved, hid, htool⟩ := gate_approved hgate
        refine .inr ⟨reason, timeoutSecs, evaluate_needsHuman heval, ?_, hid, htool⟩
        cases hwait : inputs.wait i with
        | decided decision =>
          rw [hwait] at happroved
          exact ⟨decision, rfl, happroved⟩
        | channelClosed =>
          rw [hwait] at happroved
          cases happroved
        | timedOut =>
          rw [hwait] at happroved
          cases happroved
        | cancelled =>
          rw [hwait] at happroved
          cases happroved
      | rejected result =>
        simp [hgate] at hhanded
    · simp at hhanded

/-! ## Two stacks of two guards -/

def speedCall (speed : String) : ToolCall := ⟨"toolu_1", "drive", .number speed⟩

def speedGuard (name speed : String) (verdict : SafetyVerdict) : SafetyGuard Unit where
  name := name
  check := fun call _ =>
    match call.params with
    | .number n => if n = speed then verdict else .allow
    | _ => .allow

def confirmGuard : SafetyGuard Unit := ⟨"confirm", fun _ _ => .requireConfirmation "supervised" 30⟩

def driver (guards : List (SafetyGuard Unit)) : Actor Unit := ⟨⟨∅, "30s"⟩, guards, true⟩

def approving : BatchInputs where
  execute := fun _ _ => .returned ⟨.null, none, none, false, none⟩
  wait := fun _ => .decided ⟨true, none⟩

def FixedPoint {World : Type} (guards : List (SafetyGuard World)) (state : World) (call : ToolCall) : Prop :=
  ∀ guard ∈ guards, guard.check call state = .allow ∨
    (∃ reason timeoutSecs, guard.check call state = .requireConfirmation reason timeoutSecs) ∨
    ∃ reason, guard.check call state = .modify call reason

theorem handed_guarded_clamped :
    ((driver [speedGuard "limit" "9" (.modify (speedCall "5") "clamped")]).outcomes () approving
      [speedCall "9"])[0]?.bind CallOutcome.handed = some (speedCall "5") ∧
    (Cleared () [speedGuard "limit" "9" (.modify (speedCall "5") "clamped")] (speedCall "9") (speedCall "5") ∨
      ∃ reason timeoutSecs, AskedHuman () [speedGuard "limit" "9" (.modify (speedCall "5") "clamped")] (speedCall "9")
          reason timeoutSecs ∧ (∃ decision, approving.wait 0 = .decided decision ∧ decision.approved = true) ∧
        (speedCall "5").id = (speedCall "9").id ∧ (speedCall "5").tool = (speedCall "9").tool) :=
  ⟨rfl, handed_guarded (driver [speedGuard "limit" "9" (.modify (speedCall "5") "clamped")]) () approving
    [speedCall "9"] 0 _ _ rfl (by decide) rfl⟩

/-- A guard raises the speed that the one before it has allowed; and a human approves a call
whose clamp is dropped with the request. -/
theorem handed_not_fixed :
    (((driver [speedGuard "limit" "9" (.block "too fast"), speedGuard "boost" "5" (.modify (speedCall "9") "boost")]).outcomes
        () approving [speedCall "5"])[0]?.bind CallOutcome.handed = some (speedCall "9") ∧
      ¬ FixedPoint [speedGuard "limit" "9" (.block "too fast"), speedGuard "boost" "5" (.modify (speedCall "9") "boost")]
        () (speedCall "9")) ∧
    (((driver [speedGuard "limit" "9" (.modify (speedCall "5") "clamped"), confirmGuard]).outcomes
        () approving [speedCall "9"])[0]?.bind CallOutcome.handed = some (speedCall "9") ∧
      ¬ FixedPoint [speedGuard "limit" "9" (.modify (speedCall "5") "clamped"), confirmGuard] () (speedCall "9")) := by
  refine ⟨⟨rfl, fun h => ?_⟩, rfl, fun h => ?_⟩
  · rcases h _ (.head _) with h | ⟨_, _, h⟩ | ⟨_, h⟩ <;> simp [speedGuard, speedCall] at h
  · rcases h _ (.head _) with h | ⟨_, _, h⟩ | ⟨_, h⟩ <;> simp [speedGuard, speedCall] at h

end Roz.Agent
