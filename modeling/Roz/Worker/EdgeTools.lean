import Roz.Agent.SessionRuntime
import Roz.Worker.Delegation

/-!
# The tools of an edge session (`roz-worker/src/session_relay.rs`)

A session keeps the tools that its sources registered, in the order of the sources' names after the
worker's own camera tools.  From this list it publishes one permission rule per tool, and the first
rule of a name counts; the agent of a turn registers the same list in its dispatcher, which keeps the
last tool of a name, and registers its own `advance_phase` after it
(`policyMatchesDispatch_iff`).

What a tool says about itself, the constitution and the text of JSON values are parameters.
-/

namespace Roz.Worker
open Roz.Agent ToolDispatcher List

/-! ## Definitions of tools -/

structure EdgeToolDefinition where
  name : String
  description : String
  parameters : Json
  category : Option String

namespace EdgeToolDefinition
variable (tool : EdgeToolDefinition)
def toolCategory : ToolCategory :=
  match tool.category with
  | some "pure" => .pure
  | some "code_sandbox" => .codeSandbox
  | _ => .physical

def schema : ToolSchema := ⟨tool.name, tool.description, tool.parameters⟩

def registration : Registration := ⟨tool.schema, tool.toolCategory⟩

end EdgeToolDefinition

abbrev ToolSources := AList fun _ : String => List EdgeToolDefinition

def flattenRegisteredEdgeTools (registeredSources : ToolSources) : List EdgeToolDefinition :=
  (registeredSources.entries.mergeSort fun left right => left.1 ≤ right.1).flatMap fun source => source.2

/-! ## What the session publishes -/

def cameraTools : List String := ["capture_frame", "list_cameras", "set_vision_strategy"]

variable (describe : Descriptions) (cameraManager : Bool)
def localEdgeToolInventory : List Registration :=
  if cameraManager then cameraTools.map (.of describe .pure) else []

def combinedEdgeToolInventory (remoteTools : List EdgeToolDefinition) : List Registration :=
  localEdgeToolInventory describe cameraManager ++ remoteTools.map EdgeToolDefinition.registration

def categoryName : ToolCategory → String
  | .pure => "pure"
  | .codeSandbox => "code_sandbox"
  | .physical => "physical"

variable (tool : Registration)
def permissionRule : SessionPermissionRule where
  toolPattern := tool.schema.name
  policy := if tool.category = .pure then "allow" else "require_confirmation"
  category := some (categoryName tool.category)
  reason := none

def defaultPermissions : List SessionPermissionRule :=
  [⟨"*", "require_confirmation", some "physical", some "default: physical tools require confirmation"⟩,
    ⟨"*", "allow", some "pure", some "default: pure tools auto-allowed"⟩]

def edgePermissions (inventory : List Registration) : List SessionPermissionRule :=
  if inventory.isEmpty then defaultPermissions else inventory.map permissionRule

def promptToolSchema (print : Json → String) (tool : ToolSchema) : PromptToolSchema :=
  ⟨tool.name, tool.description, print tool.parameters⟩

/-- What is fixed for a worker: how its tools describe themselves, the constitution for a mode and the
names of the tools, and the text of JSON values. -/
structure EdgeTexts where
  describe : Descriptions
  buildWorkerConstitution : CognitionMode → List String → String
  json : Json → String

def edgeTurnPromptState (texts : EdgeTexts) (mode : CognitionMode) (cameraManager : Bool)
    (remoteTools : List EdgeToolDefinition) : String × List PromptToolSchema × List SessionPermissionRule :=
  let inventory := combinedEdgeToolInventory texts.describe cameraManager remoteTools
  (texts.buildWorkerConstitution mode (inventory.map fun tool => tool.schema.name),
    inventory.map fun tool => promptToolSchema texts.json tool.schema,
    edgePermissions inventory)

variable {World : Type}
def syncEdgeRuntimeSurface (texts : EdgeTexts) (sessionRuntime : SessionRuntime World)
    (sessionMode : CognitionMode) (cameraManager : Bool) (registeredToolSources : ToolSources)
    (sessionProjectContext : List String) : SessionRuntime World :=
  let registeredTools := flattenRegisteredEdgeTools registeredToolSources
  let surface := edgeTurnPromptState texts sessionMode cameraManager registeredTools
  let moded := (sessionRuntime.syncCognitionMode sessionMode).1
  let prompted := (moded.syncPromptSurface surface.1 surface.2.1 sessionProjectContext).1
  (prompted.syncPermissions surface.2.2).1

def publishedRule (sessionRuntime : SessionRuntime World) (name : String) : Option SessionPermissionRule :=
  sessionRuntime.state.permissions.find? fun rule => rule.toolPattern = name

/-! ## What the agent of a turn dispatches -/

def registerEdgeCameraTools (dispatcher : ToolDispatcher) (cameraManager : Bool) : ToolDispatcher :=
  if cameraManager then register dispatcher (cameraTools.map (.of describe .pure)) else dispatcher

def buildAgentLoop (describe : Descriptions) (safety : List (SafetyGuard World)) (cameraManager : Bool)
    (turnTools : List EdgeToolDefinition) : AgentLoop World :=
  let dispatcher := register (registerEdgeCameraTools describe ⟨∅, "30s"⟩ cameraManager)
    (turnTools.map EdgeToolDefinition.registration)
  let agent : AgentLoop World := AgentLoop.new dispatcher safety
  { agent with actor := { agent.actor with hasApprovalRuntime := true } }

def advancePhaseRegistration : Registration := ⟨advancePhaseTool, .pure⟩

inductive EdgeExecutor where
  | camera (tool : Registration)
  | remote (tool : EdgeToolDefinition)
  | advancePhase

namespace EdgeExecutor

def registration : EdgeExecutor → Registration
  | .camera tool => tool
  | .remote tool => tool.registration
  | .advancePhase => advancePhaseRegistration

def name (executor : EdgeExecutor) : String := executor.registration.schema.name

def enabled : EdgeExecutor → Bool
  | .advancePhase => false
  | _ => true

def entry (executor : EdgeExecutor) : ToolEntry :=
  ⟨executor.registration.schema, executor.enabled, executor.registration.category⟩

end EdgeExecutor

variable (describe : Descriptions)
def edgeExecutors (cameraManager : Bool) (turnTools : List EdgeToolDefinition) : List EdgeExecutor :=
  (localEdgeToolInventory describe cameraManager).map .camera ++ turnTools.map .remote ++ [.advancePhase]

/-- The executor behind a name: the last one that was registered under it. -/
def executorFor (cameraManager : Bool) (turnTools : List EdgeToolDefinition) (name : String) : Option EdgeExecutor :=
  (edgeExecutors describe cameraManager turnTools).reverse.find? fun executor => executor.name = name

section Agreement
variable {World : Type} (texts : EdgeTexts) (safety : List (SafetyGuard World)) (cameraManager : Bool)
  (sources : ToolSources)

/-- What the session publishes about its tools is what happens to them in a turn. -/
structure PolicyMatchesDispatch (sessionRuntime : SessionRuntime World) : Prop where
  category : ∀ name rule executor, publishedRule sessionRuntime name = some rule →
    executorFor texts.describe cameraManager (flattenRegisteredEdgeTools sources) name = some executor →
    rule.category = some (categoryName executor.registration.category)
  confirmed : ∀ name rule, publishedRule sessionRuntime name = some rule → rule.policy = "require_confirmation" →
    (buildAgentLoop texts.describe safety cameraManager (flattenRegisteredEdgeTools sources)).actor.dispatcher.category
      name ≠ .pure
  kept : ∀ tool ∈ localEdgeToolInventory texts.describe cameraManager,
    executorFor texts.describe cameraManager (flattenRegisteredEdgeTools sources) tool.schema.name = some (.camera tool)

/-- The first tool of each name has the category of the last, `advance_phase` being the last of its
name, and the remote tools leave the names of the camera tools alone. -/
structure ToolsAgree (describe : Descriptions) : Prop where
  categories : ∀ name first last,
    (combinedEdgeToolInventory describe cameraManager (flattenRegisteredEdgeTools sources)).find?
      (fun tool => tool.schema.name = name) = some first →
    (combinedEdgeToolInventory describe cameraManager (flattenRegisteredEdgeTools sources) ++
      [advancePhaseRegistration]).reverse.find? (fun tool => tool.schema.name = name) = some last →
    first.category = last.category
  names : ∀ tool ∈ flattenRegisteredEdgeTools sources, ∀ camera ∈ localEdgeToolInventory describe cameraManager,
    tool.name ≠ camera.schema.name

end Agreement

/-! ## Registered tools -/

def Registration.entry : ToolEntry := ⟨tool.schema, true, tool.category⟩

lemma lookup_register (tools : List Registration) : ∀ (d : ToolDispatcher) (name : String),
    (register d tools).tools.lookup name =
      ((tools.reverse.find? fun tool => tool.schema.name = name).map Registration.entry).or (d.tools.lookup name) := by
  induction tools with
  | nil => exact fun d name => rfl
  | cons tool tools ih =>
    intro d name
    have hcons : register d (tool :: tools) = register (d.registerWithCategory tool.schema tool.category) tools := rfl
    rw [hcons, ih, lookup_registerWithCategory, reverse_cons, find?_append]
    cases tools.reverse.find? (fun tool => decide (tool.schema.name = name)) with
    | some found => rfl
    | none =>
      by_cases hname : name = tool.schema.name
      · simp [hname, Registration.entry]
      · simp [hname, Ne.symm hname]

section Lookups
variable (describe : Descriptions) (cameraManager : Bool) (turnTools : List EdgeToolDefinition)
lemma register_inventory (d : ToolDispatcher) :
    register (registerEdgeCameraTools describe d cameraManager) (turnTools.map EdgeToolDefinition.registration) =
      register d (combinedEdgeToolInventory describe cameraManager turnTools) := by
  rw [combinedEdgeToolInventory, register, register, foldl_append, localEdgeToolInventory, registerEdgeCameraTools]
  cases cameraManager <;> rfl

lemma map_registration_edgeExecutors : (edgeExecutors describe cameraManager turnTools).map EdgeExecutor.registration =
      combinedEdgeToolInventory describe cameraManager turnTools ++ [advancePhaseRegistration] := by
  simp only [edgeExecutors, combinedEdgeToolInventory, map_append, map_map, map_cons, map_nil]
  congr 2
  exact map_id _

variable (name : String)
lemma map_registration_executorFor : (executorFor describe cameraManager turnTools name).map EdgeExecutor.registration =
      (combinedEdgeToolInventory describe cameraManager turnTools ++ [advancePhaseRegistration]).reverse.find?
        fun tool => tool.schema.name = name := by
  rw [← map_registration_edgeExecutors, ← map_reverse, find?_map]
  rfl

lemma executorFor_eq : executorFor describe cameraManager turnTools name =
    if name = advancePhaseToolName then some .advancePhase
    else ((turnTools.reverse.find? fun tool => tool.name = name).map EdgeExecutor.remote).or
      (((localEdgeToolInventory describe cameraManager).reverse.find? fun tool => tool.schema.name = name).map .camera) := by
  rw [executorFor, edgeExecutors, reverse_append, reverse_append, find?_append, find?_append,
    ← map_reverse, ← map_reverse, find?_map, find?_map]
  by_cases hname : name = advancePhaseToolName
  · subst hname
    rfl
  · rw [if_neg hname]
    have hadvance : [EdgeExecutor.advancePhase].reverse.find? (fun executor => executor.name = name) = none := by
      rw [reverse_singleton, find?_singleton, if_neg]
      exact fun h => hname (of_decide_eq_true h).symm
    rw [hadvance]
    rfl

lemma lookup_buildAgentLoop {World : Type} (safety : List (SafetyGuard World)) (name : String) :
    (buildAgentLoop describe safety cameraManager turnTools).actor.dispatcher.tools.lookup name =
      (executorFor describe cameraManager turnTools name).map EdgeExecutor.entry := by
  rw [buildAgentLoop, AgentLoop.new]
  dsimp only
  rw [register_inventory, lookup_setEnabled_eq, lookup_registerWithCategory, executorFor_eq]
  by_cases hname : name = advancePhaseToolName
  · subst hname
    rfl
  · have hne : name ≠ advancePhaseTool.name := hname
    rw [if_neg hname, if_neg hname, if_neg hne, lookup_register, combinedEdgeToolInventory, reverse_append,
      find?_append, ← map_reverse, find?_map]
    change (Option.map Registration.entry (((turnTools.reverse.find? fun tool => tool.name = name).map
      EdgeToolDefinition.registration).or _)).or none = _
    cases turnTools.reverse.find? (fun tool => decide (tool.name = name)) with
    | some tool => rfl
    | none =>
      cases (localEdgeToolInventory describe cameraManager).reverse.find? (fun tool => decide (tool.schema.name = name)) <;> rfl

lemma exists_executorFor {name first}
    (h : (combinedEdgeToolInventory describe cameraManager turnTools).find? (fun tool => tool.schema.name = name) = some first) :
    ∃ executor, executorFor describe cameraManager turnTools name = some executor := by
  have hlast := map_registration_executorFor describe cameraManager turnTools name
  cases hexecutor : executorFor describe cameraManager turnTools name with
  | some executor => exact ⟨executor, rfl⟩
  | none =>
    rw [hexecutor, Option.map_none, eq_comm, find?_eq_none] at hlast
    have hmem := mem_of_find?_eq_some h
    have hname := find?_some h
    refine absurd hname (hlast first ?_)
    simp [hmem]

end Lookups

/-! ## Published rules -/

lemma categoryName_inj {a b} (h : categoryName a = categoryName b) : a = b := by
  cases a <;> cases b <;> first | rfl | (revert h; decide)

lemma permissionRule_confirmed {tool} : (permissionRule tool).policy = "require_confirmation" ↔
    tool.category ≠ .pure := by
  unfold permissionRule
  dsimp only
  cases tool.category <;> decide

lemma syncPermissions_permissions {World : Type} (r : SessionRuntime World) (permissions : List SessionPermissionRule) :
    (r.syncPermissions permissions).1.state.permissions = permissions := by
  rw [SessionRuntime.syncPermissions]
  split
  · assumption
  · rfl

section Published
variable {World : Type} (texts : EdgeTexts) (r : SessionRuntime World) (mode : CognitionMode) (cameraManager : Bool)
  (sources : ToolSources) (context : List String)

lemma publishedRule_sync (name : String) :
    publishedRule (syncEdgeRuntimeSurface texts r mode cameraManager sources context) name =
      if (combinedEdgeToolInventory texts.describe cameraManager (flattenRegisteredEdgeTools sources)).isEmpty then
        defaultPermissions.find? fun rule => rule.toolPattern = name else
        ((combinedEdgeToolInventory texts.describe cameraManager (flattenRegisteredEdgeTools sources)).find?
          fun tool => tool.schema.name = name).map permissionRule := by
  rw [publishedRule, syncEdgeRuntimeSurface, syncPermissions_permissions, edgeTurnPromptState, edgePermissions]
  split
  · rfl
  · rw [find?_map]
    rfl

variable {texts r mode cameraManager sources context}
lemma executorFor_of_default {name rule}
    (hempty : (combinedEdgeToolInventory texts.describe cameraManager (flattenRegisteredEdgeTools sources)).isEmpty = true)
    (h : defaultPermissions.find? (fun rule => rule.toolPattern = name) = some rule) :
    executorFor texts.describe cameraManager (flattenRegisteredEdgeTools sources) name = none := by
  have hname : name = "*" := by
    have hpattern : rule.toolPattern = name := by simpa using find?_some h
    have hmem := mem_of_find?_eq_some h
    rw [← hpattern]
    simp only [defaultPermissions, mem_cons, not_mem_nil, or_false] at hmem
    rcases hmem with rfl | rfl <;> rfl
  have hlast := map_registration_executorFor texts.describe cameraManager (flattenRegisteredEdgeTools sources) name
  rw [isEmpty_iff.1 hempty, hname] at hlast
  rw [hname]
  exact Option.map_eq_none_iff.1 (hlast.trans (by decide))

variable {describe : Descriptions} {turnTools : List EdgeToolDefinition}
lemma executorFor_camera
    (hnames : ∀ tool ∈ turnTools, ∀ camera ∈ localEdgeToolInventory describe cameraManager, tool.name ≠ camera.schema.name)
    {camera} (h : camera ∈ localEdgeToolInventory describe cameraManager) :
    executorFor describe cameraManager turnTools camera.schema.name = some (.camera camera) := by
  have hremote : turnTools.reverse.find? (fun tool => tool.name = camera.schema.name) = none := by
    rw [find?_eq_none]
    intro tool htool
    simpa using hnames tool (mem_reverse.1 htool) camera h
  rw [executorFor_eq, hremote]
  rw [localEdgeToolInventory] at h ⊢
  split at h
  · rename_i hcameras
    rw [if_pos hcameras]
    simp only [cameraTools, map_cons, map_nil, mem_cons, not_mem_nil, or_false] at h
    rcases h with rfl | rfl | rfl <;> rfl
  · cases h

lemma executorFor_ne_camera {tool} (htool : tool ∈ turnTools) (camera : Registration) :
    executorFor describe cameraManager turnTools tool.name ≠ some (.camera camera) := by
  intro h
  rw [executorFor_eq] at h
  split at h
  · cases h
  · cases hfind : turnTools.reverse.find? (fun t => decide (t.name = tool.name)) with
    | some found =>
      rw [hfind] at h
      cases h
    | none =>
      rw [find?_eq_none] at hfind
      exact hfind tool (mem_reverse.2 htool) (decide_eq_true rfl)

end Published

/-- What a session publishes about its tools, whatever its sources registered, is what the agent of a
turn does with them just if the tools of one name agree and leave the camera tools alone. -/
theorem policyMatchesDispatch_iff {World : Type} (texts : EdgeTexts) (safety : List (SafetyGuard World))
    (sessionRuntime : SessionRuntime World) (mode : CognitionMode) (cameraManager : Bool) (sources : ToolSources)
    (context : List String) : PolicyMatchesDispatch texts safety cameraManager sources
        (syncEdgeRuntimeSurface texts sessionRuntime mode cameraManager sources context) ↔
      ToolsAgree cameraManager sources texts.describe := by
  constructor
  · intro h
    refine ⟨fun name first last hfirst hlast => ?_, fun tool htool camera hcamera hname => ?_⟩
    · have hrule : publishedRule (syncEdgeRuntimeSurface texts sessionRuntime mode cameraManager sources context) name =
          some (permissionRule first) := by
        rw [publishedRule_sync, if_neg, hfirst, Option.map_some]
        intro hempty
        rw [isEmpty_iff.1 hempty] at hfirst
        cases hfirst
      rw [← map_registration_executorFor] at hlast
      obtain ⟨executor, hexecutor, rfl⟩ := Option.map_eq_some_iff.1 hlast
      exact categoryName_inj (Option.some.inj (h.category name _ executor hrule hexecutor))
    · have hkept := h.kept camera hcamera
      rw [← hname] at hkept
      exact executorFor_ne_camera htool camera hkept
  · intro h
    -- the first tool of a name has the category of the executor behind it
    have hcategory : ∀ name first executor,
        (combinedEdgeToolInventory texts.describe cameraManager (flattenRegisteredEdgeTools sources)).find?
          (fun tool => tool.schema.name = name) = some first →
        executorFor texts.describe cameraManager (flattenRegisteredEdgeTools sources) name = some executor →
        first.category = executor.registration.category := by
      intro name first executor hfirst hexecutor
      refine h.categories name first _ hfirst ?_
      rw [← map_registration_executorFor, hexecutor, Option.map_some]
    refine ⟨fun name rule executor hrule hexecutor => ?_, fun name rule hrule hpolicy => ?_,
      fun camera hcamera => executorFor_camera h.names hcamera⟩
    · rw [publishedRule_sync] at hrule
      split at hrule
      · rename_i hempty
        rw [executorFor_of_default hempty hrule] at hexecutor
        cases hexecutor
      · obtain ⟨first, hfirst, rfl⟩ := Option.map_eq_some_iff.1 hrule
        rw [← hcategory name first executor hfirst hexecutor]
        rfl
    · rw [publishedRule_sync] at hrule
      split at hrule
      · rename_i hempty
        rw [category, lookup_buildAgentLoop, executorFor_of_default hempty hrule]
        decide
      · obtain ⟨first, hfirst, rfl⟩ := Option.map_eq_some_iff.1 hrule
        obtain ⟨executor, hexecutor⟩ := exists_executorFor _ _ _ hfirst
        rw [category, lookup_buildAgentLoop, hexecutor]
        change executor.registration.category ≠ .pure
        rw [← hcategory name first executor hfirst hexecutor]
        exact permissionRule_confirmed.1 hpolicy

/-! ## Two sources and a camera -/

def scanTool (category : String) : EdgeToolDefinition := ⟨"scan", "", .null, some category⟩

def armAndBase : ToolSources := ((∅ : ToolSources).insert "base" [scanTool "pure"]).insert "arm" [scanTool "physical"]

def captureSource : ToolSources := (∅ : ToolSources).insert "arm" [⟨"capture_frame", "", .null, some "physical"⟩]

def blankTexts : EdgeTexts := ⟨fun _ => ("", .null), fun _ _ => "", fun _ => ""⟩

def edgeRuntime : SessionRuntime Unit := .new ⟨"edge", .edge, .react, "", "unknown", none, [], [], [], []⟩

lemma flatten_armAndBase : flattenRegisteredEdgeTools armAndBase = [scanTool "physical", scanTool "pure"] := by
  rw [flattenRegisteredEdgeTools, mergeSort_of_pairwise (by decide)]
  rfl

lemma flatten_captureSource :
    flattenRegisteredEdgeTools captureSource = [⟨"capture_frame", "", .null, some "physical"⟩] := by
  rw [flattenRegisteredEdgeTools, mergeSort_of_pairwise (by decide)]
  rfl

/-- A tool that one source calls physical and a later one pure is published as physical, to be confirmed,
and dispatched as pure; and a remote tool takes the place of the camera's. -/
theorem confirmed_tool_dispatched_pure :
    (publishedRule (syncEdgeRuntimeSurface blankTexts edgeRuntime .react false armAndBase []) "scan" =
        some ⟨"scan", "require_confirmation", some "physical", none⟩ ∧
      (buildAgentLoop blankTexts.describe ([] : List (SafetyGuard Unit)) false
        (flattenRegisteredEdgeTools armAndBase)).actor.dispatcher.category "scan" = .pure ∧
      ¬ PolicyMatchesDispatch blankTexts [] false armAndBase
        (syncEdgeRuntimeSurface blankTexts edgeRuntime .react false armAndBase [])) ∧
    (publishedRule (syncEdgeRuntimeSurface blankTexts edgeRuntime .react true captureSource []) "capture_frame" =
        some ⟨"capture_frame", "allow", some "pure", none⟩ ∧
      executorFor blankTexts.describe true (flattenRegisteredEdgeTools captureSource) "capture_frame" =
        some (.remote ⟨"capture_frame", "", .null, some "physical"⟩) ∧
      ¬ PolicyMatchesDispatch blankTexts [] true captureSource
        (syncEdgeRuntimeSurface blankTexts edgeRuntime .react true captureSource [])) := by
  have hscan : publishedRule (syncEdgeRuntimeSurface blankTexts edgeRuntime .react false armAndBase []) "scan" =
      some ⟨"scan", "require_confirmation", some "physical", none⟩ := by
    rw [publishedRule_sync, flatten_armAndBase]
    rfl
  have hpure : (buildAgentLoop blankTexts.describe ([] : List (SafetyGuard Unit)) false
      (flattenRegisteredEdgeTools armAndBase)).actor.dispatcher.category "scan" = .pure := by
    rw [flatten_armAndBase]
    rfl
  have hcapture : publishedRule (syncEdgeRuntimeSurface blankTexts edgeRuntime .react true captureSource [])
      "capture_frame" = some ⟨"capture_frame", "allow", some "pure", none⟩ := by
    rw [publishedRule_sync, flatten_captureSource]
    rfl
  have hremote : executorFor blankTexts.describe true (flattenRegisteredEdgeTools captureSource) "capture_frame" =
      some (.remote ⟨"capture_frame", "", .null, some "physical"⟩) := by
    rw [flatten_captureSource]
    rfl
  refine ⟨⟨hscan, hpure, fun h => ?_⟩, hcapture, hremote, fun h => ?_⟩
  · exact h.confirmed "scan" _ hscan rfl hpure
  · have hkept := h.kept (.of blankTexts.describe .pure "capture_frame") (.head _)
    cases hkept.symm.trans hremote

end Roz.Worker
