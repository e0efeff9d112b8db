import Roz.Agent.ToolFilter
import Roz.Core.Session

/-!
# The delegation scope of a worker task (`roz-worker/src/main.rs`, `dispatch.rs`)

A task registers its first tools, applies the scope of its invocation to them and then registers
the memory and the skill tools, which the scope does not reach.  A task without a scope hands the
names of its first tools down to the children it spawns.  What a tool says about itself comes from
its input type and is a parameter here, and so are the tools that are registered first
(`scope_enforced_iff`).
-/

namespace Roz.Agent
open LoopRun ToolDispatcher List
namespace ToolDispatcher

/-! ## Lookups -/

variable (d : ToolDispatcher)
def isEnabled (name : String) : Bool := ((d.tools.lookup name).map ToolEntry.enabled).getD false

def toolNames : List String := (d.entries.filter fun e => e.2.enabled).map Prod.fst

def Keyed : Prop := ∀ name entry, d.tools.lookup name = some entry → entry.schema.name = name

variable {d : ToolDispatcher} {name : String}
lemma isEnabled_iff : d.isEnabled name = true ↔ ∃ entry, d.tools.lookup name = some entry ∧ entry.enabled = true := by
  unfold isEnabled
  cases d.tools.lookup name with
  | none => simp
  | some entry => simp

lemma mem_entries {entry} : (name, entry) ∈ d.entries ↔ d.tools.lookup name = some entry := by
  unfold entries
  rw [← Option.mem_def, AList.mem_lookup_iff, mem_map]
  constructor
  · rintro ⟨⟨key, value⟩, hmem, heq⟩
    cases heq
    exact hmem
  · intro hmem
    exact ⟨_, hmem, rfl⟩

lemma mem_toolNames : name ∈ d.toolNames ↔ d.isEnabled name = true := by
  rw [isEnabled_iff, toolNames, mem_map]
  constructor
  · rintro ⟨⟨key, entry⟩, hmem, rfl⟩
    obtain ⟨hentry, henabled⟩ := mem_filter.1 hmem
    exact ⟨entry, mem_entries.1 hentry, henabled⟩
  · rintro ⟨entry, hlookup, henabled⟩
    exact ⟨(name, entry), mem_filter.2 ⟨mem_entries.2 hlookup, henabled⟩, rfl⟩

variable {schema : ToolSchema}
lemma mem_schemas :
    schema ∈ d.schemas ↔ ∃ name entry, d.tools.lookup name = some entry ∧ entry.enabled = true ∧ entry.schema = schema := by
  unfold schemas
  rw [mem_map]
  constructor
  · rintro ⟨⟨name, entry⟩, hmem, rfl⟩
    obtain ⟨hentry, henabled⟩ := mem_filter.1 hmem
    exact ⟨name, entry, mem_entries.1 hentry, henabled, rfl⟩
  · rintro ⟨name, entry, hlookup, henabled, rfl⟩
    exact ⟨(name, entry), mem_filter.2 ⟨mem_entries.2 hlookup, henabled⟩, rfl⟩

lemma isEnabled_of_mem_schemas (hkeyed : d.Keyed) (h : schema ∈ d.schemas) : d.isEnabled schema.name = true := by
  obtain ⟨name, entry, hlookup, henabled, rfl⟩ := mem_schemas.1 h
  rw [hkeyed name entry hlookup]
  exact isEnabled_iff.2 ⟨entry, hlookup, henabled⟩

lemma lookup_registerWithCategory (d : ToolDispatcher) (schema : ToolSchema) (category : ToolCategory) (name : String) :
    (d.registerWithCategory schema category).tools.lookup name =
      if name = schema.name then some ⟨schema, true, category⟩ else d.tools.lookup name := by
  split
  · rename_i heq
    subst heq
    exact AList.lookup_insert _
  · rename_i hne
    exact AList.lookup_insert_ne hne

lemma lookup_setEnabled_eq (d : ToolDispatcher) (tool : String) (enabled : Bool) (name : String) :
    (d.setEnabled tool enabled).tools.lookup name =
      if name = tool then (d.tools.lookup name).map fun entry => { entry with enabled := enabled }
      else d.tools.lookup name := by
  split
  · rename_i heq
    subst heq
    exact lookup_setEnabled d name enabled
  · rename_i hne
    unfold setEnabled
    cases d.tools.lookup tool with
    | none => rfl
    | some entry => exact AList.lookup_insert_ne hne

variable {step : ToolDispatcher → String → ToolDispatcher}
lemma lookup_foldl (update : String → ToolEntry → ToolEntry)
    (hupdate : ∀ name entry, update name (update name entry) = update name entry)
    (hstep : ∀ d tool name, (step d tool).tools.lookup name =
      if name = tool then (d.tools.lookup name).map (update name) else d.tools.lookup name) (names : List String) :
    ∀ (d : ToolDispatcher) (name : String), (names.foldl step d).tools.lookup name =
      if name ∈ names then (d.tools.lookup name).map (update name) else d.tools.lookup name := by
  induction names with
  | nil => exact fun d name => by simp
  | cons tool names ih =>
    intro d name
    rw [foldl_cons, ih, hstep]
    by_cases hname : name = tool
    · rw [if_pos hname, if_pos (mem_cons.2 (.inl hname))]
      split
      · rw [Option.map_map]
        exact Option.map_congr fun entry _ => hupdate name entry
      · rfl
    · rw [if_neg hname]
      simp only [mem_cons, hname, false_or]

lemma lookup_foldl_toolNames (grants : String → ToolCategory → Bool)
    (update : String → ToolEntry → ToolEntry) (hupdate : ∀ name entry, update name (update name entry) = update name entry)
    (hstep : ∀ d tool name, (step d tool).tools.lookup name =
      if name = tool then (d.tools.lookup name).map (update name) else d.tools.lookup name)
    (henabled : ∀ name entry, entry.enabled = true → update name entry = { entry with enabled := grants name entry.category })
    (d : ToolDispatcher) (name : String) : (d.toolNames.foldl step d).tools.lookup name =
      (d.tools.lookup name).map fun entry => { entry with enabled := entry.enabled && grants name entry.category } := by
  rw [lookup_foldl update hupdate hstep]
  cases hlookup : d.tools.lookup name with
  | none => simp
  | some entry =>
    have hmem : name ∈ d.toolNames ↔ entry.enabled = true := by
      rw [mem_toolNames, isEnabled, hlookup]
      rfl
    cases hentry : entry.enabled with
    | true =>
      rw [if_pos (hmem.2 hentry), Option.map_some, Option.map_some, henabled name entry hentry, hentry, Bool.true_and]
    | false =>
      rw [if_neg (by rw [hmem, hentry]; exact Bool.false_ne_true), Option.map_some, hentry, Bool.false_and, ← hentry]

lemma Keyed.registerWithCategory {d : ToolDispatcher} (h : d.Keyed) (schema : ToolSchema) (category : ToolCategory) :
    (d.registerWithCategory schema category).Keyed := by
  intro name entry hlookup
  rw [lookup_registerWithCategory] at hlookup
  split at hlookup
  · rename_i heq
    cases hlookup
    exact heq.symm
  · exact h name entry hlookup

lemma Keyed.of_map {d' : ToolDispatcher} (h : d.Keyed) (update : String → ToolEntry → ToolEntry)
    (hschema : ∀ name entry, (update name entry).schema = entry.schema)
    (hlookup : ∀ name, d'.tools.lookup name = (d.tools.lookup name).map (update name)) : d'.Keyed := by
  intro name entry hentry
  rw [hlookup] at hentry
  obtain ⟨old, hold, rfl⟩ := Option.map_eq_some_iff.1 hentry
  rw [hschema]
  exact h name old hold

end ToolDispatcher

namespace Turn
variable {World : Type} (t : Turn World)
def requested (s : LoopState) (c : CycleInputs World) : Option CompletionRequest :=
  if c.cancelled then none
  else
    match t.compacted c s with
    | none => none
    | some messages =>
      if c.hardLimited.isSome then none
      else if t.input.maxCycles ≤ s.cycles then some (t.summaryRequest { s with messages := messages ++ [budgetNotice] })
      else some (t.request (t.prepare c { s with messages := messages }))

structure Quiet : Prop where
  phases : ∀ phase ∈ t.effectivePhases, phase.trigger ≠ .onToolSignal
  disabled : t.agent.actor.dispatcher.isEnabled advancePhaseToolName = false

def SameTools (d : ToolDispatcher) : Prop := ∀ name, d.tools.lookup name = t.agent.actor.dispatcher.tools.lookup name

variable {t}
lemma SameTools.isEnabled {d} (h : t.SameTools d) (name : String) :
    d.isEnabled name = t.agent.actor.dispatcher.isEnabled name := by
  unfold ToolDispatcher.isEnabled
  rw [h name]

variable {s : LoopState} {c : CycleInputs World} (hquiet : t.Quiet) (hs : t.SameTools s.dispatcher)
include hquiet hs

lemma sameTools_prepare (c : CycleInputs World) : t.SameTools (t.prepare c s).dispatcher := by
  intro name
  have hphase : (t.currentPhase (t.prepare c s)).map PhaseSpec.trigger ≠ some .onToolSignal := by
    intro h
    obtain ⟨phase, hphase, htrigger⟩ := Option.map_eq_some_iff.1 h
    exact hquiet.phases phase (mem_of_getElem? hphase) htrigger
  rw [prepare_dispatcher, decide_eq_false hphase, lookup_setEnabled_eq]
  split
  · rename_i heq
    rw [hs name]
    -- it is disabled already
    cases hlookup : t.agent.actor.dispatcher.tools.lookup name with
    | none => rfl
    | some entry =>
      have hdisabled := hquiet.disabled
      rw [← heq, ToolDispatcher.isEnabled, hlookup] at hdisabled
      have henabled : entry.enabled = false := hdisabled
      rw [Option.map_some, ← henabled]
  · exact hs name

lemma sameTools_next {s'} (h : t.cycle s c = .next s') : t.SameTools s'.dispatcher := by
  obtain ⟨messages, hdispatcher⟩ := dispatcher_next h
  rw [hdispatcher]
  exact sameTools_prepare (s := { s with messages := messages }) hquiet hs c

lemma sameTools_dispatching {p reply} (h : t.dispatching s c = some (p, reply)) : t.SameTools p.dispatcher := by
  obtain ⟨-, messages, rfl⟩ := dispatching_eq_some h
  exact sameTools_prepare (s := { s with messages := messages }) hquiet hs c

omit hs in
lemma eachCycle_of_quiet {ok} (hok : ∀ s c, t.SameTools s.dispatcher → ok s c) (cs : List (IterationInputs World)) :
    EachCycle t.iterate ok t.start cs := by
  have hside : EachCycle t.iterate (fun _ _ => True) t.start cs := .of_forall t.iterate cs t.start fun _ _ _ => trivial
  exact EachCycle.imp (fun s => t.SameTools s.dispatcher) (fun _ _ _ hs _ h => sameTools_next hquiet hs h)
    (fun s c hs _ => hok s c hs) cs t.start (fun _ => rfl) hside

lemma isEnabled_of_executed {c call} (h : call ∈ t.executed s c) :
    t.agent.actor.dispatcher.isEnabled call.tool = true := by
  unfold executed at h
  cases hp : t.dispatching s c.toCycleInputs with
  | none =>
    rw [hp] at h
    cases h
  | some d =>
    obtain ⟨p, reply⟩ := d
    have hcalls : ∀ call ∈ t.executedCalls c.toCycleInputs p reply,
        t.agent.actor.dispatcher.isEnabled call.tool = true := by
      intro call hcall
      rw [← (sameTools_dispatching hquiet hs hp).isEnabled call.tool]
      exact (mem_filter.1 hcall).2
    rw [hp] at h
    dsimp only at h
    split at h
    · rcases mem_append.1 h with hcall | hcall
      · exact hcalls call hcall
      · exact (Bool.and_eq_true_iff.1 (mem_filter.1 hcall).2).1
    · exact hcalls call h

lemma isEnabled_of_requested (hkeyed : t.agent.actor.dispatcher.Keyed) (hschema : t.input.responseSchema = none)
    {req} (h : t.requested s c = some req) {schema} (hmem : schema ∈ req.tools) :
    t.agent.actor.dispatcher.isEnabled schema.name = true := by
  unfold requested at h
  split at h
  · cases h
  cases hmessages : t.compacted c s with
  | none =>
    rw [hmessages] at h
    cases h
  | some messages =>
    simp only [hmessages] at h
    split at h
    · cases h
    split at h
    · cases h
      cases hmem
    · cases h
      have hsame : t.SameTools (t.prepare c { s with messages := messages }).dispatcher :=
        sameTools_prepare (s := { s with messages := messages }) hquiet hs c
      have hkeyed' : (t.prepare c { s with messages := messages }).dispatcher.Keyed := by
        intro name entry hlookup
        exact hkeyed name entry ((hsame name).symm.trans hlookup)
      rw [← hsame.isEnabled]
      simp only [request, hschema, phaseTools] at hmem
      split at hmem
      · exact isEnabled_of_mem_schemas hkeyed' hmem
      · exact isEnabled_of_mem_schemas hkeyed' hmem
      · cases hmem
      · obtain ⟨e, he, rfl⟩ := mem_map.1 hmem
        obtain ⟨hentry, henabled⟩ := mem_filter.1 he
        have hlookup := mem_entries.1 hentry
        rw [hkeyed' _ _ hlookup]
        exact isEnabled_iff.2 ⟨e.2, hlookup, (Bool.and_eq_true_iff.1 henabled).1⟩

end Turn
end Roz.Agent

namespace Roz.Worker
open Roz.Agent Roz.Core LoopRun ToolDispatcher Turn List

/-! ## Capability classes (`roz-core/src/trust.rs`, `roz-agent/src/trust_evaluator.rs`) -/

inductive ExecutionCapabilityClass where
  | readOnly
  | sandboxedMutation
  | networked
  | privilegedNetworked
  | physicalLowRisk
  | physicalHighRisk
  | administrative
  | controllerManagement
  deriving DecidableEq

def ExecutionCapabilityClass.minimumTrustRequired : ExecutionCapabilityClass → TrustLevel
  | .readOnly => .low
  | .sandboxedMutation | .networked | .physicalLowRisk => .medium
  | .privilegedNetworked | .physicalHighRisk | .administrative => .high
  | .controllerManagement => .verified

inductive UnavailableReason where
  | insufficientTrust (required actual : TrustLevel)
  deriving DecidableEq

variable (posture : TrustPosture)
def relevantTrustLevel : ExecutionCapabilityClass → TrustLevel
  | .readOnly | .sandboxedMutation | .networked | .privilegedNetworked | .administrative => posture.toolTrust
  | .physicalLowRisk | .physicalHighRisk => posture.physicalExecutionTrust
  | .controllerManagement => posture.controllerArtifactTrust

def checkToolAvailability (capability : ExecutionCapabilityClass) : Except UnavailableReason Unit :=
  let required := capability.minimumTrustRequired
  let actual := relevantTrustLevel posture capability
  if required.rank ≤ actual.rank then .ok () else .error (.insufficientTrust required actual)

/-! ## The scope (`roz-worker/src/dispatch.rs`) -/

variable (toolName : String) (category : ToolCategory)
def capabilityClass : ExecutionCapabilityClass :=
  if toolName = "promote_controller" then .controllerManagement
  else
    match category with
    | .physical => .physicalLowRisk
    | .pure => .readOnly
    | .codeSandbox => .sandboxedMutation

def available : Bool :=
  (checkToolAvailability posture (capabilityClass toolName category)).toBool

variable (dispatcher : ToolDispatcher)
def applyAllowedTools (allowedTools : List String) : ToolDispatcher :=
  dispatcher.toolNames.foldl (fun d toolName => d.setEnabled toolName (allowedTools.contains toolName)) dispatcher

def applyTrustPosture (posture : TrustPosture) : ToolDispatcher :=
  dispatcher.toolNames.foldl
    (fun d toolName => if available posture toolName (d.category toolName) then d else d.setEnabled toolName false) dispatcher

/-- The scope names a tool, and its capability class is available under the posture. -/
def granted (scope : DelegationScope) (toolName : String) (category : ToolCategory) : Bool :=
  scope.allowedTools.contains toolName && available scope.trustPosture toolName category

variable (d : ToolDispatcher)
lemma lookup_applyAllowedTools (allowedTools : List String) (name : String) :
    (applyAllowedTools d allowedTools).tools.lookup name =
      (d.tools.lookup name).map fun entry => { entry with enabled := entry.enabled && allowedTools.contains name } := by
  refine lookup_foldl_toolNames (fun name _ => allowedTools.contains name)
    (fun name entry => { entry with enabled := allowedTools.contains name }) (fun _ _ => rfl) ?_ (fun _ _ _ => rfl) d name
  intro d tool name
  rw [lookup_setEnabled_eq]
  split
  · rename_i heq
    rw [heq]
  · rfl

lemma lookup_applyTrustPosture (posture : TrustPosture) (name : String) :
    (applyTrustPosture d posture).tools.lookup name = (d.tools.lookup name).map fun entry =>
        { entry with enabled := entry.enabled && available posture name entry.category } := by
  refine lookup_foldl_toolNames (available posture)
    (fun name entry => if available posture name entry.category then entry else { entry with enabled := false })
    ?_ ?_ ?_ d name
  · intro name entry
    split
    · rfl
    · rfl
  · intro d tool name
    by_cases hname : name = tool
    · subst hname
      rw [if_pos rfl]
      cases hlookup : d.tools.lookup name with
      | none =>
        split
        · exact hlookup
        · rw [lookup_setEnabled, hlookup]
          rfl
      | some entry =>
        have hcategory : d.category name = entry.category := by rw [category, hlookup]
        rw [hcategory, Option.map_some]
        split
        · exact hlookup
        · rw [lookup_setEnabled, hlookup]
          rfl
    · rw [if_neg hname]
      split
      · rfl
      · rw [lookup_setEnabled_eq, if_neg hname]
  · intro name entry henabled
    cases havailable : available posture name entry.category with
    | true => rw [if_pos rfl, ← henabled]
    | false => rw [if_neg Bool.false_ne_true]

/-! ## The tools of a task (`roz-worker/src/main.rs`) -/

structure Registration where
  schema : ToolSchema
  category : ToolCategory

variable (tools : List Registration)
def register : ToolDispatcher :=
  tools.foldl (fun d tool => d.registerWithCategory tool.schema tool.category) dispatcher

/-- The descriptions and parameters of the tools, by name. -/
abbrev Descriptions := String → String × Json

variable (describe : Descriptions)
def Registration.of (category : ToolCategory) (name : String) : Registration :=
  ⟨⟨name, (describe name).1, (describe name).2⟩, category⟩

def memoryTools : List String := ["session_search", "memory_read", "memory_write", "user_model_query"]

def skillTools : List String := ["skills_list", "skill_view", "skill_read_file", "skill_manage"]

def registerPhase17MemoryTools (dispatcher : ToolDispatcher) : ToolDispatcher :=
  register dispatcher (memoryTools.map (.of describe .pure))

def registerPhase18SkillTools (dispatcher : ToolDispatcher) : ToolDispatcher :=
  register dispatcher (skillTools.map (.of describe .pure))

/-- What `execute_task` registers first: `execute_code`, the camera tools if the worker has
cameras, and the team tools for an orchestrator whose tenant id is a UUID. -/
def firstTools (cameras tenantIsUuid : Bool) (parentTaskId : Option Nat) : List Registration :=
  [.of describe .codeSandbox executeCodeToolName] ++
    (if cameras then ["capture_frame", "list_cameras", "set_vision_strategy"].map (.of describe .pure) else []) ++
    (if parentTaskId.isNone && tenantIsUuid then ["spawn_worker", "watch_team"].map (.of describe .pure) else [])

variable (registered : List Registration) (delegationScope : Option DelegationScope)
def scopedDispatcher : ToolDispatcher :=
  let dispatcher := register ⟨∅, "30s"⟩ registered
  match delegationScope with
  | none => dispatcher
  | some scope => applyTrustPosture (applyAllowedTools dispatcher scope.allowedTools) scope.trustPosture

def effectiveDelegationScope : DelegationScope :=
  delegationScope.getD ⟨(scopedDispatcher registered delegationScope).toolNames, .default⟩

def taskDispatcher (registered : List Registration) (delegationScope : Option DelegationScope) : ToolDispatcher :=
  registerPhase18SkillTools describe (registerPhase17MemoryTools describe (scopedDispatcher registered delegationScope))

structure TaskContext (World : Type) where
  texts : Texts
  spatial : Spatial World
  safety : List (SafetyGuard World)
  describe : Descriptions
  mode : CognitionMode
  seed : AgentInputSeed

variable {World : Type} (ctx : TaskContext World)
def TaskContext.turn (registered : List Registration) (delegationScope : Option DelegationScope) : Turn World :=
  let agent := AgentLoop.new (taskDispatcher ctx.describe registered delegationScope) ctx.safety
  { texts := ctx.texts
    spatial := ctx.spatial
    agent := {
      actor := { agent.actor with hasApprovalRuntime := true }
      systemPromptSeed := ctx.seed.systemPrompt
      historySeed := ctx.seed.history
      userMessageSeed := some ctx.seed.userMessage }
    input := {
      seed := ⟨[], [], ""⟩
      maxCycles := 50
      maxTokens := 4096
      maxContextTokens := 200000
      mode := ctx.mode
      phases := []
      toolChoice := none
      responseSchema := none } }

def TaskContext.catalogued (registered : List Registration)
    (delegationScope : Option DelegationScope) : List ToolSchema :=
  let t := ctx.turn registered delegationScope
  if t.systemPromptBlocks.isEmpty then [] else t.agent.actor.dispatcher.schemas

def spawnWorkerToolName : String := "spawn_worker"

def resolveDelegationScope (extension : Option DelegationScope) : DelegationScope := extension.getD .failClosed

def TaskContext.sent (registered : List Registration)
    (delegationScope : Option DelegationScope) (s : LoopState) (c : IterationInputs World) : List DelegationScope :=
  (((ctx.turn registered delegationScope).executed s c).filter fun call => call.tool = spawnWorkerToolName).map fun _ =>
    resolveDelegationScope (some (effectiveDelegationScope registered delegationScope))

/-! ## What the scope reaches -/

def lateTools : List String := memoryTools ++ skillTools

variable (describe : Descriptions) {scope : DelegationScope} {name : String}
lemma lookup_register_of (names : List String) :
    ∀ (d : ToolDispatcher) (name : String), (register d (names.map (.of describe .pure))).tools.lookup name =
      if name ∈ names then some ⟨⟨name, (describe name).1, (describe name).2⟩, true, .pure⟩ else d.tools.lookup name := by
  induction names with
  | nil => exact fun d name => by simp [register]
  | cons tool names ih =>
    intro d name
    have hcons : register d ((tool :: names).map (.of describe .pure)) =
        register (d.registerWithCategory ⟨tool, (describe tool).1, (describe tool).2⟩ .pure) (names.map (.of describe .pure)) :=
      rfl
    rw [hcons, ih, lookup_registerWithCategory]
    by_cases hmem : name ∈ names
    · rw [if_pos hmem, if_pos (mem_cons_of_mem _ hmem)]
    · rw [if_neg hmem]
      by_cases hname : name = tool
      · subst hname
        rw [if_pos rfl, if_pos mem_cons_self]
      · rw [if_neg hname, if_neg (by simp [hname, hmem])]

lemma keyed_register : ∀ {d : ToolDispatcher}, d.Keyed → (register d tools).Keyed := by
  induction tools with
  | nil => exact fun h => h
  | cons tool tools ih => exact fun h => ih (h.registerWithCategory tool.schema tool.category)

variable (registered : List Registration)
lemma lookup_scopedDispatcher (scope : DelegationScope) (name : String) :
    (scopedDispatcher registered (some scope)).tools.lookup name =
      ((register ⟨∅, "30s"⟩ registered).tools.lookup name).map fun entry =>
        { entry with enabled := entry.enabled && granted scope name entry.category } := by
  rw [scopedDispatcher, lookup_applyTrustPosture, lookup_applyAllowedTools, Option.map_map]
  refine Option.map_congr fun entry _ => ?_
  simp only [Function.comp_apply, granted, Bool.and_assoc]

lemma keyed_scopedDispatcher (delegationScope : Option DelegationScope) :
    (scopedDispatcher registered delegationScope).Keyed := by
  have hregister : (register ⟨∅, "30s"⟩ registered).Keyed :=
    keyed_register registered nofun
  cases delegationScope with
  | none => exact hregister
  | some scope =>
    exact hregister.of_map (fun name entry => { entry with enabled := entry.enabled && granted scope name entry.category })
      (fun _ _ => rfl) (lookup_scopedDispatcher registered scope)

lemma lookup_taskDispatcher (delegationScope : Option DelegationScope)
    (name : String) : (taskDispatcher describe registered delegationScope).tools.lookup name =
      if name ∈ lateTools then some ⟨⟨name, (describe name).1, (describe name).2⟩, true, .pure⟩
      else (scopedDispatcher registered delegationScope).tools.lookup name := by
  have hlate : name ∈ lateTools ↔ name ∈ memoryTools ∨ name ∈ skillTools := mem_append
  rw [taskDispatcher, registerPhase18SkillTools, registerPhase17MemoryTools, lookup_register_of, lookup_register_of]
  by_cases hskill : name ∈ skillTools
  · rw [if_pos hskill, if_pos (hlate.2 (.inr hskill))]
  · rw [if_neg hskill]
    by_cases hmemory : name ∈ memoryTools
    · rw [if_pos hmemory, if_pos (hlate.2 (.inl hmemory))]
    · rw [if_neg hmemory, if_neg fun hmem => (hlate.1 hmem).elim hmemory hskill]

variable {World : Type} {ctx : TaskContext World} {registered : List Registration} {c : IterationInputs World}
  {delegationScope : Option DelegationScope}

lemma lookup_turn (name : String) : (ctx.turn registered delegationScope).agent.actor.dispatcher.tools.lookup name =
    if name = advancePhaseToolName then some ⟨advancePhaseTool, false, .pure⟩
    else (taskDispatcher ctx.describe registered delegationScope).tools.lookup name := by
  have hdispatcher : (ctx.turn registered delegationScope).agent.actor.dispatcher =
      ((taskDispatcher ctx.describe registered delegationScope).registerWithCategory advancePhaseTool .pure).setEnabled
        advancePhaseToolName false := rfl
  rw [hdispatcher, lookup_setEnabled_eq, lookup_registerWithCategory]
  split
  · rename_i heq
    rw [if_pos (by exact heq)]
    rfl
  · rename_i hne
    rw [if_neg (by exact hne)]

lemma keyed_turn : (ctx.turn registered delegationScope).agent.actor.dispatcher.Keyed := by
  intro name entry hlookup
  rw [lookup_turn] at hlookup
  split at hlookup
  · rename_i heq
    cases hlookup
    exact heq.symm
  · exact keyed_register _ (keyed_register _ (keyed_scopedDispatcher registered delegationScope)) name entry hlookup

lemma quiet_turn : (ctx.turn registered delegationScope).Quiet where
  phases := by
    intro phase hphase
    have hphases : (ctx.turn registered delegationScope).effectivePhases = [⟨ctx.mode.toPhase, .all, .immediate⟩] := rfl
    rw [hphases, mem_singleton] at hphase
    rw [hphase]
    exact PhaseTrigger.noConfusion
  disabled := by
    rw [ToolDispatcher.isEnabled, lookup_turn, if_pos rfl]
    rfl

lemma granted_of_scoped {entry} (hlookup : (scopedDispatcher registered (some scope)).tools.lookup name = some entry)
    (henabled : entry.enabled = true) : granted scope name entry.category = true := by
  rw [lookup_scopedDispatcher] at hlookup
  obtain ⟨old, -, rfl⟩ := Option.map_eq_some_iff.1 hlookup
  exact (Bool.and_eq_true_iff.1 henabled).2

/-! ## The scope in every run -/

/-- Whatever an iteration offers is granted: in the prompt of the session, which is made when the
scope is applied, in the catalog and with its request; and whatever it executes. -/
structure WithinScope (ctx : TaskContext World) (registered : List Registration) (scope : DelegationScope) (s : LoopState)
    (c : IterationInputs World) : Prop where
  prompted : ∀ schema ∈ (scopedDispatcher registered (some scope)).schemas,
    granted scope schema.name ((scopedDispatcher registered (some scope)).category schema.name) = true
  catalogued : ∀ schema ∈ ctx.catalogued registered (some scope),
    granted scope schema.name ((ctx.turn registered (some scope)).agent.actor.dispatcher.category schema.name) = true
  requested : ∀ req ∈ (ctx.turn registered (some scope)).requested s c.toCycleInputs, ∀ schema ∈ req.tools,
    granted scope schema.name ((ctx.turn registered (some scope)).agent.actor.dispatcher.category schema.name) = true
  executed : ∀ call ∈ (ctx.turn registered (some scope)).executed s c,
    granted scope call.tool ((ctx.turn registered (some scope)).agent.actor.dispatcher.category call.tool) = true

def CoversLateTools (scope : DelegationScope) : Prop := ∀ name ∈ lateTools, granted scope name .pure = true

instance decidableCoversLateTools (scope : DelegationScope) : Decidable (CoversLateTools scope) :=
  inferInstanceAs (Decidable (∀ name ∈ lateTools, _))

lemma granted_of_isEnabled (hcovers : CoversLateTools scope)
    (h : (ctx.turn registered (some scope)).agent.actor.dispatcher.isEnabled name = true) :
    granted scope name ((ctx.turn registered (some scope)).agent.actor.dispatcher.category name) = true := by
  obtain ⟨entry, hlookup, henabled⟩ := isEnabled_iff.1 h
  rw [category, hlookup]
  dsimp only
  rw [lookup_turn] at hlookup
  split at hlookup
  · cases hlookup
    cases henabled
  · rw [lookup_taskDispatcher] at hlookup
    split at hlookup
    · rename_i hlate
      cases hlookup
      exact hcovers name hlate
    · exact granted_of_scoped hlookup henabled

lemma lookup_of_late (h : name ∈ lateTools) :
    (ctx.turn registered delegationScope).agent.actor.dispatcher.tools.lookup name =
      some ⟨⟨name, (ctx.describe name).1, (ctx.describe name).2⟩, true, .pure⟩ := by
  have hne : name ≠ advancePhaseToolName := by
    rintro rfl
    revert h
    decide
  rw [lookup_turn, if_neg hne, lookup_taskDispatcher, if_pos h]

lemma phaseTools_turn (s : LoopState) : (ctx.turn registered delegationScope).phaseTools s = s.dispatcher.schemas := by
  have hphase : (ctx.turn registered delegationScope).currentPhase s =
      [⟨ctx.mode.toPhase, .all, .immediate⟩][s.phaseIndex]? := rfl
  unfold phaseTools
  rw [hphase]
  cases s.phaseIndex with
  | zero => rfl
  | succ i => rfl

lemma late_requested (h : name ∈ lateTools) (hcancelled : c.cancelled = false) (hlimit : c.hardLimited = none)
    (haux : c.aux = none) :
    ∃ req ∈ (ctx.turn registered delegationScope).requested (ctx.turn registered delegationScope).start c.toCycleInputs,
      ∃ schema ∈ req.tools, schema.name = name := by
  obtain ⟨messages, hmessages⟩ : ∃ messages, (ctx.turn registered delegationScope).compacted c.toCycleInputs
      (ctx.turn registered delegationScope).start = some messages := by
    unfold compacted maybeRunCompaction
    rw [haux]
    split
    · exact ⟨_, rfl⟩
    · exact ⟨_, rfl⟩
  have hmax : ¬ (ctx.turn registered delegationScope).input.maxCycles ≤ (ctx.turn registered delegationScope).start.cycles :=
    Nat.not_succ_le_zero 49
  refine ⟨(ctx.turn registered delegationScope).request ((ctx.turn registered delegationScope).prepare
    c.toCycleInputs { (ctx.turn registered delegationScope).start with messages := messages }), ?_,
    ⟨name, (ctx.describe name).1, (ctx.describe name).2⟩, ?_, rfl⟩
  · unfold requested
    simp only [hcancelled, hmessages, hlimit, if_neg hmax]
    rfl
  · change _ ∈ phaseTools _ _
    rw [phaseTools_turn, mem_schemas]
    refine ⟨name, ⟨⟨name, (ctx.describe name).1, (ctx.describe name).2⟩, true, .pure⟩, ?_, rfl, rfl⟩
    rw [sameTools_prepare quiet_turn (fun _ => rfl) c.toCycleInputs name]
    exact lookup_of_late h

variable {s : LoopState}
lemma withinScope_of_covers (hcovers : CoversLateTools scope)
    (hs : (ctx.turn registered (some scope)).SameTools s.dispatcher) : WithinScope ctx registered scope s c where
  prompted := by
    intro schema hmem
    have henabled := isEnabled_of_mem_schemas (keyed_scopedDispatcher registered (some scope)) hmem
    obtain ⟨entry, hlookup, henabled⟩ := isEnabled_iff.1 henabled
    rw [category, hlookup]
    exact granted_of_scoped hlookup henabled
  catalogued := by
    intro schema hmem
    unfold TaskContext.catalogued at hmem
    dsimp only at hmem
    split at hmem
    · cases hmem
    · exact granted_of_isEnabled hcovers (isEnabled_of_mem_schemas keyed_turn hmem)
  requested := fun _ hreq _ hmem =>
    granted_of_isEnabled hcovers (isEnabled_of_requested quiet_turn hs keyed_turn rfl hreq hmem)
  executed := fun _ hcall => granted_of_isEnabled hcovers (isEnabled_of_executed quiet_turn hs hcall)

def silentModel (world : World) : IterationInputs World where
  cancelled := false
  hardLimited := none
  compactionModel := fun _ => .error "unavailable"
  aux := none
  snapshot := world
  escalationModel := fun _ => .error "unavailable"
  complete := fun _ => .error (.model "unavailable")
  batch := ⟨fun _ _ => .timedOut, fun _ => .timedOut⟩
  scripted := []

lemma covers_of_withinScope
    (h : ∀ cs, EachCycle (ctx.turn registered (some scope)).iterate (WithinScope ctx registered scope)
      (ctx.turn registered (some scope)).start cs) : CoversLateTools scope := by
  intro name hname
  have hfirst := (h [silentModel ctx.spatial.default]).1
  obtain ⟨req, hreq, schema, hmem, rfl⟩ := late_requested (c := silentModel ctx.spatial.default) hname rfl rfl rfl
  have hgranted := hfirst.requested req hreq schema hmem
  rw [category, lookup_of_late hname] at hgranted
  exact hgranted

/-! ## The scope of the children -/

/-- Every scope that an iteration sends allows only tools that are enabled when it is sent. -/
def ChildrenWithin (ctx : TaskContext World) (registered : List Registration) (s : LoopState) (c : IterationInputs World) :
    Prop :=
  ∀ scope ∈ ctx.sent registered none s c, ∀ d ∈ (ctx.turn registered none).dispatching s c.toCycleInputs,
    ∀ name ∈ scope.allowedTools, d.1.dispatcher.isEnabled name = true

lemma lookup_register_of_notMem (tools : List Registration) :
    ∀ {d : ToolDispatcher}, name ∉ tools.map (fun tool => tool.schema.name) →
      (register d tools).tools.lookup name = d.tools.lookup name := by
  induction tools with
  | nil => exact fun _ => rfl
  | cons tool tools ih =>
    intro d h
    rw [map_cons, mem_cons, not_or] at h
    have hcons : register d (tool :: tools) = register (d.registerWithCategory tool.schema tool.category) tools := rfl
    rw [hcons, ih h.2, lookup_registerWithCategory, if_neg h.1]

variable {cameras tenantIsUuid : Bool} {parentTaskId : Option Nat}
lemma advance_notMem_firstTools :
    advancePhaseToolName ∉ (firstTools describe cameras tenantIsUuid parentTaskId).map fun tool => tool.schema.name := by
  unfold firstTools
  cases cameras <;> cases parentTaskId.isNone <;> cases tenantIsUuid <;>
    simp [Registration.of, advancePhaseToolName, executeCodeToolName]

lemma isEnabled_of_first
    (h : name ∈ (scopedDispatcher (firstTools ctx.describe cameras tenantIsUuid parentTaskId) none).toolNames) :
    (ctx.turn (firstTools ctx.describe cameras tenantIsUuid parentTaskId) none).agent.actor.dispatcher.isEnabled name =
      true := by
  obtain ⟨entry, hlookup, henabled⟩ := isEnabled_iff.1 (mem_toolNames.1 h)
  have hne : name ≠ advancePhaseToolName := by
    rintro rfl
    rw [scopedDispatcher, lookup_register_of_notMem _ (advance_notMem_firstTools _)] at hlookup
    cases hlookup
  rw [isEnabled_iff, lookup_turn, if_neg hne, lookup_taskDispatcher]
  split
  · exact ⟨_, rfl, rfl⟩
  · exact ⟨entry, hlookup, henabled⟩

lemma childrenWithin_first
    (hs : (ctx.turn (firstTools ctx.describe cameras tenantIsUuid parentTaskId) none).SameTools s.dispatcher) :
    ChildrenWithin ctx (firstTools ctx.describe cameras tenantIsUuid parentTaskId) s c := by
  rintro scope hscope ⟨p, reply⟩ hp name hname
  obtain ⟨call, -, rfl⟩ := mem_map.1 hscope
  rw [(sameTools_dispatching quiet_turn hs hp).isEnabled]
  exact isEnabled_of_first hname

/-- The tools of a task stay within its scope in every run just if the scope covers the late tools;
and what a task without a scope hands down is within what it can execute. -/
theorem scope_enforced_iff {World : Type} (ctx : TaskContext World) :
    (∀ (registered : List Registration) (scope : DelegationScope),
      (∀ cs, EachCycle (ctx.turn registered (some scope)).iterate (WithinScope ctx registered scope)
        (ctx.turn registered (some scope)).start cs) ↔ CoversLateTools scope) ∧
    ∀ (cameras tenantIsUuid : Bool) (cs : List (IterationInputs World)),
      EachCycle (ctx.turn (firstTools ctx.describe cameras tenantIsUuid none) none).iterate
        (ChildrenWithin ctx (firstTools ctx.describe cameras tenantIsUuid none))
        (ctx.turn (firstTools ctx.describe cameras tenantIsUuid none) none).start cs := by
  refine ⟨fun registered scope => ⟨covers_of_withinScope, fun hcovers cs => ?_⟩, fun cameras tenantIsUuid cs => ?_⟩
  · exact eachCycle_of_quiet quiet_turn (fun _ _ hs => withinScope_of_covers hcovers hs) cs
  · exact eachCycle_of_quiet quiet_turn (fun _ _ hs => childrenWithin_first hs) cs

/-! ## A child that reads the memory -/

def plainContext : TaskContext Unit where
  texts := ⟨plainJson, plainResult, plainDebug⟩
  spatial := ⟨(), fun _ => "No spatial observations.", fun _ => []⟩
  safety := []
  describe := fun _ => ("", .null)
  mode := .react
  seed := ⟨[], [], "Sort the bins."⟩

def calling (tool : String) : IterationInputs Unit :=
  { replying [.toolUse "toolu_1" tool .null] .toolUse with scripted := [] }

def codeScope : DelegationScope := ⟨["execute_code"], .default⟩

/-- It is offered the memory tools, and reads the memory. -/
theorem memory_read_out_of_scope :
    ((plainContext.turn (firstTools plainContext.describe false true (some 9)) (some codeScope)).executed
      (plainContext.turn (firstTools plainContext.describe false true (some 9)) (some codeScope)).start
      (calling "memory_read")).map ToolCall.tool = ["memory_read"] ∧
    ¬ WithinScope plainContext (firstTools plainContext.describe false true (some 9)) codeScope
      (plainContext.turn (firstTools plainContext.describe false true (some 9)) (some codeScope)).start
      (calling "memory_read") := by
  have hexecuted : ((plainContext.turn (firstTools plainContext.describe false true (some 9)) (some codeScope)).executed
      (plainContext.turn (firstTools plainContext.describe false true (some 9)) (some codeScope)).start
      (calling "memory_read")).map ToolCall.tool = ["memory_read"] := by decide +kernel
  refine ⟨hexecuted, fun hwithin => ?_⟩
  obtain ⟨call, hcall, htool⟩ := mem_map.1 (hexecuted ▸ mem_singleton.2 rfl)
  have hgranted := hwithin.executed call hcall
  rw [htool] at hgranted
  revert hgranted
  decide

end Roz.Worker
