import Roz.Copper.SafetyFilter
import Roz.Copper.Evidence

/-!
# Loaded controllers and one controller tick (`wit_host.rs`, `wasm.rs`, `controller.rs`)

A prepared controller with the profile derived from its control interface, the
host side of a WASM tick, and `tick_controller`.  The guest is arbitrary: a tick
is given what the guest does (`GuestOutcome`).  What only the guest or the
published state reads (tick input, parameters, execution mode, JSON outputs) is
left out (`tickController_cases`).
-/

namespace Roz.Copper
open Roz.Core ExactFloat F64

/-! ## The host context (`wit_host.rs`) and the task (`wasm.rs`) -/

structure HostContext where
  defaults : List F64
  commandValues : List F64
  stateValues : List F64
  estopRequested : Bool
  estopReason : Option String
  deriving DecidableEq

namespace HostContext

def writeValues : List F64 → List F64 → List F64
  | _ :: slots, v :: vs => v :: writeValues slots vs
  | slots, [] => slots
  | [], _ :: _ => []

def withControlManifest (manifest : ControlInterfaceManifest) : HostContext :=
  let defaults := manifest.channels.map fun _ => .fin 0
  ⟨defaults, defaults, [], false, none⟩

variable (ctx : HostContext)
def resetCommands : HostContext :=
  { ctx with commandValues := writeValues ctx.commandValues ctx.defaults }

variable (output : TickOutput)
def recordTickOutput : HostContext :=
  let ctx := { ctx with commandValues := writeValues ctx.commandValues output.commandValues }
  if output.estop then
    { ctx with
      estopRequested := true
      estopReason := output.estopReason.or ctx.estopReason }
  else ctx

lemma recordTickOutput_stateValues : (ctx.recordTickOutput output).stateValues = ctx.stateValues := by
  unfold recordTickOutput
  simp only
  split <;> rfl

lemma recordTickOutput_estopRequested :
    (ctx.recordTickOutput output).estopRequested = (ctx.estopRequested || output.estop) := by
  unfold recordTickOutput
  cases h : output.estop with
  | true => simp
  | false => simp

end HostContext

inductive GuestOutcome where
  | trap (message : String)
  | output (o : TickOutput)
  deriving DecidableEq

/-- `tick_with_contract` of a component task.  An e-stop request is never cleared. -/
def tickWithContract (ctx : HostContext) (guest : GuestOutcome) : Except String TickOutput × HostContext :=
  let ctx := ctx.resetCommands
  match guest with
  | .trap message => (.error message, ctx)
  | .output o =>
    let ctx := ctx.recordTickOutput o
    if ctx.estopRequested then (.error "e-stop requested by WASM module", ctx) else (.ok o, ctx)

/-! ## The control profile -/

def tau : ℚ := 884279719003555 / 140737488355328

def fallbackLimitSpan : CommandInterfaceType → ℚ
  | .jointVelocity | .jointPosition => tau
  | .jointTorque | .gripperForce => 100
  | .gripperPosition => 1 / 5
  | .forceTorqueSensor | .imuSensor => 2

variable (channel : ControlChannelDef)
def fallbackJointLimits : JointSafetyLimits :=
  let half := fallbackLimitSpan channel.interfaceType / 2
  { jointName := channel.name
    maxVelocity := .fin half
    maxAcceleration := .inf false
    positionMin := .fin (-half)
    positionMax := .fin half
    maxTorque :=
      match channel.interfaceType with
      | .jointTorque | .gripperForce => some (.fin half)
      | _ => none }

def commandLimitSpanFromJointLimits (limits : JointSafetyLimits) : F64 :=
  match channel.interfaceType with
  | .jointVelocity => (limits.maxVelocity.mul (.fin 2)).abs.max (.fin epsilon)
  | .jointPosition | .gripperPosition =>
    (limits.positionMax.sub limits.positionMin).abs.max (.fin epsilon)
  | .jointTorque | .gripperForce =>
    (limits.maxTorque.getD (.fin (fallbackLimitSpan channel.interfaceType / 2))).mul (.fin 2)
  | .forceTorqueSensor | .imuSensor =>
    F64.max (.fin (fallbackLimitSpan channel.interfaceType)) (.fin epsilon)

variable (manifest : ControlInterfaceManifest) (rt : EmbodimentRuntime)
def runtimeJointLimitsForChannel (index : Nat) (channel : ControlChannelDef) : JointSafetyLimits :=
  match (manifest.bindings.find? fun b => b.channelIndex == index).bind
      fun b => rt.getJoint b.physicalName with
  | some joint => { joint.limits with jointName := channel.name }
  | none => fallbackJointLimits channel

def jointLimitsFromRuntime : List JointSafetyLimits :=
  manifest.channels.mapIdx fun index channel => runtimeJointLimitsForChannel manifest rt index channel

structure PreparedControlProfile where
  controlRateHz : Nat
  channelNames : List String
  commandDefaults : List F64
  commandLimitSpans : List F64
  jointLimits : List JointSafetyLimits
  forceLimits : Option ForceSafetyLimits
  deriving DecidableEq

def defaultControlRateHz : Nat := 100

def buildControlProfileFromRuntime : PreparedControlProfile :=
  let jointLimits := jointLimitsFromRuntime manifest rt
  { controlRateHz := defaultControlRateHz
    channelNames := manifest.channels.map ControlChannelDef.name
    commandDefaults := List.replicate manifest.channels.length (.fin 0)
    commandLimitSpans := List.zipWith commandLimitSpanFromJointLimits manifest.channels jointLimits
    jointLimits
    forceLimits := rt.forceLimits }

variable (controlRateHz : Nat)
def tickPeriodOfRate : ℚ := 1 / (Nat.max controlRateHz 1 : Nat)

lemma tickPeriodOfRate_pos : 0 < tickPeriodOfRate controlRateHz := by
  unfold tickPeriodOfRate
  have h : 0 < Nat.max controlRateHz 1 := Nat.lt_of_lt_of_le Nat.one_pos (Nat.le_max_right _ _)
  exact div_pos one_pos (Nat.cast_pos.2 h)

/-! ## Controllers -/

/-- A controller as the bridge hands it to the loop, after the checks of
`prepare_controller`. -/
structure PreparedController where
  artifact : ControllerArtifact
  manifest : ControlInterfaceManifest
  runtime : EmbodimentRuntime
  deriving DecidableEq

structure LoadedController where
  host : HostContext
  running : Bool
  artifact : ControllerArtifact
  hotPathFilter : HotPathSafetyFilter
  evidenceCollector : EvidenceCollector
  channelNames : List String
  commandDefaults : List F64
  commandLimitSpans : List F64
  deriving DecidableEq

namespace LoadedController

/-- `prepare_controller` and `from_prepared` together: a running controller with a fresh
filter and a fresh collector. -/
def fromPrepared (load : PreparedController) : LoadedController :=
  let profile := buildControlProfileFromRuntime load.manifest load.runtime
  { host := HostContext.withControlManifest load.manifest
    running := true
    artifact := load.artifact
    hotPathFilter :=
      { jointLimits := profile.jointLimits
        forceLimits := profile.forceLimits
        previousCommands := []
        tickPeriodS := tickPeriodOfRate profile.controlRateHz
        tickPeriod_pos := tickPeriodOfRate_pos profile.controlRateHz
        history_finite := HotPathSafetyFilter.emptyHistory_finite }
    evidenceCollector := EvidenceCollector.new load.artifact.controllerId profile.channelNames
    channelNames := profile.channelNames
    commandDefaults := profile.commandDefaults
    commandLimitSpans := profile.commandLimitSpans }

def controllerId (c : LoadedController) : String := c.artifact.controllerId

variable (c : LoadedController)
def injectSensorState (positions velocities : List F64) : LoadedController :=
  { c with host := { c.host with stateValues := positions ++ velocities } }

def rotateEvidence (mode : ExecutionMode) : ControllerEvidenceBundle × LoadedController :=
  (c.evidenceCollector.finalize c.artifact.verificationKey mode,
    { c with evidenceCollector := EvidenceCollector.new c.controllerId c.channelNames })

def setRunning (running : Bool) (c : LoadedController) : LoadedController := { c with running }

end LoadedController

/-! ## One tick -/

structure ControllerTickResult where
  command : Option CommandFrame
  estopReason : Option String
  halted : Bool
  deriving DecidableEq

namespace ControllerTickResult

def none : ControllerTickResult := ⟨.none, .none, false⟩

def sends (f : CommandFrame) : ControllerTickResult := ⟨some f, .none, false⟩

def halts (reason : String) : ControllerTickResult := ⟨.none, some reason, true⟩

end ControllerTickResult

def allDefault : List F64 → List F64 → Bool
  | [], _ => true
  | _ :: _, [] => false
  | v :: vs, d :: ds => decide ((v.sub d).abs < .fin epsilon) && allDefault vs ds

/-- `tick_controller`; `none` is a panic in the safety filter.  The filter sees all state
values as positions. -/
def tickController (sqrt : F64 → F64) (c : LoadedController) (wrench : Option Wrench)
    (guest : GuestOutcome) : Option (ControllerTickResult × LoadedController) :=
  match tickWithContract c.host guest with
  | (.error message, host) =>
    some (.halts ("controller_error: " ++ message),
      { c with host, evidenceCollector := c.evidenceCollector.recordTrap })
  | (.ok output, host) =>
    let positions := if host.stateValues.isEmpty then none else some host.stateValues
    match c.hotPathFilter.filter sqrt host.commandValues positions wrench with
    | none => none
    | some (r, hotPathFilter) =>
      let evidenceCollector := c.evidenceCollector.recordTick output r.interventions
      let c' := { c with host, hotPathFilter, evidenceCollector }
      -- no command values, or nothing but defaults: the tick yields no command
      if host.commandValues.isEmpty || allDefault host.commandValues c.commandDefaults then some (.none, c')
      else if r.estop then some (.halts "safety_filter_estop", c')
      else some (.sends ⟨r.commands⟩, c')

namespace LoadedController
variable (c : LoadedController) (o : TickOutput)
def rawCommand : List F64 :=
  (c.host.resetCommands.recordTickOutput o).commandValues

def filterOutput (sqrt : F64 → F64) (c : LoadedController) (wrench : Option Wrench) (o : TickOutput) :
    Option (FilterResult × HotPathSafetyFilter) :=
  let host := c.host.resetCommands.recordTickOutput o
  c.hotPathFilter.filter sqrt (c.rawCommand o)
    (if host.stateValues.isEmpty then none else some host.stateValues) wrench

def silent : Bool :=
  (c.rawCommand o).isEmpty || allDefault (c.rawCommand o) c.commandDefaults

variable (positions velocities : List F64)
lemma rawCommand_injectSensorState (o : TickOutput) :
    (c.injectSensorState positions velocities).rawCommand o = c.rawCommand o := by
  unfold rawCommand HostContext.recordTickOutput
  simp only
  split <;> rfl

lemma silent_injectSensorState (o : TickOutput) : (c.injectSensorState positions velocities).silent o = c.silent o := by
  unfold silent
  rw [rawCommand_injectSensorState]
  rfl

end LoadedController

structure SameController (c c' : LoadedController) : Prop where
  running : c'.running = c.running
  artifact : c'.artifact = c.artifact
  channelNames : c'.channelNames = c.channelNames
  commandDefaults : c'.commandDefaults = c.commandDefaults
  commandLimitSpans : c'.commandLimitSpans = c.commandLimitSpans

def LoadedController.verdict (c : LoadedController) (o : TickOutput) (r : FilterResult) : ControllerTickResult :=
  if c.silent o then .none
  else if r.estop then .halts "safety_filter_estop"
  else .sends ⟨r.commands⟩

open LoadedController
variable (sqrt : F64 → F64)
lemma tickController_output (c : LoadedController) (wrench : Option Wrench) (o : TickOutput) :
    tickController sqrt c wrench (.output o) = if c.host.estopRequested = true ∨ o.estop = true then
        some (.halts ("controller_error: " ++ "e-stop requested by WASM module"), { c with
            host := c.host.resetCommands.recordTickOutput o
            evidenceCollector := c.evidenceCollector.recordTrap })
      else (c.filterOutput sqrt wrench o).map fun fr =>
        (c.verdict o fr.1, { c with
            host := c.host.resetCommands.recordTickOutput o
            hotPathFilter := fr.2
            evidenceCollector := c.evidenceCollector.recordTick o fr.1.interventions }) := by
  have hflag : (c.host.resetCommands.recordTickOutput o).estopRequested = true ↔
      c.host.estopRequested = true ∨ o.estop = true := by
    rw [HostContext.recordTickOutput_estopRequested, Bool.or_eq_true]
    rfl
  unfold tickController tickWithContract filterOutput
  by_cases hreq : c.host.estopRequested = true ∨ o.estop = true
  · simp only [hflag.2 hreq, if_true, if_pos hreq]
  · simp only [if_neg hreq, if_neg (hflag.not.2 hreq)]
    split
    · next hf => exact (congrArg (Option.map _) hf).symm
    · next r f' hf =>
      refine .trans ?_ (congrArg (Option.map _) hf).symm
      unfold verdict
      rw [Option.map_some, silent, rawCommand]
      split
      · rfl
      · split <;> rfl

lemma tickController_cases {c c' wrench guest r} (h : tickController sqrt c wrench guest = some (r, c')) :
    SameController c c' ∧ ((∃ reason, r = .halts reason) ∨
      ∃ o fr, guest = .output o ∧ c.filterOutput sqrt wrench o = some (fr, c'.hotPathFilter) ∧
        r = if c.silent o then .none else .sends ⟨fr.commands⟩) := by
  cases guest with
  | trap message =>
    cases h
    exact ⟨⟨rfl, rfl, rfl, rfl, rfl⟩, Or.inl ⟨_, rfl⟩⟩
  | output o =>
    rw [tickController_output] at h
    split at h
    · cases h
      exact ⟨⟨rfl, rfl, rfl, rfl, rfl⟩, Or.inl ⟨_, rfl⟩⟩
    · obtain ⟨⟨fr, f'⟩, hf, heq⟩ := Option.map_eq_some_iff.1 h
      cases heq
      refine ⟨⟨rfl, rfl, rfl, rfl, rfl⟩, ?_⟩
      unfold verdict
      cases hsilent : c.silent o with
      | true => exact Or.inr ⟨o, fr, rfl, hf, by rw [hsilent, if_pos rfl, if_pos rfl]⟩
      | false =>
        cases hestop : fr.estop with
        | true => exact Or.inl ⟨_, rfl⟩
        | false => exact Or.inr ⟨o, fr, rfl, hf, by rw [hsilent]; rfl⟩

end Roz.Copper
