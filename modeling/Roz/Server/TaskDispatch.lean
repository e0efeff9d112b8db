import Roz.Agent.Loop
import Roz.Core.Session
import Roz.OpenAi.ChatChunk
import Roz.Server.Tasks

/-!
# Publishing invocations (`roz-server/src/routes/task_dispatch.rs`, `nats_handlers.rs`, `trust.rs`)

Two paths lead to a `TaskInvocation`: `dispatch_task`, which the REST, gRPC and scheduled paths
call, and the handler of `roz.internal.tasks.spawn`.  Each is given here up to the publish, over
the content of the database at that time; what the services it calls answer is an input, and so
is how UUIDs are read.  Row-level security does not show in the reads: the trust check and the
spawn handler's look at the hosts use the bare pool, and `dispatch_task` compares tenants
itself (`authorized_iff_vouched`).
-/

namespace Roz.Server
open Roz.Core Roz.Agent

/-! ## Trust -/

inductive DeviceTrustPosture where
  | trusted
  | provisional
  | untrusted
  deriving DecidableEq

structure FirmwareManifest where
  version : String
  ed25519Signature : Option String
  deriving DecidableEq

structure DeviceTrust where
  hostId : Nat
  tenantId : Nat
  firmware : Option FirmwareManifest
  lastAttestation : Option Int
  deriving DecidableEq

structure TrustPolicy where
  maxAttestationAgeSecs : Nat
  requireFirmwareSignature : Bool
  allowedFirmwareVersions : List String
  deriving DecidableEq

/-- The largest number of seconds of which `TimeDelta::seconds` makes a duration. -/
def maxTimeDeltaSecs : Nat := 9223372036854775

def i64Max : Nat := 9223372036854775807

/-- `evaluate_trust`; `none` if it panics.  Instants are nanoseconds. -/
def evaluateTrust (device : DeviceTrust) (policy : TrustPolicy) (now : Int) : Option DeviceTrustPosture :=
  match device.firmware with
  | none => some .untrusted
  | some firmware =>
    match device.lastAttestation with
    | none => some .untrusted
    | some lastAttestation =>
      let maxSecs := if policy.maxAttestationAgeSecs ≤ i64Max then policy.maxAttestationAgeSecs else i64Max
      if maxSecs > maxTimeDeltaSecs then none
      else if now - lastAttestation > 1000000000 * maxSecs then some .provisional
      else if policy.requireFirmwareSignature && firmware.ed25519Signature.isNone then some .provisional
      else if !policy.allowedFirmwareVersions.isEmpty && !policy.allowedFirmwareVersions.contains firmware.version then
        some .untrusted
      else some .trusted

/-! ## The database -/

structure HostRow where
  id : Nat
  tenantId : Nat
  name : String
  deriving DecidableEq

inductive FirmwareColumn where
  | null
  | malformed
  | manifest (m : FirmwareManifest)
  deriving DecidableEq

structure DeviceTrustRow where
  tenantId : Nat
  hostId : Nat
  firmware : FirmwareColumn
  lastAttestation : Option Int
  deriving DecidableEq

structure ServerDb where
  tenants : List Nat
  environments : List Nat
  hosts : List HostRow
  deviceTrust : List DeviceTrustRow
  tasks : TaskStore

namespace ServerDb
variable (db : ServerDb)
def hostById (id : Nat) : Option HostRow := db.hosts.find? fun row => row.id == id

/-- `device_trust::get_by_host_id`; `none` if the column does not decode. -/
def deviceByHostId (hostId : Nat) : Option (Option DeviceTrust) :=
  match db.deviceTrust.find? fun row => row.hostId == hostId with
  | none => some none
  | some row =>
    match row.firmware with
    | .malformed => none
    | .null => some (some ⟨row.hostId, row.tenantId, none, row.lastAttestation⟩)
    | .manifest m => some (some ⟨row.hostId, row.tenantId, some m, row.lastAttestation⟩)

/-- The references of a new task exist; of which tenant, a foreign key does not ask. -/
def acceptsTask (tenantId environmentId : Nat) (parentTaskId : Option Nat) : Bool :=
  db.tenants.contains tenantId && db.environments.contains environmentId &&
    parentTaskId.all fun parent => (db.tasks.getById parent).isSome

end ServerDb

inductive TrustCheck where
  | accepted
  | noRow
  | loadFailed
  | tenantMismatch (row caller : Nat)
  | posture (p : DeviceTrustPosture)
  | panicked
  deriving DecidableEq

variable (db : ServerDb)
def checkHostTrust (tenantId hostId : Nat) (policy : TrustPolicy) (now : Int) : TrustCheck :=
  match db.deviceByHostId hostId with
  | none => .loadFailed
  | some none => .noRow
  | some (some device) =>
    if device.tenantId ≠ tenantId then .tenantMismatch device.tenantId tenantId
    else
      match evaluateTrust device policy now with
      | none => .panicked
      | some .trusted => .accepted
      | some p => .posture p

/-! ## Requests -/

structure TaskDispatchRequest where
  tenantId : Nat
  prompt : String
  environmentId : Nat
  timeoutSecs : Option Int
  hostId : Option String
  phases : List PhaseSpec
  parentTaskId : Option Nat
  delegationScope : Option DelegationScope

structure SpawnRequest where
  tenantId : Nat
  prompt : String
  hostId : String
  environmentId : Nat
  phases : List PhaseSpec
  parentTaskId : Nat
  delegationScope : Option DelegationScope

structure TaskInvocation where
  taskId : Nat
  tenantId : Nat
  prompt : String
  environmentId : Nat
  hostId : Nat
  timeoutSecs : Nat
  mode : PhaseMode
  parentTaskId : Option Nat
  phases : List PhaseSpec
  delegationScope : Option DelegationScope
  deriving DecidableEq

inductive TaskDispatchError where
  | database
  | badRequest (message : String)
  | notFound (message : String)
  | trustRejected
  | internal (message : String)
  | panicked
  deriving DecidableEq

inductive RestateAnswer where
  | accepted
  | errorStatus (error : String)
  | unreachable (error : String)
  deriving DecidableEq

/-- What the services answer while a request is handled; `refusal` is the text of the database's
error should it refuse the new row. -/
structure Services where
  parseUuid : String → Except String Nat
  newTaskId : Nat
  refusal : String
  restate : RestateAnswer
  natsConfigured : Bool
  publish : Except String Unit

def modeFromPhases (phases : List PhaseSpec) : PhaseMode :=
  match phases.head?.map PhaseSpec.mode with
  | some PhaseMode.oodaReAct => .oodaReAct
  | some PhaseMode.react => .react
  | none => .react

def invocationTimeout (timeoutSecs : Option Int) : Nat :=
  timeoutSecs.elim 300 fun timeout => if 0 ≤ timeout then timeout.toNat else 300

def trim (text : String) : String :=
  String.ofList (((text.toList.dropWhile OpenAi.isWhitespace).reverse.dropWhile OpenAi.isWhitespace).reverse)

/-! ## `dispatch_task` -/

def validateChildTaskDelegationScope (parentTaskId : Option Nat) (delegationScope : Option DelegationScope) :
    Except TaskDispatchError Unit :=
  if parentTaskId.isSome && delegationScope.isNone then .error (.badRequest "child tasks require delegation_scope")
  else .ok ()

def checkParent (tenantId : Nat) (parentTaskId : Option Nat) : Except TaskDispatchError Unit :=
  match parentTaskId with
  | none => .ok ()
  | some parent =>
    match db.tasks.getById parent with
    | some row => if row.tenantId = tenantId then .ok () else .error (.badRequest "parent_task_id not found")
    | none => .error (.badRequest "parent_task_id not found")

def requireHostId (hostId : Option String) : Except TaskDispatchError String :=
  match (hostId.map trim).filter fun value => !value.isEmpty with
  | none => .error (.badRequest "host_id is required until deferred assignment is implemented")
  | some value => .ok value

variable (services : Services)
def parseHostId (hostId : String) : Except TaskDispatchError Nat :=
  match services.parseUuid hostId with
  | .error _ => .error (.badRequest "host_id is not a valid UUID")
  | .ok uuid => .ok uuid

def findHost (tenantId hostUuid : Nat) (hostId : String) : Except TaskDispatchError HostRow :=
  match (db.hostById hostUuid).filter fun row => row.tenantId = tenantId with
  | none => .error (.notFound ("host " ++ hostId ++ " not found"))
  | some host => .ok host

def requireTrust (check : TrustCheck) : Except TaskDispatchError Unit :=
  match check with
  | .accepted => .ok ()
  | .panicked => .error .panicked
  | _ => .error .trustRejected

def requireNats : Except TaskDispatchError Unit :=
  if services.natsConfigured then .ok ()
  else .error (.internal "task dispatch unavailable: NATS is not configured")

def createTask (tenantId environmentId : Nat) (parentTaskId : Option Nat) : Except TaskDispatchError Unit :=
  if db.acceptsTask tenantId environmentId parentTaskId then .ok () else .error .database

def startWorkflow (answer : RestateAnswer) : Except TaskDispatchError Unit :=
  match answer with
  | .accepted => .ok ()
  | .errorStatus error => .error (.internal ("failed to start workflow: " ++ error))
  | .unreachable error => .error (.internal ("failed to start Restate workflow: " ++ error))

def natsSpecialChars : List Char := ['.', '*', '>']

/-- The subject token of the host; the task id, a UUID, is a valid token. -/
def validateSubject (hostName : String) : Except TaskDispatchError Unit :=
  if hostName.isEmpty then
    .error (.badRequest "invalid NATS subject: validation error: worker_id must not be empty")
  else
    match natsSpecialChars.find? fun ch => hostName.toList.contains ch with
    | some ch =>
      .error (.badRequest ("invalid NATS subject: validation error: worker_id must not contain '" ++ ch.toString ++ "'"))
    | none => .ok ()

def publishInvocation (answer : Except String Unit) : Except TaskDispatchError Unit :=
  match answer with
  | .ok () => .ok ()
  | .error error => .error (.internal ("failed to publish task invocation: " ++ error))

variable (policy : TrustPolicy) (now : Int)
def dispatchTask (services : Services) (request : TaskDispatchRequest) : Except TaskDispatchError TaskInvocation := do
  validateChildTaskDelegationScope request.parentTaskId request.delegationScope
  checkParent db request.tenantId request.parentTaskId
  let hostId ← requireHostId request.hostId
  let hostUuid ← parseHostId services hostId
  let host ← findHost db request.tenantId hostUuid hostId
  requireTrust (checkHostTrust db request.tenantId hostUuid policy now)
  requireNats services
  createTask db request.tenantId request.environmentId request.parentTaskId
  startWorkflow services.restate
  validateSubject host.name
  publishInvocation services.publish
  return {
    taskId := services.newTaskId
    tenantId := request.tenantId
    prompt := request.prompt
    environmentId := request.environmentId
    hostId := hostUuid
    timeoutSecs := invocationTimeout request.timeoutSecs
    mode := modeFromPhases request.phases
    parentTaskId := request.parentTaskId
    phases := request.phases
    delegationScope := request.delegationScope }

/-! ## The spawn handler -/

/-- `spawn_task_handler` for one decoded payload, up to the publish; an error is the text of the
reply.  What Restate answers is only logged, and so is a failed publish. -/
def spawnTask (services : Services) (request : SpawnRequest) : Except String (Option TaskInvocation) :=
  if request.delegationScope.isNone then .error "child tasks require delegation_scope"
  else if !db.acceptsTask request.tenantId request.environmentId (some request.parentTaskId) then
    .error ("task creation failed: " ++ services.refusal)
  else
    match services.parseUuid request.hostId with
    | .error error => .error ("invalid host_id UUID: " ++ error)
    | .ok hostUuid =>
      match db.hostById hostUuid with
      | none => .error ("host " ++ request.hostId ++ " not found")
      | some _ =>
        match services.publish with
        | .error _ => .ok none
        | .ok () =>
          .ok (some
            { taskId := services.newTaskId
              tenantId := request.tenantId
              prompt := request.prompt
              environmentId := request.environmentId
              hostId := hostUuid
              timeoutSecs := 300
              mode := modeFromPhases request.phases
              parentTaskId := some request.parentTaskId
              phases := request.phases
              delegationScope := request.delegationScope })

inductive PublishRequest where
  | dispatch (request : TaskDispatchRequest)
  | spawn (request : SpawnRequest)

def published (services : Services) : PublishRequest → Option TaskInvocation
  | .dispatch request => (dispatchTask db policy now services request).toOption
  | .spawn request => (spawnTask db services request).toOption.join

/-! ## Authorization -/

/-- The invocation is of the tenant's own host, which is trusted, and its parent is the tenant's
and handed down a scope. -/
structure Authorized (db : ServerDb) (policy : TrustPolicy) (now : Int) (inv : TaskInvocation) : Prop where
  host : ∃ host, db.hostById inv.hostId = some host ∧ host.tenantId = inv.tenantId
  trusted : checkHostTrust db inv.tenantId inv.hostId policy now = .accepted
  parent : ∀ parent ∈ inv.parentTaskId, ∃ task, db.tasks.getById parent = some task ∧ task.tenantId = inv.tenantId
  scope : inv.parentTaskId.isSome → inv.delegationScope.isSome

/-- The payload of a spawn names a trusted host and a parent of its own tenant. -/
def Vouched (services : Services) : PublishRequest → Prop
  | .dispatch _ => True
  | .spawn request =>
    (∀ hostUuid ∈ (services.parseUuid request.hostId).toOption,
      (db.hostById hostUuid).any (fun host => host.tenantId == request.tenantId) = true ∧
        checkHostTrust db request.tenantId hostUuid policy now = .accepted) ∧
    (db.tasks.getById request.parentTaskId).any (fun task => task.tenantId == request.tenantId) = true

instance decidableVouched (db : ServerDb) (policy : TrustPolicy) (now : Int) (services : Services)
    (request : PublishRequest) : Decidable (Vouched db policy now services request) :=
  match request with
  | .dispatch _ => inferInstanceAs (Decidable True)
  | .spawn request =>
    inferInstanceAs (Decidable ((∀ hostUuid ∈ (services.parseUuid request.hostId).toOption,
      (db.hostById hostUuid).any (fun host => host.tenantId == request.tenantId) = true ∧
        checkHostTrust db request.tenantId hostUuid policy now = .accepted) ∧
      (db.tasks.getById request.parentTaskId).any (fun task => task.tenantId == request.tenantId) = true))

variable {db : ServerDb} {policy : TrustPolicy} {now : Int} {services : Services}
lemma bind_eq_ok {ε α β : Type} {x} {f : α → Except ε β} {b} (h : (x >>= f) = .ok b) :
    ∃ a, x = .ok a ∧ f a = .ok b := by
  cases x with
  | error e => cases h
  | ok a => exact ⟨a, rfl, h⟩

variable {parentTaskId : Option Nat}
lemma scope_of_validate {delegationScope} (h : validateChildTaskDelegationScope parentTaskId delegationScope = .ok ()) :
    parentTaskId.isSome → delegationScope.isSome := by
  unfold validateChildTaskDelegationScope at h
  intro hparent
  split at h
  · cases h
  · rename_i hnot
    simpa [hparent, Option.isNone_iff_eq_none, Option.isSome_iff_ne_none] using hnot

lemma parent_of_check {tenantId} (h : checkParent db tenantId parentTaskId = .ok ()) :
    ∀ parent ∈ parentTaskId, ∃ task, db.tasks.getById parent = some task ∧ task.tenantId = tenantId := by
  intro parent hparent
  rw [Option.mem_def.1 hparent] at h
  unfold checkParent at h
  dsimp only at h
  cases htask : db.tasks.getById parent with
  | none => simp [htask] at h
  | some task =>
    simp only [htask] at h
    split at h
    · rename_i htenant
      exact ⟨task, rfl, htenant⟩
    · cases h

lemma host_of_find {tenantId hostUuid hostId host}
    (h : findHost db tenantId hostUuid hostId = .ok host) : db.hostById hostUuid = some host ∧ host.tenantId = tenantId := by
  unfold findHost at h
  cases hfilter : (db.hostById hostUuid).filter fun row => row.tenantId = tenantId with
  | none => simp [hfilter] at h
  | some row =>
    simp only [hfilter, Except.ok.injEq] at h
    subst h
    simpa [Option.filter_eq_some_iff] using hfilter

lemma accepted_of_requireTrust {check} (h : requireTrust check = .ok ()) : check = .accepted := by
  cases check with
  | accepted => rfl
  | _ => cases h

variable {inv : TaskInvocation}
lemma authorized_of_dispatch {request}
    (h : dispatchTask db policy now services request = .ok inv) : Authorized db policy now inv := by
  unfold dispatchTask at h
  obtain ⟨_, hscope, h⟩ := bind_eq_ok h
  obtain ⟨_, hparent, h⟩ := bind_eq_ok h
  obtain ⟨hostId, _, h⟩ := bind_eq_ok h
  obtain ⟨hostUuid, _, h⟩ := bind_eq_ok h
  obtain ⟨host, hhost, h⟩ := bind_eq_ok h
  obtain ⟨_, htrust, h⟩ := bind_eq_ok h
  obtain ⟨_, _, h⟩ := bind_eq_ok h
  obtain ⟨_, _, h⟩ := bind_eq_ok h
  obtain ⟨_, _, h⟩ := bind_eq_ok h
  obtain ⟨_, _, h⟩ := bind_eq_ok h
  obtain ⟨_, _, h⟩ := bind_eq_ok h
  cases h
  exact ⟨⟨host, host_of_find hhost⟩, accepted_of_requireTrust htrust, parent_of_check hparent, scope_of_validate hscope⟩

variable {request : SpawnRequest}
lemma spawnTask_spec (h : spawnTask db services request = .ok (some inv)) :
    inv.tenantId = request.tenantId ∧ inv.parentTaskId = some request.parentTaskId ∧
      inv.delegationScope = request.delegationScope ∧ request.delegationScope.isSome ∧
      services.parseUuid request.hostId = .ok inv.hostId := by
  unfold spawnTask at h
  cases hscope : request.delegationScope with
  | none => simp [hscope] at h
  | some scope =>
    simp only [hscope, Option.isNone_some, Bool.false_eq_true, if_false] at h
    split at h
    · cases h
    cases huuid : services.parseUuid request.hostId with
    | error error => simp [huuid] at h
    | ok hostUuid =>
      cases hhost : db.hostById hostUuid with
      | none => simp [huuid, hhost] at h
      | some host =>
        cases hpublish : services.publish with
        | error error => simp [huuid, hhost, hpublish] at h
        | ok _ =>
          simp only [huuid, hhost, hpublish, Except.ok.injEq, Option.some.injEq] at h
          subst h
          exact ⟨rfl, rfl, rfl, rfl, rfl⟩

lemma authorized_spawn_iff (h : spawnTask db services request = .ok (some inv)) :
    Authorized db policy now inv ↔ Vouched db policy now services (.spawn request) := by
  obtain ⟨htenant, hparent, hscope, hsome, huuid⟩ := spawnTask_spec h
  have hpayload : Vouched db policy now services (.spawn request) ↔
      ((∃ host, db.hostById inv.hostId = some host ∧ host.tenantId = inv.tenantId) ∧
        checkHostTrust db inv.tenantId inv.hostId policy now = .accepted) ∧
      ∃ task, db.tasks.getById request.parentTaskId = some task ∧ task.tenantId = inv.tenantId := by
    simp only [Vouched, huuid, Except.toOption, Option.mem_def, Option.some.injEq, forall_eq', Option.any_eq_true,
      beq_iff_eq, htenant]
  rw [hpayload]
  constructor
  · intro hauth
    exact ⟨⟨hauth.host, hauth.trusted⟩, hauth.parent _ hparent⟩
  · rintro ⟨⟨hhost, htrusted⟩, htask⟩
    refine ⟨hhost, htrusted, fun parent hmem => ?_, fun _ => hscope ▸ hsome⟩
    obtain rfl : request.parentTaskId = parent := Option.some.inj (hparent.symm.trans hmem)
    exact htask

/-- Whatever the server publishes is authorized exactly if the request is vouched for; a dispatch
always is. -/
theorem authorized_iff_vouched (db : ServerDb) (policy : TrustPolicy) (now : Int) (services : Services)
    (request : PublishRequest) (inv : TaskInvocation) (h : published db policy now services request = some inv) :
    Authorized db policy now inv ↔ Vouched db policy now services request := by
  cases request with
  | dispatch request =>
    have hdispatch : dispatchTask db policy now services request = .ok inv := by
      cases hresult : dispatchTask db policy now services request with
      | error error => simp [published, hresult, Except.toOption] at h
      | ok result => simpa [published, hresult, Except.toOption] using h
    exact ⟨fun _ => trivial, fun _ => authorized_of_dispatch hdispatch⟩
  | spawn request =>
    have hspawn : spawnTask db services request = .ok (some inv) := by
      cases hresult : spawnTask db services request with
      | error error => simp [published, hresult, Except.toOption] at h
      | ok result => simpa [published, hresult, Except.toOption] using h
    exact authorized_spawn_iff hspawn

/-! ## A spawn across tenants -/

def sharedServer : ServerDb where
  tenants := [1, 2]
  environments := [3]
  hosts := [⟨5, 1, "arm-1"⟩]
  deviceTrust := [⟨1, 5, .manifest ⟨"1.2.0", some "c2ln"⟩, some 0⟩]
  tasks := ⟨[⟨9, 1, some 5, "running", none⟩], [], List.nodup_singleton _, List.Pairwise.nil⟩

def hourlyPolicy : TrustPolicy := ⟨3600, true, []⟩

def answering : Services where
  parseUuid := fun text =>
    if text = "00000000-0000-0000-0000-000000000005" then .ok 5
    else .error "invalid length: expected length 32 for simple format, found 0"
  newTaskId := 10
  refusal := ""
  restate := .accepted
  natsConfigured := true
  publish := .ok ()

variable (tenantId : Nat)
def spawnFor : PublishRequest :=
  .spawn ⟨tenantId, "sort the bins", "00000000-0000-0000-0000-000000000005", 3, [], 9, some .failClosed⟩

def spawnedFor : TaskInvocation :=
  ⟨10, tenantId, "sort the bins", 3, 5, 300, .react, some 9, [], some .failClosed⟩

theorem own_spawn_authorized : Authorized sharedServer hourlyPolicy 1000000000 (spawnedFor 1) :=
  (authorized_iff_vouched sharedServer hourlyPolicy 1000000000 answering (spawnFor 1) (spawnedFor 1) (by decide)).2
    (by decide)

/-- The second tenant's payload reaches the first one's host and parent; and the first one's own
spawn reaches its host when the attestation is stale. -/
theorem foreign_spawn_published :
    published sharedServer hourlyPolicy 1000000000 answering (spawnFor 2) = some (spawnedFor 2) ∧
    (sharedServer.hostById 5).map (·.tenantId) = some 1 ∧ (sharedServer.tasks.getById 9).map (·.tenantId) = some 1 ∧
    ¬ Authorized sharedServer hourlyPolicy 1000000000 (spawnedFor 2) ∧
    published sharedServer hourlyPolicy 7200000000000 answering (spawnFor 1) = some (spawnedFor 1) ∧
    checkHostTrust sharedServer 1 5 hourlyPolicy 7200000000000 = .posture .provisional := by
  refine ⟨by decide, by decide, by decide, fun hauth => ?_, by decide, by decide⟩
  have hmismatch : checkHostTrust sharedServer 2 5 hourlyPolicy 1000000000 = .tenantMismatch 1 2 := by decide
  have htrusted : checkHostTrust sharedServer 2 5 hourlyPolicy 1000000000 = .accepted := hauth.trusted
  rw [hmismatch] at htrusted
  cases htrusted

end Roz.Server
