import Roz.Lib.Run
import Roz.Server.Tasks

/-!
# Status events and cancellation (`roz-server/src/nats_handlers.rs`, `grpc/tasks.rs`)

`apply_task_status_event` sends a few statements, each a transaction of its own; a failure is
logged and the next one is sent.  `cancel_task` only sets the status.  Neither looks at the
status that is stored, so that a late event reopens a finished task and a cancelled task keeps
its run.  What is terminal stays so if the calls keep to an order
(`terminal_stays_of_orderly`).
-/

namespace Roz.Server
open StepRun List

structure TaskStatusEvent where
  taskId : Nat
  status : String
  detail : Option String
  hostId : Option Nat
  deriving DecidableEq

inductive TaskStmt where
  | assignHost (hostId : Nat)
  | ensureActiveRun (hostId : Option Nat)
  | ensureRunIfNone (hostId : Option Nat)
  | completeActiveRun (status : String) (detail : Option String)
  | updateStatus (status : String)
  deriving DecidableEq

variable (event : TaskStatusEvent)

/-- What `apply_task_status_event` does about the host and the runs.  Looking for an active run
and making one if there is none is one statement here: nothing but these events, one after the
other, writes runs. -/
def TaskStatusEvent.runStatements : List TaskStmt :=
  event.hostId.toList.map .assignHost ++
    (if event.status = "running" then [.ensureActiveRun event.hostId]
      else if isTerminalTaskStatus event.status then
        [.ensureRunIfNone event.hostId, .completeActiveRun event.status event.detail]
      else [])

def TaskStatusEvent.statements : List TaskStmt :=
  event.runStatements ++ [.updateStatus event.status]

namespace TaskStore
variable (s : TaskStore)
def exec (id runId : Nat) (now : Int) : TaskStmt → TaskStore
  | .assignHost hostId => s.assignHost id hostId
  | .ensureActiveRun hostId => s.ensureActiveRun id hostId runId now
  | .ensureRunIfNone hostId => if s.activeRunForTask id = none then s.ensureActiveRun id hostId runId now else s
  | .completeActiveRun status detail => s.completeActiveRunForTask id status detail now
  | .updateStatus status => s.updateStatus id status

def applyTaskStatusEvent (event : TaskStatusEvent) (runId : Nat) (now : Int) : TaskStore :=
  event.statements.foldl (fun s stmt => s.exec event.taskId runId now stmt) s

def cancelTask (tenantId id : Nat) : Except String TaskStore :=
  match s.getById id with
  | none => .error "task not found"
  | some task => if task.tenantId ≠ tenantId then .error "task not found" else .ok (s.updateStatus id "cancelled")

inductive TaskCall where
  | event (event : TaskStatusEvent) (runId : Nat) (now : Int)
  | cancel (tenantId id : Nat)
  deriving DecidableEq

def step : TaskCall → TaskStore
  | .event event runId now => s.applyTaskStatusEvent event runId now
  | .cancel tenantId id =>
    match s.cancelTask tenantId id with
    | .ok s' => s'
    | .error _ => s

/-! ## What an event does -/

variable {s : TaskStore} {id : Nat} {now : Int} {stmt : TaskStmt}
lemma statusOf_exec {runId} (h : ∀ status, stmt ≠ .updateStatus status) (other : Nat) :
    (s.exec id runId now stmt).statusOf other = s.statusOf other := by
  cases stmt with
  | assignHost hostId => exact statusOf_assignHost hostId
  | ensureActiveRun hostId => exact statusOf_ensureActiveRun hostId runId now
  | ensureRunIfNone hostId =>
    simp only [exec]
    split
    · exact statusOf_ensureActiveRun hostId runId now
    · rfl
  | completeActiveRun status detail => exact statusOf_completeActiveRunForTask status detail now
  | updateStatus status => exact absurd rfl (h status)

lemma Idle.exec {other} (h : s.Idle other) (hne : other ≠ id) (runId : Nat) (now : Int) (stmt : TaskStmt) :
    (s.exec id runId now stmt).Idle other := by
  cases stmt with
  | assignHost hostId => exact h.of_runs (runs_assignHost hostId)
  | ensureActiveRun hostId => exact h.ensureActiveRun hne hostId runId now
  | ensureRunIfNone hostId =>
    simp only [TaskStore.exec]
    split
    · exact h.ensureActiveRun hne hostId runId now
    · exact h
  | completeActiveRun status detail => exact h.completeActiveRun status detail now
  | updateStatus status => exact h.of_runs (runs_updateStatus status)

lemma runStatements_ne_updateStatus {event : TaskStatusEvent} (h : stmt ∈ event.runStatements)
    (status : String) : stmt ≠ .updateStatus status := by
  rintro rfl
  unfold TaskStatusEvent.runStatements at h
  rcases mem_append.1 h with h | h
  · obtain ⟨hostId, _, heq⟩ := mem_map.1 h
    cases heq
  · split at h
    · simp at h
    · split at h <;> simp at h

lemma statusOf_foldl_exec (id runId : Nat) (now : Int) (other : Nat) :
    ∀ (stmts : List TaskStmt) (s : TaskStore), (∀ stmt ∈ stmts, ∀ status, stmt ≠ .updateStatus status) →
      (stmts.foldl (fun s stmt => s.exec id runId now stmt) s).statusOf other = s.statusOf other := by
  intro stmts
  induction stmts with
  | nil => intro s _; rfl
  | cons stmt stmts ih =>
    intro s h
    rw [foldl_cons, ih _ fun stmt' hstmt' => h stmt' (mem_cons_of_mem _ hstmt')]
    exact statusOf_exec (h stmt mem_cons_self) other

lemma Idle.foldl_exec {other runId} (hne : other ≠ id) : ∀ (stmts : List TaskStmt) (s : TaskStore), s.Idle other →
      (stmts.foldl (fun s stmt => s.exec id runId now stmt) s).Idle other := by
  intro stmts
  induction stmts with
  | nil => intro s h; exact h
  | cons stmt stmts ih => intro s h; exact ih _ (h.exec hne runId now stmt)

variable {event : TaskStatusEvent} {runId : Nat} {now : Int}
lemma applyTaskStatusEvent_eq : s.applyTaskStatusEvent event runId now =
    (event.runStatements.foldl (fun s stmt => s.exec event.taskId runId now stmt) s).updateStatus event.taskId
      event.status := by
  unfold applyTaskStatusEvent TaskStatusEvent.statements
  rw [foldl_append]
  rfl

lemma statusOf_applyTaskStatusEvent (other : Nat) : (s.applyTaskStatusEvent event runId now).statusOf other =
    (s.statusOf other).map fun old =>
      if other = event.taskId ∧ event.status ∈ taskStatuses then event.status else old := by
  rw [applyTaskStatusEvent_eq]
  have hruns := statusOf_foldl_exec event.taskId runId now other event.runStatements s
    fun stmt hstmt => runStatements_ne_updateStatus hstmt
  by_cases hstatus : event.status ∈ taskStatuses
  · rw [statusOf_updateStatus hstatus, hruns]
    simp [hstatus]
  · rw [updateStatus_of_notMem hstatus, hruns]
    simp [hstatus]

lemma Idle.applyTaskStatusEvent {other} (h : s.Idle other) (hne : other ≠ event.taskId) :
    (s.applyTaskStatusEvent event runId now).Idle other := by
  rw [applyTaskStatusEvent_eq]
  exact (Idle.foldl_exec hne event.runStatements s h).of_runs (runs_updateStatus _)

lemma idle_of_terminal (h : isTerminalTaskStatus event.status = true) :
    (s.applyTaskStatusEvent event runId now).Idle event.taskId := by
  have hrunning : event.status ≠ "running" := by
    intro heq
    rw [heq] at h
    cases h
  rw [applyTaskStatusEvent_eq]
  refine Idle.of_runs ?_ (runs_updateStatus _)
  rw [TaskStatusEvent.runStatements, if_neg hrunning, if_pos h, foldl_append]
  exact idle_completeActiveRun (mem_taskStatuses_of_terminal h).2 event.detail now

lemma Idle.of_refused (hidle : s.Idle id) (h : event.status ∉ taskStatuses) :
    (s.applyTaskStatusEvent event runId now).Idle id := by
  have hrunning : event.status ≠ "running" := by
    intro heq
    exact h (heq ▸ by decide)
  have hterminal : ¬ isTerminalTaskStatus event.status = true := fun hterminal =>
    h (mem_taskStatuses_of_terminal hterminal).1
  rw [applyTaskStatusEvent_eq]
  refine Idle.of_runs ?_ (runs_updateStatus _)
  rw [TaskStatusEvent.runStatements, if_neg hrunning, if_neg hterminal, append_nil]
  cases event.hostId with
  | none => exact hidle
  | some hostId => exact hidle.of_runs (runs_assignHost hostId)

lemma step_cancel (s : TaskStore) (tenantId id : Nat) : s.step (.cancel tenantId id) = s ∨
    ∃ task, s.getById id = some task ∧ task.tenantId = tenantId ∧
      s.step (.cancel tenantId id) = s.updateStatus id "cancelled" := by
  simp only [step, cancelTask]
  cases htask : s.getById id with
  | none => exact .inl rfl
  | some task =>
    dsimp only
    by_cases htenant : task.tenantId = tenantId
    · rw [if_neg (not_not.2 htenant)]
      exact .inr ⟨task, rfl, htenant, rfl⟩
    · rw [if_pos htenant]
      exact .inl rfl

/-! ## Terminal statuses -/

def Settled (s : TaskStore) : Prop :=
  ∀ id status, s.statusOf id = some status → isTerminalTaskStatus status = true → s.Idle id

/-- A finished task gets no event but a repetition of its status (or one that the table refuses),
and a task is cancelled while it has neither an open run nor another terminal status. -/
def Orderly (s : TaskStore) : TaskCall → Prop
  | .event event _ _ => ∀ status ∈ s.statusOf event.taskId, isTerminalTaskStatus status = true →
      event.status = status ∨ event.status ∉ taskStatuses
  | .cancel tenantId id => ∀ task ∈ s.getById id, task.tenantId = tenantId →
      task.status = "cancelled" ∨ isTerminalTaskStatus task.status = false ∧ s.Idle id

instance decidableOrderly (s : TaskStore) : (i : TaskCall) → Decidable (s.Orderly i)
  | .event event _ _ => inferInstanceAs (Decidable (∀ status ∈ s.statusOf event.taskId, _))
  | .cancel _ id => inferInstanceAs (Decidable (∀ task ∈ s.getById id, _))

lemma terminal_step (h : s.Settled) {i} (hok : s.Orderly i) {status}
    (hstatus : s.statusOf id = some status) (hterminal : isTerminalTaskStatus status = true) :
    (s.step i).statusOf id = some status ∧ (s.step i).Idle id := by
  have hidle := h id status hstatus hterminal
  cases i with
  | event event runId now =>
    simp only [step]
    rw [statusOf_applyTaskStatusEvent, hstatus]
    by_cases hid : id = event.taskId
    · subst hid
      rcases hok status hstatus hterminal with heq | hrefused
      · refine ⟨by simp [heq], idle_of_terminal (heq ▸ hterminal)⟩
      · exact ⟨by simp [hrefused], hidle.of_refused hrefused⟩
    · exact ⟨by simp [hid], hidle.applyTaskStatusEvent hid⟩
  | cancel tenantId id' =>
    rcases step_cancel s tenantId id' with heq | ⟨task, htask, htenant, heq⟩
    · rw [heq]
      exact ⟨hstatus, hidle⟩
    · rw [heq, statusOf_updateStatus (by decide), hstatus]
      refine ⟨?_, hidle.of_runs (runs_updateStatus _)⟩
      by_cases hid : id = id'
      · subst hid
        have hstored : task.status = status := by simpa [statusOf, htask] using hstatus
        rcases hok task htask htenant with hcancelled | ⟨hopen, _⟩
        · simp [← hstored, hcancelled]
        · rw [hstored, hterminal] at hopen
          cases hopen
      · simp [hid]

lemma statusOf_step_none (h : s.statusOf id = none) (i : TaskCall) : (s.step i).statusOf id = none := by
  cases i with
  | event event runId now =>
    simp only [step]
    rw [statusOf_applyTaskStatusEvent, h]
    rfl
  | cancel tenantId id' =>
    rcases step_cancel s tenantId id' with heq | ⟨task, _, _, heq⟩
    · rw [heq, h]
    · rw [heq, statusOf_updateStatus (by decide), h]
      rfl

lemma settled_step (h : s.Settled) {i} (hok : s.Orderly i) : (s.step i).Settled := by
  intro id status hstatus hterminal
  cases hold : s.statusOf id with
  | some old =>
    by_cases holdTerminal : isTerminalTaskStatus old = true
    · exact (terminal_step h hok hold holdTerminal).2
    · -- the task was finished by this very step
      cases i with
      | event event runId now =>
        simp only [step] at hstatus ⊢
        rw [statusOf_applyTaskStatusEvent, hold] at hstatus
        by_cases hnew : id = event.taskId ∧ event.status ∈ taskStatuses
        · simp only [hnew, and_self, if_true, Option.map_some, Option.some.injEq] at hstatus
          rw [hnew.1]
          exact idle_of_terminal (hstatus ▸ hterminal)
        · simp only [hnew, if_false, Option.map_some, Option.some.injEq] at hstatus
          exact absurd (hstatus ▸ hterminal) holdTerminal
      | cancel tenantId id' =>
        rcases step_cancel s tenantId id' with heq | ⟨task, htask, htenant, heq⟩
        · rw [heq, hold] at hstatus
          exact absurd (Option.some.inj hstatus ▸ hterminal) holdTerminal
        · rw [heq] at hstatus ⊢
          refine Idle.of_runs ?_ (runs_updateStatus _)
          by_cases hid : id = id'
          · subst hid
            have hstored : task.status = old := by simpa [statusOf, htask] using hold
            rcases hok task htask htenant with hcancelled | ⟨_, hidle⟩
            · rw [hstored] at hcancelled
              exact absurd (hcancelled ▸ by decide) holdTerminal
            · exact hidle
          · rw [statusOf_updateStatus (by decide), hold] at hstatus
            simp only [hid, if_false, Option.map_some, Option.some.injEq] at hstatus
            exact absurd (hstatus ▸ hterminal) holdTerminal
  | none =>
    rw [statusOf_step_none hold i] at hstatus
    cases hstatus

theorem terminal_stays_of_orderly (s : TaskStore) (h : s.Settled) (pre post : List TaskCall)
    (hok : EveryStep (fun s i => .next (step s i)) s Orderly (pre ++ post)) (id : Nat) (status : String)
    (hstatus : (pre.foldl step s).statusOf id = some status) (hterminal : isTerminalTaskStatus status = true) :
    ((pre ++ post).foldl step s).statusOf id = some status ∧ ((pre ++ post).foldl step s).Idle id := by
  have hpre := runFrom_total step pre s
  have hsettled : (pre.foldl step s).Settled := by
    refine EveryStep.invariant Settled ?_ h pre (hok.of_append rfl) _ hpre
    intro s i s' hs hi hstep
    cases hstep
    exact settled_step hs hi
  have hpost := (hok.of_append_right hpre).invariant
    (fun s => s.Settled ∧ s.statusOf id = some status ∧ s.Idle id) (fun s i s' hs hi hstep => by
      cases hstep
      exact ⟨settled_step hs.1 hi, terminal_step hs.1 hi hs.2.1 hterminal⟩)
    ⟨hsettled, hstatus, hsettled id status hstatus hterminal⟩ post _ (runFrom_total step post _)
  rw [foldl_append]
  exact hpost.2

def queued : TaskStore :=
  ⟨[⟨1, 7, none, "queued", none⟩], [], List.nodup_singleton _, List.Pairwise.nil⟩

lemma settled_queued : queued.Settled := by
  intro id status _ _ run hrun
  cases hrun

def succeeded : List TaskCall := [.event ⟨1, "running", none, some 3⟩ 10 0, .event ⟨1, "succeeded", none, some 3⟩ 11 1]

theorem repeated_success_stays :
    ((succeeded ++ [TaskCall.event ⟨1, "succeeded", none, some 3⟩ 12 2]).foldl step queued).statusOf 1 = some "succeeded" ∧
      ((succeeded ++ [TaskCall.event ⟨1, "succeeded", none, some 3⟩ 12 2]).foldl step queued).Idle 1 :=
  terminal_stays_of_orderly queued settled_queued succeeded _ (by decide) 1 "succeeded" (by decide) (by decide)

/-- A late event reopens a finished task, and a cancelled task keeps its open run. -/
theorem late_running_reopens :
    (([.event ⟨1, "succeeded", none, none⟩ 10 0] : List TaskCall).foldl step queued).statusOf 1 = some "succeeded" ∧
    (([.event ⟨1, "succeeded", none, none⟩ 10 0, .event ⟨1, "running", none, none⟩ 11 1] : List TaskCall).foldl step
      queued).statusOf 1 = some "running" ∧
    (([.event ⟨1, "running", none, none⟩ 10 0, .cancel 7 1] : List TaskCall).foldl step queued).statusOf 1 =
      some "cancelled" ∧
    ¬ (([.event ⟨1, "running", none, none⟩ 10 0, .cancel 7 1] : List TaskCall).foldl step queued).Idle 1 := by
  decide

end TaskStore
end Roz.Server
