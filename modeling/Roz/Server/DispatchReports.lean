import Roz.Server.TaskStatus

/-!
# Dispatch and the worker's reports

`dispatch_task` (`roz-server/src/routes/task_dispatch.rs`) creates the task, publishes the
invocation and only then sets the status to `queued`; in two of its three scopes all this is in
a transaction that is committed later still.  The worker's status events are applied to what is
committed, so that they may find no task, or have their status overwritten.  Here one dispatch,
which goes through, is interleaved with the events of its task, statement by statement
(`reports_kept_iff`).
-/

namespace Roz.Server
open TaskStore TaskStatusEvent List Option

/-- The connection that `dispatch_task` is given: the transaction of a request, committed after
the handler, the transaction of a scheduled iteration, or a connection of the pool. -/
inductive DispatchScope where
  | request
  | scheduled
  | autocommit
  deriving DecidableEq

def DispatchScope.inTransaction : DispatchScope → Bool
  | .request | .scheduled => true
  | .autocommit => false

inductive DispatchPc where
  | create
  | assignHost
  | startWorkflow
  | publish
  | updateQueued
  | commit
  | done
  deriving DecidableEq

def DispatchPc.published : DispatchPc → Bool
  | .updateQueued | .commit | .done => true
  | _ => false

structure Dispatch where
  scope : DispatchScope
  taskId : Nat
  tenantId : Nat
  hostId : Nat
  parentTaskId : Option Nat
  deriving DecidableEq

/-- What is committed, the row as the dispatcher's transaction has it, how far the dispatcher is,
and the statements of the task's events that are still to come. -/
structure Dispatching where
  db : TaskStore
  draft : Option TaskRow
  pc : DispatchPc
  rest : List TaskStmt

inductive DispatchActor where
  | dispatcher
  | worker (runId : Nat) (now : Int)
  deriving DecidableEq

namespace Dispatch
variable (d : Dispatch)
def newTask : TaskRow := ⟨d.taskId, d.tenantId, none, "pending", d.parentTaskId⟩

variable (db : TaskStore)
def start (events : List TaskStatusEvent) : Dispatching :=
  ⟨db, none, .create, events.flatMap TaskStatusEvent.statements⟩

variable (s : Dispatching)
def dispatcherStep : Option Dispatching :=
  match s.pc with
  | .create =>
    if d.scope.inTransaction then some { s with draft := some d.newTask, pc := .assignHost }
    else some { s with db := s.db.create d.newTask, pc := .assignHost }
  | .assignHost =>
    if d.scope.inTransaction then
      some { s with draft := s.draft.map fun row => { row with hostId := some d.hostId }, pc := .startWorkflow }
    else some { s with db := s.db.assignHost d.taskId d.hostId, pc := .startWorkflow }
  | .startWorkflow => some { s with pc := .publish }
  | .publish => some { s with pc := .updateQueued }
  | .updateQueued =>
    if d.scope.inTransaction then
      some { s with draft := s.draft.map fun row => { row with status := "queued" }, pc := .commit }
    else some { s with db := s.db.updateStatus d.taskId "queued", pc := .done }
  | .commit => some { s with db := s.draft.elim s.db s.db.create, draft := none, pc := .done }
  | .done => none

def workerStep (runId : Nat) (now : Int) : Option Dispatching :=
  if s.pc.published then
    match s.rest with
    | [] => none
    | stmt :: rest => some { s with db := s.db.exec d.taskId runId now stmt, rest }
  else none

def step : DispatchActor → Option Dispatching
  | .dispatcher => d.dispatcherStep s
  | .worker runId now => d.workerStep s runId now

def run (actors : List DispatchActor) : Option Dispatching := actors.foldlM d.step s

def Reported (status : String) : Prop :=
  db.statusOf d.taskId = some status ∧ db.Idle d.taskId

instance decidableReported (d : Dispatch) (db : TaskStore) (status : String) : Decidable (d.Reported db status) :=
  inferInstanceAs (Decidable (_ ∧ _))

/-! ## What the steps keep -/

variable {d : Dispatch} {s s' : Dispatching} {last : TaskStatusEvent}

/-- The statements to come end with those that close the run and set the status; once the run is
closed, no statement opens one. -/
def Closing (d : Dispatch) (last : TaskStatusEvent) (s : Dispatching) : Prop :=
  (∃ pre, s.rest = pre ++ [.completeActiveRun last.status last.detail, .updateStatus last.status]) ∨
    (s.rest = [.updateStatus last.status] ∨ s.rest = []) ∧ s.db.Idle d.taskId

def Placed (d : Dispatch) (s : Dispatching) : Prop :=
  match s.pc with
  | .create => s.db.statusOf d.taskId = none
  | .commit => s.db.statusOf d.taskId = none ∧ ∃ row, s.draft = some row ∧ row.id = d.taskId ∧ row.status = "queued"
  | .done => (s.db.statusOf d.taskId).isSome
  | _ =>
    if d.scope.inTransaction then s.db.statusOf d.taskId = none ∧ ∃ row, s.draft = some row ∧ row.id = d.taskId
    else (s.db.statusOf d.taskId).isSome

variable (db : TaskStore)
lemma isSome_statusOf_exec (id runId : Nat) (now : Int) (stmt : TaskStmt) (other : Nat) :
    ((db.exec id runId now stmt).statusOf other).isSome = (db.statusOf other).isSome := by
  cases stmt with
  | updateStatus status =>
    simp only [exec]
    by_cases hstatus : status ∈ taskStatuses
    · rw [statusOf_updateStatus hstatus, isSome_map]
    · rw [updateStatus_of_notMem hstatus]
  | _ => rw [statusOf_exec (by simp)]

lemma closing_start (events : List TaskStatusEvent) (h : isTerminalTaskStatus last.status = true) :
    d.Closing last (start db (events ++ [last])) := by
  have hrunning : last.status ≠ "running" := by
    intro heq
    rw [heq] at h
    cases h
  refine .inl ⟨events.flatMap statements ++
    (last.hostId.toList.map .assignHost ++ [.ensureRunIfNone last.hostId]), ?_⟩
  simp [start, statements, runStatements, hrunning, h]

lemma closing_of_eq (h : d.Closing last s) (hrest : s'.rest = s.rest) (hruns : s'.db.runs = s.db.runs) :
    d.Closing last s' := by
  unfold Closing
  rw [hrest]
  exact h.imp_right fun h => ⟨h.1, h.2.of_runs hruns⟩

inductive DispatcherMoves (d : Dispatch) (s : Dispatching) : Dispatching → Prop
  | draftTask (hpc : s.pc = .create) (hscope : d.scope.inTransaction = true) :
      DispatcherMoves d s { s with draft := some d.newTask, pc := .assignHost }
  | createTask (hpc : s.pc = .create) (hscope : d.scope.inTransaction = false) :
      DispatcherMoves d s { s with db := s.db.create d.newTask, pc := .assignHost }
  | draftHost (hpc : s.pc = .assignHost) (hscope : d.scope.inTransaction = true) :
      DispatcherMoves d s
        { s with draft := s.draft.map fun row => { row with hostId := some d.hostId }, pc := .startWorkflow }
  | assignHost (hpc : s.pc = .assignHost) (hscope : d.scope.inTransaction = false) :
      DispatcherMoves d s { s with db := s.db.assignHost d.taskId d.hostId, pc := .startWorkflow }
  | startWorkflow (hpc : s.pc = .startWorkflow) : DispatcherMoves d s { s with pc := .publish }
  | publish (hpc : s.pc = .publish) : DispatcherMoves d s { s with pc := .updateQueued }
  | draftQueued (hpc : s.pc = .updateQueued) (hscope : d.scope.inTransaction = true) :
      DispatcherMoves d s { s with draft := s.draft.map fun row => { row with status := "queued" }, pc := .commit }
  | updateQueued (hpc : s.pc = .updateQueued) (hscope : d.scope.inTransaction = false) :
      DispatcherMoves d s { s with db := s.db.updateStatus d.taskId "queued", pc := .done }
  | commit (hpc : s.pc = .commit) :
      DispatcherMoves d s { s with db := s.draft.elim s.db s.db.create, draft := none, pc := .done }

lemma dispatcherMoves_of_step (h : d.dispatcherStep s = some s') : d.DispatcherMoves s s' := by
  unfold dispatcherStep at h
  cases hpc : s.pc with
  | create =>
    simp only [hpc] at h
    split at h <;> rename_i hscope <;> cases h
    · exact .draftTask hpc hscope
    · exact .createTask hpc (eq_false_of_ne_true hscope)
  | assignHost =>
    simp only [hpc] at h
    split at h <;> rename_i hscope <;> cases h
    · exact .draftHost hpc hscope
    · exact .assignHost hpc (eq_false_of_ne_true hscope)
  | startWorkflow =>
    simp only [hpc] at h
    cases h
    exact .startWorkflow hpc
  | publish =>
    simp only [hpc] at h
    cases h
    exact .publish hpc
  | updateQueued =>
    simp only [hpc] at h
    split at h <;> rename_i hscope <;> cases h
    · exact .draftQueued hpc hscope
    · exact .updateQueued hpc (eq_false_of_ne_true hscope)
  | commit =>
    simp only [hpc] at h
    cases h
    exact .commit hpc
  | done => simp [hpc] at h

lemma dispatcherStep_runs (h : d.dispatcherStep s = some s') : s'.rest = s.rest ∧ s'.db.runs = s.db.runs := by
  cases dispatcherMoves_of_step h with
  | createTask => exact ⟨rfl, runs_create _⟩
  | assignHost => exact ⟨rfl, runs_assignHost _⟩
  | updateQueued => exact ⟨rfl, runs_updateStatus _⟩
  | commit =>
    cases s.draft with
    | none => exact ⟨rfl, rfl⟩
    | some row => exact ⟨rfl, runs_create row⟩
  | _ => exact ⟨rfl, rfl⟩

lemma workerStep_eq {runId now} (h : d.workerStep s runId now = some s') :
    s.pc.published = true ∧ ∃ stmt, s.rest = stmt :: s'.rest ∧
      s' = { s with db := s.db.exec d.taskId runId now stmt, rest := s'.rest } := by
  unfold workerStep at h
  by_cases hpub : s.pc.published = true
  · rw [if_pos hpub] at h
    cases hrest : s.rest with
    | nil => simp [hrest] at h
    | cons stmt rest =>
      simp only [hrest, Option.some.injEq] at h
      subst h
      exact ⟨hpub, stmt, rfl, rfl⟩
  · rw [if_neg hpub] at h
    cases h

variable {a : DispatchActor}
lemma closing_step (hlast : isTerminalTaskStatus last.status = true) (h : d.Closing last s)
    (hstep : d.step s a = some s') : d.Closing last s' := by
  cases a with
  | dispatcher =>
    obtain ⟨hrest, hruns⟩ := dispatcherStep_runs hstep
    exact closing_of_eq h hrest hruns
  | worker runId now =>
    obtain ⟨_, stmt, hrest, heq⟩ := workerStep_eq hstep
    rcases h with ⟨pre, hpre⟩ | ⟨hrest' | hrest', hidle⟩
    · rw [hrest] at hpre
      cases pre with
      | nil =>
        -- the run is closed
        obtain ⟨rfl, hnext⟩ := List.cons.inj hpre
        refine .inr ⟨.inl hnext, ?_⟩
        rw [heq]
        exact idle_completeActiveRun (mem_taskStatuses_of_terminal hlast).2 _ _
      | cons stmt' pre => exact .inl ⟨pre, (List.cons.inj hpre).2⟩
    · rw [hrest] at hrest'
      obtain ⟨rfl, hnext⟩ := List.cons.inj hrest'
      refine .inr ⟨.inr hnext, ?_⟩
      rw [heq]
      exact hidle.of_runs (runs_updateStatus _)
    · rw [hrest] at hrest'
      cases hrest'

lemma placed_step (h : d.Placed s) (hstep : d.step s a = some s') : d.Placed s' := by
  cases a with
  | worker runId now =>
    obtain ⟨_, stmt, _, heq⟩ := workerStep_eq hstep
    have hsome := isSome_statusOf_exec s.db d.taskId runId now stmt d.taskId
    have hnone : (s.db.exec d.taskId runId now stmt).statusOf d.taskId = none ↔ s.db.statusOf d.taskId = none := by
      rw [← isNone_iff_eq_none, ← isNone_iff_eq_none, ← not_isSome, ← not_isSome, hsome]
    rw [heq]
    unfold Placed at h ⊢
    simp only [hsome, hnone]
    exact h
  | dispatcher =>
    unfold Placed at h
    cases dispatcherMoves_of_step hstep with
    | draftTask hpc hscope =>
      simp only [hpc] at h
      simp only [Placed, hscope, if_true]
      exact ⟨h, d.newTask, rfl, rfl⟩
    | createTask hpc hscope =>
      simp only [hpc] at h
      have hnew : (s.db.create d.newTask).statusOf d.taskId = some "pending" := statusOf_create h
      simp [Placed, hscope, hnew]
    | draftHost hpc hscope =>
      simp only [hpc, hscope, if_true] at h
      obtain ⟨hnone, row, hrow, hid⟩ := h
      simp only [Placed, hscope, if_true]
      exact ⟨hnone, { row with hostId := some d.hostId }, by rw [hrow]; rfl, hid⟩
    | assignHost hpc hscope =>
      simp only [hpc, hscope] at h
      simp only [Placed, hscope, statusOf_assignHost]
      exact h
    | startWorkflow hpc =>
      simp only [hpc] at h
      exact h
    | publish hpc =>
      simp only [hpc] at h
      exact h
    | draftQueued hpc hscope =>
      simp only [hpc, hscope, if_true] at h
      obtain ⟨hnone, row, hrow, hid⟩ := h
      exact ⟨hnone, { row with status := "queued" }, by rw [hrow]; rfl, hid, rfl⟩
    | updateQueued hpc hscope =>
      simp only [hpc, hscope] at h
      show ((s.db.updateStatus d.taskId "queued").statusOf d.taskId).isSome
      rw [statusOf_updateStatus (by decide), isSome_map]
      exact h
    | commit hpc =>
      simp only [hpc] at h
      obtain ⟨hnone, row, hrow, hid, _⟩ := h
      show ((s.draft.elim s.db s.db.create).statusOf d.taskId).isSome
      rw [hrow, elim_some, ← hid, statusOf_create (hid ▸ hnone)]
      rfl

lemma queued_of_dispatcher_last (h : d.Placed s) (hstep : d.dispatcherStep s = some s') (hdone : s'.pc = .done) :
    s'.db.statusOf d.taskId = some "queued" := by
  unfold Placed at h
  cases dispatcherMoves_of_step hstep with
  | updateQueued hpc hscope =>
    simp only [hpc, hscope] at h
    obtain ⟨status, hstatus⟩ := isSome_iff_exists.1 h
    show (s.db.updateStatus d.taskId "queued").statusOf d.taskId = some "queued"
    rw [statusOf_updateStatus (by decide), hstatus]
    simp
  | commit hpc =>
    simp only [hpc] at h
    obtain ⟨hnone, row, hrow, hid, hqueued⟩ := h
    show (s.draft.elim s.db s.db.create).statusOf d.taskId = some "queued"
    rw [hrow, elim_some, ← hid, statusOf_create (hid ▸ hnone), hqueued]
  | _ => cases hdone

lemma run_append_singleton (actors : List DispatchActor) (a : DispatchActor) :
    d.run s (actors ++ [a]) = (d.run s actors).bind fun s => d.step s a := by
  unfold run
  rw [foldlM_append]
  simp

lemma run_kept (hlast : isTerminalTaskStatus last.status = true) {s₀} (hclosing : d.Closing last s₀)
    (hplaced : d.Placed s₀) (actors : List DispatchActor) :
    ∀ s, d.run s₀ actors = some s → d.Closing last s ∧ d.Placed s := by
  induction actors using List.reverseRecOn with
  | nil =>
    intro s hrun
    cases hrun
    exact ⟨hclosing, hplaced⟩
  | append_singleton actors a ih =>
    intro s hrun
    rw [run_append_singleton] at hrun
    obtain ⟨s₁, hrun₁, hstep⟩ := bind_eq_some_iff.1 hrun
    obtain ⟨hclosing₁, hplaced₁⟩ := ih s₁ hrun₁
    exact ⟨closing_step hlast hclosing₁ hstep, placed_step hplaced₁ hstep⟩

/-- Once the dispatch is committed and the events, which end with a terminal one, are applied, the
status is the last one reported and no run is open exactly if the last statement of all was the
worker's. -/
theorem reports_kept_iff (d : Dispatch) (db : TaskStore) (hfresh : db.statusOf d.taskId = none)
    (events : List TaskStatusEvent) (last : TaskStatusEvent) (hlast : isTerminalTaskStatus last.status = true)
    (actors : List DispatchActor) (s : Dispatching) (hrun : d.run (start db (events ++ [last])) actors = some s)
    (hdone : s.pc = .done) (hrest : s.rest = []) :
    d.Reported s.db last.status ↔ ∃ runId now, actors.getLast? = some (.worker runId now) := by
  rcases eq_nil_or_concat actors with rfl | ⟨actors, a, rfl⟩
  · cases hrun
    cases hdone
  rw [concat_eq_append] at hrun ⊢
  rw [run_append_singleton] at hrun
  obtain ⟨s₁, hrun₁, hstep⟩ := bind_eq_some_iff.1 hrun
  obtain ⟨hclosing, hplaced⟩ := run_kept hlast (closing_start db events hlast) hfresh actors s₁ hrun₁
  rw [getLast?_concat]
  cases a with
  | dispatcher =>
    have hqueued := queued_of_dispatcher_last hplaced hstep hdone
    constructor
    · rintro ⟨hstatus, _⟩
      rw [hqueued] at hstatus
      rw [← Option.some.inj hstatus] at hlast
      cases hlast
    · rintro ⟨runId, now, heq⟩
      cases heq
  | worker runId now =>
    refine ⟨fun _ => ⟨runId, now, rfl⟩, fun _ => ?_⟩
    obtain ⟨_, stmt, hrest₁, heq⟩ := workerStep_eq hstep
    rw [hrest] at hrest₁ heq
    have hdone₁ : s₁.pc = .done := by
      rw [heq] at hdone
      exact hdone
    unfold Placed at hplaced
    simp only [hdone₁] at hplaced
    obtain ⟨old, hold⟩ := isSome_iff_exists.1 hplaced
    rcases hclosing with ⟨pre, hpre⟩ | ⟨hupdate | hnil, hidle⟩
    · -- two statements would be left
      rw [hrest₁] at hpre
      have hlength := congrArg List.length hpre
      simp at hlength
    · rw [hrest₁] at hupdate
      obtain ⟨rfl, _⟩ := List.cons.inj hupdate
      rw [heq]
      refine ⟨?_, hidle.of_runs (runs_updateStatus _)⟩
      show (s₁.db.updateStatus d.taskId last.status).statusOf d.taskId = some last.status
      rw [statusOf_updateStatus (mem_taskStatuses_of_terminal hlast).1, hold]
      simp
    · rw [hrest₁] at hnil
      cases hnil

def byRequest : Dispatch := ⟨.request, 1, 7, 3, none⟩

def ran : Dispatching :=
  start ⟨[], [], List.nodup_nil, List.Pairwise.nil⟩ ([⟨1, "running", none, some 3⟩] ++ [⟨1, "succeeded", none, none⟩])

def patient : List DispatchActor := List.replicate 6 .dispatcher ++ List.replicate 6 (.worker 10 0)

theorem patient_reported : ∃ s, byRequest.run ran patient = some s ∧ byRequest.Reported s.db "succeeded" :=
  ⟨(byRequest.run ran patient).get (by decide), (some_get _).symm,
    (reports_kept_iff byRequest _ (by decide) _ ⟨1, "succeeded", none, none⟩ (by decide) patient _
      (some_get _).symm (by decide) (by decide)).2 ⟨10, 0, by decide⟩⟩

/-- The worker is done before the request is committed: its reports found no task, and the task
stays `queued`. -/
theorem eager_reports_lost : (byRequest.run ran (List.replicate 4 .dispatcher ++ List.replicate 6 (.worker 10 0) ++
      List.replicate 2 .dispatcher)).map (fun s => (s.pc, s.rest, s.db.statusOf 1)) = some (.done, [], some "queued") := by
  decide

end Dispatch
end Roz.Server
