import Mathlib.Data.List.Nodup
import Mathlib.Data.List.Pairwise

/-!
# Tasks and their runs (`roz-db/src/tasks.rs`)

The store carries what the schema enforces: task ids are distinct, and the partial unique index
`idx_task_runs_one_open_per_task` allows at most one unfinished run of a task.  A statement that
violates a `CHECK` constraint fails and changes nothing.  Ids and instants are numbers.
-/

namespace Roz.Server
open List

structure TaskRow where
  id : Nat
  tenantId : Nat
  hostId : Option Nat
  status : String
  parentTaskId : Option Nat
  deriving DecidableEq

structure TaskRunRow where
  id : Nat
  taskId : Nat
  tenantId : Nat
  hostId : Option Nat
  status : String
  startedAt : Int
  completedAt : Option Int
  errorMessage : Option String
  deriving DecidableEq

def taskStatuses : List String :=
  ["pending", "queued", "provisioning", "running", "succeeded", "failed", "timed_out", "cancelled", "safety_stop",
    "retrying"]

def runStatuses : List String := ["running", "succeeded", "failed", "timed_out", "cancelled", "safety_stop"]

def isTerminalTaskStatus (status : String) : Bool :=
  ["succeeded", "failed", "timed_out", "cancelled", "safety_stop"].contains status

def TaskRunRow.Apart (a b : TaskRunRow) : Prop := a.completedAt = none → b.completedAt = none → a.taskId ≠ b.taskId

instance TaskRunRow.apartSymm : Std.Symm TaskRunRow.Apart where
  symm _ _ h hb ha heq := h ha hb heq.symm

instance TaskRunRow.decidableApart (a b : TaskRunRow) : Decidable (a.Apart b) :=
  inferInstanceAs (Decidable (_ → _ → _))

def OneOpen (runs : List TaskRunRow) : Prop := runs.Pairwise TaskRunRow.Apart

instance decidableOneOpen (runs : List TaskRunRow) : Decidable (OneOpen runs) :=
  inferInstanceAs (Decidable (runs.Pairwise TaskRunRow.Apart))

structure TaskStore where
  tasks : List TaskRow
  runs : List TaskRunRow
  tasks_nodup : (tasks.map (·.id)).Nodup
  one_open : OneOpen runs

namespace TaskStore
variable (s : TaskStore) (id : Nat)
def getById : Option TaskRow := s.tasks.find? fun row => row.id == id

def statusOf : Option String := (s.getById id).map (·.status)

def Idle : Prop := ∀ run ∈ s.runs, run.taskId = id → run.completedAt ≠ none

instance decidableIdle (s : TaskStore) (id : Nat) : Decidable (s.Idle id) :=
  inferInstanceAs (Decidable (∀ run ∈ s.runs, _))

/-! ## Statements -/

def create (row : TaskRow) : TaskStore :=
  if h : row.id ∈ s.tasks.map (·.id) then s
  else
    { s with
      tasks := s.tasks ++ [row]
      tasks_nodup := by
        rw [List.map_append, List.nodup_append]
        refine ⟨s.tasks_nodup, List.nodup_singleton _, fun a ha b hb heq => h ?_⟩
        have hid : b = row.id := List.mem_singleton.1 hb
        exact hid ▸ heq ▸ ha }

def updateTask (f : TaskRow → TaskRow) (hf : ∀ row, (f row).id = row.id) : TaskStore :=
  { s with
    tasks := s.tasks.map fun row => if row.id = id then f row else row
    tasks_nodup := by
      rw [List.map_map]
      have hids : ((·.id) ∘ fun row => if row.id = id then f row else row) = (·.id : TaskRow → Nat) := by
        funext row
        show (if row.id = id then f row else row).id = row.id
        split
        · exact hf row
        · rfl
      rw [hids]
      exact s.tasks_nodup }

def updateStatus (status : String) : TaskStore :=
  if status ∈ taskStatuses then s.updateTask id (fun row => { row with status }) fun _ => rfl else s

def assignHost (id hostId : Nat) : TaskStore :=
  s.updateTask id (fun row => { row with hostId := some hostId }) fun _ => rfl

def activeRunForTask : Option TaskRunRow :=
  s.runs.find? fun run => run.taskId == id && run.completedAt.isNone

variable {s : TaskStore}
lemma activeRunForTask_eq_none {id} : s.activeRunForTask id = none ↔ s.Idle id := by
  unfold activeRunForTask Idle
  simp only [find?_eq_none, Bool.and_eq_true, beq_iff_eq, Option.isNone_iff_eq_none, not_and, ne_eq]

lemma activeRunForTask_eq_some {id run} (h : s.activeRunForTask id = some run) :
    run ∈ s.runs ∧ run.taskId = id ∧ run.completedAt = none := by
  have hrun := find?_some h
  simp only [Bool.and_eq_true, beq_iff_eq, Option.isNone_iff_eq_none] at hrun
  exact ⟨mem_of_find?_eq_some h, hrun⟩

/-- `INSERT … SELECT … FROM roz_tasks WHERE id = $1 ON CONFLICT … DO NOTHING`. -/
def ensureActiveRun (id : Nat) (hostId : Option Nat) (runId : Nat) (now : Int) : TaskStore :=
  match s.getById id with
  | none => s
  | some task =>
    if h : s.activeRunForTask id = none then
      { s with
        runs := s.runs ++ [⟨runId, id, task.tenantId, hostId, "running", now, none, none⟩]
        one_open := by
          refine List.pairwise_append.2 ⟨s.one_open, List.pairwise_singleton _ _, fun a ha b hb hopen _ heq => ?_⟩
          rw [List.mem_singleton.1 hb] at heq
          exact activeRunForTask_eq_none.1 h a ha heq hopen }
    else s

def completeActiveRunForTask (id : Nat) (status : String) (errorMessage : Option String) (now : Int) : TaskStore :=
  match s.activeRunForTask id with
  | none => s
  | some active =>
    if status ∈ runStatuses then
      { s with
        runs := s.runs.map fun run =>
          if run.id = active.id then { run with status, completedAt := some now, errorMessage } else run
        one_open := by
          refine List.pairwise_map.2 (s.one_open.imp fun {a b} hab ha hb => ?_)
          by_cases hida : a.id = active.id
          · rw [if_pos hida] at ha
            cases ha
          · by_cases hidb : b.id = active.id
            · rw [if_pos hidb] at hb
              cases hb
            · rw [if_neg hida] at ha ⊢
              rw [if_neg hidb] at hb ⊢
              exact hab ha hb }
    else s

/-! ## What they do to the status and the runs -/

variable {s : TaskStore} {id other : Nat}
lemma getById_updateTask (f : TaskRow → TaskRow) (hf : ∀ row, (f row).id = row.id) :
    (s.updateTask id f hf).getById other = (s.getById other).map fun row => if other = id then f row else row := by
  show (s.tasks.map fun row => if row.id = id then f row else row).find? (fun row => row.id == other) =
    (s.tasks.find? fun row => row.id == other).map fun row => if other = id then f row else row
  induction s.tasks with
  | nil => rfl
  | cons row tasks ih =>
    have hid : (if row.id = id then f row else row).id = row.id := by
      split
      · exact hf row
      · rfl
    by_cases hrow : row.id = other
    · subst hrow
      simp only [map_cons, find?_cons, hid, beq_self_eq_true, Option.map_some]
    · simp only [map_cons, find?_cons, hid, beq_false_of_ne hrow]
      exact ih

@[simp] lemma runs_create (row : TaskRow) : (s.create row).runs = s.runs := by
  unfold create
  split <;> rfl

lemma statusOf_create {row} (h : s.statusOf row.id = none) : (s.create row).statusOf row.id = some row.status := by
  have hmissing : s.getById row.id = none := by simpa [statusOf] using h
  have hfresh : row.id ∉ s.tasks.map (·.id) := by
    intro hmem
    obtain ⟨old, hold, heq⟩ := mem_map.1 hmem
    exact find?_eq_none.1 hmissing old hold (beq_iff_eq.2 heq)
  unfold statusOf getById create
  rw [dif_neg hfresh]
  show ((s.tasks ++ [row]).find? fun old => old.id == row.id).map (·.status) = some row.status
  have hfind : (s.tasks.find? fun old => old.id == row.id) = none := hmissing
  rw [find?_append, hfind]
  simp

variable {status : String}
lemma statusOf_updateStatus (h : status ∈ taskStatuses) :
    (s.updateStatus id status).statusOf other = (s.statusOf other).map fun old => if other = id then status else old := by
  unfold statusOf updateStatus
  rw [if_pos h, getById_updateTask, Option.map_map, Option.map_map]
  congr 1
  funext row
  by_cases heq : other = id
  · simp [heq]
  · simp [heq]

lemma updateStatus_of_notMem (h : status ∉ taskStatuses) : s.updateStatus id status = s := if_neg h

@[simp] lemma runs_updateStatus (status : String) : (s.updateStatus id status).runs = s.runs := by
  unfold updateStatus
  split <;> rfl

@[simp] lemma statusOf_assignHost (hostId : Nat) : (s.assignHost id hostId).statusOf other = s.statusOf other := by
  unfold statusOf assignHost
  rw [getById_updateTask, Option.map_map]
  congr 1
  funext row
  by_cases heq : other = id
  · simp [heq]
  · simp [heq]

@[simp] lemma runs_assignHost (hostId : Nat) : (s.assignHost id hostId).runs = s.runs := rfl

@[simp] lemma statusOf_ensureActiveRun (hostId : Option Nat) (runId : Nat) (now : Int) :
    (s.ensureActiveRun id hostId runId now).statusOf other = s.statusOf other := by
  unfold ensureActiveRun
  cases s.getById id with
  | none => rfl
  | some task =>
    dsimp only
    split <;> rfl

@[simp] lemma statusOf_completeActiveRunForTask (status : String) (errorMessage : Option String) (now : Int) :
    (s.completeActiveRunForTask id status errorMessage now).statusOf other = s.statusOf other := by
  unfold completeActiveRunForTask
  cases s.activeRunForTask id with
  | none => rfl
  | some active =>
    dsimp only
    split <;> rfl

lemma Idle.of_runs {s' : TaskStore} (h : s.Idle id) (hruns : s'.runs = s.runs) : s'.Idle id := by
  unfold Idle
  rw [hruns]
  exact h

lemma Idle.ensureActiveRun (h : s.Idle other) (hne : other ≠ id) (hostId : Option Nat) (runId : Nat) (now : Int) :
    (s.ensureActiveRun id hostId runId now).Idle other := by
  unfold TaskStore.ensureActiveRun
  cases s.getById id with
  | none => exact h
  | some task =>
    dsimp only
    split
    · intro run hrun heq
      rcases mem_append.1 hrun with hrun | hrun
      · exact h run hrun heq
      · rw [mem_singleton.1 hrun] at heq
        exact absurd heq.symm hne
    · exact h

lemma Idle.completeActiveRun (h : s.Idle other) (status : String) (errorMessage : Option String) (now : Int) :
    (s.completeActiveRunForTask id status errorMessage now).Idle other := by
  unfold completeActiveRunForTask
  cases s.activeRunForTask id with
  | none => exact h
  | some active =>
    dsimp only
    split
    · intro run' hrun' heq
      obtain ⟨run, hrun, rfl⟩ := mem_map.1 hrun'
      by_cases hid : run.id = active.id
      · simp [hid]
      · rw [if_neg hid] at heq ⊢
        exact h run hrun heq
    · exact h

lemma idle_completeActiveRun (h : status ∈ runStatuses) (errorMessage : Option String) (now : Int) :
    (s.completeActiveRunForTask id status errorMessage now).Idle id := by
  unfold completeActiveRunForTask
  cases hactive : s.activeRunForTask id with
  | none => exact activeRunForTask_eq_none.1 hactive
  | some active =>
    obtain ⟨hmem, htask, hopen⟩ := activeRunForTask_eq_some hactive
    dsimp only
    rw [if_pos h]
    intro run' hrun' heq
    obtain ⟨run, hrun, rfl⟩ := mem_map.1 hrun'
    by_cases hid : run.id = active.id
    · simp [hid]
    · rw [if_neg hid] at heq ⊢
      intro hopen'
      have hne : run ≠ active := fun hrunEq => hid (congrArg _ hrunEq)
      exact s.one_open.forall hrun hmem hne hopen' hopen (heq.trans htask.symm)

lemma mem_taskStatuses_of_terminal (h : isTerminalTaskStatus status = true) :
    status ∈ taskStatuses ∧ status ∈ runStatuses := by
  simp only [isTerminalTaskStatus, contains_iff_mem] at h
  simp only [taskStatuses, runStatuses, mem_cons, not_mem_nil, or_false] at h ⊢
  tauto

end TaskStore
end Roz.Server
