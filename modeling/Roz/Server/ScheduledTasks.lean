import Roz.Core.Schedule
import Roz.Lib.Run

/-!
# Scheduled tasks (`roz-server/src/restate/scheduled_task_workflow.rs`)

`execute_iteration` dispatches a task for every due run and then advances the row, all in one
transaction; an invocation is out as soon as it is published, whatever becomes of the
transaction.  Restate repeats an attempt that failed, and the workflow comes back for the next
iteration, so that its life is a list of attempts, each from the row as the last commit left it.
What may fail in an attempt is its script: how each dispatch ends, and whether the transaction
commits.  The row is valid and edited by nobody else; the clock does not run backwards
(`published_once_of_unbroken`).
-/

namespace Roz.Server
open StepRun List
open Roz.Core

/-- How a call of `dispatch_task` ends.  A database error aborts the transaction. -/
inductive DispatchOutcome where
  | refused
  | failedAtDb
  | queued
  | publishedThenFailedAtDb
  deriving DecidableEq

namespace DispatchOutcome

def publishes : DispatchOutcome → Bool
  | .queued | .publishedThenFailedAtDb => true
  | _ => false

def abortsTransaction : DispatchOutcome → Bool
  | .failedAtDb | .publishedThenFailedAtDb => true
  | _ => false

end DispatchOutcome

structure ScheduledTaskRow where
  enabled : Bool
  catchUpPolicy : CatchUpPolicy
  nextFireAt : Option Int
  lastFireAt : Option Int
  deriving DecidableEq

/-- The dispatches of an attempt as far as the process lives, and whether the transaction, if it
is not aborted, is committed. -/
structure Attempt where
  dispatches : List DispatchOutcome
  commits : Bool
  deriving DecidableEq

/-- The row, the clock, and the occurrences for which an invocation was published. -/
structure ScheduledWorkflow where
  row : Option ScheduledTaskRow
  now : Int
  published : List Int
  deriving DecidableEq

inductive ScheduleStep where
  | pass (nanos : Nat)
  | attempt (a : Attempt)
  deriving DecidableEq

/-- The loop over the due runs: the occurrences published, and whether the loop ended with a
transaction that can go on.  In an aborted transaction every further statement fails. -/
def dispatchDueRuns : (due : List Int) → List DispatchOutcome → List Int × Bool
  | [], _ => ([], true)
  | _ :: _, [] => ([], false)
  | occurrence :: due, outcome :: outcomes =>
    match outcome with
    | .refused => dispatchDueRuns due outcomes
    | .failedAtDb => ([], false)
    | .queued => ((occurrence :: (dispatchDueRuns due outcomes).1), (dispatchDueRuns due outcomes).2)
    | .publishedThenFailedAtDb => ([occurrence], false)

def ScheduledTaskRow.progress (row : ScheduledTaskRow) (resolution : CatchUpResolution) : ScheduledTaskRow :=
  if resolution.dueRuns ≠ [] ∨ resolution.nextFireAtUtc ≠ row.nextFireAt then
    { row with
      lastFireAt := resolution.dueRuns.getLast?.or row.lastFireAt
      nextFireAt := resolution.nextFireAtUtc }
  else row

namespace ScheduledWorkflow
section Iteration
variable (after : Int → Nat → Option Int) (s : ScheduledWorkflow)
def resolution : Option CatchUpResolution :=
  match s.row with
  | none => none
  | some row => if row.enabled then resolveCatchUp after row.nextFireAt s.now row.catchUpPolicy else none

def executeIteration (a : Attempt) : ScheduledWorkflow :=
  match s.resolution after with
  | none => s
  | some resolution =>
    let dispatched := dispatchDueRuns resolution.dueRuns a.dispatches
    { s with
      published := s.published ++ dispatched.1
      row := if dispatched.2 && a.commits then s.row.map fun row => row.progress resolution else s.row }

def step : ScheduleStep → ScheduledWorkflow
  | .pass nanos => { s with now := s.now + nanos }
  | .attempt a => s.executeIteration after a

/-- The attempt publishes nothing, or nothing keeps it from committing: no dispatch fails at the
database, the process lives to the last one, and the commit succeeds. -/
def Unbroken : ScheduleStep → Prop
  | .pass _ => True
  | .attempt a => (∀ o ∈ a.dispatches, o.publishes = false) ∨
      a.commits = true ∧ (∀ o ∈ a.dispatches, o.abortsTransaction = false) ∧
        ∀ r ∈ s.resolution after, r.dueRuns.length ≤ a.dispatches.length

instance decidableUnbroken (s : ScheduledWorkflow) : (i : ScheduleStep) → Decidable (s.Unbroken after i)
  | .pass _ => .isTrue trivial
  | .attempt _ => inferInstanceAs (Decidable (_ ∨ _))

end Iteration

/-! ## The loop -/

variable (due : List Int)
lemma dispatchDueRuns_sublist : ∀ outcomes, (dispatchDueRuns due outcomes).1.Sublist due := by
  induction due with
  | nil => exact fun _ => List.Sublist.refl []
  | cons occurrence due ih =>
    intro outcomes
    cases outcomes with
    | nil => exact nil_sublist _
    | cons outcome outcomes =>
      cases outcome with
      | refused => exact (ih outcomes).cons occurrence
      | failedAtDb => exact nil_sublist _
      | queued => exact (ih outcomes).cons_cons occurrence
      | publishedThenFailedAtDb => exact (nil_sublist due).cons_cons occurrence

lemma dispatchDueRuns_of_not_publishes :
    ∀ outcomes : List DispatchOutcome, (∀ o ∈ outcomes, o.publishes = false) → (dispatchDueRuns due outcomes).1 = [] := by
  induction due with
  | nil => exact fun _ _ => rfl
  | cons occurrence due ih =>
    intro outcomes h
    cases outcomes with
    | nil => rfl
    | cons outcome outcomes =>
      have hfirst := h outcome mem_cons_self
      have hrest := ih outcomes fun o ho => h o (mem_cons_of_mem _ ho)
      cases outcome with
      | refused => exact hrest
      | failedAtDb => rfl
      | queued => cases hfirst
      | publishedThenFailedAtDb => cases hfirst

lemma dispatchDueRuns_of_not_aborts {due} :
    ∀ outcomes : List DispatchOutcome, (∀ o ∈ outcomes, o.abortsTransaction = false) → due.length ≤ outcomes.length →
      (dispatchDueRuns due outcomes).2 = true := by
  induction due with
  | nil => exact fun _ _ _ => rfl
  | cons occurrence due ih =>
    intro outcomes h hlength
    cases outcomes with
    | nil => simp at hlength
    | cons outcome outcomes =>
      have hfirst := h outcome mem_cons_self
      have hrest := ih outcomes (fun o ho => h o (mem_cons_of_mem _ ho)) (by simpa using hlength)
      cases outcome with
      | refused => exact hrest
      | failedAtDb => cases hfirst
      | queued => exact hrest
      | publishedThenFailedAtDb => cases hfirst

/-! ## Runs -/

structure Ahead (s : ScheduledWorkflow) : Prop where
  nodup : s.published.Nodup
  past : ∀ f ∈ s.published, f ≤ s.now
  next : ∀ f ∈ s.published, ∀ row ∈ s.row, ∀ n ∈ row.nextFireAt, f < n ∧ second ∣ n

variable {after : Int → Nat → Option Int} {fires : Set Int} {s : ScheduledWorkflow}
lemma progress_nextFireAt (row : ScheduledTaskRow) (r : CatchUpResolution) :
    (row.progress r).nextFireAt = r.nextFireAtUtc := by
  unfold ScheduledTaskRow.progress
  split
  · rfl
  · rename_i h
    exact (not_not.1 (not_or.1 h).2).symm

variable {r : CatchUpResolution}
lemma resolution_eq_some (hr : s.resolution after = some r) :
    ∃ row, s.row = some row ∧ resolveCatchUp after row.nextFireAt s.now row.catchUpPolicy = some r := by
  unfold resolution at hr
  cases hrow : s.row with
  | none => simp [hrow] at hr
  | some row =>
    simp only [hrow] at hr
    split at hr
    · exact ⟨row, rfl, hr⟩
    · cases hr

lemma ahead_pass (h : s.Ahead) (nanos : Nat) : ({ s with now := s.now + nanos } : ScheduledWorkflow).Ahead where
  nodup := h.nodup
  past := by
    intro f hf
    have := h.past f hf
    show f ≤ s.now + nanos
    omega
  next := h.next

section
variable (h : s.Ahead) (hcron : Enumerates after fires)
include h hcron

variable {row : ScheduledTaskRow}
lemma Ahead.due_later (hrow : s.row = some row) (hr : Forward fires row.nextFireAt s.now r)
    {f d} (hf : f ∈ s.published) (hd : d ∈ r.dueRuns) : f < d := by
  obtain ⟨hfire, -, c, hc, hbefore⟩ := hr.due d hd
  obtain ⟨hfc, hwhole⟩ := h.next f hf row hrow c hc
  have hle := (second_before_iff (hcron.wholeSeconds d hfire) hwhole).1 hbefore
  omega

lemma Ahead.next_later (hrow : s.row = some row) (hr : Forward fires row.nextFireAt s.now r)
    {f n} (hf : f ∈ s.published) (hn : n ∈ r.nextFireAtUtc) : f < n ∧ second ∣ n := by
  rcases hr.next n hn with ⟨-, hsame⟩ | ⟨hfire, hafter, hnow⟩
  · exact h.next f hf row hrow n hsame
  · refine ⟨?_, hcron.wholeSeconds n hfire⟩
    cases hruns : r.dueRuns with
    | nil =>
      have hlt := hnow hruns
      have hpast := h.past f hf
      omega
    | cons d due =>
      have hmem : d ∈ r.dueRuns := hruns ▸ mem_cons_self
      have hlt := hafter d hmem
      have hdue := h.due_later hcron hrow hr hf hmem
      omega

lemma ahead_progress (hr : s.resolution after = some r) :
    ({ s with row := s.row.map fun row => row.progress r } : ScheduledWorkflow).Ahead := by
  obtain ⟨row, hrow, hresolve⟩ := resolution_eq_some hr
  refine { h with next := ?_ }
  intro f hf row' hrow' n hn
  rw [hrow] at hrow'
  cases hrow'
  rw [progress_nextFireAt] at hn
  exact h.next_later hcron hrow (resolveCatchUp_forward hcron hresolve) hf hn

lemma ahead_executeIteration {a} (hok : s.Unbroken after (.attempt a)) : (s.executeIteration after a).Ahead := by
  unfold executeIteration
  cases hr : s.resolution after with
  | none => exact h
  | some r =>
    dsimp only
    rcases hok with hsilent | ⟨hcommits, haborts, hlives⟩
    · rw [dispatchDueRuns_of_not_publishes r.dueRuns a.dispatches hsilent, append_nil]
      split
      · exact ahead_progress h hcron hr
      · exact h
    · rw [dispatchDueRuns_of_not_aborts a.dispatches haborts (hlives r hr), hcommits, Bool.and_self, if_pos rfl]
      obtain ⟨row, hrow, hresolve⟩ := resolution_eq_some hr
      have hforward := resolveCatchUp_forward hcron hresolve
      have hsub := dispatchDueRuns_sublist r.dueRuns a.dispatches
      refine ⟨?_, fun f hf => ?_, fun f hf row' hrow' n hn => ?_⟩
      · refine nodup_append.2 ⟨h.nodup, ?_, fun f hf d hd heq => ?_⟩
        · exact (hforward.sorted.imp fun hlt => ne_of_lt hlt).sublist hsub
        · have hlt := h.due_later hcron hrow hforward hf (hsub.subset hd)
          omega
      · rcases mem_append.1 hf with hf | hf
        · exact h.past f hf
        · exact (hforward.due f (hsub.subset hf)).2.1
      · rw [hrow] at hrow'
        cases hrow'
        rw [progress_nextFireAt] at hn
        rcases mem_append.1 hf with hf | hf
        · exact h.next_later hcron hrow hforward hf hn
        · have hmem := hsub.subset hf
          rcases hforward.next n hn with ⟨hnil, -⟩ | ⟨hfire, hafter, -⟩
          · rw [hnil] at hmem
            cases hmem
          · exact ⟨hafter f hmem, hcron.wholeSeconds n hfire⟩

lemma ahead_step {i} (hok : s.Unbroken after i) : (s.step after i).Ahead := by
  cases i with
  | pass nanos => exact ahead_pass h nanos
  | attempt a => exact ahead_executeIteration h hcron hok

end

/-- If every attempt that publishes an invocation commits, then no occurrence is published twice,
whatever the row and the policy. -/
theorem published_once_of_unbroken (after : Int → Nat → Option Int) (fires : Set Int) (hcron : Enumerates after fires)
    (row : Option ScheduledTaskRow) (now : Int) (steps : List ScheduleStep)
    (hok : EveryStep (fun s i => .next (step after s i)) ⟨row, now, []⟩ (Unbroken after) steps) (s : ScheduledWorkflow)
    (hrun : runFrom (fun s i => .next (step after s i)) ⟨row, now, []⟩ steps = .next s) : s.published.Nodup := by
  have hstart : (⟨row, now, []⟩ : ScheduledWorkflow).Ahead :=
    ⟨nodup_nil, forall_mem_nil _, forall_mem_nil _⟩
  refine (EveryStep.invariant Ahead ?_ hstart steps hok s hrun).nodup
  intro s i s' hs hi hstep
  cases hstep
  exact ahead_step hs hcron hi

def hourlyRow : ScheduledTaskRow := ⟨true, .runAll, some 0, none⟩

/-- A first attempt fails before it publishes anything; the second one commits; an hour later
there is one more run. -/
def recovered : List ScheduleStep :=
  [.attempt ⟨[.failedAtDb], false⟩, .attempt ⟨[.queued], true⟩, .pass 3600000000000, .attempt ⟨[.queued], true⟩]

theorem recovered_published_once : (recovered.foldl (step hourly) ⟨some hourlyRow, 0, []⟩).published = [0, hour] ∧
      (recovered.foldl (step hourly) ⟨some hourlyRow, 0, []⟩).published.Nodup :=
  ⟨by decide, published_once_of_unbroken hourly _ hourly_enumerates (some hourlyRow) 0 recovered
    (by decide) _ (runFrom_total _ _ _)⟩

/-- The invocation is published, the commit fails, and the next attempt publishes it again. -/
theorem retried_published_twice :
    (([.attempt ⟨[.queued], false⟩, .attempt ⟨[.queued], true⟩] : List ScheduleStep).foldl (step hourly)
      ⟨some hourlyRow, 0, []⟩).published = [0, 0] := by
  decide

end ScheduledWorkflow
end Roz.Server
