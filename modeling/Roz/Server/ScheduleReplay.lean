import Roz.Lib.Replay

/-!
# Replay of the scheduled task workflow

`ScheduledTaskWorkflowImpl::run` as a program on the Restate context: its operations by kind and
by key or name, with the results that the journal records.  What `set` stores and the delay of
`send_after` are not part of an operation here.  A select over two promises makes both of them;
the result of the second is the signal that ends the wait.  The runtime is installed.

The loop looks at `Utc::now()`, which no journal records, to decide whether the next fire is
due (`replay_deterministic_iff`).
-/

namespace Roz.Server
open Replay

inductive ScheduledTaskSnapshot where
  | missing
  | present (name : String) (enabled : Bool) (nextFireAt lastFireAt : Option Int) (updatedAt : Int)
  deriving DecidableEq

structure ScheduledTaskIterationResult where
  snapshot : ScheduledTaskSnapshot
  dispatchedTaskIds : List Nat
  dispatchErrors : List String
  deriving DecidableEq

inductive ContextOp where
  | set (key : String)
  | get (key : String)
  | clear (key : String)
  | run (name : String)
  | sendAfter (handler : String)
  | promise (name : String)
  deriving DecidableEq

inductive ContextResult where
  | done
  | iteration (r : ScheduledTaskIterationResult)
  | snapshot (s : ScheduledTaskSnapshot)
  | waitSeq (seq : Option Nat)
  | signal (token reason : String)
  | failed
  deriving DecidableEq

def tickPromiseName (token : String) : String := "tick." ++ token

def refreshPromiseName (token : String) : String := "refresh." ++ token

inductive WorkflowPc where
  | start
  | execute
  | load
  | deleted
  | status (snapshot : ScheduledTaskSnapshot)
  | getSeq (snapshot : ScheduledTaskSnapshot)
  | setSeq (snapshot : ScheduledTaskSnapshot) (seq : Nat)
  | setToken (snapshot : ScheduledTaskSnapshot) (token : String)
  | recheck (snapshot : ScheduledTaskSnapshot) (token : String)
  | awaitRefresh (token : String)
  | readClock (nextFireAt : Int) (token : String)
  | sendTick (token : String)
  | tickPromise (token : String)
  | refreshPromise (token : String)
  | clearToken
  | returned
  deriving DecidableEq

namespace WorkflowPc

def act : WorkflowPc → Act ContextOp
  | .start => .op (.set "status")
  | .execute => .op (.run "scheduled_task.execute_iteration")
  | .load => .op (.run "scheduled_task.load_snapshot")
  | .deleted => .op (.set "status")
  | .status _ => .op (.set "status")
  | .getSeq _ => .op (.get "wait_seq")
  | .setSeq _ _ => .op (.set "wait_seq")
  | .setToken _ _ => .op (.set "wait_token")
  | .recheck _ _ => .op (.run "scheduled_task.recheck_snapshot")
  | .awaitRefresh token => .op (.promise (refreshPromiseName token))
  | .readClock _ _ => .clock
  | .sendTick _ => .op (.sendAfter "tick")
  | .tickPromise token => .op (.promise (tickPromiseName token))
  | .refreshPromise token => .op (.promise (refreshPromiseName token))
  | .clearToken => .op (.clear "wait_token")
  | .returned => .halt

def wait (snapshot : ScheduledTaskSnapshot) (token : String) : WorkflowPc :=
  match snapshot with
  | .present _ true (some nextFireAt) _ _ => .readClock nextFireAt token
  | .present _ _ _ _ _ => .awaitRefresh token
  | .missing => .returned

def resume : WorkflowPc → ContextResult → WorkflowPc
  | .start, _ => .execute
  | .execute, .iteration r => if r.snapshot = .missing then .deleted else .load
  | .load, .snapshot s => if s = .missing then .deleted else .status s
  | .status s, _ => .getSeq s
  | .getSeq s, .waitSeq seq => .setSeq s (seq.getD 0 + 1)
  | .setSeq s seq, _ => .setToken s (toString seq)
  | .setToken s token, _ => .recheck s token
  | .recheck s token, .snapshot rechecked => if rechecked ≠ s then .clearToken else wait s token
  | .awaitRefresh _, .signal _ _ => .clearToken
  | .sendTick token, _ => .tickPromise token
  | .tickPromise token, _ => .refreshPromise token
  | .refreshPromise _, .signal _ _ => .clearToken
  | .clearToken, _ => .execute
  | _, _ => .returned

def read : WorkflowPc → Int → WorkflowPc
  | .readClock nextFireAt token, now => if nextFireAt ≤ now then .clearToken else .sendTick token
  | pc, _ => pc

end WorkflowPc

def scheduledTaskWorkflow : Machine WorkflowPc ContextOp ContextResult Int :=
  ⟨WorkflowPc.act, WorkflowPc.resume, WorkflowPc.read⟩

def WorkflowPc.compared : WorkflowPc → Option Int
  | .readClock nextFireAt _ => some nextFireAt
  | _ => none

def SameSide (pc : WorkflowPc) (now now' : Int) : Prop :=
  ∀ nextFireAt ∈ pc.compared, nextFireAt ≤ now ↔ nextFireAt ≤ now'

instance decidableSameSide (pc : WorkflowPc) (now now' : Int) : Decidable (SameSide pc now now') :=
  inferInstanceAs (Decidable (∀ nextFireAt ∈ pc.compared, _))

lemma readClock_of_act {pc} (h : scheduledTaskWorkflow.act pc = .clock) :
    ∃ nextFireAt token, pc = .readClock nextFireAt token := by
  cases pc with
  | readClock nextFireAt token => exact ⟨nextFireAt, token, rfl⟩
  | _ => cases h

lemma branches_sameSide : Branches scheduledTaskWorkflow SameSide where
  same_read := by
    intro pc now now' hclock hsame
    obtain ⟨nextFireAt, token, rfl⟩ := readClock_of_act hclock
    show (if nextFireAt ≤ now' then WorkflowPc.clearToken else .sendTick token) =
      if nextFireAt ≤ now then .clearToken else .sendTick token
    rw [if_congr (hsame nextFireAt rfl).symm rfl rfl]
  different_op := by
    intro pc now now' hclock hdiff
    obtain ⟨nextFireAt, token, rfl⟩ := readClock_of_act hclock
    have hsides : ¬ (nextFireAt ≤ now ↔ nextFireAt ≤ now') := by
      intro hiff
      refine hdiff fun n hn => ?_
      obtain rfl := Option.some.inj hn
      exact hiff
    by_cases hdue : nextFireAt ≤ now
    · have hdue' : ¬ nextFireAt ≤ now' := fun h => hsides ⟨fun _ => h, fun _ => hdue⟩
      refine ⟨.clear "wait_token", .sendAfter "tick", ?_, ?_, by decide⟩
      · simp [scheduledTaskWorkflow, WorkflowPc.read, hdue, WorkflowPc.act]
      · simp [scheduledTaskWorkflow, WorkflowPc.read, hdue', WorkflowPc.act]
    · have hdue' : nextFireAt ≤ now' := by
        by_contra h
        exact hsides ⟨fun h' => absurd h' hdue, fun h' => absurd h' h⟩
      refine ⟨.sendAfter "tick", .clear "wait_token", ?_, ?_, by decide⟩
      · simp [scheduledTaskWorkflow, WorkflowPc.read, hdue, WorkflowPc.act]
      · simp [scheduledTaskWorkflow, WorkflowPc.read, hdue', WorkflowPc.act]

/-- Whatever the workflow did until it was suspended or crashed, and whatever the clock then
shows: the re-execution issues the recorded operations, in order, exactly if wherever an
operation followed a look at the clock the clock is again on that side of the next fire. -/
theorem replay_deterministic_iff (es : List (Event ContextResult Int)) (hruns : Runs scheduledTaskWorkflow .start es)
    (clock : List Int) (hlen : clock.length = (readings es).length) :
    reissue scheduledTaskWorkflow (journal scheduledTaskWorkflow .start es) .start clock =
        (journal scheduledTaskWorkflow .start es).map Prod.fst ↔
      SameReads scheduledTaskWorkflow SameSide .start es clock :=
  reissue_eq_iff branches_sameSide es .start clock hruns hlen

def nightly : ScheduledTaskSnapshot := .present "nightly" true (some 100) none 0

def waiting : List (Event ContextResult Int) :=
  [.result .done, .result (.iteration ⟨nightly, [], []⟩), .result (.snapshot nightly), .result .done,
    .result (.waitSeq none), .result .done, .result .done, .result (.snapshot nightly), .time 50, .result .done,
    .result .done]

theorem replayed_early : reissue scheduledTaskWorkflow (journal scheduledTaskWorkflow .start waiting) .start [60] =
    (journal scheduledTaskWorkflow .start waiting).map Prod.fst :=
  (replay_deterministic_iff waiting (by decide) [60] (by decide)).2 (by decide)

/-- Woken at 100 by its tick, it clears the token where the journal has the tick that it sent. -/
theorem replayed_at_tick_diverges : Runs scheduledTaskWorkflow .start waiting ∧
      reissue scheduledTaskWorkflow (journal scheduledTaskWorkflow .start waiting) .start [100] ≠
        (journal scheduledTaskWorkflow .start waiting).map Prod.fst := by
  decide

end Roz.Server
