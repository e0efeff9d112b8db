import Roz.Server.ScheduledTasks

/-!
# Edits of a schedule that fires (`update_scheduled_task` and `execute_iteration`)

Both read the row and write it later from what they read, an update every column and a firing the two
fire times.  A write holds the row until its commit, so that these two are one step.  Nothing is lost
if no other write comes between a read and its write (`sound_of_alone`, `edit_overwritten`).
-/

namespace Roz.Server
open StepRun Roz.Core

structure CronRow (Cron : Type) extends ScheduledTaskRow where
  cron : Cron

/-- A request, with what `resolve_schedule` makes of the row's cron and timezone. -/
structure ScheduleEdit (Cron : Type) where
  schedule : Cron → Cron
  enabled : Option Bool
  catchUpPolicy : Option CatchUpPolicy

/-- The committed row, and what each transaction has read, at the start if not later. -/
structure EditedRow (Cron : Type) where
  row : CronRow Cron
  reads : Nat → CronRow Cron

inductive EditStep (Cron : Type) where
  | read (tx : Nat)
  | update (tx : Nat) (edit : ScheduleEdit Cron) (now : Int)
  | fire (tx : Nat) (now : Int)

variable {Cron : Type} (after : Cron → Int → Nat → Option Int) (fires : Cron → Set Int)

namespace CronRow
variable (row : CronRow Cron)
def update (edit : ScheduleEdit Cron) (now : Int) : CronRow Cron where
  cron := edit.schedule row.cron
  enabled := edit.enabled.getD row.enabled
  catchUpPolicy := edit.catchUpPolicy.getD row.catchUpPolicy
  nextFireAt := if edit.enabled.getD row.enabled then nextFireAfter (after (edit.schedule row.cron)) now else none
  lastFireAt := row.lastFireAt

def recordFireProgress (read : CronRow Cron) (now : Int) : CronRow Cron :=
  match if read.enabled then resolveCatchUp (after read.cron) read.nextFireAt now read.catchUpPolicy else none with
  | none => row
  | some r =>
    if r.dueRuns ≠ [] ∨ r.nextFireAtUtc ≠ read.nextFireAt then
      { row with lastFireAt := r.dueRuns.getLast?.or read.lastFireAt, nextFireAt := r.nextFireAtUtc }
    else row

structure Sound : Prop where
  disabled : row.enabled = false → row.nextFireAt = none
  occurs : ∀ n ∈ row.nextFireAt, n ∈ fires row.cron
  ordered : ∀ l ∈ row.lastFireAt, ∀ n ∈ row.nextFireAt, l ≤ n

def NotBackwards (row' : CronRow Cron) : Prop := ∀ l ∈ row.lastFireAt, ∃ l' ∈ row'.lastFireAt, l ≤ l'

lemma notBackwards_refl : row.NotBackwards row := fun l hl => ⟨l, hl, Int.le_refl l⟩

variable {after fires row} {now : Int} (h : ∀ c, Enumerates (after c) (fires c)) (hnow : ∀ l ∈ row.lastFireAt, l ≤ now)
include h hnow

lemma sound_update (edit : ScheduleEdit Cron) : (row.update after edit now).Sound fires := by
  have hnext : ∀ n ∈ (row.update after edit now).nextFireAt, n ∈ fires (edit.schedule row.cron) ∧ now < n := by
    intro n hn
    simp only [update] at hn
    split at hn
    · exact nextFireAfter_mem (h _) hn
    · cases hn
  refine ⟨fun hdisabled => if_neg (by simpa [update] using hdisabled), fun n hn => (hnext n hn).1, fun l hl n hn => ?_⟩
  exact Int.le_of_lt (Int.lt_of_le_of_lt (hnow l hl) (hnext n hn).2)

lemma sound_recordFireProgress (hrow : row.Sound fires) : (row.recordFireProgress after row now).Sound fires ∧
    row.NotBackwards (row.recordFireProgress after row now) := by
  have hsame := And.intro hrow row.notBackwards_refl
  unfold recordFireProgress
  split
  · exact hsame
  · next r hr =>
    split at hr
    · next henabled =>
      split
      · have hr := resolveCatchUp_forward (h row.cron) hr
        have hdisabled : row.enabled = false → r.nextFireAtUtc = none := fun hd => absurd henabled (by simpa using hd)
        have hoccurs : ∀ n ∈ r.nextFireAtUtc, n ∈ fires row.cron := fun n hn =>
          (hr.next n hn).elim (fun hcursor => hrow.occurs n hcursor.2) (·.1)
        cases hlast : r.dueRuns.getLast? with
        | none =>
          refine ⟨⟨hdisabled, hoccurs, fun l hl n hn => ?_⟩, hsame.2⟩
          rcases hr.next n hn with ⟨-, hcursor⟩ | ⟨-, -, hlater⟩
          · exact hrow.ordered l hl n hcursor
          · exact Int.le_of_lt (Int.lt_of_le_of_lt (hnow l hl) (hlater (List.getLast?_eq_none_iff.1 hlast)))
        | some d =>
          have hd := List.mem_of_getLast? hlast
          refine ⟨⟨hdisabled, hoccurs, fun l hl n hn => ?_⟩, fun l hl => ⟨d, rfl, ?_⟩⟩
          · cases hl
            rcases hr.next n hn with ⟨hnil, -⟩ | ⟨-, hbefore, -⟩
            · simp [hnil] at hd
            · exact Int.le_of_lt (hbefore d hd)
          · -- a due run is less than a second before the cursor, and both are whole seconds
            obtain ⟨hfire, -, c, hc, hlt⟩ := hr.due d hd
            have hcd := (second_before_iff ((h _).wholeSeconds d hfire) ((h _).wholeSeconds c (hrow.occurs c hc))).1 hlt
            exact Int.le_trans (hrow.ordered l hl c hc) hcd
      · exact hsame
    · cases hr

end CronRow

namespace EditedRow

def start (row : CronRow Cron) : EditedRow Cron := ⟨row, fun _ => row⟩

def step (s : EditedRow Cron) : EditStep Cron → EditedRow Cron
  | .read tx => { s with reads := Function.update s.reads tx s.row }
  | .update tx edit now => { s with row := (s.reads tx).update after edit now }
  | .fire tx now => { s with row := s.row.recordFireProgress after (s.reads tx) now }

/-- The row is still what the transaction has read, and its last fire is not in the future. -/
def Alone (s : EditedRow Cron) : EditStep Cron → Prop
  | .read _ => True
  | .update tx _ now | .fire tx now => s.reads tx = s.row ∧ ∀ l ∈ s.row.lastFireAt, l ≤ now

lemma sound_step {after fires} (h : ∀ c, Enumerates (after c) (fires c)) {s : EditedRow Cron} (hs : s.row.Sound fires)
    (i : EditStep Cron) (hok : s.Alone i) : (s.step after i).row.Sound fires ∧ s.row.NotBackwards (s.step after i).row := by
  cases i with
  | read tx => exact ⟨hs, s.row.notBackwards_refl⟩
  | update tx edit now =>
    simp only [step, hok.1]
    exact ⟨CronRow.sound_update h hok.2 edit, s.row.notBackwards_refl⟩
  | fire tx now =>
    simp only [step, hok.1]
    exact CronRow.sound_recordFireProgress h hok.2 hs

end EditedRow
open EditedRow

theorem sound_of_alone (h : ∀ c, Enumerates (after c) (fires c)) (row : CronRow Cron) (hrow : row.Sound fires)
    (steps : List (EditStep Cron)) (hok : EveryStep (fun s i => .next (step after s i)) (start row) Alone steps) :
    (steps.foldl (step after) (start row)).row.Sound fires ∧ EveryStep (fun s i => .next (step after s i)) (start row)
      (fun s i => s.row.NotBackwards (s.step after i).row) steps := by
  have hstart : (start row).row.Sound fires := hrow
  have hrun := EveryStep.invariant (fun s : EditedRow Cron => s.row.Sound fires)
    (fun _ i _ hs hok hs' => Flow.next.inj hs' ▸ (sound_step h hs i hok).1) hstart
  refine ⟨hrun steps hok _ (runFrom_total _ steps _), fun pre i post s he hs => ?_⟩
  exact (sound_step h (hrun pre (hok.of_append he) s hs) i (hok pre i post s he hs)).2

/-- An hourly schedule before its first fire. -/
def firstFire : CronRow Unit := ⟨⟨true, .runAll, some hour, none⟩, ()⟩

theorem sound_of_alone_firstFire : ([EditStep.read 0, .fire 0 hour].foldl (step fun _ => hourly)
    (start firstFire)).row.Sound fun _ => {x | hour ∣ x} :=
  (sound_of_alone _ _ (fun _ => hourly_enumerates) firstFire ⟨nofun, by simp [firstFire], nofun⟩ _
    (by simp [everyStep_cons, everyStep_nil, Alone, step, start, firstFire])).1

def disable : ScheduleEdit Unit := ⟨id, some false, none⟩

/-- The firing leaves the disabled row a next fire, and the edit takes the last fire back. -/
theorem edit_overwritten : let run steps := (List.foldl (step fun _ => hourly) (start firstFire) steps).row
    (run [.read 0, .read 1, .update 1 disable hour, .fire 0 hour]).toScheduledTaskRow =
      ⟨false, .runAll, some (2 * hour), some hour⟩ ∧
    (run [.read 0, .read 1, .fire 0 hour]).lastFireAt = some hour ∧
      (run [.read 0, .read 1, .fire 0 hour, .update 1 disable hour]).lastFireAt = none := by
  decide

end Roz.Server
