import Roz.Lib.TimedRun
import Roz.Safety.Daemon

/-!
# Silent workers

Over every fair run of the daemon's loop.  A worker that falls silent is found only by the heartbeat
of another, and a failed publish drops it (`silent_stopped`).

The stale list that names the worker has room in the queue at the latest one delivery after the
queue was full (`exists_beat_with_room`), and from its place in the queue it is `n` deliveries away
(`TimedRun.Responds.countdown`).
-/

namespace Roz.Safety
open Daemon Subjects AList List
namespace Event

def isHeartbeat : Event → Bool
  | .heartbeat _ => true
  | _ => false

def isStaleList : Event → Bool
  | .staleList _ => true
  | _ => false

def sends (w : String) : Event → Bool
  | .heartbeat subject => workerOf subject == some w
  | _ => false

lemma not_isStaleList {e : Event} (h : e.isHeartbeat = true) : ¬ e.isStaleList = true := by
  cases e <;> simp_all [isHeartbeat, isStaleList]

end Event

/-- A run from the start.  A queued list is taken within `delay`: the select is fair. -/
structure Execution (delay : Nat) extends TimedRun.Run fun (d : Daemon) now e => (d.step now e).1 where
  start : state 0 = .new
  ready : ∀ i, (input i).isStaleList = true → (state i).stale ≠ []
  fair : TimedRun.Responds toRun (fun d => d.stale ≠ []) (fun e => e.isStaleList = true) delay

namespace Execution
variable {delay : Nat} (x : Execution delay) (w : String)
def Sends (i : Nat) : Prop := (x.input i).sends w = true

def Stops (i : Nat) : Prop :=
  ⟨"safety.estop." ++ w, w⟩ ∈ ((x.state i).step (x.time i) (x.input i)).2

/-- Every worker that was heard and is then silent for the threshold is stopped within `bound`. -/
def SilentStopped (bound : Nat) : Prop :=
  ∀ w i, (Subjects.estop w).isOk = true → x.Sends w i →
    (∀ k, i < k → x.time k < x.time i + 30000 → ¬ x.Sends w k) →
    ∃ j, i < j ∧ x.Stops w j ∧ x.time j ≤ x.time i + 30000 + bound

/-- A worker that was heard is tracked until an e-stop for it has gone out. -/
def TrackedUntilStopped : Prop :=
  ∀ w i j, (Subjects.estop w).isOk = true → x.Sends w i → i < j →
    (∀ k, i < k → k < j → ¬ x.Stops w k) → w ∈ (x.state j).tracker.workers

def PublishesSucceed : Prop :=
  ∀ i publish, x.input i = .staleList publish →
    ∀ staleIds ∈ (x.state i).stale.head?, ∀ w ∈ staleIds, publish w = .published

def BeatsWithin (gap : Nat) : Prop :=
  ∀ t, ∃ i, (x.input i).isHeartbeat = true ∧ t ≤ x.time i ∧ x.time i ≤ t + gap

/-- A worker that has been silent for the threshold stays so for another `more`. -/
def SilencesLast (more : Nat) : Prop :=
  ∀ w i, x.Sends w i → (∀ k, i < k → x.time k < x.time i + 30000 → ¬ x.Sends w k) →
    ∀ k, i < k → x.time k ≤ x.time i + 30000 + more → ¬ x.Sends w k

end Execution

/-! ## One step -/

lemma estop_eq_ok {w} (h : (estop w).isOk = true) : estop w = .ok ("safety.estop." ++ w) := by
  unfold estop at h ⊢
  cases hv : validateToken "worker_id" w with
  | error e =>
    rw [hv] at h
    cases h
  | ok u => rfl

lemma run_stopWorker {publish w} (hw : (estop w).isOk = true)
    {staleIds} (hpublish : ∀ v ∈ staleIds, publish v = .published) :
    ∀ t, (w ∉ staleIds → (Emitter.run (stopWorker publish) t staleIds).1.workers.lookup w = t.workers.lookup w) ∧
      (w ∈ staleIds → ⟨"safety.estop." ++ w, w⟩ ∈ (Emitter.run (stopWorker publish) t staleIds).2) := by
  induction staleIds with
  | nil => exact fun t => ⟨fun _ => rfl, nofun⟩
  | cons v vs ih =>
    intro t
    obtain ⟨hother, hstop⟩ := ih (fun u hu => hpublish u (.tail _ hu)) (stopWorker publish t v).1
    rw [Emitter.run_cons]
    constructor
    · intro hnot
      obtain ⟨hne, hnot⟩ := not_or.1 (mt mem_cons.2 hnot)
      rw [hother hnot]
      unfold stopWorker
      split
      · rfl
      · exact lookup_erase_ne hne
    · intro hmem
      refine mem_append.2 ?_
      rcases mem_cons.1 hmem with rfl | hmem
      · left
        rw [stopWorker, estop_eq_ok hw, hpublish w (.head _)]
        exact .head _
      · exact .inr (hstop hmem)

namespace Daemon
variable {d : Daemon} {now : Nat} {w : String} {subject : String}
lemma record_tracked (h : (Event.heartbeat subject).sends w = false) :
    (d.record now subject).tracker.workers.lookup w = d.tracker.workers.lookup w := by
  unfold record
  split
  · rename_i v hv
    have hne : w ≠ v := by
      rintro rfl
      rw [Event.sends, hv, beq_self_eq_true] at h
      cases h
    exact lookup_insert_ne hne
  · rfl

lemma checkStale_tracker (d : Daemon) (now : Nat) : (d.checkStale now).tracker = d.tracker := by
  unfold checkStale trySend
  split
  · rfl
  · split <;> rfl

variable {e : Event}
lemma step_sends (h : e.sends w = true) : (d.step now e).1.tracker.workers.lookup w = some now := by
  cases e with
  | heartbeat subject =>
    have hw : workerOf subject = some w := beq_iff_eq.1 h
    change ((d.record now subject).checkStale now).tracker.workers.lookup w = some now
    rw [checkStale_tracker, record, hw]
    exact lookup_insert _
  | staleList publish => cases h
  | safety => cases h
  | idle => cases h

lemma step_tracked {last} (hw : (estop w).isOk = true) (hsilent : e.sends w = false)
    (hpublish : ∀ publish, e = .staleList publish → ∀ staleIds ∈ d.stale.head?, ∀ v ∈ staleIds, publish v = .published)
    (htracked : d.tracker.workers.lookup w = some last) :
    (d.step now e).1.tracker.workers.lookup w = some last ∨ ⟨"safety.estop." ++ w, w⟩ ∈ (d.step now e).2 := by
  cases e with
  | heartbeat subject =>
    left
    change ((d.record now subject).checkStale now).tracker.workers.lookup w = some last
    rw [checkStale_tracker, record_tracked hsilent, htracked]
  | staleList publish =>
    change (d.stopStale publish).1.tracker.workers.lookup w = some last ∨ _ ∈ (d.stopStale publish).2
    unfold stopStale
    cases hstale : d.stale with
    | nil => exact .inl htracked
    | cons staleIds rest =>
      obtain ⟨hother, hstop⟩ := run_stopWorker hw
        (hpublish publish rfl staleIds (by rw [hstale]; rfl)) d.tracker
      by_cases hmem : w ∈ staleIds
      · exact .inr (hstop hmem)
      · exact .inl ((hother hmem).trans htracked)
  | safety => exact .inl htracked
  | idle => exact .inl htracked

lemma checkStale_stale (d : Daemon) (now : Nat) :
    (d.stale.length < staleCapacity ∧ (d.checkStale now).stale = d.stale ++ [d.tracker.staleWorkers now]) ∨
      ((d.tracker.staleWorkers now = [] ∨ staleCapacity ≤ d.stale.length) ∧ (d.checkStale now).stale = d.stale) := by
  unfold checkStale trySend
  split
  · rename_i hnone
    exact .inr ⟨.inl (isEmpty_iff.1 hnone), rfl⟩
  · split
    · rename_i hroom
      exact .inl ⟨hroom, rfl⟩
    · rename_i hfull
      exact .inr ⟨.inr (Nat.le_of_not_lt hfull), rfl⟩

lemma record_stale (d : Daemon) (now : Nat) (subject : String) : (d.record now subject).stale = d.stale := by
  unfold record
  split <;> rfl

lemma step_stale (d : Daemon) (now : Nat) (e : Event) : (e.isHeartbeat = true ∧ d.stale.length < staleCapacity ∧
      ∃ staleIds, (d.step now e).1.stale = d.stale ++ [staleIds]) ∨
    (e.isStaleList = true ∧ (d.step now e).1.stale = d.stale.tail) ∨
    (e.isStaleList = false ∧ (d.step now e).1.stale = d.stale) := by
  cases e with
  | heartbeat subject =>
    have hstep := (d.record now subject).checkStale_stale now
    rw [record_stale] at hstep
    rcases hstep with ⟨hroom, h⟩ | ⟨-, h⟩
    · exact .inl ⟨rfl, hroom, _, h⟩
    · exact .inr (.inr ⟨rfl, h⟩)
  | staleList publish =>
    refine .inr (.inl ⟨rfl, ?_⟩)
    change (d.stopStale publish).1.stale = d.stale.tail
    unfold stopStale
    cases hstale : d.stale with
    | nil => exact hstale
    | cons staleIds rest => rfl
  | safety => exact .inr (.inr ⟨rfl, rfl⟩)
  | idle => exact .inr (.inr ⟨rfl, rfl⟩)

lemma step_staleThreshold (d : Daemon) (now : Nat) (e : Event) :
    (d.step now e).1.tracker.staleThreshold = d.tracker.staleThreshold := by
  cases e with
  | heartbeat subject =>
    change ((d.record now subject).checkStale now).tracker.staleThreshold = _
    rw [checkStale_tracker, record]
    split <;> rfl
  | staleList publish =>
    change (d.stopStale publish).1.tracker.staleThreshold = _
    unfold stopStale
    cases d.stale with
    | nil => rfl
    | cons staleIds rest =>
      dsimp only
      generalize d.tracker = t
      induction staleIds generalizing t with
      | nil => rfl
      | cons v vs ih =>
        rw [Emitter.run_cons]
        refine (ih (stopWorker publish t v).1).trans ?_
        unfold stopWorker
        split <;> rfl
  | safety => rfl
  | idle => rfl

def Queued (w : String) (n : Nat) (d : Daemon) : Prop := ∃ staleIds ∈ d.stale.take (n + 1), w ∈ staleIds

lemma step_queues {last} (hsilent : (Event.heartbeat subject).sends w = false)
    (hroom : d.stale.length < staleCapacity) (htracked : d.tracker.workers.lookup w = some last)
    (hstale : d.tracker.staleThreshold ≤ now - last) : Queued w 15 (d.step now (.heartbeat subject)).1 := by
  have hthreshold := step_staleThreshold d now (.heartbeat subject)
  have hw : w ∈ (d.record now subject).tracker.staleWorkers now := by
    refine HeartbeatTracker.mem_staleWorkers.2 ⟨last, (record_tracked hsilent).trans htracked, ?_⟩
    change ((d.record now subject).checkStale now).tracker.staleThreshold = _ at hthreshold
    rw [checkStale_tracker] at hthreshold
    rwa [hthreshold]
  have hstep := (d.record now subject).checkStale_stale now
  rw [record_stale] at hstep
  rcases hstep with ⟨-, h⟩ | ⟨hnone | hfull, -⟩
  · refine ⟨_, ?_, hw⟩
    change _ ∈ ((d.record now subject).checkStale now).stale.take 16
    rw [h, take_of_length_le]
    · exact mem_append_right _ (.head _)
    · rw [length_append]
      exact hroom
  · rw [hnone] at hw
    cases hw
  · exact absurd hroom (Nat.not_lt.2 hfull)

lemma step_queued {n} (he : ¬ e.isStaleList = true) (h : Queued w n d) : Queued w n (d.step now e).1 := by
  obtain ⟨staleIds, hmem, hw⟩ := h
  refine ⟨staleIds, ?_, hw⟩
  rcases d.step_stale now e with ⟨-, -, new, hstale⟩ | ⟨hlist, -⟩ | ⟨-, hstale⟩
  · rw [hstale, take_append]
    exact mem_append_left _ hmem
  · exact absurd hlist he
  · rwa [hstale]

lemma stopStale_queued {publish n} (hw : (estop w).isOk = true)
    (hpublish : ∀ staleIds ∈ d.stale.head?, ∀ v ∈ staleIds, publish v = .published) (h : Queued w n d) :
    ⟨"safety.estop." ++ w, w⟩ ∈ (d.stopStale publish).2 ∨ ∃ m, n = m + 1 ∧ Queued w m (d.stopStale publish).1 := by
  obtain ⟨staleIds, hmem, hin⟩ := h
  unfold stopStale
  cases hstale : d.stale with
  | nil =>
    rw [hstale] at hmem
    cases hmem
  | cons head rest =>
    obtain ⟨-, hstop⟩ := run_stopWorker hw (hpublish head (by rw [hstale]; rfl)) d.tracker
    rw [hstale, take_succ_cons] at hmem
    rcases mem_cons.1 hmem with rfl | hmem
    · exact .inl (hstop hin)
    · cases n with
      | zero => cases hmem
      | succ m => exact .inr ⟨m, rfl, staleIds, hmem, hin⟩

lemma staleThreshold_run {x : TimedRun.Run fun (d : Daemon) now e => (d.step now e).1} (hstart : x.state 0 = .new)
    (i : Nat) : (x.state i).tracker.staleThreshold = 30000 := by
  induction i with
  | zero =>
    rw [hstart]
    rfl
  | succ i ih => rw [x.next, step_staleThreshold, ih]

end Daemon

namespace Execution
variable {delay : Nat} (x : Execution delay)
lemma stale_length_le (i : Nat) : (x.state i).stale.length ≤ staleCapacity := by
  induction i with
  | zero =>
    rw [x.start]
    exact Nat.zero_le _
  | succ i ih =>
    rw [x.next]
    rcases (x.state i).step_stale (x.time i) (x.input i) with ⟨-, hroom, new, h⟩ | ⟨-, h⟩ | ⟨-, h⟩
    · rw [h, length_append]
      exact hroom
    · rw [h, length_tail]
      omega
    · rwa [h]

lemma lt_of_time_lt {i j} (h : x.time i < x.time j) : i < j := by
  by_contra hle
  exact absurd (x.mono (Nat.le_of_not_lt hle)) (Nat.not_le.2 h)

variable {x}
lemma exists_beat_with_room {gap} (hbeat : x.BeatsWithin gap) (t : Nat) :
    ∃ i, (x.input i).isHeartbeat = true ∧ t ≤ x.time i ∧ x.time i ≤ t + (2 * gap + delay + 1) ∧
      (x.state i).stale.length < staleCapacity := by
  obtain ⟨i, hi, hti, hit⟩ := hbeat t
  by_cases hroom : (x.state i).stale.length < staleCapacity
  · exact ⟨i, hi, hti, by omega, hroom⟩
  · -- the queue is full: the first heartbeat after the next delivery has room
    have hne : (x.state (i + 1)).stale ≠ [] := by
      rw [x.next]
      intro hnil
      rcases (x.state i).step_stale (x.time i) (x.input i) with ⟨-, h, -⟩ | ⟨h, -⟩ | ⟨-, h⟩
      · exact hroom h
      · exact Event.not_isStaleList hi h
      · rw [h] at hnil
        rw [hnil] at hroom
        exact hroom (by decide)
    obtain ⟨d, hid, hd, hdt⟩ := x.fair i hne
    obtain ⟨j, hj, htj, hjt⟩ := hbeat (x.time d + 1)
    obtain ⟨k, hdk, hkj, hk, hfirst⟩ := x.exists_first (p := fun e => e.isHeartbeat = true)
      (x.lt_of_time_lt (Nat.lt_of_succ_le htj)) hj
    have htimes := x.mono hkj
    have htimes' := x.mono (Nat.le_of_lt (hid.trans hdk))
    refine ⟨k, hk, by omega, by omega, ?_⟩
    refine x.stays (P := fun d => d.stale.length < staleCapacity) hdk ?_ fun l hdl hlk hl => ?_
    · have hlength := x.stale_length_le d
      have hready := length_pos_iff.2 (x.ready d hd)
      rcases (x.state d).step_stale (x.time d) (x.input d) with ⟨h, -⟩ | ⟨-, h⟩ | ⟨h, -⟩
      · exact absurd hd (Event.not_isStaleList h)
      · rw [x.next, h, length_tail]
        omega
      · rw [hd] at h
        cases h
    · rcases (x.state l).step_stale (x.time l) (x.input l) with ⟨h, -⟩ | ⟨-, h⟩ | ⟨-, h⟩
      · exact absurd h (hfirst l hdl hlk)
      · rw [x.next, h, length_tail]
        omega
      · rwa [x.next, h]

variable (hpublish : x.PublishesSucceed)
include hpublish

lemma tracked {w i j} (hw : (estop w).isOk = true)
    (hsends : x.Sends w i) (hij : i < j) (hsilent : ∀ k, i < k → k < j → ¬ x.Sends w k)
    (hstops : ∀ k, i < k → k < j → ¬ x.Stops w k) : (x.state j).tracker.workers.lookup w = some (x.time i) := by
  refine x.stays (P := fun d => d.tracker.workers.lookup w = some (x.time i)) hij ?_ fun k hik hkj hk => ?_
  · rw [x.next]
    exact step_sends hsends
  · rw [x.next]
    rcases step_tracked hw (Bool.not_eq_true _ ▸ hsilent k hik hkj) (hpublish k) hk with h | h
    · exact h
    · exact absurd h (hstops k hik hkj)

lemma trackedUntilStopped : x.TrackedUntilStopped := by
  intro w i j hw hsends hij hstops
  refine x.stays (P := fun d => w ∈ d.tracker.workers) hij ?_ fun k hik hkj hk => ?_
  · rw [x.next]
    exact lookup_isSome.1 (by rw [step_sends hsends]; rfl)
  · rw [x.next]
    by_cases hagain : (x.input k).sends w = true
    · exact lookup_isSome.1 (by rw [step_sends hagain]; rfl)
    · obtain ⟨last, hlast⟩ := Option.isSome_iff_exists.1 (lookup_isSome.2 hk)
      rcases step_tracked hw (Bool.not_eq_true _ ▸ hagain) (hpublish k) hlast with h | h
      · exact lookup_isSome.1 (by rw [h]; rfl)
      · exact absurd h (hstops k hik hkj)

lemma stops_of_queued {w i} (hw : (estop w).isOk = true) (hqueued : Daemon.Queued w 15 (x.state (i + 1))) :
    ∃ j, i < j ∧ x.Stops w j ∧ x.time j ≤ x.time i + 16 * delay := by
  refine x.fair.countdown i (fun n d h => ?_) (fun n k _ hk h => ?_) (fun n k _ hk h => ?_) 15 i le_rfl hqueued
  · obtain ⟨staleIds, hmem, -⟩ := h
    exact ne_nil_of_mem (mem_of_mem_take hmem)
  · rw [x.next]
    exact step_queued hk h
  · cases hin : x.input k with
    | staleList publish =>
      have h' := stopStale_queued hw (hpublish k publish hin) h
      rw [x.next, Stops, hin]
      exact h'
    | _ =>
      rw [hin] at hk
      cases hk

end Execution

/-- Of every fair run in which every publish succeeds, heartbeats of some worker keep coming, and a
silent worker stays silent until its list is queued. -/
theorem silent_stopped {delay : Nat} (x : Execution delay) (gap : Nat) (hpublish : x.PublishesSucceed)
    (hbeat : x.BeatsWithin gap) (hlast : x.SilencesLast (2 * gap + delay + 1)) :
    x.SilentStopped (2 * gap + 17 * delay + 1) ∧ x.TrackedUntilStopped := by
  refine ⟨fun w i hw hsends hsilent => ?_, Execution.trackedUntilStopped hpublish⟩
  have hlong := hlast w i hsends hsilent
  obtain ⟨k, hbeats, htk, hkt, hroom⟩ := Execution.exists_beat_with_room hbeat (x.time i + 30000)
  have hik : i < k := x.lt_of_time_lt (by omega)
  by_cases hearly : ∃ j, i < j ∧ j < k ∧ x.Stops w j
  · obtain ⟨j, hij, hjk, hstops⟩ := hearly
    have := x.mono (Nat.le_of_lt hjk)
    exact ⟨j, hij, hstops, by omega⟩
  · have hquiet : ∀ l, i < l → l ≤ k → ¬ x.Sends w l := by
      intro l hil hlk
      have := x.mono hlk
      exact hlong l hil (by omega)
    have htracked := Execution.tracked hpublish hw hsends hik (fun l hil hlk => hquiet l hil (Nat.le_of_lt hlk))
      fun l hil hlk hstops => hearly ⟨l, hil, hlk, hstops⟩
    have hqueued : Daemon.Queued w 15 (x.state (k + 1)) := by
      have hother := hquiet k hik le_rfl
      rw [x.next]
      cases hin : x.input k with
      | heartbeat subject =>
        rw [Execution.Sends, hin, Bool.not_eq_true] at hother
        refine step_queues hother hroom htracked ?_
        rw [staleThreshold_run x.start]
        omega
      | _ =>
        rw [hin] at hbeats
        cases hbeats
    obtain ⟨j, hkj, hstops, hjt⟩ := Execution.stops_of_queued hpublish hw hqueued
    exact ⟨j, hik.trans hkj, hstops, by omega⟩

/-! ## Two runs -/

def patrolInput (publish : String → PublishResult) (n : Nat) (d : Daemon) : Event :=
  if n = 0 then .heartbeat "events.a.heartbeat"
  else if d.stale = [] then .heartbeat "events.b.heartbeat"
  else .staleList publish

def patrolState (publish : String → PublishResult) : Nat → Daemon
  | 0 => .new
  | n + 1 => ((patrolState publish n).step (5000 * n) (patrolInput publish n (patrolState publish n))).1

section Patrol
variable (publish : String → PublishResult) (n : Nat)
lemma patrolInput_cases : (n = 0 ∧ patrolInput publish n (patrolState publish n) = .heartbeat "events.a.heartbeat") ∨
      (0 < n ∧ (patrolState publish n).stale = [] ∧
        patrolInput publish n (patrolState publish n) = .heartbeat "events.b.heartbeat") ∨
      (0 < n ∧ (patrolState publish n).stale ≠ [] ∧
        patrolInput publish n (patrolState publish n) = .staleList publish) := by
  unfold patrolInput
  split
  · exact .inl ⟨‹_›, rfl⟩
  · split
    · exact .inr (.inl ⟨Nat.pos_of_ne_zero ‹_›, ‹_›, rfl⟩)
    · exact .inr (.inr ⟨Nat.pos_of_ne_zero ‹_›, ‹_›, rfl⟩)

def patrol : Execution 5000 where
  state := patrolState publish
  input n := patrolInput publish n (patrolState publish n)
  time n := 5000 * n
  next _ := rfl
  mono i j h := Nat.mul_le_mul_left 5000 h
  unbounded t := ⟨t, by omega⟩
  start := rfl
  ready i h := by
    rcases patrolInput_cases publish i with ⟨-, hi⟩ | ⟨-, -, hi⟩ | ⟨-, hne, -⟩
    · rw [hi] at h
      cases h
    · rw [hi] at h
      cases h
    · exact hne
  fair i h := by
    refine ⟨i + 1, Nat.lt_succ_self i, ?_, Nat.le_of_eq (Nat.mul_succ 5000 i)⟩
    rcases patrolInput_cases publish (i + 1) with ⟨hi, -⟩ | ⟨-, hnil, -⟩ | ⟨-, -, hi⟩
    · cases hi
    · exact absurd hnil h
    · dsimp only
      rw [hi]
      rfl

lemma patrolState_stale : (patrolState publish n).stale.length ≤ 1 := by
  induction n with
  | zero => exact Nat.zero_le 1
  | succ n ih =>
    have hstep := (patrolState publish n).step_stale (5000 * n) (patrolInput publish n (patrolState publish n))
    change ((patrolState publish n).step (5000 * n) (patrolInput publish n (patrolState publish n))).1.stale.length ≤ 1
    rcases hstep with ⟨hbeat, -, new, h⟩ | ⟨-, h⟩ | ⟨-, h⟩
    · rw [h, length_append]
      rcases patrolInput_cases publish n with ⟨rfl, -⟩ | ⟨-, hnil, -⟩ | ⟨-, -, hi⟩
      · exact le_rfl
      · rw [hnil]
        exact le_rfl
      · rw [hi] at hbeat
        cases hbeat
    · rw [h, length_tail]
      omega
    · rwa [h]

lemma patrol_beats {n} (hn : 0 < n) : (patrol publish).input n = .heartbeat "events.b.heartbeat" ∨
    (patrol publish).input (n + 1) = .heartbeat "events.b.heartbeat" := by
  rcases patrolInput_cases publish n with ⟨rfl, -⟩ | ⟨-, -, hi⟩ | ⟨-, hne, hi⟩
  · cases hn
  · exact .inl hi
  · right
    rcases patrolInput_cases publish (n + 1) with ⟨hzero, -⟩ | ⟨-, -, hi'⟩ | ⟨-, hne', -⟩
    · cases hzero
    · exact hi'
    · have htail : (patrolState publish (n + 1)).stale = (patrolState publish n).stale.tail := by
        rcases (patrolState publish n).step_stale (5000 * n) (patrolInput publish n (patrolState publish n))
          with ⟨h, -⟩ | ⟨-, h⟩ | ⟨h, -⟩
        · rw [hi] at h
          cases h
        · exact h
        · rw [hi] at h
          cases h
      have hlength := patrolState_stale publish n
      refine absurd (length_eq_zero_iff.1 ?_) hne'
      rw [htail, length_tail]
      omega

lemma patrol_ids : workerOf "events.a.heartbeat" = some "a" ∧ workerOf "events.b.heartbeat" = some "b" ∧
    (estop "a").isOk = true := by decide

lemma patrol_sends {w n} (h : (patrol publish).Sends w n) : (n = 0 ∧ w = "a") ∨ (0 < n ∧ w = "b") := by
  obtain ⟨ha, hb, -⟩ := patrol_ids
  change (patrolInput publish n (patrolState publish n)).sends w = true at h
  rcases patrolInput_cases publish n with ⟨hn, hi⟩ | ⟨hn, -, hi⟩ | ⟨-, -, hi⟩
  · rw [hi, Event.sends, ha] at h
    exact .inl ⟨hn, (Option.some.inj (beq_iff_eq.1 h)).symm⟩
  · rw [hi, Event.sends, hb] at h
    exact .inr ⟨hn, (Option.some.inj (beq_iff_eq.1 h)).symm⟩
  · rw [hi] at h
    cases h

lemma patrol_beatsWithin : (patrol publish).BeatsWithin 10000 := by
  intro t
  have hbeat {n : Nat} (h : (patrol publish).input n = .heartbeat "events.b.heartbeat") :
      ((patrol publish).input n).isHeartbeat = true := by
    rw [h]
    rfl
  have htime (n : Nat) : (patrol publish).time n = 5000 * n := rfl
  rcases patrol_beats publish (Nat.succ_pos _) with h | h
  · refine ⟨t / 5000 + 1, hbeat h, ?_⟩
    rw [htime]
    omega
  · refine ⟨t / 5000 + 1 + 1, hbeat h, ?_⟩
    rw [htime]
    omega

lemma patrol_silencesLast (more : Nat) : (patrol publish).SilencesLast more := by
  intro w i hsends hsilent k hik _ hagain
  rcases patrol_sends publish hagain with ⟨rfl, -⟩ | ⟨hk, rfl⟩
  · cases hik
  · have hb : (Event.heartbeat "events.b.heartbeat").sends "b" = true := beq_iff_eq.2 patrol_ids.2.1
    rcases patrol_sends publish hsends with ⟨-, h⟩ | ⟨hi, -⟩
    · exact absurd h (by decide)
    · rcases patrol_beats publish (Nat.succ_pos i) with h | h
      · refine hsilent (i + 1) (by omega) ?_ (by rw [Execution.Sends, h]; exact hb)
        change 5000 * (i + 1) < 5000 * i + 30000
        omega
      · refine hsilent (i + 1 + 1) (by omega) ?_ (by rw [Execution.Sends, h]; exact hb)
        change 5000 * (i + 1 + 1) < 5000 * i + 30000
        omega

end Patrol

lemma first_sends : (Event.heartbeat "events.a.heartbeat").sends "a" = true := beq_iff_eq.2 patrol_ids.1

theorem patrol_stopped :
    ∃ j, (patrol fun _ => .published).Stops "a" j ∧ (patrol fun _ => .published).time j ≤ 135001 := by
  have hpublish : (patrol fun _ => .published).PublishesSucceed := by
    intro i publish hi staleIds _ w _
    change patrolInput (fun _ => .published) i _ = _ at hi
    rcases patrolInput_cases (fun _ => .published) i with ⟨-, h⟩ | ⟨-, -, h⟩ | ⟨-, -, h⟩
    · rw [h] at hi
      cases hi
    · rw [h] at hi
      cases hi
    · rw [h] at hi
      cases hi
      rfl
  obtain ⟨hstopped, -⟩ := silent_stopped (patrol fun _ => .published) 10000 hpublish (patrol_beatsWithin _)
    (patrol_silencesLast _ _)
  obtain ⟨j, -, hstops, htime⟩ := hstopped "a" 0 patrol_ids.2.2 first_sends (by
    intro k hk _ hsends
    rcases patrol_sends _ hsends with ⟨rfl, -⟩ | ⟨-, h⟩
    · cases hk
    · exact absurd h (by decide))
  exact ⟨j, hstops, htime⟩

def loneState : Nat → Daemon
  | 0 => .new
  | n + 1 => ((loneState n).step (1000 * n) (if n = 0 then .heartbeat "events.a.heartbeat" else .idle)).1

lemma loneState_stale (n : Nat) : (loneState (n + 1)).stale = [] := by
  induction n with
  | zero => decide
  | succ n ih => exact ih

def lone : Execution 0 where
  state := loneState
  input n := if n = 0 then .heartbeat "events.a.heartbeat" else .idle
  time n := 1000 * n
  next _ := rfl
  mono i j h := Nat.mul_le_mul_left 1000 h
  unbounded t := ⟨t, by omega⟩
  start := rfl
  ready i h := by
    split at h <;> cases h
  fair i h := absurd (loneState_stale i) h

/-- A worker that falls silent when no other is heard is never stopped, and one whose e-stop could not
be published is no longer tracked. -/
theorem silent_not_stopped :
    (∀ bound, ¬ lone.SilentStopped bound) ∧ ¬ (patrol fun _ => .failed).TrackedUntilStopped := by
  constructor
  · intro bound h
    obtain ⟨j, hj, hstops, -⟩ := h "a" 0 patrol_ids.2.2 first_sends (by
      intro k hk _ hsends
      have hidle : lone.input k = .idle := if_neg (Nat.pos_iff_ne_zero.1 hk)
      rw [Execution.Sends, hidle] at hsends
      cases hsends)
    have hidle : lone.input j = .idle := if_neg (Nat.pos_iff_ne_zero.1 hj)
    rw [Execution.Stops, hidle] at hstops
    cases hstops
  · intro h
    have hnone : ∀ k, k < 8 → ((patrolState (fun _ => .failed) k).step (5000 * k)
        (patrolInput (fun _ => .failed) k (patrolState (fun _ => .failed) k))).2 = [] := by decide
    have hgone : (patrolState (fun _ => .failed) 8).tracker.workers.lookup "a" = none := by decide
    have htracked := h "a" 0 8 patrol_ids.2.2 first_sends (by decide) (by
      intro k _ hk hstops
      change _ ∈ ((patrolState (fun _ => .failed) k).step (5000 * k)
        (patrolInput (fun _ => .failed) k (patrolState (fun _ => .failed) k))).2 at hstops
      rw [hnone k hk] at hstops
      cases hstops)
    exact lookup_eq_none.1 hgone htracked

end Roz.Safety
