import Roz.Safety.SilentWorkers

/-!
# Whom the safety daemon stops

Over every run of the daemon's loop.  A stale list is not looked at again when it is taken from the
queue, so a heartbeat that comes in between does not keep its worker from being stopped, and a
worker that is in two lists is stopped twice (`stops_silent_once`).
-/

namespace Roz.Safety
open Daemon EStop HeartbeatTracker Emitter List

structure Interleaving extends TimedRun.Run fun (d : Daemon) now e => (d.step now e).1 where
  start : state 0 = .new

lemma HeartbeatTracker.staleWorkers_nodup {t : HeartbeatTracker} {now} : (t.staleWorkers now).Nodup :=
  t.workers.nodupKeys.sublist filter_sublist

section Stopping
variable {publish : String → PublishResult}
lemma run_stopWorker_sublist (staleIds : List String) :
    ∀ t, ((Emitter.run (stopWorker publish) t staleIds).2.map workerId).Sublist staleIds := by
  induction staleIds with
  | nil => exact fun t => .slnil
  | cons v vs ih =>
    intro t
    rw [run_cons, map_append]
    refine (?_ : List.Sublist _ [v]).append (ih _)
    unfold stopWorker
    split
    · exact nil_sublist _
    · dsimp only
      split
      · exact .refl _
      · exact nil_sublist _
      · exact nil_sublist _

lemma stopWorker_tracked {t v w last} (h : (stopWorker publish t v).1.workers.lookup w = some last) :
    t.workers.lookup w = some last ∧ w ∉ (stopWorker publish t v).2.map workerId := by
  unfold stopWorker at h ⊢
  split at h
  · exact ⟨h, nofun⟩
  · have hne : w ≠ v := by
      rintro rfl
      rw [remove, AList.lookup_erase] at h
      cases h
    refine ⟨(AList.lookup_erase_ne hne).symm.trans h, ?_⟩
    dsimp only
    split <;> simp [hne]

lemma run_stopWorker_tracked {w last staleIds} :
    ∀ t, (Emitter.run (stopWorker publish) t staleIds).1.workers.lookup w = some last →
      t.workers.lookup w = some last ∧ w ∉ (Emitter.run (stopWorker publish) t staleIds).2.map workerId := by
  induction staleIds with
  | nil => exact fun t h => ⟨h, nofun⟩
  | cons v vs ih =>
    intro t h
    rw [run_cons] at h ⊢
    obtain ⟨hlookup, hnot⟩ := ih _ h
    obtain ⟨hbefore, hfirst⟩ := stopWorker_tracked hlookup
    rw [map_append, mem_append, not_or]
    exact ⟨hbefore, hfirst, hnot⟩

end Stopping

namespace Interleaving
variable (x : Interleaving)
def Sends (w : String) (i : Nat) : Prop := (x.input i).sends w = true

def stops (i : Nat) : List String := ((x.state i).step (x.time i) (x.input i)).2.map EStop.workerId

/-- An e-stop goes out only for a worker that was not heard for the threshold, and between two of
them the worker is heard. -/
structure StopsSilentOnce : Prop where
  silent : ∀ w i j, i < j → x.Sends w i → w ∈ x.stops j → x.time i + 30000 ≤ x.time j
  nodup : ∀ i, (x.stops i).Nodup
  heard : ∀ w i j, i < j → w ∈ x.stops i → w ∈ x.stops j → ∃ k, i < k ∧ k < j ∧ x.Sends w k

def TakesAtOnce : Prop := ∀ i, (x.input i).isHeartbeat = true → (x.state i).stale = []

def Known (w : String) (last i : Nat) : Prop :=
  (∀ k < i, x.Sends w k → x.time k ≤ last) ∧ ∀ k < i, w ∈ x.stops k → ∃ l, k < l ∧ l < i ∧ x.Sends w l

structure Sound (i : Nat) : Prop where
  known : ∀ w last, (x.state i).tracker.workers.lookup w = some last → x.Known w last i
  queue : ∀ staleIds ∈ (x.state i).stale, (x.state i).stale = [staleIds] ∧ staleIds.Nodup ∧
    ∀ w ∈ staleIds, ∃ last, (x.state i).tracker.workers.lookup w = some last ∧ ∀ j, i ≤ j → last + 30000 ≤ x.time j

variable {x}
lemma Known.succ {w last i} (h : x.Known w last i) (hsends : ¬ x.Sends w i)
    (hstops : w ∉ x.stops i) : x.Known w last (i + 1) := by
  obtain ⟨hlast, hstopped⟩ := h
  constructor <;> grind

lemma Sound.same {i} (h : x.Sound i) (hstate : x.state (i + 1) = x.state i) (hstops : x.stops i = [])
    (hsends : ∀ w, ¬ x.Sends w i) : x.Sound (i + 1) where
  known w last hlookup := (h.known w last (hstate ▸ hlookup)).succ (hsends w) (hstops ▸ not_mem_nil)
  queue staleIds hmem := by
    rw [hstate] at hmem ⊢
    obtain ⟨hqueue, hnodup, hstale⟩ := h.queue staleIds hmem
    refine ⟨hqueue, hnodup, fun w hw => ?_⟩
    obtain ⟨last, hlast, htime⟩ := hstale w hw
    exact ⟨last, hlast, fun j hj => htime j (Nat.le_of_succ_le hj)⟩

lemma Sound.heartbeat {i} {subject} (h : x.Sound i) (hinput : x.input i = .heartbeat subject)
    (hempty : (x.state i).stale = []) : x.Sound (i + 1) := by
  have hstate : x.state (i + 1) = ((x.state i).record (x.time i) subject).checkStale (x.time i) := by
    rw [x.next, hinput]
    rfl
  have hstops : x.stops i = [] := by
    rw [stops, hinput]
    rfl
  have hthreshold := staleThreshold_run x.start (i + 1)
  rw [hstate, checkStale_tracker] at hthreshold
  constructor
  · intro w last hlookup
    by_cases hw : x.Sends w i
    · have hlast : ((x.state i).step (x.time i) (x.input i)).1.tracker.workers.lookup w = some (x.time i) :=
        step_sends hw
      rw [← x.next, hlookup] at hlast
      obtain rfl := Option.some.inj hlast
      refine ⟨fun k hk _ => x.mono (Nat.le_of_lt_succ hk), fun k hk hstop => ⟨i, ?_, Nat.lt_succ_self i, hw⟩⟩
      refine Nat.lt_of_le_of_ne (Nat.le_of_lt_succ hk) ?_
      rintro rfl
      rw [hstops] at hstop
      cases hstop
    · have hsilent : (Event.heartbeat subject).sends w = false := by
        rw [← hinput]
        exact Bool.eq_false_iff.2 hw
      rw [hstate, checkStale_tracker, record_tracked hsilent] at hlookup
      exact (h.known w last hlookup).succ hw (hstops ▸ not_mem_nil)
  · intro staleIds hmem
    have hcheck := ((x.state i).record (x.time i) subject).checkStale_stale (x.time i)
    rw [record_stale, hempty, ← hstate] at hcheck
    rcases hcheck with ⟨-, hqueue⟩ | ⟨-, hqueue⟩
    · rw [hqueue] at hmem ⊢
      obtain rfl := mem_singleton.1 hmem
      refine ⟨rfl, staleWorkers_nodup, fun w hw => ?_⟩
      obtain ⟨last, hlast, hstale⟩ := mem_staleWorkers.1 hw
      refine ⟨last, ?_, fun j hj => ?_⟩
      · rw [hstate, checkStale_tracker, hlast]
      · have := x.mono (Nat.le_of_succ_le hj)
        omega
    · rw [hqueue] at hmem
      cases hmem

lemma Sound.staleList {i publish} (h : x.Sound i) (hinput : x.input i = .staleList publish) : x.Sound (i + 1) := by
  have hsends (w : String) : ¬ x.Sends w i := by
    rw [Sends, hinput]
    exact Bool.false_ne_true
  have hstep : (x.state (i + 1), x.stops i) =
      Prod.map id (List.map workerId) ((x.state i).stopStale publish) := by
    rw [x.next, stops, hinput]
    rfl
  cases hstale : (x.state i).stale with
  | nil =>
    rw [stopStale, hstale] at hstep
    exact h.same (congrArg Prod.fst hstep) (congrArg Prod.snd hstep) hsends
  | cons staleIds rest =>
    obtain ⟨hqueue, -⟩ := h.queue staleIds (by rw [hstale]; exact .head _)
    rw [stopStale, hqueue] at hstep
    have hstate := congrArg Prod.fst hstep
    have hstops := congrArg Prod.snd hstep
    dsimp only [Prod.map, id] at hstate hstops
    constructor
    · intro w last hlookup
      rw [hstate] at hlookup
      obtain ⟨hbefore, hnot⟩ := run_stopWorker_tracked _ hlookup
      exact (h.known w last hbefore).succ (hsends w) (hstops ▸ hnot)
    · intro staleIds hmem
      rw [hstate] at hmem
      cases hmem

lemma sound (htakes : x.TakesAtOnce) (i : Nat) : x.Sound i := by
  induction i with
  | zero => refine ⟨fun w last h => ?_, fun staleIds h => ?_⟩ <;> rw [x.start] at h <;> cases h
  | succ i ih =>
    cases hinput : x.input i with
    | heartbeat subject => exact ih.heartbeat hinput (htakes i (by rw [hinput]; rfl))
    | staleList publish => exact ih.staleList hinput
    | safety =>
      exact ih.same (by rw [x.next, hinput]; rfl) (by rw [stops, hinput]; rfl) (by simp [Sends, hinput, Event.sends])
    | idle =>
      exact ih.same (by rw [x.next, hinput]; rfl) (by rw [stops, hinput]; rfl) (by simp [Sends, hinput, Event.sends])

lemma stops_sublist (x : Interleaving) (i : Nat) :
    x.stops i = [] ∨ ∃ staleIds ∈ (x.state i).stale, (x.stops i).Sublist staleIds := by
  unfold stops
  cases x.input i with
  | heartbeat subject => exact .inl rfl
  | staleList publish =>
    change ((x.state i).stopStale publish).2.map workerId = [] ∨ _
    unfold stopStale
    cases hstale : (x.state i).stale with
    | nil => exact .inl rfl
    | cons staleIds rest =>
      refine .inr ⟨staleIds, .head _, ?_⟩
      change (((x.state i).stopStale publish).2.map workerId).Sublist staleIds
      rw [stopStale, hstale]
      exact run_stopWorker_sublist staleIds _
  | safety => exact .inl rfl
  | idle => exact .inl rfl

end Interleaving

theorem stops_silent_once (x : Interleaving) (htakes : x.TakesAtOnce) : x.StopsSilentOnce := by
  -- who is stopped is in the list that is taken, and so is still tracked
  have hstopped (w : String) (j : Nat) (h : w ∈ x.stops j) :
      ∃ last, x.Known w last j ∧ last + 30000 ≤ x.time j := by
    rcases x.stops_sublist j with hnone | ⟨staleIds, hmem, hsub⟩
    · rw [hnone] at h
      cases h
    · obtain ⟨-, -, hstale⟩ := (Interleaving.sound htakes j).queue staleIds hmem
      obtain ⟨last, hlast, htime⟩ := hstale w (hsub.subset h)
      exact ⟨last, (Interleaving.sound htakes j).known w last hlast, htime j le_rfl⟩
  constructor
  · intro w i j hij hsends hstop
    obtain ⟨last, hknown, htime⟩ := hstopped w j hstop
    have := hknown.1 i hij hsends
    omega
  · intro i
    rcases x.stops_sublist i with hnone | ⟨staleIds, hmem, hsub⟩
    · rw [hnone]
      exact .nil
    · exact ((Interleaving.sound htakes i).queue staleIds hmem).2.1.sublist hsub
  · intro w i j hij hi hj
    obtain ⟨last, hknown, -⟩ := hstopped w j hj
    exact hknown.2 i hij hi

theorem stops_silent_once_patrol : (⟨(patrol fun _ => .published).toRun, rfl⟩ : Interleaving).StopsSilentOnce := by
  refine stops_silent_once _ fun i hbeat => ?_
  rcases patrolInput_cases (fun _ => .published) i with ⟨rfl, -⟩ | ⟨-, hnil, -⟩ | ⟨-, -, hi⟩
  · rfl
  · exact hnil
  · change (patrolInput _ i _).isHeartbeat = true at hbeat
    rw [hi] at hbeat
    cases hbeat

def scriptedState (events : List Event) : Nat → Daemon
  | 0 => .new
  | n + 1 => ((scriptedState events n).step (if n = 0 then 0 else 30000 + n) (events.getD n .idle)).1

def scripted (events : List Event) : Interleaving where
  state := scriptedState events
  input n := events.getD n .idle
  time n := if n = 0 then 0 else 30000 + n
  next _ := rfl
  mono i j h := by
    dsimp only
    split <;> split <;> omega
  unbounded t := ⟨t, by split <;> omega⟩
  start := rfl

theorem not_stops_silent_once : ¬ (scripted [.heartbeat "events.a.heartbeat", .heartbeat "events.b.heartbeat",
        .heartbeat "events.a.heartbeat", .staleList fun _ => .published]).StopsSilentOnce ∧
      ¬ (scripted [.heartbeat "events.a.heartbeat", .heartbeat "events.b.heartbeat",
        .heartbeat "events.b.heartbeat", .staleList fun _ => .published, .staleList fun _ => .published]).StopsSilentOnce := by
  constructor
  · intro h
    exact absurd (h.silent "a" 2 3 (by decide) (by unfold Interleaving.Sends; decide) (by decide)) (by decide)
  · intro h
    obtain ⟨k, hk, hk', -⟩ := h.heard "a" 3 4 (by decide) (by decide) (by decide)
    omega

end Roz.Safety
