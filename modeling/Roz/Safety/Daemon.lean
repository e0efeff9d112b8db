import Mathlib.Data.List.AList
import Roz.Lib.Emitter

/-!
# The safety daemon (`roz-safety/src/main.rs`, `roz-safety/src/heartbeat.rs`, `roz-nats/src/subjects.rs`)

The daemon tracks when each worker was last heard, and its loop selects between three branches: a
heartbeat, a list of stale workers from its own queue, and a safety message, which it only logs.
Its watchdog task publishes the daemon's own heartbeat and touches none of this state.

A branch runs at one instant, in milliseconds.  What a publish call returns is part of the event.
-/

namespace Roz.Safety

def natsSpecialChars : List Char := ['.', '*', '>']

def validateToken (name value : String) : Except String Unit :=
  if value = "" then .error (name ++ " must not be empty")
  else
    match natsSpecialChars.find? fun ch => value.toList.contains ch with
    | some ch => .error (name ++ " must not contain '" ++ ch.toString ++ "'")
    | none => .ok ()

namespace Subjects

def estop (workerId : String) : Except String String := do
  validateToken "worker_id" workerId
  return "safety.estop." ++ workerId

end Subjects

/-! ## Heartbeats -/

structure HeartbeatTracker where
  /-- when each worker was last heard -/
  workers : AList fun _ : String => Nat
  staleThreshold : Nat

namespace HeartbeatTracker

def new (staleThreshold : Nat) : HeartbeatTracker := ⟨∅, staleThreshold⟩

variable (t : HeartbeatTracker)
def record (now : Nat) (workerId : String) : HeartbeatTracker :=
  { t with workers := t.workers.insert workerId now }

def staleWorkers (now : Nat) : List String :=
  (t.workers.entries.filter fun e => t.staleThreshold ≤ now - e.2).map Sigma.fst

def remove (workerId : String) : HeartbeatTracker :=
  { t with workers := t.workers.erase workerId }

lemma mem_staleWorkers {t : HeartbeatTracker} {now w} :
    w ∈ t.staleWorkers now ↔ ∃ last, t.workers.lookup w = some last ∧ t.staleThreshold ≤ now - last := by
  unfold staleWorkers
  rw [List.mem_map]
  constructor
  · rintro ⟨⟨id, last⟩, he, rfl⟩
    obtain ⟨hmem, hstale⟩ := List.mem_filter.1 he
    exact ⟨last, AList.mem_lookup_iff.2 hmem, of_decide_eq_true hstale⟩
  · rintro ⟨last, hlookup, hstale⟩
    exact ⟨⟨w, last⟩, List.mem_filter.2 ⟨AList.mem_lookup_iff.1 hlookup, decide_eq_true hstale⟩, rfl⟩

end HeartbeatTracker

/-! ## The loop -/

inductive PublishResult where
  | published
  | failed
  | unserializable
  deriving DecidableEq

structure EStop where
  subject : String
  workerId : String
  deriving DecidableEq

inductive Event where
  | heartbeat (subject : String)
  | staleList (publish : String → PublishResult)
  | safety
  /-- nothing is ready -/
  | idle

structure Daemon where
  tracker : HeartbeatTracker
  /-- the queue of stale lists, oldest first -/
  stale : List (List String)

def workerOf (subject : String) : Option String := (subject.toList.splitOn '.')[1]?.map String.ofList

/-- One worker of a stale list: it is no longer tracked, however the attempt ends. -/
def stopWorker (publish : String → PublishResult) (t : HeartbeatTracker) (workerId : String) :
    HeartbeatTracker × List EStop :=
  match Subjects.estop workerId with
  | .error _ => (t, [])
  | .ok subject =>
    (t.remove workerId, match publish workerId with
      | .published => [⟨subject, workerId⟩]
      | .failed => []
      | .unserializable => [])

namespace Daemon

def staleCapacity : Nat := 16

def new : Daemon := ⟨.new 30000, []⟩

def record (d : Daemon) (now : Nat) (subject : String) : Daemon :=
  match workerOf subject with
  | some workerId => { d with tracker := d.tracker.record now workerId }
  | none => d

variable (d : Daemon)
def trySend (staleIds : List String) : Daemon :=
  if d.stale.length < staleCapacity then { d with stale := d.stale ++ [staleIds] } else d

def checkStale (now : Nat) : Daemon :=
  if (d.tracker.staleWorkers now).isEmpty then d else d.trySend (d.tracker.staleWorkers now)

def stopStale (publish : String → PublishResult) : Daemon × List EStop :=
  match d.stale with
  | [] => (d, [])
  | staleIds :: rest =>
    let stopped := Emitter.run (stopWorker publish) d.tracker staleIds
    (⟨stopped.1, rest⟩, stopped.2)

def step (now : Nat) : Event → Daemon × List EStop
  | .heartbeat subject => ((d.record now subject).checkStale now, [])
  | .staleList publish => d.stopStale publish
  | .safety => (d, [])
  | .idle => (d, [])

end Daemon
end Roz.Safety
