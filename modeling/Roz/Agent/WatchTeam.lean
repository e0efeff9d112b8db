import Roz.Lib.Run

/-!
# What the orchestrator sees of its team (`watch_team.rs`, `spawn_worker.rs`, `roz-nats/src/team.rs`)

`watch_team` reads a durable consumer that the first call to find the stream creates, with
`DeliverPolicy::New`.  From then on every event of a child is returned once (`returned_published`);
what a child published before is never returned (`early_event_lost`).
-/

namespace Roz.Agent.Team
open StepRun List

/-- A message of the subject `roz.team.{parent}.worker.{child}`; the payload is `none` if it does not
decode. -/
structure Message (Event : Type) where
  parent : Nat
  child : Nat
  payload : Option Event

/-- Whether the stream and its consumer `watch-{parent}` exist, what that one has still to deliver, the
children, what they have published, and what `watch_team` has returned. -/
structure State (Event : Type) where
  stream : Bool
  consumer : Bool
  queue : List (Message Event)
  spawned : List Nat
  published : List Event
  returned : List Event

/-- A call of `watch_team` gets its consumer and then fetches. -/
inductive Step (Event : Type) where
  | createStream
  | spawnWorker (child : Nat)
  | publishTeamEvent (message : Message Event)
  | getOrCreateConsumer
  | fetch (limit : Nat)

def maxLimit : Nat := 50

namespace State
variable {Event : Type} (parent : Nat) (s : State Event)
def new : State Event := ⟨false, false, [], [], [], []⟩

-- without the stream nothing takes the message, and the publish fails
def publishTeamEvent (m : Message Event) : State Event :=
  if s.stream then
    { s with
      queue := if s.consumer ∧ m.parent = parent then s.queue ++ [m] else s.queue
      published := s.published ++ if m.parent = parent ∧ m.child ∈ s.spawned then m.payload.toList else [] }
  else s

def getOrCreateConsumer : State Event := { s with consumer := s.consumer || s.stream }

-- without a consumer the queue is empty
def fetch (limit : Nat) : State Event :=
  { s with
    queue := s.queue.drop (min limit maxLimit)
    returned := s.returned ++ (s.queue.take (min limit maxLimit)).filterMap (·.payload) }

def watchTeam (limit : Nat) : State Event := s.getOrCreateConsumer.fetch limit

def step : Step Event → State Event
  | .createStream => { s with stream := true }
  | .spawnWorker child => { s with spawned := s.spawned ++ [child] }
  | .publishTeamEvent m => s.publishTeamEvent parent m
  | .getOrCreateConsumer => s.getOrCreateConsumer
  | .fetch limit => s.fetch limit

/-- Only children publish for the team, and the consumer is there when they do. -/
def Watched : Step Event → Prop
  | .publishTeamEvent m => m.parent = parent → m.child ∈ s.spawned ∧ (s.stream = true → s.consumer = true)
  | _ => True

/-- What was returned, and then what is to be delivered, is what was published. -/
def NoneLost : Prop := s.returned ++ s.queue.filterMap (·.payload) = s.published

variable {parent s}
lemma NoneLost.publish (h : s.NoneLost) {m} (hok : s.Watched parent (.publishTeamEvent m)) :
    (s.publishTeamEvent parent m).NoneLost := by
  unfold NoneLost at h
  unfold publishTeamEvent
  split
  · next hstream =>
    by_cases hteam : m.parent = parent
    · obtain ⟨hchild, hconsumer⟩ := hok hteam
      cases hpayload : m.payload <;> simp [NoneLost, hconsumer hstream, hteam, hchild, hpayload, ← h]
    · simpa [NoneLost, hteam] using h
  · exact h

lemma NoneLost.fetch (h : s.NoneLost) (limit : Nat) : (s.fetch limit).NoneLost := by
  unfold NoneLost State.fetch
  rw [append_assoc, ← filterMap_append, take_append_drop]
  exact h

lemma NoneLost.step (h : s.NoneLost) (i : Step Event) (hok : s.Watched parent i) : (s.step parent i).NoneLost := by
  cases i with
  | createStream => exact h
  | spawnWorker child => exact h
  | publishTeamEvent m => exact h.publish hok
  | getOrCreateConsumer => exact h
  | fetch limit => exact h.fetch limit

/-- Each call takes a message off the queue, so as many calls as it has messages return them all. -/
lemma NoneLost.watch_all (limits : List Nat) : ∀ {s : State Event}, s.NoneLost → (∀ l ∈ limits, 1 ≤ l) →
    s.queue.length ≤ limits.length → (limits.foldl watchTeam s).returned = s.published := by
  induction limits with
  | nil =>
    intro s h _ hlength
    unfold NoneLost at h
    rwa [length_eq_zero_iff.1 (Nat.le_zero.1 hlength), filterMap_nil, append_nil] at h
  | cons limit limits ih =>
    intro s h hlimits hlength
    have hlimit : 1 ≤ limit := hlimits limit mem_cons_self
    have hwatched : (s.watchTeam limit).NoneLost := NoneLost.fetch (s := s.getOrCreateConsumer) h limit
    have hshorter : (s.watchTeam limit).queue.length ≤ limits.length := by
      change (s.queue.drop (min limit maxLimit)).length ≤ limits.length
      rw [length_drop, maxLimit]
      rw [length_cons] at hlength
      omega
    exact ih hwatched (fun l hl => hlimits l (mem_cons_of_mem limit hl)) hshorter

end State
open State

/-- If the consumer is there when the children publish, `watch_team` has returned what they published
up to some event, and further calls return the rest. -/
theorem returned_published {Event : Type} (parent : Nat) (steps : List (Step Event))
    (hok : EveryStep (fun s i => .next (step parent s i)) State.new (Watched parent) steps) :
    let s := steps.foldl (step parent) State.new
    s.returned <+: s.published ∧ ∀ limits : List Nat, (∀ l ∈ limits, 1 ≤ l) → s.queue.length ≤ limits.length →
      (limits.foldl watchTeam s).returned = s.published := by
  intro s
  have hnew : (State.new : State Event).NoneLost := rfl
  have h : s.NoneLost := hok.invariant NoneLost (fun s i s' h hok hs => Flow.next.inj hs ▸ h.step i hok) hnew steps s
    (runFrom_total _ steps _)
  exact ⟨⟨_, h⟩, fun limits => h.watch_all limits⟩

/-- The orchestrator looks before its worker publishes. -/
def watchedFirst : List (Step String) :=
  [.createStream, .getOrCreateConsumer, .spawnWorker 2, .publishTeamEvent ⟨1, 2, some "started"⟩]

theorem returned_published_watchedFirst :
    ((watchedFirst.foldl (step 1) State.new).watchTeam 10).returned = ["started"] :=
  (returned_published 1 watchedFirst (by simp [watchedFirst, everyStep_cons, everyStep_nil, Watched, step,
    State.getOrCreateConsumer])).2 [10] (by decide) (by decide)

/-- The worker publishes before the orchestrator looks for the first time, and once more after. -/
def publishedFirst : List (Step String) :=
  [.createStream, .spawnWorker 2, .publishTeamEvent ⟨1, 2, some "started"⟩, .getOrCreateConsumer, .fetch 10,
    .publishTeamEvent ⟨1, 2, some "failed"⟩, .getOrCreateConsumer, .fetch 10]

theorem early_event_lost : let s := publishedFirst.foldl (step 1) State.new
    s.published = ["started", "failed"] ∧ ∀ limits : List Nat, (limits.foldl watchTeam s).returned = ["failed"] := by
  refine ⟨rfl, fun limits => ?_⟩
  induction limits with
  | nil => rfl
  | cons limit limits ih =>
    have hsame : (publishedFirst.foldl (step 1) State.new).watchTeam limit = publishedFirst.foldl (step 1) State.new := by
      simp [publishedFirst, watchTeam, step, State.publishTeamEvent, State.getOrCreateConsumer, State.fetch, State.new,
        maxLimit]
    rw [foldl_cons, hsame, ih]

end Roz.Agent.Team
