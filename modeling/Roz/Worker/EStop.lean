import Roz.Core.Session
import Roz.Lib.Run
import Roz.Lib.Watch
import Mathlib.Data.List.Rotate

/-!
# The e-stop of a worker (`roz-worker/src/estop.rs`, `main.rs`, `session_relay.rs`)

One task listens for e-stop messages and raises a flag in a watch channel, at the first message or
when the subscription ends.  The invocation loop and the loops of the edge sessions look at the
flag; a turn waits for it, on a copy of its own, beside its agent.  No receiver is ever waited on
but those copies, so each of them sees a flag that was raised at any time.  The parties move in
any order, on any number of threads; a poll of a turn finds the agent's result ready or not
(`stopsTurns_run`).
-/

namespace Roz.Worker.EStop
open Roz.Core StepRun List

/-! ## Turns -/

inductive AgentFailure where
  | safety
  | toolDispatch
  | circuitBreakerTripped
  | cancelled
  | other
  deriving DecidableEq

def agentErrorToTurnExecutionFailure : AgentFailure → RuntimeFailureKind
  | .safety => .safetyBlocked
  | .toolDispatch => .toolError
  | .circuitBreakerTripped => .circuitBreakerTripped
  | .cancelled => .operatorAbort
  | .other => .modelError

/-- How the completion of a turn ends; `estopped` is the failure of its e-stop branch. -/
inductive TurnEnd where
  | completed
  | failed (kind : RuntimeFailureKind)
  | estopped
  deriving DecidableEq

def TurnEnd.failure : TurnEnd → Option RuntimeFailureKind
  | .completed => none
  | .failed kind => some kind
  | .estopped => some .safetyBlocked

inductive Branch where
  | agent
  | cancellation
  | estop
  deriving DecidableEq

/-- A running turn: its copy of the receiver, and whether its token is cancelled. -/
structure Turn where
  receiver : Watch.Receiver
  cancelled : Bool
  deriving DecidableEq

/-- What a poll meets: the agent's result if it is ready, and the branch that `select!` polls
first. -/
structure Poll where
  agent : Option (Except AgentFailure Unit)
  start : Nat

structure Executor where
  branches : List Branch
  agentFailure : AgentFailure → RuntimeFailureKind
  -- the watch fires and the flag is not up
  falseAlarm : RuntimeFailureKind

def taskExecutor : Executor where
  branches := [.agent, .cancellation, .estop]
  agentFailure := agentErrorToTurnExecutionFailure
  falseAlarm := .modelError

def edgeExecutor : Executor where
  branches := [.agent, .estop, .cancellation]
  agentFailure := fun _ => .modelError
  falseAlarm := .edgeTransportLost

def Turn.ready (turn : Turn) (c : Watch.Channel Bool) (p : Poll) : Branch → Bool
  | .agent => p.agent.isSome
  | .cancellation => turn.cancelled
  | .estop => turn.receiver.changed c != .pending

def Executor.handle (x : Executor) (turn : Turn) (c : Watch.Channel Bool) (p : Poll) : Branch → TurnEnd
  | .agent =>
    match p.agent with
    | some (.error error) => .failed (x.agentFailure error)
    | _ => .completed
  | .cancellation => .failed .operatorAbort
  | .estop =>
    match turn.receiver.changed c with
    | .ready receiver => if receiver.borrow c then .estopped else .failed x.falseAlarm
    | _ => .failed x.falseAlarm

/-- One poll: the first ready branch, from the one that is polled first round to it. -/
def Executor.poll (x : Executor) (turn : Turn) (c : Watch.Channel Bool) (p : Poll) : Option TurnEnd :=
  ((x.branches.rotate p.start).find? (turn.ready c p)).map (x.handle turn c p)

/-! ## Tasks -/

inductive Copper where
  | absent
  | running
  | dropped
  | shutDown
  deriving DecidableEq

def Copper.drop : Copper → Copper
  | .running => .dropped
  | copper => copper

def Copper.shutdown : Copper → Copper
  | .running => .shutDown
  | copper => copper

inductive TaskTerminalStatus where
  | succeeded
  | failed
  | timedOut
  | cancelled
  | safetyStop
  deriving DecidableEq

variable (failure : Option RuntimeFailureKind)

/-- `session_runtime_error_to_agent_error`, then `classify_terminal_status`. -/
def terminalStatus (estopActive : Bool) : TaskTerminalStatus :=
  match failure with
  | none => .succeeded
  | some .operatorAbort => .cancelled
  | some .safetyBlocked => if estopActive then .safetyStop else .failed
  | some _ => .failed

/-- `run_turn_streaming` returns an error; an abort is a result of its own. -/
def returnsError : Bool := failure.any fun kind => kind != .operatorAbort

/-- Where `execute_task` is; the end of the turn is `none` if the timeout cut it. -/
inductive TaskPc where
  | startUp
  | refused
  | prepared
  | turn (turn : Turn)
  | draining (ended : TurnEnd)
  | returned (ended : Option TurnEnd) (status : TaskTerminalStatus)
  | published (ended : Option TurnEnd) (status : TaskTerminalStatus)
  | over
  deriving DecidableEq

structure Task where
  -- whether the flag was up when the invocation was received; the code keeps no such record
  underEstop : Bool
  receiver : Watch.Receiver
  copper : Copper
  pc : TaskPc
  deriving DecidableEq

inductive TaskEvent where
  | refuse
  | prepare (ooda : Bool)
  | beginTurn
  | poll (p : Poll)
  | drained
  | timeOut
  | publish
  | finish

def Task.timedOut (t : Task) : Task := { t with pc := .returned none .timedOut }

def Task.step (t : Task) (c : Watch.Channel Bool) (e : TaskEvent) : Task :=
  match e, t.pc with
  | .refuse, .startUp => { t with pc := .refused }
  | .prepare ooda, .startUp => { t with copper := if ooda then .running else .absent, pc := .prepared }
  -- the executor gets a copy, and the turn a copy of that
  | .beginTurn, .prepared => { t with pc := .turn ⟨t.receiver.clone.clone, false⟩ }
  | .poll p, .turn turn =>
    match taskExecutor.poll turn c p with
    | none => t
    | some ended => { t with pc := .draining ended }
  | .drained, .draining ended =>
    { t with
      copper := if returnsError ended.failure && t.receiver.borrow c then t.copper.drop else t.copper
      pc := .returned (some ended) (terminalStatus ended.failure (t.receiver.borrow c)) }
  | .timeOut, .turn _ => t.timedOut
  | .timeOut, .draining _ => t.timedOut
  | .publish, .returned ended status => { t with pc := .published ended status }
  | .finish, .published _ _ => { t with copper := t.copper.shutdown, pc := .over }
  | _, _ => t

/-! ## Edge sessions -/

inductive SessionPc where
  | starting
  | waiting
  | preparing
  -- whether the agent could be built
  | turn (turn : Turn) (built : Bool)
  | draining (ended : TurnEnd)
  | closed
  deriving DecidableEq

structure EdgeSession where
  receiver : Watch.Receiver
  pc : SessionPc
  deriving DecidableEq

inductive EdgeMessage where
  | userMessage
  | cancelSession
  | other
  deriving DecidableEq

inductive SessionEvent where
  | started
  | message (message : EdgeMessage)
  -- `begin_turn` may refuse the turn
  | beginTurn (begins built : Bool)
  | cancelTurn
  | poll (p : Poll)
  | drained (closes : Bool)
  -- an error of a publish ends the session, and drops its turn
  | dropped

/-- A turn whose agent could not be built ends with that error before it selects. -/
def pollEdge (turn : Turn) (built : Bool) (c : Watch.Channel Bool) (p : Poll) : Option TurnEnd :=
  if built then edgeExecutor.poll turn c p else some (.failed .modelError)

def EdgeSession.step (s : EdgeSession) (c : Watch.Channel Bool) (e : SessionEvent) : EdgeSession :=
  match e, s.pc with
  | .started, .starting => { s with pc := .waiting }
  | .message message, .waiting =>
    if s.receiver.borrow c then { s with pc := .closed }
    else
      match message with
      | .userMessage => { s with pc := .preparing }
      | .cancelSession => { s with pc := .closed }
      | .other => s
  | .beginTurn begins built, .preparing =>
    if begins then { s with pc := .turn ⟨s.receiver.clone.clone, false⟩ built } else { s with pc := .waiting }
  | .cancelTurn, .turn turn built => { s with pc := .turn { turn with cancelled := true } built }
  | .poll p, .turn turn built =>
    match pollEdge turn built c p with
    | none => s
    | some ended => { s with pc := .draining ended }
  | .drained closes, .draining _ => { s with pc := if closes then .closed else .waiting }
  | .dropped, _ => { s with pc := .closed }
  | _, _ => s

/-! ## The worker -/

/-- Where the invocation loop is, and whether the flag was up when the invocation was received. -/
inductive LoopPc where
  | waiting
  | received (underEstop : Bool)
  | admitted (underEstop : Bool)
  deriving DecidableEq

structure WorkerState where
  channel : Watch.Channel Bool
  listening : Bool
  receiver : Watch.Receiver
  relay : Watch.Receiver
  loop : LoopPc
  tasks : List Task
  sessions : List EdgeSession
  deriving DecidableEq

inductive WorkerEvent where
  | estopMessage
  | subscriptionEnds
  | receive
  | check
  -- the invocation is decoded and a slot is free, or not
  | dispatch (starts : Bool)
  | task (i : Nat) (e : TaskEvent)
  | startSession
  | session (i : Nat) (e : SessionEvent)

namespace WorkerState

def start : WorkerState where
  channel := .new false
  listening := true
  receiver := .new
  relay := Watch.Receiver.new.clone
  loop := .waiting
  tasks := []
  sessions := []

def step (w : WorkerState) : WorkerEvent → WorkerState
  | .estopMessage => if w.listening then { w with channel := w.channel.send true } else w
  | .subscriptionEnds =>
    if w.listening then { w with channel := (w.channel.send true).close, listening := false } else w
  | .receive =>
    match w.loop with
    | .waiting => { w with loop := .received w.channel.value }
    | _ => w
  | .check =>
    match w.loop with
    | .received underEstop => { w with loop := if w.receiver.borrow w.channel then .waiting else .admitted underEstop }
    | _ => w
  | .dispatch starts =>
    match w.loop with
    | .admitted underEstop =>
      { w with
        loop := .waiting
        tasks := if starts then w.tasks ++ [⟨underEstop, w.receiver.clone, .absent, .startUp⟩] else w.tasks }
    | _ => w
  | .task i e => { w with tasks := w.tasks.modify i fun t => t.step w.channel e }
  | .startSession => { w with sessions := w.sessions ++ [⟨w.relay.clone, .starting⟩] }
  | .session i e => { w with sessions := w.sessions.modify i fun s => s.step w.channel e }

structure StopsTurns (w : WorkerState) : Prop where
  tasks : w.channel.value = true → ∀ (i : Nat) (task : Task) (turn : Turn) (p : Poll), w.tasks[i]? = some task →
    task.pc = .turn turn → ∃ ended, (w.step (.task i (.poll p))).tasks[i]?.map Task.pc = some (.draining ended) ∧
      (p.agent = none → turn.cancelled = false → ended.failure = some .safetyBlocked)
  sessions : w.channel.value = true → ∀ (i : Nat) (session : EdgeSession) (turn : Turn) (built : Bool) (p : Poll),
    w.sessions[i]? = some session → session.pc = .turn turn built →
    ∃ ended, (w.step (.session i (.poll p))).sessions[i]?.map EdgeSession.pc = some (.draining ended) ∧
      (built = true → p.agent = none → turn.cancelled = false → ended.failure = some .safetyBlocked)
  copper : ∀ task ∈ w.tasks, ∀ status, task.pc = .published (some .estopped) status → task.copper ≠ .running
  admitted : ∀ task ∈ w.tasks, task.underEstop = false

end WorkerState

/-! ## What the steps keep -/

lemma Copper.drop_ne_running (copper : Copper) : copper.drop ≠ .running := by
  cases copper <;> exact Copper.noConfusion

variable {c : Watch.Channel Bool} {turn : Turn} {x : Executor}
lemma Executor.poll_of_up (hbranch : .estop ∈ x.branches) (hlatch : Watch.Latch c)
    (hup : c.value = true) (hturn : turn.receiver.Unused) (p : Poll) :
    ∃ ended, x.poll turn c p = some ended ∧ (p.agent = none → turn.cancelled = false → ended = .estopped) := by
  have hchanged := hlatch.changed_of_up hup hturn
  have hready : turn.ready c p .estop = true := by
    rw [Turn.ready, hchanged]
    rfl
  have hsome : ((x.branches.rotate p.start).find? (turn.ready c p)).isSome = true :=
    find?_isSome.2 ⟨.estop, mem_rotate.2 hbranch, hready⟩
  obtain ⟨branch, hfind⟩ := Option.isSome_iff_exists.1 hsome
  refine ⟨x.handle turn c p branch, by rw [poll, hfind, Option.map_some], fun hagent hcancelled => ?_⟩
  -- the branch that was found is ready, and no other one is
  have hfound := find?_some hfind
  cases branch with
  | agent =>
    rw [Turn.ready, hagent] at hfound
    cases hfound
  | cancellation =>
    rw [Turn.ready, hcancelled] at hfound
    cases hfound
  | estop =>
    rw [handle, hchanged]
    exact if_pos hup

variable {p : Poll}
lemma Executor.up_of_estopped (h : x.poll turn c p = some .estopped) : c.value = true := by
  obtain ⟨branch, -, hhandle⟩ := Option.map_eq_some_iff.1 h
  cases branch with
  | agent =>
    unfold handle at hhandle
    dsimp only at hhandle
    split at hhandle <;> cases hhandle
  | cancellation => cases hhandle
  | estop =>
    unfold handle at hhandle
    dsimp only at hhandle
    split at hhandle
    · split at hhandle
      · rename_i hup
        exact hup
      · cases hhandle
    · cases hhandle

/-- A running turn has not waited yet; a stopped one found the flag up, and when its task has
returned, the Copper handle is dropped. -/
def TaskPc.Sound (c : Watch.Channel Bool) (copper : Copper) : TaskPc → Prop
  | .turn running => running.receiver.Unused
  | .draining ended => ended = .estopped → c.value = true
  | .returned ended _ => ended = some .estopped → copper ≠ .running
  | .published ended _ => ended = some .estopped → copper ≠ .running
  | _ => True

structure Task.Sound (c : Watch.Channel Bool) (t : Task) : Prop where
  admitted : t.underEstop = false
  receiver : t.receiver.Unused
  pc : t.pc.Sound c t.copper

def SessionPc.Sound : SessionPc → Prop
  | .turn running _ => running.receiver.Unused
  | _ => True

structure EdgeSession.Sound (s : EdgeSession) : Prop where
  receiver : s.receiver.Unused
  pc : s.pc.Sound

lemma TaskPc.Sound.raise {c'} (hraise : c.value = true → c'.value = true) {copper}
    {pc : TaskPc} (h : pc.Sound c copper) : pc.Sound c' copper := by
  cases pc with
  | draining ended => exact fun hended => hraise (h hended)
  | _ => exact h

lemma Task.Sound.raise {c c'} (hraise : c.value = true → c'.value = true) {t : Task} (h : t.Sound c) : t.Sound c' :=
  ⟨h.admitted, h.receiver, h.pc.raise hraise⟩

lemma Task.Sound.step {c} {t : Task} (h : t.Sound c) (e : TaskEvent) : (t.step c e).Sound c := by
  have hpc := h.pc
  unfold Task.step
  split
  · exact ⟨h.admitted, h.receiver, trivial⟩
  · exact ⟨h.admitted, h.receiver, trivial⟩
  · exact ⟨h.admitted, h.receiver, h.receiver.clone.clone⟩
  · -- a poll
    split
    · exact h
    · rename_i ended hpoll
      refine ⟨h.admitted, h.receiver, fun hended => ?_⟩
      rw [hended] at hpoll
      exact taskExecutor.up_of_estopped hpoll
  · -- the turn has returned, and the flag is looked at
    rename_i ended hdraining
    rw [hdraining] at hpc
    refine ⟨h.admitted, h.receiver, fun hended => ?_⟩
    obtain rfl : ended = .estopped := Option.some.inj hended
    have hup : t.receiver.borrow c = true := hpc rfl
    rw [hup]
    exact t.copper.drop_ne_running
  · exact ⟨h.admitted, h.receiver, nofun⟩
  · exact ⟨h.admitted, h.receiver, nofun⟩
  · rename_i ended status hreturned
    rw [hreturned] at hpc
    exact ⟨h.admitted, h.receiver, hpc⟩
  · exact ⟨h.admitted, h.receiver, trivial⟩
  · exact h

lemma EdgeSession.Sound.step {s : EdgeSession} (h : s.Sound) (c : Watch.Channel Bool) (e : SessionEvent) :
    (s.step c e).Sound := by
  have hpc := h.pc
  unfold EdgeSession.step
  split
  · exact ⟨h.receiver, trivial⟩
  · split
    · exact ⟨h.receiver, trivial⟩
    · split
      · exact ⟨h.receiver, trivial⟩
      · exact ⟨h.receiver, trivial⟩
      · exact h
  · split
    · exact ⟨h.receiver, h.receiver.clone.clone⟩
    · exact ⟨h.receiver, trivial⟩
  · rename_i turn built hturn
    rw [hturn] at hpc
    exact ⟨h.receiver, hpc⟩
  · split
    · exact h
    · exact ⟨h.receiver, trivial⟩
  · split
    · exact ⟨h.receiver, trivial⟩
    · exact ⟨h.receiver, trivial⟩
  · exact ⟨h.receiver, trivial⟩
  · exact h

variable {ended : TurnEnd}
lemma Task.pc_step_poll {t : Task} (hturn : t.pc = .turn turn)
    (hpoll : taskExecutor.poll turn c p = some ended) : (t.step c (.poll p)).pc = .draining ended := by
  simp only [Task.step, hturn, hpoll]

lemma EdgeSession.pc_step_poll {s : EdgeSession} {built}
    (hturn : s.pc = .turn turn built) (hpoll : pollEdge turn built c p = some ended) :
    (s.step c (.poll p)).pc = .draining ended := by simp only [EdgeSession.step, hturn, hpoll]

def LoopPc.Sound (c : Watch.Channel Bool) : LoopPc → Prop
  | .waiting => True
  | .received underEstop => underEstop = true → c.value = true
  | .admitted underEstop => underEstop = false

namespace WorkerState

structure Sound (w : WorkerState) : Prop where
  latch : Watch.Latch w.channel
  receiver : w.receiver.Unused
  relay : w.relay.Unused
  loop : w.loop.Sound w.channel
  tasks : ∀ task ∈ w.tasks, task.Sound w.channel
  sessions : ∀ session ∈ w.sessions, session.Sound

lemma sound_start : start.Sound where
  latch := .new
  receiver := rfl
  relay := rfl
  loop := trivial
  tasks := forall_mem_nil _
  sessions := forall_mem_nil _

lemma forall_mem_modify {α : Type} {P : α → Prop} {f} (hf : ∀ x, P x → P (f x)) {l : List α}
    (h : ∀ x ∈ l, P x) (i : Nat) : ∀ x ∈ l.modify i f, P x := by
  intro x hx
  obtain ⟨j, hj⟩ := mem_iff_getElem?.1 hx
  rw [getElem?_modify] at hj
  obtain ⟨y, hy, rfl⟩ := Option.map_eq_some_iff.1 hj
  have hPy := h y (mem_of_getElem? hy)
  split
  · exact hf y hPy
  · exact hPy

lemma Sound.raise {w : WorkerState} (h : w.Sound) {c : Watch.Channel Bool} (hc : Watch.Latch c) (hup : c.value = true)
    (listening : Bool) : Sound { w with channel := c, listening := listening } where
  latch := hc
  receiver := h.receiver
  relay := h.relay
  loop := by
    have hloop := h.loop
    cases hpc : w.loop with
    | waiting => trivial
    | received underEstop => exact fun _ => hup
    | admitted underEstop =>
      rw [hpc] at hloop
      exact hloop
  tasks := fun task hmem => (h.tasks task hmem).raise fun _ => hup
  sessions := h.sessions

lemma Sound.step {w : WorkerState} (h : w.Sound) (e : WorkerEvent) : (w.step e).Sound := by
  have hloop := h.loop
  cases e with
  | estopMessage =>
    rw [WorkerState.step]
    split
    · exact h.raise (.send w.channel) rfl w.listening
    · exact h
  | subscriptionEnds =>
    rw [WorkerState.step]
    split
    · exact h.raise (Watch.Latch.send w.channel).close rfl false
    · exact h
  | receive =>
    rw [WorkerState.step]
    split
    · exact { h with loop := fun hup => hup }
    · exact h
  | check =>
    rw [WorkerState.step]
    split
    · rename_i underEstop hpc
      rw [hpc] at hloop
      refine { h with loop := ?_ }
      cases hup : w.channel.value with
      | true =>
        rw [show w.receiver.borrow w.channel = true from hup]
        trivial
      | false =>
        rw [show w.receiver.borrow w.channel = false from hup]
        -- had it been received under the flag, the flag would be up
        cases underEstop with
        | false => rfl
        | true => exact absurd (hloop rfl) (by rw [hup]; exact Bool.false_ne_true)
    · exact h
  | dispatch starts =>
    rw [WorkerState.step]
    split
    · rename_i underEstop hpc
      rw [hpc] at hloop
      refine { h with loop := trivial, tasks := ?_ }
      cases starts with
      | false => exact h.tasks
      | true =>
        intro task hmem
        rcases mem_append.1 hmem with hmem | hmem
        · exact h.tasks task hmem
        · rw [mem_singleton.1 hmem]
          exact ⟨hloop, h.receiver.clone, trivial⟩
    · exact h
  | task i e => exact { h with tasks := forall_mem_modify (fun _ ht => ht.step e) h.tasks i }
  | startSession =>
    refine { h with sessions := fun session hmem => ?_ }
    rcases mem_append.1 hmem with hmem | hmem
    · exact h.sessions session hmem
    · rw [mem_singleton.1 hmem]
      exact ⟨h.relay.clone, trivial⟩
  | session i e => exact { h with sessions := forall_mem_modify (fun _ hs => hs.step w.channel e) h.sessions i }

lemma sound_run (events : List WorkerEvent) : (events.foldl step start).Sound :=
  run_invariant Sound (fun w e w' h hstep => by cases hstep; exact h.step e) sound_start _
    (runFrom_total step events start)

lemma Sound.stopsTurns {w : WorkerState} (h : w.Sound) : w.StopsTurns where
  tasks := by
    intro hup i task turn p htask hturn
    have hpc := (h.tasks task (mem_of_getElem? htask)).pc
    rw [hturn] at hpc
    obtain ⟨ended, hpoll, hended⟩ := taskExecutor.poll_of_up (by decide) h.latch hup hpc p
    refine ⟨ended, ?_, fun hagent hcancelled => ?_⟩
    · rw [WorkerState.step, getElem?_modify_eq, htask, Option.map_eq_map, Option.map_some, Option.map_some, Task.pc_step_poll hturn hpoll]
    · rw [hended hagent hcancelled]
      rfl
  sessions := by
    intro hup i session turn built p hsession hturn
    have hpc := (h.sessions session (mem_of_getElem? hsession)).pc
    rw [hturn] at hpc
    rw [WorkerState.step, getElem?_modify_eq, hsession, Option.map_eq_map, Option.map_some, Option.map_some]
    cases built with
    | true =>
      obtain ⟨ended, hpoll, hended⟩ := edgeExecutor.poll_of_up (by decide) h.latch hup hpc p
      refine ⟨ended, congrArg some (EdgeSession.pc_step_poll hturn hpoll), fun _ hagent hcancelled => ?_⟩
      rw [hended hagent hcancelled]
      rfl
    | false => exact ⟨.failed .modelError, congrArg some (EdgeSession.pc_step_poll hturn rfl), nofun⟩
  copper := by
    intro task hmem status hpublished
    have hpc := (h.tasks task hmem).pc
    rw [hpublished] at hpc
    exact hpc rfl
  admitted := fun task hmem => (h.tasks task hmem).admitted

theorem stopsTurns_run (events : List WorkerEvent) : (events.foldl step start).StopsTurns :=
  (sound_run events).stopsTurns

def unbuilt : List WorkerEvent :=
  [.startSession, .session 0 .started, .session 0 (.message .userMessage), .estopMessage,
    .session 0 (.beginTurn true false)]

/-- Nothing is ready at the poll but the flag, and the turn is not blocked for safety. -/
theorem unbuilt_not_blocked : (unbuilt.foldl step start).channel.value = true ∧
    (unbuilt.foldl step start).sessions[0]?.map EdgeSession.pc = some (.turn ⟨⟨0⟩, false⟩ false) ∧
    ((unbuilt.foldl step start).step (.session 0 (.poll ⟨none, 0⟩))).sessions[0]?.map EdgeSession.pc =
      some (.draining (.failed .modelError)) := by
  decide

end WorkerState
end Roz.Worker.EStop
