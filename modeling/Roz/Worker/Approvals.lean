import Roz.Agent.Safety
import Roz.Lib.Run
import Mathlib.Data.List.AList

/-!
# Human approval of a worker's tool calls (`roz-worker/src/main.rs`)

The gate of the agent loop registers a pending approval under the id of the call and reports the
request on the session event stream.  A relay publishes the stream's requests and resolutions on
the team subject of the task; the server publishes decisions on the same subject; a consumer of
the subject resolves pending approvals.  The parties move in any order; the stream and the subject
are queues, so every event may be late.

The consumer cannot tell the relay's own resolutions from decisions, and call ids may come back:
those of Gemini start from `gemini_call_0` in every response.  So a resolution that is still under
way may let a later call through (`approvedOnce_run`).
-/

namespace Roz.Worker
open Roz.Agent StepRun List

/-! ## The ids of tool calls (`roz-agent/src/model/gemini.rs`) -/

inductive GeminiPart where
  | text (text : String)
  | functionCall (name : String) (args : Json)
  | functionResponse (name : String) (response : Json)
  | inlineData (mimeType data : String)

structure Candidate where
  parts : List GeminiPart
  finishReason : Option String

structure GeminiResponse where
  candidates : List Candidate
  -- the token counts of the prompt and of the candidates
  usageMetadata : Option (Nat × Nat)

def convertParts : (callIndex : Nat) → List GeminiPart → List ContentPart
  | _, [] => []
  | i, .text text :: parts => .text text :: convertParts i parts
  | i, .functionCall name args :: parts =>
    .toolUse ("gemini_call_" ++ toString i) name args :: convertParts (i + 1) parts
  | i, _ :: parts => convertParts i parts

def convertResponse (resp : GeminiResponse) : CompletionResponse :=
  let parts :=
    match resp.candidates with
    | [] => []
    | c :: _ => convertParts 0 c.parts
  let usage := resp.usageMetadata.getD (0, 0)
  { parts := parts
    stopReason :=
      if parts.any ContentPart.isToolUse then .toolUse
      else if resp.candidates.head?.bind Candidate.finishReason = some "MAX_TOKENS" then .maxTokens
      else .endTurn
    usage := ⟨usage.1, usage.2, 0, 0⟩ }

/-! ## Events -/

inductive SessionEvent where
  | approvalRequested (approvalId action reason : String) (timeoutSecs : Nat)
  | approvalResolved (approvalId : String) (outcome : ApprovalOutcome)

inductive TeamEvent where
  | workerApprovalRequested (workerId taskId approvalId toolName reason : String) (timeoutSecs : Nat)
  | workerApprovalResolved (workerId taskId approvalId : String) (approved : Bool) (modifier : Option Json)

variable (id : String)
def SessionEvent.resolves : SessionEvent → Bool
  | .approvalResolved approvalId _ => approvalId = id
  | .approvalRequested .. => false

def TeamEvent.resolves : TeamEvent → Bool
  | .workerApprovalResolved _ _ approvalId _ _ => approvalId = id
  | .workerApprovalRequested .. => false

def TeamEvent.requests : TeamEvent → Bool
  | .workerApprovalRequested _ _ approvalId _ _ _ => approvalId = id
  | .workerApprovalResolved .. => false

def teamEventOf (workerTaskId : String) : SessionEvent → TeamEvent
  | .approvalRequested approvalId action reason timeoutSecs =>
    .workerApprovalRequested workerTaskId workerTaskId approvalId action reason timeoutSecs
  | .approvalResolved approvalId outcome =>
    .workerApprovalResolved workerTaskId workerTaskId approvalId (!outcome.isDenied) none

/-! ## The task

Gates are numbered.  The numbers, where an event comes from and which calls were let through is
kept for the statements; the code has the sender of a channel in place of the number. -/

inductive Source where
  -- of an event of this gate
  | relay (gate : Nat)
  | server
  deriving DecidableEq

structure Published where
  event : TeamEvent
  source : Source

structure Gate where
  number : Nat
  call : ToolCall
  reason : String
  timeoutSecs : Nat
  -- the request is on the session stream
  announced : Bool
  -- the decision in the channel, and the place on the subject that it came from
  inbox : Option (ApprovalDecision × Nat)

/-- A call that was let through, and the place of the decision on the subject. -/
structure Passed where
  gate : Nat
  callId : String
  decision : Nat
  deriving DecidableEq

structure WorkerTask where
  -- the calls of the last model response that are not handled yet
  calls : List ToolCall
  gate : Option Gate
  gates : Nat
  pending : AList fun _ : String => Nat
  -- the session events that are not relayed yet, with their gates
  events : List (SessionEvent × Nat)
  -- all that was published on the team subject, and how much of it the consumer has seen
  subject : List Published
  delivered : Nat
  passed : List Passed

namespace WorkerTask

def start : WorkerTask := ⟨[], none, 0, ∅, [], [], 0, []⟩

/-! ### The agent loop and its gate -/

variable (s : WorkerTask)
def respond (reply : CompletionResponse) : WorkerTask :=
  if s.gate.isNone ∧ s.calls.isEmpty then { s with calls := reply.toolCalls } else s

def skip : WorkerTask := if s.gate.isNone then { s with calls := s.calls.tail } else s

def openGate (reason : String) (timeoutSecs : Nat) : WorkerTask :=
  match s.gate, s.calls with
  | none, call :: rest =>
    { s with
      calls := rest
      gate := some ⟨s.gates, call, reason, timeoutSecs, false, none⟩
      gates := s.gates + 1
      pending := s.pending.insert call.id s.gates }
  | _, _ => s

def announce : WorkerTask :=
  match s.gate with
  | some g =>
    if g.announced then s
    else
      { s with
        gate := some { g with announced := true }
        events := s.events ++ [(.approvalRequested g.call.id g.call.tool g.reason g.timeoutSecs, g.number)] }
  | none => s

variable (print : Json → String)
def closeGate (g : Gate) (wait : ApprovalWait) : WorkerTask :=
  { s with
    gate := none
    events := s.events ++ [(.approvalResolved g.call.id (gateOutcome print g.call wait), g.number)] }

def wake : WorkerTask :=
  match s.gate with
  | some g =>
    match g.announced, g.inbox with
    | true, some (decision, place) =>
      match gateToolCallForHumanApproval g.call (.decided decision) with
      | .approved _ =>
        { s.closeGate print g (.decided decision) with passed := s.passed ++ [⟨g.number, g.call.id, place⟩] }
      | .rejected _ => s.closeGate print g (.decided decision)
    | _, _ => s
  | none => s

variable (approvalId : String)
def removePendingApproval : WorkerTask :=
  { s with pending := s.pending.erase approvalId }

def timeOut : WorkerTask :=
  match s.gate with
  | some g =>
    if g.announced = true ∧ g.inbox.isNone then (s.removePendingApproval g.call.id).closeGate print g .timedOut
    else s
  | none => s

def cancelWait : WorkerTask :=
  match s.gate with
  | some g => if g.announced then (s.removePendingApproval g.call.id).closeGate print g .cancelled else s
  | none => s

/-! ### The relay, the server and the consumer -/

def publish (event : TeamEvent) (source : Source) : WorkerTask :=
  { s with subject := s.subject ++ [⟨event, source⟩] }

def relay (s : WorkerTask) (taskId : String) : WorkerTask :=
  match s.events with
  | [] => s
  | (event, gate) :: rest => { s with events := rest }.publish (teamEventOf taskId event) (.relay gate)

def lose : WorkerTask := { s with events := s.events.tail }

def serverDecides (taskId approvalId : String) (approved : Bool) (modifier : Option Json) : WorkerTask :=
  if s.subject.any fun p => p.event.requests approvalId then
    s.publish (.workerApprovalResolved taskId taskId approvalId approved modifier) .server
  else s

def resolveApproval (decision : ApprovalDecision) (place : Nat) : WorkerTask :=
  match s.pending.lookup approvalId with
  | none => s
  | some number =>
    { s.removePendingApproval approvalId with
      gate := s.gate.map fun g => if g.number = number then { g with inbox := some (decision, place) } else g }

variable (taskId : String)
def consume : WorkerTask :=
  match s.subject[s.delivered]? with
  | none => s
  | some p =>
    let seen := { s with delivered := s.delivered + 1 }
    match p.event with
    | .workerApprovalResolved workerId _ approvalId approved modifier =>
      if workerId = taskId then seen.resolveApproval approvalId ⟨approved, modifier⟩ s.delivered else seen
    | .workerApprovalRequested .. => seen

/-! ### All of them -/

inductive Action where
  | respond (reply : CompletionResponse)
  | skip
  | openGate (reason : String) (timeoutSecs : Nat)
  | announce
  | wake
  | timeOut
  | cancelWait
  | relay
  | lose
  | serverDecides (approvalId : String) (approved : Bool) (modifier : Option Json)
  | consume

section Step
variable (print : Json → String) (taskId : String)
def step (s : WorkerTask) : Action → WorkerTask
  | .respond reply => s.respond reply
  | .skip => s.skip
  | .openGate reason timeoutSecs => s.openGate reason timeoutSecs
  | .announce => s.announce
  | .wake => s.wake print
  | .timeOut => s.timeOut print
  | .cancelWait => s.cancelWait print
  | .relay => s.relay taskId
  | .lose => s.lose
  | .serverDecides approvalId approved modifier => s.serverDecides taskId approvalId approved modifier
  | .consume => s.consume taskId

end Step

/-! ## One decision, one call -/

variable (subject : List Published)
def RequestedBefore (gate : Nat) (id : String) (place : Nat) : Prop :=
  ∃ i < place, ∃ p, subject[i]? = some p ∧ p.source = .relay gate ∧ p.event.requests id = true

def DecidedAt (id : String) (decision : ApprovalDecision) (place : Nat) : Prop :=
  ∃ eventTaskId, subject[place]? =
    some ⟨.workerApprovalResolved taskId eventTaskId id decision.approved decision.modifier, .server⟩

/-- Every call let through was let through by an approving decision of the server that names it and
came after its request, and no decision let two calls through. -/
structure ApprovedOnce (taskId : String) (subject : List Published) (passed : List Passed) : Prop where
  decided : ∀ p ∈ passed, ∃ modifier, DecidedAt taskId subject p.callId ⟨true, modifier⟩ p.decision ∧
    RequestedBefore subject p.gate p.callId p.decision
  once : (passed.map Passed.decision).Nodup

variable (s : WorkerTask)

/-- No resolution of the id is on the session stream, or on the subject ahead of the consumer. -/
def NoneUnderWay (id : String) : Prop :=
  (∀ e ∈ s.events, e.1.resolves id = false) ∧ ∀ p ∈ s.subject.drop s.delivered, p.event.resolves id = false

/-- A call is registered only when no resolution of its id is under way, and the server decides about
a waiting call only after its request is published. -/
def Orderly : Action → Prop
  | .openGate _ _ => s.gate = none → ∀ call ∈ s.calls.head?, s.NoneUnderWay call.id
  | .serverDecides approvalId _ _ =>
    ∀ g ∈ s.gate, g.call.id = approvalId →
      ∃ p ∈ s.subject, p.source = .relay g.number ∧ p.event.requests approvalId = true
  | _ => True

instance (s : WorkerTask) (id : String) : Decidable (s.NoneUnderWay id) := inferInstanceAs (Decidable (_ ∧ _))

instance (s : WorkerTask) (action : Action) : Decidable (s.Orderly action) :=
  match action with
  | .openGate _ _ => inferInstanceAs (Decidable (s.gate = none → ∀ call ∈ s.calls.head?, s.NoneUnderWay call.id))
  | .serverDecides approvalId _ _ =>
    inferInstanceAs (Decidable (∀ g ∈ s.gate, g.call.id = approvalId →
      ∃ p ∈ s.subject, p.source = .relay g.number ∧ p.event.requests approvalId = true))
  | .respond _ | .skip | .announce | .wake | .timeOut | .cancelWait | .relay | .lose | .consume => .isTrue trivial

/-! ## The invariant -/

/-- While a call waits, only decisions of the server that came after its request are ahead. -/
structure Sound (taskId : String) (s : WorkerTask) : Prop where
  delivered_le : s.delivered ≤ s.subject.length
  pending : ∀ id number, s.pending.lookup id = some number →
    ∃ g ∈ s.gate, g.number = number ∧ g.call.id = id ∧ g.inbox = none
  quiet : ∀ g ∈ s.gate, ∀ e ∈ s.events, e.1.resolves g.call.id = false
  ahead : ∀ g ∈ s.gate, ∀ i p, s.delivered ≤ i → s.subject[i]? = some p → p.event.resolves g.call.id = true →
    p.source = .server ∧ RequestedBefore s.subject g.number g.call.id i
  inbox : ∀ g ∈ s.gate, ∀ decision place, g.inbox = some (decision, place) →
    place < s.delivered ∧ DecidedAt taskId s.subject g.call.id decision place ∧
      RequestedBefore s.subject g.number g.call.id place ∧ ∀ p ∈ s.passed, p.decision < place
  passed_lt : ∀ p ∈ s.passed, p.decision < s.delivered
  approved : ApprovedOnce taskId s.subject s.passed

section Lemmas
variable {taskId : String} {s : WorkerTask}
lemma sound_start : start.Sound taskId where
  delivered_le := Nat.le_refl 0
  pending := nofun
  quiet := nofun
  ahead := nofun
  inbox := nofun
  passed_lt := nofun
  approved := ⟨nofun, .nil⟩

variable {subject new : List Published}
lemma RequestedBefore.append {gate place id}
    (h : RequestedBefore subject gate id place) : RequestedBefore (subject ++ new) gate id place := by
  obtain ⟨i, hi, p, hp, hsource⟩ := h
  exact ⟨i, hi, p, List.getElem?_append_left (List.getElem?_eq_some_iff.1 hp).1 ▸ hp, hsource⟩

lemma DecidedAt.append {id decision place}
    (h : DecidedAt taskId subject id decision place) : DecidedAt taskId (subject ++ new) id decision place := by
  obtain ⟨eventTaskId, h⟩ := h
  exact ⟨eventTaskId, List.getElem?_append_left (List.getElem?_eq_some_iff.1 h).1 ▸ h⟩

variable (h : s.Sound taskId)
include h

lemma Sound.publish (event : TeamEvent) (source : Source) (hnew : ∀ g ∈ s.gate, event.resolves g.call.id = true →
      source = .server ∧ RequestedBefore s.subject g.number g.call.id s.subject.length) :
    (s.publish event source).Sound taskId where
  delivered_le := by
    have := h.delivered_le
    simp only [WorkerTask.publish, length_append]
    omega
  pending := h.pending
  quiet := h.quiet
  ahead := by
    intro g hg i p hi hp hresolves
    rcases Nat.lt_or_ge i s.subject.length with hlt | hge
    · rw [WorkerTask.publish, List.getElem?_append_left hlt] at hp
      obtain ⟨hsource, hbefore⟩ := h.ahead g hg i p hi hp hresolves
      exact ⟨hsource, hbefore.append⟩
    · have hlen : i < (s.publish event source).subject.length := (List.getElem?_eq_some_iff.1 hp).1
      rw [WorkerTask.publish, length_append, length_singleton] at hlen
      obtain rfl : i = s.subject.length := by omega
      rw [WorkerTask.publish, getElem?_concat_length] at hp
      cases hp
      obtain ⟨hsource, hbefore⟩ := hnew g hg hresolves
      exact ⟨hsource, hbefore.append⟩
  inbox := by
    intro g hg decision place hinbox
    obtain ⟨hlt, hdecided, hbefore, hpassed⟩ := h.inbox g hg decision place hinbox
    exact ⟨hlt, hdecided.append, hbefore.append, hpassed⟩
  passed_lt := h.passed_lt
  approved := by
    refine ⟨fun p hp => ?_, h.approved.once⟩
    obtain ⟨modifier, hdecided, hbefore⟩ := h.approved.decided p hp
    exact ⟨modifier, hdecided.append, hbefore.append⟩

lemma Sound.dropEvents {events} (hsub : ∀ e ∈ events, e ∈ s.events) : { s with events := events }.Sound taskId :=
  { h with quiet := fun g hg e he => h.quiet g hg e (hsub e he) }

lemma Sound.relay : (s.relay taskId).Sound taskId := by
  unfold WorkerTask.relay
  cases hevents : s.events with
  | nil => exact h
  | cons e rest =>
    refine (h.dropEvents fun e' he' => hevents ▸ mem_cons_of_mem e he').publish _ _ fun g hg hresolves => ?_
    have hquiet := h.quiet g hg e (hevents ▸ mem_cons_self)
    obtain ⟨event, gate⟩ := e
    cases event with
    | approvalRequested => cases hresolves
    | approvalResolved approvalId outcome => exact absurd (hresolves.symm.trans hquiet) (by decide)

lemma Sound.serverDecides {approvalId approved modifier}
    (hok : s.Orderly (.serverDecides approvalId approved modifier)) :
    (s.serverDecides taskId approvalId approved modifier).Sound taskId := by
  unfold WorkerTask.serverDecides
  split
  · refine h.publish _ _ fun g hg hresolves => ⟨rfl, ?_⟩
    have hid : g.call.id = approvalId := by simpa [TeamEvent.resolves] using (of_decide_eq_true hresolves).symm
    obtain ⟨p, hp, hsource, hrequests⟩ := hok g hg hid
    obtain ⟨i, hi, hget⟩ := mem_iff_getElem.1 hp
    exact ⟨i, hi, p, by rw [getElem?_eq_getElem hi, hget], hsource, hid ▸ hrequests⟩
  · exact h

lemma Sound.seen (hlt : s.delivered < s.subject.length) : { s with delivered := s.delivered + 1 }.Sound taskId :=
  { h with
    delivered_le := hlt
    ahead := fun g hg i p hi => h.ahead g hg i p (Nat.le_of_succ_le hi)
    inbox := fun g hg decision place hinbox => by
      obtain ⟨hplace, hrest⟩ := h.inbox g hg decision place hinbox
      exact ⟨Nat.lt_succ_of_lt hplace, hrest⟩
    passed_lt := fun p hp => Nat.lt_succ_of_lt (h.passed_lt p hp) }

lemma Sound.pending_gate {g} (hgate : s.gate = some g) {id number}
    (hlookup : s.pending.lookup id = some number) : g.number = number ∧ g.call.id = id ∧ g.inbox = none := by
  obtain ⟨g', hg', hfacts⟩ := h.pending id number hlookup
  cases hgate.symm.trans hg'
  exact hfacts

lemma Sound.lookup_erase {g} (hgate : s.gate = some g) (id : String) :
    (s.pending.erase g.call.id).lookup id = none := by
  by_cases heq : id = g.call.id
  · rw [heq, AList.lookup_erase]
  · rw [AList.lookup_erase_ne heq]
    cases hlookup : s.pending.lookup id with
    | none => rfl
    | some number => exact absurd (h.pending_gate hgate hlookup).2.1.symm heq

lemma Sound.deliver {eventTaskId approvalId decision source number}
    (hlookup : s.pending.lookup approvalId = some number)
    (hnext : s.subject[s.delivered]? =
      some ⟨.workerApprovalResolved taskId eventTaskId approvalId decision.approved decision.modifier, source⟩) :
    ({ s with delivered := s.delivered + 1 }.resolveApproval approvalId decision s.delivered).Sound taskId := by
  obtain ⟨g, hg, hnumber, hid, hempty⟩ := h.pending approvalId number hlookup
  have hgate : s.gate = some g := hg
  obtain ⟨hsource, hbefore⟩ := h.ahead g hg _ _ (Nat.le_refl _) hnext (by simp [TeamEvent.resolves, hid])
  have hseen := h.seen (List.getElem?_eq_some_iff.1 hnext).1
  have hstate : { s with delivered := s.delivered + 1 }.resolveApproval approvalId decision s.delivered =
      { s with
        delivered := s.delivered + 1
        pending := s.pending.erase approvalId
        gate := some { g with inbox := some (decision, s.delivered) } } := by
    simp [WorkerTask.resolveApproval, removePendingApproval, hlookup, hgate, hnumber]
  rw [hstate]
  refine { hseen with pending := ?_, quiet := ?_, ahead := ?_, inbox := ?_ }
  · intro id number' hlookup'
    rw [← hid] at hlookup'
    cases (h.lookup_erase hgate id).symm.trans hlookup'
  · rintro _ ⟨⟩
    exact h.quiet g hg
  · rintro _ ⟨⟩
    exact hseen.ahead g hg
  · rintro _ ⟨⟩ _ _ ⟨⟩
    subst hsource hid
    exact ⟨Nat.lt_succ_self _, ⟨eventTaskId, hnext⟩, hbefore, h.passed_lt⟩

lemma Sound.consume : (s.consume taskId).Sound taskId := by
  unfold WorkerTask.consume
  cases hnext : s.subject[s.delivered]? with
  | none => exact h
  | some p =>
    have hseen := h.seen (List.getElem?_eq_some_iff.1 hnext).1
    obtain ⟨event, source⟩ := p
    cases event with
    | workerApprovalRequested => exact hseen
    | workerApprovalResolved workerId eventTaskId approvalId approved modifier =>
      dsimp only
      split
      · rename_i hworker
        subst hworker
        cases hlookup : s.pending.lookup approvalId with
        | none =>
          rw [WorkerTask.resolveApproval, hlookup]
          exact hseen
        | some number => exact h.deliver hlookup hnext
      · exact hseen

lemma Sound.pending_none (hgate : s.gate = none) (id : String) : s.pending.lookup id = none := by
  cases hlookup : s.pending.lookup id with
  | none => rfl
  | some number =>
    obtain ⟨g, hg, -⟩ := h.pending id number hlookup
    cases hgate.symm.trans hg

lemma Sound.openGate {reason timeoutSecs}
    (hok : s.Orderly (.openGate reason timeoutSecs)) : (s.openGate reason timeoutSecs).Sound taskId := by
  unfold WorkerTask.openGate
  split
  · rename_i call rest hgate hcalls
    obtain ⟨hevents, hsubject⟩ := hok hgate call (by rw [hcalls]; rfl)
    refine { h with pending := ?_, quiet := ?_, ahead := ?_, inbox := ?_ }
    · intro id number hlookup
      by_cases heq : id = call.id
      · rw [heq, AList.lookup_insert] at hlookup
        exact ⟨_, rfl, Option.some.inj hlookup, heq.symm, rfl⟩
      · rw [AList.lookup_insert_ne heq, h.pending_none hgate] at hlookup
        cases hlookup
    · rintro _ ⟨⟩
      exact hevents
    · rintro _ ⟨⟩ i p hi hp hresolves
      have hmem : p ∈ s.subject.drop s.delivered := by
        refine mem_of_getElem? (i := i - s.delivered) ?_
        rw [getElem?_drop, Nat.add_sub_cancel' hi]
        exact hp
      exact absurd (hresolves.symm.trans (hsubject p hmem)) (by decide)
    · rintro _ ⟨⟩ _ _ ⟨⟩
  · exact h

lemma Sound.announce : s.announce.Sound taskId := by
  unfold WorkerTask.announce
  cases hgate : s.gate with
  | none => exact h
  | some g =>
    dsimp only
    split
    · exact h
    · refine { h with pending := ?_, quiet := ?_, ahead := ?_, inbox := ?_ }
      · intro id number hlookup
        exact ⟨_, rfl, h.pending_gate hgate hlookup⟩
      · rintro _ ⟨⟩ e he
        rcases mem_append.1 he with he | he
        · exact h.quiet g hgate e he
        · obtain rfl := mem_singleton.1 he
          rfl
      · rintro _ ⟨⟩
        exact h.ahead g hgate
      · rintro _ ⟨⟩
        exact h.inbox g hgate

lemma Sound.closeGate (hpending : ∀ id, s.pending.lookup id = none) (print : Json → String)
    (g : Gate) (wait : ApprovalWait) : (s.closeGate print g wait).Sound taskId :=
  { h with
    pending := fun id number hlookup => by cases (hpending id).symm.trans hlookup
    quiet := nofun
    ahead := nofun
    inbox := fun g hg => by cases hg }

lemma Sound.giveUp {g} (hgate : s.gate = some g) (print : Json → String)
    (wait : ApprovalWait) : ((s.removePendingApproval g.call.id).closeGate print g wait).Sound taskId := by
  have hremoved : (s.removePendingApproval g.call.id).Sound taskId :=
    { h with pending := fun id number hlookup => by cases (h.lookup_erase hgate id).symm.trans hlookup }
  exact hremoved.closeGate (h.lookup_erase hgate) print g wait

variable (print : Json → String)
lemma Sound.wake : (s.wake print).Sound taskId := by
  unfold WorkerTask.wake
  cases hgate : s.gate with
  | none => exact h
  | some g =>
    dsimp only
    split
    · rename_i decision place _ hinbox
      have hpending : ∀ id, s.pending.lookup id = none := by
        intro id
        cases hlookup : s.pending.lookup id with
        | none => rfl
        | some number => cases hinbox.symm.trans (h.pending_gate hgate hlookup).2.2
      have hclosed := h.closeGate hpending print g (.decided decision)
      cases hresult : gateToolCallForHumanApproval g.call (.decided decision) with
      | rejected result => exact hclosed
      | approved call =>
        obtain ⟨hplace, hdecided, hbefore, hfresh⟩ := h.inbox g hgate decision place hinbox
        have happroved : decision.approved = true := (gate_approved hresult).1
        refine { hclosed with passed_lt := ?_, approved := ⟨?_, ?_⟩, inbox := fun g hg => by cases hg }
        · intro p hp
          rcases mem_append.1 hp with hp | hp
          · exact h.passed_lt p hp
          · obtain rfl := mem_singleton.1 hp
            exact hplace
        · intro p hp
          rcases mem_append.1 hp with hp | hp
          · exact h.approved.decided p hp
          · obtain rfl := mem_singleton.1 hp
            refine ⟨decision.modifier, ?_, hbefore⟩
            unfold DecidedAt at hdecided ⊢
            rw [happroved] at hdecided
            exact hdecided
        · dsimp only
          rw [map_append]
          refine List.Nodup.append h.approved.once (nodup_singleton place) fun i hi hi' => ?_
          obtain ⟨p, hp, rfl⟩ := mem_map.1 hi
          exact Nat.lt_irrefl _ (mem_singleton.1 hi' ▸ hfresh p hp)
    · exact h

lemma Sound.timeOut : (s.timeOut print).Sound taskId := by
  unfold WorkerTask.timeOut
  cases hgate : s.gate with
  | none => exact h
  | some g =>
    dsimp only
    split
    · exact h.giveUp hgate print .timedOut
    · exact h

lemma Sound.cancelWait : (s.cancelWait print).Sound taskId := by
  unfold WorkerTask.cancelWait
  cases hgate : s.gate with
  | none => exact h
  | some g =>
    dsimp only
    split
    · exact h.giveUp hgate print .cancelled
    · exact h

lemma Sound.respond (reply : CompletionResponse) : (s.respond reply).Sound taskId := by
  unfold WorkerTask.respond
  split
  · exact { h with }
  · exact h

lemma Sound.skip : s.skip.Sound taskId := by
  unfold WorkerTask.skip
  split
  · exact { h with }
  · exact h

lemma Sound.step (action : Action) (hok : s.Orderly action) : (s.step print taskId action).Sound taskId := by
  cases action with
  | respond reply => exact h.respond reply
  | skip => exact h.skip
  | openGate reason timeoutSecs => exact h.openGate hok
  | announce => exact h.announce
  | wake => exact h.wake print
  | timeOut => exact h.timeOut print
  | cancelWait => exact h.cancelWait print
  | relay => exact h.relay
  | lose => exact h.dropEvents fun e he => mem_of_mem_tail he
  | serverDecides approvalId approved modifier => exact h.serverDecides hok
  | consume => exact h.consume

end Lemmas

theorem approvedOnce_run (print : Json → String) (taskId : String) (actions : List Action) (s : WorkerTask)
    (horderly : EveryStep (fun s action => .next (s.step print taskId action)) start Orderly actions)
    (hrun : runFrom (fun s action => .next (s.step print taskId action)) start actions = .next s) :
    ApprovedOnce taskId s.subject s.passed := by
  have hsound : s.Sound taskId :=
    horderly.invariant (Sound taskId) (fun s action s' hs hok hstep => by
      cases hstep
      exact hs.step print action hok) sound_start actions s hrun
  exact hsound.approved

/-! ## Two calls of one id -/

def moveArm : CompletionResponse :=
  convertResponse ⟨[⟨[.functionCall "move_arm" (.string "left")], some "STOP"⟩], none⟩

def oneCall : List Action :=
  [.respond moveArm, .openGate "moves the arm" 60, .announce, .relay, .consume,
    .serverDecides "gemini_call_0" true none, .consume, .wake, .relay, .consume]

def taskRun (actions : List Action) : WorkerTask := actions.foldl (fun s action => s.step (fun _ => "") "task" action) start

theorem approvedOnce_two_calls :
    (taskRun (oneCall ++ oneCall)).passed = [⟨0, "gemini_call_0", 1⟩, ⟨1, "gemini_call_0", 4⟩] ∧
    ApprovedOnce "task" (taskRun (oneCall ++ oneCall)).subject (taskRun (oneCall ++ oneCall)).passed :=
  ⟨by decide, approvedOnce_run (fun _ => "") "task" (oneCall ++ oneCall) _ (by decide)
    (runFrom_total _ (oneCall ++ oneCall) start)⟩

lemma not_approvedOnce {taskId subject passed p} (hp : p ∈ passed)
    (h : .relay p.gate ∉ (subject.map Published.source).take p.decision) : ¬ ApprovedOnce taskId subject passed := by
  intro hall
  obtain ⟨-, -, i, hi, q, hq, hsource, -⟩ := hall.decided p hp
  refine h (mem_of_getElem? (i := i) ?_)
  rw [getElem?_take_of_lt hi, getElem?_map, hq, Option.map_some, hsource]

/-- The first call is approved; the relay's resolution of it is still under way when the second one is
registered. -/
def echoRun : List Action :=
  [.respond moveArm, .openGate "moves the arm" 60, .announce, .relay, .serverDecides "gemini_call_0" true none,
    .consume, .consume, .wake,
    .respond moveArm, .openGate "moves the arm" 60, .announce, .relay, .consume, .wake]

def doubleRun : List Action :=
  [.respond moveArm, .openGate "moves the arm" 60, .announce, .relay, .serverDecides "gemini_call_0" true none,
    .serverDecides "gemini_call_0" true none, .consume, .consume, .wake,
    .respond moveArm, .openGate "moves the arm" 60, .announce, .consume, .wake]

/-- The second call is let through before its request has been published: by the worker's own event,
and by the second copy of a decision about the first call. -/
theorem second_call_unasked : ((taskRun echoRun).passed = [⟨0, "gemini_call_0", 1⟩, ⟨1, "gemini_call_0", 2⟩] ∧
      (taskRun echoRun).subject.map Published.source = [.relay 0, .server, .relay 0] ∧
      ¬ ApprovedOnce "task" (taskRun echoRun).subject (taskRun echoRun).passed) ∧
    ((taskRun doubleRun).passed = [⟨0, "gemini_call_0", 1⟩, ⟨1, "gemini_call_0", 2⟩] ∧
      (taskRun doubleRun).subject.map Published.source = [.relay 0, .server, .server] ∧
      ¬ ApprovedOnce "task" (taskRun doubleRun).subject (taskRun doubleRun).passed) := by
  have hecho : (taskRun echoRun).passed = [⟨0, "gemini_call_0", 1⟩, ⟨1, "gemini_call_0", 2⟩] ∧
      (taskRun echoRun).subject.map Published.source = [.relay 0, .server, .relay 0] := by decide
  have hdouble : (taskRun doubleRun).passed = [⟨0, "gemini_call_0", 1⟩, ⟨1, "gemini_call_0", 2⟩] ∧
      (taskRun doubleRun).subject.map Published.source = [.relay 0, .server, .server] := by decide
  refine ⟨⟨hecho.1, hecho.2, ?_⟩, hdouble.1, hdouble.2, ?_⟩
  · refine not_approvedOnce (p := ⟨1, "gemini_call_0", 2⟩) (by simp [hecho.1]) ?_
    rw [hecho.2]
    decide
  · refine not_approvedOnce (p := ⟨1, "gemini_call_0", 2⟩) (by simp [hdouble.1]) ?_
    rw [hdouble.2]
    decide

end WorkerTask
end Roz.Worker
