import Roz.Agent.SessionRuntime
import Roz.Lib.Run

/-!
# Remote tool calls (`roz-agent/src/dispatch/remote.rs`, `ToolDispatcher::dispatch`)

A dispatch of a remote tool puts the sender of a channel into a map, under the id that the model gave
the call, sends the request to the client and waits for the channel.  `resolve_pending` takes the
sender of an id out of the map and sends a result through it.  The dispatches and the results move in
any order: between any two locks and at every await another one may move, and a timeout may fire at
any await.  A call of an unknown or disabled tool ends at once and is left out.

Dispatches and submitted results are numbered.  What is kept for the statements is which call a
result is meant for, whether its request had been sent by then, and which call dropped a
sender (`routed_run`).
-/

namespace Roz.Agent.Remote
open StepRun AList List

/-! ## Dispatches -/

inductive Outcome where
  -- the number of the submitted result
  | result (submission : Nat)
  | channelClosed
  -- the call that dropped the sender
  | cancelled (other : Nat)
  | timedOut
  | dispatcherTimedOut
  deriving DecidableEq

inductive Stage where
  -- the sender is in the map, and the request waits for room in the channel to the client
  | sending
  | waiting
  -- the channel to the client is closed, and the sender is to be removed
  | closing
  -- the executor timed out, and the sender is to be removed
  | expired
  | done (outcome : Outcome)
  deriving DecidableEq

def Stage.receiving : Stage → Bool
  | .sending | .waiting | .closing => true
  | .expired | .done _ => false

def Stage.inProgress : Stage → Bool
  | .done _ => false
  | _ => true

inductive Inbox where
  | empty
  | filled (submission : Nat)
  | dropped (other : Nat)
  deriving DecidableEq

structure Dispatch where
  call : ToolCall
  callId : String
  -- the timeout of the executor
  timeoutMs : Nat
  sent : Bool
  stage : Stage
  inbox : Inbox

def Dispatch.request (x : Dispatch) : RemoteToolCall :=
  ⟨x.callId, x.call.tool, x.call.params, min x.timeoutMs (2 ^ 32 - 1)⟩

structure Submission where
  callId : String
  result : ToolResult
  -- the dispatch that the client answers, and whether its request had been sent
  answers : Option Nat
  afterSent : Bool
  -- the dispatch whose sender was found
  sender : Option Nat
  returned : Option Bool

structure RemoteCalls where
  dispatches : List Dispatch
  pending : AList fun _ : String => Nat
  submissions : List Submission
  outbound : List RemoteToolCall

variable (call : ToolCall) (fallback : String)
def dispatchCallId : String := if call.id = "" then fallback else call.id

def executorCallId (contextCallId fallback : String) : String := if contextCallId = "" then fallback else contextCallId

def callIdOf : String := executorCallId (dispatchCallId call fallback) fallback

namespace RemoteCalls

def start : RemoteCalls := ⟨[], ∅, [], []⟩

variable (s : RemoteCalls) (d : Nat)
def update (x : Dispatch) : RemoteCalls := { s with dispatches := s.dispatches.set d x }

/-- A sender is dropped; its receiver hears of it if it still waits for a result. -/
def dropSender (owner : Option Nat) (other : Nat) : RemoteCalls :=
  match owner with
  | none => s
  | some d =>
    match s.dispatches[d]? with
    | none => s
    | some x => if x.stage.receiving = true ∧ x.inbox = .empty then s.update d { x with inbox := .dropped other } else s

variable (callId : String)
def insertSender (d : Nat) : RemoteCalls :=
  { s.dropSender (s.pending.lookup callId) d with pending := s.pending.insert callId d }

def removeSender (d : Nat) : RemoteCalls :=
  { s.dropSender (s.pending.lookup callId) d with pending := s.pending.erase callId }

/-! ### `RemoteToolExecutor::execute` -/

def issue (call : ToolCall) (timeoutMs : Nat) (fallback : String) : RemoteCalls :=
  let callId := callIdOf call fallback
  let dispatch : Dispatch := ⟨call, callId, timeoutMs, false, .sending, .empty⟩
  { s with dispatches := s.dispatches ++ [dispatch] }.insertSender callId s.dispatches.length

def move (f : Dispatch → Option Dispatch) : RemoteCalls :=
  match s.dispatches[d]? with
  | none => s
  | some x =>
    match f x with
    | none => s
    | some y => s.update d y

def sendRequest : RemoteCalls :=
  match s.dispatches[d]? with
  | none => s
  | some x =>
    if x.stage = .sending then
      { s.update d { x with stage := .waiting, sent := true } with outbound := s.outbound ++ [x.request] }
    else s

variable (x : Dispatch)
def closeRequest : Option Dispatch := if x.stage = .sending then some { x with stage := .closing } else none

def wake : Option Dispatch :=
  if x.stage = .waiting then
    match x.inbox with
    | .empty => none
    | .filled k => some { x with stage := .done (.result k) }
    | .dropped other => some { x with stage := .done (.cancelled other) }
  else none

def expire : Option Dispatch :=
  if x.stage = .waiting ∧ x.inbox = .empty then some { x with stage := .expired } else none

def cleanedUp : Stage → Option Outcome
  | .closing => some .channelClosed
  | .expired => some .timedOut
  | _ => none

variable (s : RemoteCalls)
def cleanUp (d : Nat) : RemoteCalls :=
  match s.dispatches[d]? with
  | none => s
  | some x =>
    match cleanedUp x.stage with
    | none => s
    | some outcome => (s.update d { x with stage := .done outcome }).removeSender x.callId d

/-- The timeout of `ToolDispatcher::dispatch` drops the executor's future, at an await. -/
def abandon : Option Dispatch :=
  if x.stage = .sending ∨ x.stage = .waiting then some { x with stage := .done .dispatcherTimedOut } else none

/-! ### `resolve_pending` -/

def wasSent (d : Nat) : Bool := (s.dispatches[d]?.map Dispatch.sent).getD false

def take (callId : String) (result : ToolResult) (answers : Option Nat) : RemoteCalls :=
  { s with
    pending := s.pending.erase callId
    submissions := s.submissions ++ [{
      callId := callId
      result := result
      answers := answers
      afterSent := (answers.map s.wasSent).getD false
      sender := s.pending.lookup callId
      returned := if (s.pending.lookup callId).isNone then some false else none }] }

def deliver (k : Nat) : RemoteCalls :=
  match s.submissions[k]? with
  | none => s
  | some sub =>
    match sub.returned, sub.sender with
    | none, some d =>
      match s.dispatches[d]? with
      | none => s
      | some x =>
        let s := { s with submissions := s.submissions.set k { sub with returned := some x.stage.receiving } }
        if x.stage.receiving then s.update d { x with inbox := .filled k } else s
    | _, _ => s

/-! ### All of them -/

inductive Event where
  | issue (call : ToolCall) (timeoutMs : Nat) (fallback : String)
  | sendRequest (d : Nat)
  | closeRequest (d : Nat)
  | wake (d : Nat)
  | expire (d : Nat)
  | cleanUp (d : Nat)
  | abandon (d : Nat)
  | take (callId : String) (result : ToolResult) (answers : Option Nat)
  | deliver (k : Nat)

def step : Event → RemoteCalls
  | .issue call timeoutMs fallback => s.issue call timeoutMs fallback
  | .sendRequest d => s.sendRequest d
  | .closeRequest d => s.move d RemoteCalls.closeRequest
  | .wake d => s.move d RemoteCalls.wake
  | .expire d => s.move d RemoteCalls.expire
  | .cleanUp d => s.cleanUp d
  | .abandon d => s.move d RemoteCalls.abandon
  | .take callId result answers => s.take callId result answers
  | .deliver k => s.deliver k

def outcome (s : RemoteCalls) (d : Nat) : Option Outcome :=
  match s.dispatches[d]?.map Dispatch.stage with
  | some (.done outcome) => some outcome
  | _ => none

/-- What a dispatch that ended so returns; the texts are those of its timeouts. -/
def toolResult (timeoutText : String) (timeoutMs : Nat) : Outcome → Option ToolResult
  | .result k => s.submissions[k]?.map Submission.result
  | .channelClosed => some (.ofError "remote tool channel closed")
  | .cancelled _ => some (.ofError "remote tool call cancelled")
  | .timedOut => some (.ofError ("tool timeout after " ++ toString timeoutMs ++ "ms"))
  | .dispatcherTimedOut => some (.ofError ("tool timed out after " ++ timeoutText))

/-! ## Routing -/

/-- A result that is returned was submitted for its call after it was sent, and is returned once; no
call is cancelled by another; no sender is left. -/
structure Routed (s : RemoteCalls) : Prop where
  own : ∀ d k, s.outcome d = some (.result k) →
    ∃ sub ∈ s.submissions[k]?, sub.answers = some d ∧ sub.afterSent = true
  once : ∀ d d' k, s.outcome d = some (.result k) → s.outcome d' = some (.result k) → d = d'
  notCancelled : ∀ d other, s.outcome d ≠ some (.cancelled other)
  noneLeft : (∀ x ∈ s.dispatches, x.stage.inProgress = false) → s.pending.keys = []

/-- No call is issued under an id that is in progress; a result that finds a sender is meant for its
call, which was sent; the dispatcher does not time out while the sender is in the map. -/
def Orderly : Event → Prop
  | .issue call _ fallback => ∀ x ∈ s.dispatches, x.stage.inProgress = true → x.callId ≠ callIdOf call fallback
  | .take callId _ answers => ∀ d ∈ s.pending.lookup callId, answers = some d ∧ s.wasSent d = true
  | .abandon d => ∀ x ∈ s.dispatches[d]?, s.pending.lookup x.callId ≠ some d
  | _ => True

instance (s : RemoteCalls) (event : Event) : Decidable (s.Orderly event) :=
  match event with
  | .issue call _ fallback =>
    inferInstanceAs (Decidable (∀ x ∈ s.dispatches, x.stage.inProgress = true → x.callId ≠ callIdOf call fallback))
  | .take callId _ answers =>
    inferInstanceAs (Decidable (∀ d ∈ s.pending.lookup callId, answers = some d ∧ s.wasSent d = true))
  | .abandon d => inferInstanceAs (Decidable (∀ x ∈ s.dispatches[d]?, s.pending.lookup x.callId ≠ some d))
  | .sendRequest _ | .closeRequest _ | .wake _ | .expire _ | .cleanUp _ | .deliver _ => .isTrue trivial

/-! ## The invariant -/

def Kept : Prop := ∀ other, x.inbox ≠ .dropped other ∧ x.stage ≠ .done (.cancelled other)

def Has (k : Nat) : Prop := x.inbox = .filled k ∨ x.stage = .done (.result k)

/-- Each sender is in the map, or in the hands of one submission, which is meant for its call. -/
structure Sound (s : RemoteCalls) : Prop where
  owner : ∀ callId d, s.pending.lookup callId = some d →
    ∃ x : Dispatch, s.dispatches[d]? = some x ∧ x.callId = callId ∧ x.stage.inProgress = true ∧
      ∀ sub ∈ s.submissions, sub.sender ≠ some d
  distinct : ∀ (d d' : Nat) (x x' : Dispatch), s.dispatches[d]? = some x → s.dispatches[d']? = some x' → x.stage.inProgress = true →
    x'.stage.inProgress = true → x.callId = x'.callId → d = d'
  meant : ∀ sub ∈ s.submissions, ∀ d, sub.sender = some d →
    d < s.dispatches.length ∧ sub.answers = some d ∧ sub.afterSent = true
  kept : ∀ x ∈ s.dispatches, Kept x
  has : ∀ (d : Nat) (x : Dispatch) (k : Nat), s.dispatches[d]? = some x → Has x k → ∃ sub : Submission, s.submissions[k]? = some sub ∧ sub.sender = some d

lemma sound_start : start.Sound where
  owner callId d h := by cases h
  distinct d d' x x' h := by cases h
  meant sub h := by cases h
  kept x h := by cases h
  has d x k h := by cases h

variable {s : RemoteCalls} {d : Nat}
lemma getElem?_update {x} (hx : s.dispatches[d]? = some x) (y : Dispatch) (j : Nat) :
    (s.update d y).dispatches[j]? = if d = j then some y else s.dispatches[j]? := by
  have hlt : d < s.dispatches.length := (List.getElem?_eq_some_iff.1 hx).1
  rw [update, getElem?_set]
  by_cases hj : d = j
  · rw [if_pos hj, if_pos hj, if_pos hlt]
  · rw [if_neg hj, if_neg hj]

/-- A dispatch may go from `x` to `y`: it ends only when its sender is not in the map, and has only
results that were sent to it. -/
structure Allowed (s : RemoteCalls) (d : Nat) (x y : Dispatch) : Prop where
  callId : y.callId = x.callId
  progress : y.stage.inProgress = true → x.stage.inProgress = true
  ends : y.stage.inProgress = false → s.pending.lookup x.callId ≠ some d
  kept : Kept y
  has : ∀ k, Has y k → ∃ sub : Submission, s.submissions[k]? = some sub ∧ sub.sender = some d

lemma inProgress_of_receiving {stage : Stage} (h : stage.receiving = true) : stage.inProgress = true := by
  cases stage with
  | done outcome => cases h
  | _ => rfl

lemma outcome_eq {outcome} (h : s.outcome d = some outcome) :
    ∃ x, s.dispatches[d]? = some x ∧ x.stage = .done outcome := by
  unfold RemoteCalls.outcome at h
  split at h
  · rename_i o hstage
    cases h
    obtain ⟨x, hx, hdone⟩ := Option.map_eq_some_iff.1 hstage
    exact ⟨x, hx, hdone⟩
  · cases h

variable (h : s.Sound)
include h

lemma Sound.update {d x y} (hx : s.dispatches[d]? = some x) (hy : Allowed s d x y) : (s.update d y).Sound := by
  -- every dispatch of the new state is that of the old one, with its id, and has been in progress if it is
  have hold : ∀ (j : Nat) (z : Dispatch), (s.update d y).dispatches[j]? = some z →
      ∃ z₀ : Dispatch, s.dispatches[j]? = some z₀ ∧ z.callId = z₀.callId ∧
        (z.stage.inProgress = true → z₀.stage.inProgress = true) := by
    intro j z hz
    rw [getElem?_update hx] at hz
    split at hz
    · rename_i hj
      cases hz
      exact ⟨x, hj ▸ hx, hy.callId, hy.progress⟩
    · exact ⟨z, hz, rfl, id⟩
  refine ⟨fun callId j hlookup => ?_, fun j j' z z' hz hz' hp hp' heq => ?_, fun sub hsub j hj => ?_, fun z hz => ?_,
    fun j z k hz hk => ?_⟩
  · obtain ⟨z, hz, hcallId, hp, htaken⟩ := h.owner callId j hlookup
    by_cases hj : d = j
    · subst hj
      cases hx.symm.trans hz
      refine ⟨y, by rw [getElem?_update hx, if_pos rfl], hy.callId.trans hcallId, ?_, htaken⟩
      by_contra hdone
      exact hy.ends (Bool.not_eq_true _ ▸ hdone) (hcallId ▸ hlookup)
    · exact ⟨z, by rw [getElem?_update hx, if_neg hj]; exact hz, hcallId, hp, htaken⟩
  · obtain ⟨z₀, hz₀, hid₀, hp₀⟩ := hold j z hz
    obtain ⟨z₁, hz₁, hid₁, hp₁⟩ := hold j' z' hz'
    exact h.distinct j j' z₀ z₁ hz₀ hz₁ (hp₀ hp) (hp₁ hp') (hid₀.symm.trans (heq.trans hid₁))
  · obtain ⟨hlt, hmeant⟩ := h.meant sub hsub j hj
    refine ⟨?_, hmeant⟩
    rwa [RemoteCalls.update, length_set]
  · rcases mem_or_eq_of_mem_set hz with hz | rfl
    · exact h.kept z hz
    · exact hy.kept
  · rw [getElem?_update hx] at hz
    split at hz
    · rename_i hj
      cases hz
      exact hj ▸ hy.has k hk
    · exact h.has j z k hz hk

lemma Sound.allowed {d x y} (hx : s.dispatches[d]? = some x)
    (hp : x.stage.inProgress = true) (hid : y.callId = x.callId) (hinbox : y.inbox = x.inbox)
    (hresult : ∀ k, y.stage ≠ .done (.result k)) (hcancelled : ∀ other, y.stage ≠ .done (.cancelled other))
    (hends : y.stage.inProgress = false → s.pending.lookup x.callId ≠ some d) : Allowed s d x y where
  callId := hid
  progress _ := hp
  ends := hends
  kept other := ⟨hinbox ▸ (h.kept x (mem_of_getElem? hx) other).1, hcancelled other⟩
  has k hk := h.has d x k hx (.inl (hinbox ▸ hk.resolve_right (hresult k)))

/-! ## Each event -/

lemma Sound.move {d f}
    (hf : ∀ x y, s.dispatches[d]? = some x → f x = some y → Allowed s d x y) : (s.move d f).Sound := by
  unfold RemoteCalls.move
  split
  · exact h
  · rename_i x hx
    split
    · exact h
    · rename_i y hy
      exact h.update hx (hf x y hx hy)

lemma Sound.sendRequest (d : Nat) : (s.sendRequest d).Sound := by
  unfold RemoteCalls.sendRequest
  split
  · exact h
  · rename_i x hx
    split
    · rename_i hstage
      have hsound : (s.update d { x with stage := .waiting, sent := true }).Sound :=
        h.update hx (h.allowed hx (by rw [hstage]; rfl) rfl rfl nofun nofun nofun)
      exact ⟨hsound.owner, hsound.distinct, hsound.meant, hsound.kept, hsound.has⟩
    · exact h

lemma Sound.closeRequest (d : Nat) : (s.move d RemoteCalls.closeRequest).Sound := by
  refine h.move fun x y hx hy => ?_
  unfold RemoteCalls.closeRequest at hy
  split at hy
  · rename_i hstage
    cases hy
    exact h.allowed hx (by rw [hstage]; rfl) rfl rfl nofun nofun nofun
  · cases hy

lemma Sound.expire (d : Nat) : (s.move d RemoteCalls.expire).Sound := by
  refine h.move fun x y hx hy => ?_
  unfold RemoteCalls.expire at hy
  split at hy
  · rename_i hstage
    cases hy
    exact h.allowed hx (by rw [hstage.1]; rfl) rfl rfl nofun nofun nofun
  · cases hy

lemma Sound.abandon {d} (hok : s.Orderly (.abandon d)) : (s.move d RemoteCalls.abandon).Sound := by
  refine h.move fun x y hx hy => ?_
  unfold RemoteCalls.abandon at hy
  split at hy
  · rename_i hstage
    cases hy
    refine h.allowed hx ?_ rfl rfl nofun nofun fun _ => hok x hx
    rcases hstage with hstage | hstage <;> rw [hstage] <;> rfl
  · cases hy

lemma Sound.lookup_of_has {d k x} (hx : s.dispatches[d]? = some x) (hk : Has x k)
    (callId : String) : s.pending.lookup callId ≠ some d := by
  intro hlookup
  obtain ⟨sub, hsub, hsender⟩ := h.has d x k hx hk
  obtain ⟨-, -, -, -, htaken⟩ := h.owner callId d hlookup
  exact htaken sub (mem_of_getElem? hsub) hsender

lemma Sound.wake (d : Nat) : (s.move d RemoteCalls.wake).Sound := by
  refine h.move fun x y hx hy => ?_
  have hkept := h.kept x (mem_of_getElem? hx)
  unfold RemoteCalls.wake at hy
  split at hy
  · rename_i hstage
    split at hy
    · cases hy
    · rename_i k hinbox
      cases hy
      refine ⟨rfl, fun _ => by rw [hstage]; rfl, fun _ => h.lookup_of_has hx (.inl hinbox) _,
        fun other => ⟨(hkept other).1, nofun⟩, fun k' hk' => h.has d x k' hx (.inl ?_)⟩
      rcases hk' with hk' | hk'
      · exact hk'
      · cases hk'
        exact hinbox
    · rename_i other hinbox
      exact absurd hinbox (hkept other).1
  · cases hy

lemma Sound.erase (callId : String) : { s with pending := s.pending.erase callId }.Sound := by
  refine ⟨fun id d hlookup => ?_, h.distinct, h.meant, h.kept, h.has⟩
  refine h.owner id d ?_
  by_cases hid : id = callId
  · rw [hid, lookup_erase] at hlookup
    cases hlookup
  · rwa [lookup_erase_ne hid] at hlookup

lemma Sound.removeSender_eq {d x y} (hx : s.dispatches[d]? = some x)
    (hp : x.stage.inProgress = true) (hy : y.stage.receiving = false) :
    (s.update d y).removeSender x.callId d = { s with pending := s.pending.erase x.callId }.update d y := by
  have hdrop : (s.update d y).dropSender (s.pending.lookup x.callId) d = s.update d y := by
    cases hlookup : s.pending.lookup x.callId with
    | none => rfl
    | some d' =>
      obtain ⟨x', hx', hcallId, hp', -⟩ := h.owner _ _ hlookup
      obtain rfl : d' = d := h.distinct d' d x' x hx' hx hp' hp hcallId
      rw [dropSender, getElem?_update hx, if_pos rfl]
      dsimp only
      rw [hy, if_neg (by simp)]
  have hpending : (s.update d y).pending = s.pending := rfl
  rw [removeSender, hpending, hdrop]
  rfl

lemma Sound.cleanUp (d : Nat) : (s.cleanUp d).Sound := by
  unfold RemoteCalls.cleanUp
  split
  · exact h
  · rename_i x hx
    split
    · exact h
    · rename_i outcome houtcome
      have hstage : x.stage.inProgress = true ∧ (∀ k, outcome ≠ .result k) ∧ ∀ other, outcome ≠ .cancelled other := by
        unfold cleanedUp at houtcome
        split at houtcome
        · rename_i hclosing
          cases houtcome
          exact ⟨by rw [hclosing]; rfl, nofun, nofun⟩
        · rename_i hexpired
          cases houtcome
          exact ⟨by rw [hexpired]; rfl, nofun, nofun⟩
        · cases houtcome
      obtain ⟨hp, hresult, hcancelled⟩ := hstage
      rw [h.removeSender_eq hx hp rfl]
      have herased := h.erase x.callId
      refine herased.update hx (herased.allowed hx hp rfl rfl (fun k hk => hresult k (Stage.done.inj hk))
        (fun other hk => hcancelled other (Stage.done.inj hk)) fun _ => ?_)
      rw [lookup_erase]
      nofun

lemma Sound.issue {call timeoutMs fallback}
    (hok : s.Orderly (.issue call timeoutMs fallback)) : (s.issue call timeoutMs fallback).Sound := by
  -- nothing is in the map under the id
  have hfree : s.pending.lookup (callIdOf call fallback) = none := by
    cases hlookup : s.pending.lookup (callIdOf call fallback) with
    | none => rfl
    | some d =>
      obtain ⟨x, hx, hcallId, hp, -⟩ := h.owner _ _ hlookup
      exact absurd hcallId (hok x (mem_of_getElem? hx) hp)
  have hissue : s.issue call timeoutMs fallback =
      { s with
        dispatches := s.dispatches ++ [⟨call, callIdOf call fallback, timeoutMs, false, .sending, .empty⟩]
        pending := s.pending.insert (callIdOf call fallback) s.dispatches.length } := by
    unfold RemoteCalls.issue insertSender
    dsimp only
    rw [hfree]
    rfl
  rw [hissue]
  refine ⟨fun callId d hlookup => ?_, fun d d' x x' hx hx' hp hp' heq => ?_, fun sub hsub d hsender => ?_, fun x hx => ?_,
    fun d x k hx hk => ?_⟩
  · by_cases hid : callId = callIdOf call fallback
    · subst hid
      rw [lookup_insert] at hlookup
      cases hlookup
      refine ⟨_, getElem?_concat_length, rfl, rfl, fun sub hsub hsender => ?_⟩
      exact absurd (h.meant sub hsub _ hsender).1 (Nat.lt_irrefl _)
    · rw [lookup_insert_ne hid] at hlookup
      obtain ⟨x, hx, hcallId⟩ := h.owner callId d hlookup
      exact ⟨x, by rw [List.getElem?_append_left (List.getElem?_eq_some_iff.1 hx).1]; exact hx, hcallId⟩
  · rcases getElem?_snoc hx with hx | ⟨rfl, rfl⟩ <;> rcases getElem?_snoc hx' with hx' | ⟨rfl, rfl⟩
    · exact h.distinct d d' x x' hx hx' hp hp' heq
    · exact absurd heq (hok x (mem_of_getElem? hx) hp)
    · exact absurd heq.symm (hok x' (mem_of_getElem? hx') hp')
    · rfl
  · obtain ⟨hlt, hmeant⟩ := h.meant sub hsub d hsender
    exact ⟨by rw [length_append]; exact Nat.lt_add_right _ hlt, hmeant⟩
  · rcases mem_append.1 hx with hx | hx
    · exact h.kept x hx
    · rw [mem_singleton.1 hx]
      exact fun other => ⟨nofun, nofun⟩
  · rcases getElem?_snoc hx with hx | ⟨rfl, rfl⟩
    · exact h.has d x k hx hk
    · rcases hk with hk | hk <;> cases hk

lemma Sound.take {callId result answers}
    (hok : s.Orderly (.take callId result answers)) : (s.take callId result answers).Sound := by
  have herased := h.erase callId
  refine ⟨fun id d hlookup => ?_, h.distinct, fun sub hsub d hsender => ?_, h.kept, fun d x k hx hk => ?_⟩
  · obtain ⟨x, hx, hid, hp, htaken⟩ := herased.owner id d hlookup
    refine ⟨x, hx, hid, hp, fun sub hsub hsender => ?_⟩
    rcases mem_append.1 hsub with hsub | hsub
    · exact htaken sub hsub hsender
    · -- the sender that was taken stood under its own id
      rw [mem_singleton.1 hsub] at hsender
      obtain ⟨x', hx', hid', -, -⟩ := h.owner callId d hsender
      cases hx.symm.trans hx'
      have hnone : (s.take callId result answers).pending.lookup id = none := by
        rw [← hid, hid']
        exact lookup_erase _ _
      cases hlookup.symm.trans hnone
  · rcases mem_append.1 hsub with hsub | hsub
    · exact h.meant sub hsub d hsender
    · rw [mem_singleton.1 hsub] at hsender ⊢
      obtain ⟨x, hx, -⟩ := h.owner callId d hsender
      obtain ⟨hanswers, hsent⟩ := hok d hsender
      refine ⟨(List.getElem?_eq_some_iff.1 hx).1, hanswers, ?_⟩
      dsimp only
      rw [hanswers, Option.map_some, hsent]
      rfl
  · obtain ⟨sub, hsub, hsender⟩ := h.has d x k hx hk
    refine ⟨sub, ?_, hsender⟩
    exact (List.getElem?_append_left (List.getElem?_eq_some_iff.1 hsub).1).trans hsub

lemma Sound.returned {k : Nat} {sub} (hsub : s.submissions[k]? = some sub) (returned : Option Bool) :
    { s with submissions := s.submissions.set k { sub with returned := returned } }.Sound := by
  have hmem : ∀ sub' ∈ s.submissions.set k { sub with returned := returned }, ∃ sub₀ ∈ s.submissions,
      sub'.sender = sub₀.sender ∧ sub'.answers = sub₀.answers ∧ sub'.afterSent = sub₀.afterSent := by
    intro sub' hsub'
    rcases mem_or_eq_of_mem_set hsub' with hsub' | rfl
    · exact ⟨sub', hsub', rfl, rfl, rfl⟩
    · exact ⟨sub, mem_of_getElem? hsub, rfl, rfl, rfl⟩
  refine ⟨fun id d hlookup => ?_, h.distinct, fun sub' hsub' d hsender => ?_, h.kept, fun d x j hx hj => ?_⟩
  · obtain ⟨x, hx, hid, hp, htaken⟩ := h.owner id d hlookup
    refine ⟨x, hx, hid, hp, fun sub' hsub' => ?_⟩
    obtain ⟨sub₀, hsub₀, hsender, -⟩ := hmem sub' hsub'
    rw [hsender]
    exact htaken sub₀ hsub₀
  · obtain ⟨sub₀, hsub₀, hsender₀, hanswers, hafter⟩ := hmem sub' hsub'
    rw [hanswers, hafter]
    exact h.meant sub₀ hsub₀ d (hsender₀.symm.trans hsender)
  · obtain ⟨sub', hsub', hsender⟩ := h.has d x j hx hj
    by_cases hkj : k = j
    · subst hkj
      cases hsub.symm.trans hsub'
      refine ⟨{ sub with returned := returned }, ?_, hsender⟩
      exact List.getElem?_set_self (List.getElem?_eq_some_iff.1 hsub).1
    · exact ⟨sub', (getElem?_set_ne hkj).trans hsub', hsender⟩

lemma Sound.deliver (k : Nat) : (s.deliver k).Sound := by
  unfold RemoteCalls.deliver
  split
  · exact h
  · rename_i sub hsub
    split
    · rename_i d hreturned hsender
      split
      · exact h
      · rename_i x hx
        have hset := h.returned hsub (some x.stage.receiving)
        dsimp only
        split
        · rename_i hreceiving
          have hp : x.stage.inProgress = true := inProgress_of_receiving hreceiving
          refine hset.update hx ⟨rfl, fun _ => hp, fun hdone => ?_, fun other => ⟨nofun, ?_⟩, fun k' hk' => ?_⟩
          · exact Bool.noConfusion (hp.symm.trans hdone)
          · exact (h.kept x (mem_of_getElem? hx) other).2
          · rcases hk' with hk' | hk'
            · cases hk'
              refine ⟨{ sub with returned := some x.stage.receiving }, ?_, hsender⟩
              exact List.getElem?_set_self (List.getElem?_eq_some_iff.1 hsub).1
            · exact hset.has d x k' hx (.inr hk')
        · exact hset
    · exact h

lemma Sound.step (event : Event) (hok : s.Orderly event) : (s.step event).Sound := by
  cases event with
  | issue call timeoutMs fallback => exact h.issue hok
  | sendRequest d => exact h.sendRequest d
  | closeRequest d => exact h.closeRequest d
  | wake d => exact h.wake d
  | expire d => exact h.expire d
  | cleanUp d => exact h.cleanUp d
  | abandon d => exact h.abandon hok
  | take callId result answers => exact h.take hok
  | deliver k => exact h.deliver k

/-! ## Whole runs -/

lemma Sound.routed : s.Routed where
  own d k hd := by
    obtain ⟨x, hx, hstage⟩ := outcome_eq hd
    obtain ⟨sub, hsub, hsender⟩ := h.has d x k hx (.inr hstage)
    exact ⟨sub, hsub, (h.meant sub (mem_of_getElem? hsub) d hsender).2⟩
  once d d' k hd hd' := by
    obtain ⟨x, hx, hstage⟩ := outcome_eq hd
    obtain ⟨x', hx', hstage'⟩ := outcome_eq hd'
    obtain ⟨sub, hsub, hsender⟩ := h.has d x k hx (.inr hstage)
    obtain ⟨sub', hsub', hsender'⟩ := h.has d' x' k hx' (.inr hstage')
    cases hsub.symm.trans hsub'
    exact Option.some.inj (hsender.symm.trans hsender')
  notCancelled d other hd := by
    obtain ⟨x, hx, hstage⟩ := outcome_eq hd
    exact (h.kept x (mem_of_getElem? hx) other).2 hstage
  noneLeft hdone := by
    refine eq_nil_iff_forall_not_mem.2 fun callId hmem => ?_
    obtain ⟨d, hlookup⟩ := Option.isSome_iff_exists.1 (lookup_isSome.2 hmem)
    obtain ⟨x, hx, -, hp, -⟩ := h.owner callId d hlookup
    rw [hdone x (mem_of_getElem? hx)] at hp
    cases hp

end RemoteCalls
open RemoteCalls

theorem routed_run (events : List Event) (s : RemoteCalls)
    (horderly : EveryStep (fun s event => .next (s.step event)) start Orderly events)
    (hrun : runFrom (fun s event => .next (s.step event)) start events = .next s) : s.Routed := by
  have hsound : s.Sound :=
    horderly.invariant Sound (fun s event s' hs hok hstep => by
      cases hstep
      exact hs.step event hok) sound_start events s hrun
  exact hsound.routed

/-! ## Runs -/

def moveArm (id : String) : Event := .issue ⟨id, "move_arm", .null⟩ 30000 "fresh"

def moved : ToolResult := ⟨.null, none, none, false, none⟩

def remoteRun (events : List Event) : RemoteCalls := events.foldl step start

def answered : List Event :=
  [moveArm "a", moveArm "b", .sendRequest 0, .sendRequest 1, .take "a" moved (some 0), .deliver 0, .expire 1, .wake 0,
    .cleanUp 1]

theorem routed_answered :
    (remoteRun answered).outcome 0 = some (.result 0) ∧ (remoteRun answered).outcome 1 = some .timedOut ∧
      (remoteRun answered).Routed :=
  ⟨by decide, by decide, routed_run answered _ (by decide) (runFrom_total _ _ _)⟩

def sameId : List Event := [moveArm "a", moveArm "a", .sendRequest 0, .wake 0]

/-- The answer to a call that has timed out comes when its id is in use again. -/
def lateAnswer : List Event :=
  [moveArm "a", .sendRequest 0, .expire 0, .cleanUp 0, moveArm "a", .sendRequest 1, .take "a" moved (some 0), .deliver 0,
    .wake 1]

def earlyAnswer : List Event := [moveArm "a", .take "a" moved none, .deliver 0, .sendRequest 0, .wake 0]

def abandoned : List Event := [moveArm "a", .sendRequest 0, .abandon 0]

/-- The first call is cancelled by the second; the second call gets the answer to the first; a call gets an
answer to no call; the sender of a call that has ended stays in the map. -/
theorem calls_not_routed : ((remoteRun sameId).outcome 0 = some (.cancelled 1) ∧ ¬ (remoteRun sameId).Routed) ∧
    ((remoteRun lateAnswer).outcome 1 = some (.result 0) ∧ ¬ (remoteRun lateAnswer).Routed) ∧
    ((remoteRun earlyAnswer).outcome 0 = some (.result 0) ∧ ¬ (remoteRun earlyAnswer).Routed) ∧
    ((remoteRun abandoned).outcome 0 = some .dispatcherTimedOut ∧ (remoteRun abandoned).pending.keys = ["a"] ∧
      ¬ (remoteRun abandoned).Routed) := by
  have hsame : (remoteRun sameId).outcome 0 = some (.cancelled 1) := by decide
  have hlate : (remoteRun lateAnswer).outcome 1 = some (.result 0) := by decide
  have hearly : (remoteRun earlyAnswer).outcome 0 = some (.result 0) := by decide
  refine ⟨⟨hsame, fun h => ?_⟩, ⟨hlate, fun h => ?_⟩, ⟨hearly, fun h => ?_⟩, by decide, by decide, fun h => ?_⟩
  · exact h.notCancelled 0 1 hsame
  · obtain ⟨sub, hsub, hanswers, -⟩ := h.own 1 0 hlate
    cases hsub
    cases hanswers
  · obtain ⟨sub, hsub, hanswers, -⟩ := h.own 0 0 hearly
    cases hsub
    cases hanswers
  · have hnone := h.noneLeft (by decide)
    revert hnone
    decide

end Roz.Agent.Remote
