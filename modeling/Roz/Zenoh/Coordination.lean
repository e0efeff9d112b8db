import Roz.Lib.Run
import Mathlib.Data.Finset.Basic

/-!
# Barrier membership (`roz-zenoh/src/coordination.rs`)

Robots join and leave a barrier by declaring and dropping a liveliness token, while
`observe_barrier` reads the tokens once, then subscribes to their changes.  A run is any
interleaving of the two: `get` returns the tokens alive at that instant, a subscriber receives
every later change in order.  What the wildcard does not match, `extract_robot_id` drops as well,
so that the tokens of all barriers may be delivered.

A change between the snapshot and the subscription is in neither (`converged_iff`).
-/

namespace Roz.Zenoh
open StepRun

/-! ## Keys -/

def stripPrefix (start s : String) : Option String :=
  if start.toList.isPrefixOf s.toList then some (String.ofList (s.toList.drop start.toList.length)) else none

variable (name : String)
def barrierKey : String := "roz/coordination/barrier/" ++ name ++ "/"

def tokenKey (name robotId : String) : String := barrierKey name ++ robotId

def IsChunk (s : String) : Prop := s ≠ "" ∧ '/' ∉ s.toList

instance (s : String) : Decidable (IsChunk s) := inferInstanceAs (Decidable (_ ∧ _))

def extractRobotId (key name : String) : Option String :=
  match stripPrefix (barrierKey name) key with
  | none => none
  | some rest => if rest = "" ∨ '/' ∈ rest.toList then none else some rest

lemma stripPrefix_eq_some (start s rest : String) : stripPrefix start s = some rest ↔ s = start ++ rest := by
  unfold stripPrefix
  constructor
  · intro h
    by_cases hp : start.toList.isPrefixOf s.toList
    · rw [if_pos hp, Option.some.injEq] at h
      obtain ⟨tail, htail⟩ := List.isPrefixOf_iff_prefix.1 hp
      subst h
      rw [← String.toList_inj, String.toList_append, String.toList_ofList, ← htail, List.drop_left]
    · rw [if_neg hp] at h
      cases h
  · intro h
    subst h
    have hp : start.toList.isPrefixOf (start ++ rest).toList := by
      rw [List.isPrefixOf_iff_prefix, String.toList_append]
      exact List.prefix_append _ _
    rw [if_pos hp, String.toList_append, List.drop_left, String.ofList_toList]

lemma extractRobotId_eq_some (key name r : String) :
    extractRobotId key name = some r ↔ key = tokenKey name r ∧ IsChunk r := by
  unfold extractRobotId tokenKey IsChunk
  rw [← stripPrefix_eq_some]
  cases stripPrefix (barrierKey name) key with
  | none => simp
  | some rest =>
    dsimp only
    by_cases h : rest = "" ∨ '/' ∈ rest.toList
    · rw [if_pos h]
      constructor
      · intro hr
        cases hr
      · rintro ⟨hr, hne, hslash⟩
        cases hr
        exact absurd h (by simp [hne, hslash])
    · rw [if_neg h]
      push Not at h
      constructor
      · intro hr
        cases hr
        exact ⟨rfl, h⟩
      · exact fun hr => hr.1

-- from here on the lemma speaks for the definition, which works on the characters of its strings
attribute [irreducible] extractRobotId

/-! ## The observer -/

inductive SampleKind where
  | put
  | delete
  deriving DecidableEq

structure Sample where
  kind : SampleKind
  keyExpr : String
  deriving DecidableEq

inductive Phase where
  | start
  -- the replies to `get` that are not processed yet; `none` is an error reply
  | seeding (replies : List (Option String))
  -- the changes that are not processed yet
  | observing (queue : List Sample)
  deriving DecidableEq

variable (participants : Finset String)
def processReply : Option String → Finset String
  | none => participants
  | some key =>
    match extractRobotId key name with
    | none => participants
    | some robotId => insert robotId participants

def processSample (sample : Sample) : Finset String :=
  match extractRobotId sample.keyExpr name with
  | none => participants
  | some robotId =>
    match sample.kind with
    | .put => insert robotId participants
    | .delete => participants.erase robotId

structure Barrier where
  alive : Finset String
  phase : Phase
  participants : Finset String
  -- the tokens alive at the snapshot and at the subscription, and the changes since the latter
  snapshot : Finset String
  subscribedTo : Finset String
  changes : List Sample
  deriving DecidableEq

inductive Move where
  | join (key : String)
  | leave (key : String)
  | get (replies : List (Option String))
  | reply
  | declareSubscriber
  | recv
  deriving DecidableEq

namespace Barrier

def init : Barrier := ⟨∅, .start, ∅, ∅, ∅, []⟩

def notify (s : Barrier) (sample : Sample) : Barrier :=
  match s.phase with
  | .observing queue => { s with phase := .observing (queue ++ [sample]), changes := s.changes ++ [sample] }
  | _ => s

variable (name : String)
def step (s : Barrier) : Move → Barrier
  | .join key => if key ∈ s.alive then s else { s with alive := insert key s.alive }.notify ⟨.put, key⟩
  | .leave key => if key ∈ s.alive then { s with alive := s.alive.erase key }.notify ⟨.delete, key⟩ else s
  | .get replies =>
    -- the replies list the tokens alive, in any order and with errors in between
    if s.phase = .start ∧ (∀ key ∈ s.alive, some key ∈ replies) ∧ ∀ reply ∈ replies, ∀ key ∈ reply, key ∈ s.alive then
      { s with phase := .seeding replies, snapshot := s.alive }
    else s
  | .reply =>
    match s.phase with
    | .seeding (reply :: replies) =>
      { s with phase := .seeding replies, participants := processReply name s.participants reply }
    | _ => s
  | .declareSubscriber =>
    match s.phase with
    | .seeding [] => { s with phase := .observing [], subscribedTo := s.alive }
    | _ => s
  | .recv =>
    match s.phase with
    | .observing (sample :: queue) =>
      { s with phase := .observing queue, participants := processSample name s.participants sample }
    | _ => s

def Untouched (s : Barrier) (r : String) : Prop :=
  ∀ sample ∈ s.changes, sample.keyExpr ≠ tokenKey name r

instance (name : String) (s : Barrier) (r : String) : Decidable (s.Untouched name r) :=
  inferInstanceAs (Decidable (∀ sample ∈ s.changes, sample.keyExpr ≠ tokenKey name r))

/-- A robot that did not change since the subscription did not change between the snapshot and
the subscription either, and the ids of the robots are single chunks. -/
def NothingLost (s : Barrier) : Prop :=
  (∀ r, tokenKey name r ∈ s.alive → IsChunk r) ∧
    ∀ r, IsChunk r → s.Untouched name r → (tokenKey name r ∈ s.snapshot ↔ tokenKey name r ∈ s.subscribedTo)

/-! ## Processing replies and changes -/

variable (name : String) (participants : Finset String)
lemma mem_processReply (reply : Option String) (r : String) : r ∈ processReply name participants reply ↔
    r ∈ participants ∨ (reply = some (tokenKey name r) ∧ IsChunk r) := by
  cases reply with
  | none => simp [processReply]
  | some key =>
    rw [Option.some.injEq, ← extractRobotId_eq_some]
    simp only [processReply]
    cases extractRobotId key name with
    | none => simp
    | some id =>
      simp only [Finset.mem_insert, Option.some.injEq]
      tauto

lemma mem_processSample (sample : Sample) (r : String) : r ∈ processSample name participants sample ↔
    if sample.keyExpr = tokenKey name r ∧ IsChunk r then sample.kind = .put else r ∈ participants := by
  rw [if_congr (extractRobotId_eq_some sample.keyExpr name r).symm rfl rfl]
  simp only [processSample]
  cases extractRobotId sample.keyExpr name with
  | none => simp
  | some id =>
    by_cases hid : id = r
    · subst hid
      cases sample.kind <;> simp
    · have hne : r ≠ id := fun h => hid h.symm
      cases sample.kind <;> simp [hid, hne]

def settled (name : String) (participants : Finset String) (queue : List Sample) : Finset String :=
  queue.foldl (processSample name) participants

lemma mem_settled_concat (queue : List Sample) (sample : Sample) (r : String) :
    r ∈ settled name participants (queue ++ [sample]) ↔
      if sample.keyExpr = tokenKey name r ∧ IsChunk r then sample.kind = .put else r ∈ settled name participants queue := by
  unfold settled
  rw [List.foldl_append]
  exact mem_processSample name _ sample r

/-! ## The invariant -/

/-- What the participants will be: a robot that changed since the subscription is there if it is
alive, any other if it was in the snapshot. -/
structure Follows (name : String) (s : Barrier) (queue : List Sample) : Prop where
  settled_iff : ∀ r, r ∈ settled name s.participants queue ↔
    IsChunk r ∧ if s.Untouched name r then tokenKey name r ∈ s.snapshot else tokenKey name r ∈ s.alive
  untouched : ∀ r, s.Untouched name r → (tokenKey name r ∈ s.alive ↔ tokenKey name r ∈ s.subscribedTo)

def Tracks (name : String) (s : Barrier) : Prop :=
  match s.phase with
  | .start => s.participants = ∅ ∧ s.changes = []
  | .seeding replies =>
    s.changes = [] ∧ ∀ r, (r ∈ s.participants ∨ (some (tokenKey name r) ∈ replies ∧ IsChunk r)) ↔
      tokenKey name r ∈ s.snapshot ∧ IsChunk r
  | .observing queue => s.Follows name queue

lemma Follows.notify {name} {s : Barrier} {queue} (h : s.Follows name queue)
    (alive : Finset String) (sample : Sample) (hother : ∀ key, key ≠ sample.keyExpr → (key ∈ alive ↔ key ∈ s.alive))
    (hkey : sample.keyExpr ∈ alive ↔ sample.kind = .put) :
    Follows name { s with alive := alive, phase := .observing (queue ++ [sample]), changes := s.changes ++ [sample] }
      (queue ++ [sample]) := by
  have huntouched (r : String) :
      Untouched name { s with alive := alive, phase := .observing (queue ++ [sample]), changes := s.changes ++ [sample] } r ↔
        s.Untouched name r ∧ sample.keyExpr ≠ tokenKey name r := by simp [Untouched, or_imp, forall_and]
  refine ⟨fun r => ?_, fun r hr => ?_⟩
  · rw [mem_settled_concat, if_congr (huntouched r) rfl rfl]
    by_cases hk : sample.keyExpr = tokenKey name r
    · by_cases hc : IsChunk r
      · simp [hk, hc, ← hkey]
      · simp [hk, hc, h.settled_iff r]
    · have hne : tokenKey name r ≠ sample.keyExpr := fun h => hk h.symm
      simp [hk, h.settled_iff r, hother _ hne]
  · obtain ⟨hr, hk⟩ := (huntouched r).1 hr
    rw [← h.untouched r hr]
    exact hother _ fun h => hk h.symm

lemma Tracks.notify {name} {s : Barrier} (h : s.Tracks name) (alive : Finset String) (sample : Sample)
    (hother : ∀ key, key ≠ sample.keyExpr → (key ∈ alive ↔ key ∈ s.alive))
    (hkey : sample.keyExpr ∈ alive ↔ sample.kind = .put) : Tracks name ({ s with alive := alive }.notify sample) := by
  unfold Tracks at h
  cases hphase : s.phase with
  | start =>
    rw [hphase] at h
    simp only [Barrier.notify, Tracks]
    exact h
  | seeding replies =>
    rw [hphase] at h
    simp only [Barrier.notify, Tracks]
    exact h
  | observing queue =>
    rw [hphase] at h
    simp only [Barrier.notify, Tracks]
    exact Follows.notify h alive sample hother hkey

lemma Tracks.step {name} {s : Barrier} (h : s.Tracks name) (move : Move) : (s.step name move).Tracks name := by
  cases move with
  | join key =>
    simp only [Barrier.step]
    by_cases hk : key ∈ s.alive
    · rw [if_pos hk]
      exact h
    · rw [if_neg hk]
      refine h.notify _ ⟨.put, key⟩ (fun key' hne => ?_) (by simp)
      simp [Finset.mem_insert, hne]
  | leave key =>
    simp only [Barrier.step]
    by_cases hk : key ∈ s.alive
    · rw [if_pos hk]
      refine h.notify _ ⟨.delete, key⟩ (fun key' hne => ?_) (by simp)
      simp [Finset.mem_erase, hne]
    · rw [if_neg hk]
      exact h
  | get replies =>
    simp only [Barrier.step]
    by_cases hg : s.phase = .start ∧ (∀ key ∈ s.alive, some key ∈ replies) ∧
        ∀ reply ∈ replies, ∀ key ∈ reply, key ∈ s.alive
    · obtain ⟨hphase, hall, honly⟩ := hg
      rw [if_pos ⟨hphase, hall, honly⟩]
      unfold Tracks at h ⊢
      rw [hphase] at h
      refine ⟨h.2, fun r => ?_⟩
      have hreply : some (tokenKey name r) ∈ replies ↔ tokenKey name r ∈ s.alive :=
        ⟨fun hr => honly _ hr _ rfl, hall _⟩
      simp [h.1, hreply]
    · rw [if_neg hg]
      exact h
  | reply =>
    unfold Tracks at h
    simp only [Barrier.step]
    split
    · rename_i reply replies hphase
      rw [hphase] at h
      obtain ⟨hchanges, hseed⟩ := h
      refine ⟨hchanges, fun r => ?_⟩
      simp only [mem_processReply]
      rw [← hseed r, List.mem_cons]
      constructor
      · rintro ((hr | ⟨hreply, hc⟩) | ⟨hr, hc⟩)
        · exact .inl hr
        · exact .inr ⟨.inl hreply.symm, hc⟩
        · exact .inr ⟨.inr hr, hc⟩
      · rintro (hr | ⟨hreply | hr, hc⟩)
        · exact .inl (.inl hr)
        · exact .inl (.inr ⟨hreply.symm, hc⟩)
        · exact .inr ⟨hr, hc⟩
    · exact h
  | declareSubscriber =>
    unfold Tracks at h
    simp only [Barrier.step]
    split
    · rename_i hphase
      rw [hphase] at h
      obtain ⟨hchanges, hseed⟩ := h
      have huntouched (r : String) :
          Untouched name { s with phase := .observing [], subscribedTo := s.alive } r := by
        simp [Untouched, hchanges]
      refine ⟨fun r => ?_, fun r _ => Iff.rfl⟩
      rw [if_pos (huntouched r), and_comm, ← hseed r]
      simp [settled]
    · exact h
  | recv =>
    unfold Tracks at h
    simp only [Barrier.step]
    split
    · rename_i sample queue hphase
      rw [hphase] at h
      exact ⟨h.settled_iff, h.untouched⟩
    · exact h

lemma tracks_init : init.Tracks name := ⟨rfl, rfl⟩

end Barrier
open Barrier

theorem converged_iff (name : String) (moves : List Move) (s : Barrier)
    (hrun : runFrom (fun s move => .next (s.step name move)) init moves = .next s) (hdone : s.phase = .observing []) :
    (∀ r, r ∈ s.participants ↔ tokenKey name r ∈ s.alive) ↔ s.NothingLost name := by
  have htracks : s.Tracks name := by
    refine run_invariant (Tracks name) (fun s move s' h hstep => ?_) (tracks_init name) s hrun
    cases hstep
    exact h.step move
  unfold Tracks at htracks
  rw [hdone] at htracks
  obtain ⟨hsettled, huntouched⟩ := htracks
  constructor
  · intro h
    refine ⟨fun r hr => ((hsettled r).1 ((h r).2 hr)).1, fun r hc hun => ?_⟩
    have hmem := (hsettled r).symm.trans (h r)
    rw [if_pos hun, huntouched r hun] at hmem
    exact ⟨fun hr => hmem.1 ⟨hc, hr⟩, fun hr => (hmem.2 hr).2⟩
  · rintro ⟨hchunks, hlost⟩ r
    refine (hsettled r).trans ?_
    by_cases hun : s.Untouched name r
    · rw [if_pos hun, huntouched r hun]
      constructor
      · rintro ⟨hc, hr⟩
        exact (hlost r hc hun).1 hr
      · intro hr
        have hc := hchunks r ((huntouched r hun).2 hr)
        exact ⟨hc, (hlost r hc hun).2 hr⟩
    · rw [if_neg hun]
      exact ⟨fun hr => hr.2, fun hr => ⟨hchunks r hr, hr⟩⟩

def quietGap : List Move :=
  [.join (tokenKey "start" "arm"), .get [some (tokenKey "start" "arm")], .reply, .declareSubscriber,
    .join (tokenKey "start" "base"), .leave (tokenKey "start" "arm"), .recv, .recv]

def joinInGap : List Move := [.get [], .join (tokenKey "start" "arm"), .declareSubscriber]

def leaveInGap : List Move :=
  [.join (tokenKey "start" "arm"), .get [some (tokenKey "start" "arm")], .reply, .leave (tokenKey "start" "arm"),
    .declareSubscriber]

def observe (name : String) (moves : List Move) : Barrier := moves.foldl (fun s move => s.step name move) init

theorem converged_quietGap :
    (observe "start" quietGap).phase = .observing [] ∧ (observe "start" quietGap).participants = {"base"} ∧
    (observe "start" quietGap).alive = {tokenKey "start" "base"} ∧
    ((∀ r, r ∈ (observe "start" quietGap).participants ↔ tokenKey "start" r ∈ (observe "start" quietGap).alive) ↔
      (observe "start" quietGap).NothingLost "start") :=
  ⟨by decide, by decide +kernel, by decide,
    converged_iff "start" quietGap _ (runFrom_total (fun s move => s.step "start" move) quietGap init)
      (by decide)⟩

theorem gap_lost : ((observe "start" joinInGap).phase = .observing [] ∧ (observe "start" joinInGap).participants = ∅ ∧
      tokenKey "start" "arm" ∈ (observe "start" joinInGap).alive) ∧
    ((observe "start" leaveInGap).phase = .observing [] ∧ (observe "start" leaveInGap).participants = {"arm"} ∧
      tokenKey "start" "arm" ∉ (observe "start" leaveInGap).alive) :=
  ⟨⟨by decide, by decide, by decide⟩, by decide, by decide +kernel, by decide⟩

end Roz.Zenoh
