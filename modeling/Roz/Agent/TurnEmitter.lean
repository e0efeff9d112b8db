import Mathlib.Algebra.Ring.Int.Defs
import Roz.Agent.Message
import Roz.Lib.Emitter

/-!
# Write-behind persistence of session turns (`agent_loop/turn_emitter.rs`)

The loop numbers the envelopes of a run from 0 and hands them to a bounded channel, which drops an
envelope that finds it full.  The flush task adds a base offset to the number: `MAX(turn_index) + 1`
when it first sees the session, cached from then on, and read again only when the index is
taken (`turns_in_order_iff`).

A database error is a duplicate of (session, index).  The drain after a cancellation receives as the
loop does.  The copies for the fact extractor are left out.
-/

namespace Roz.Agent
open List

/-! ## `i32` -/

structure I32 where
  val : Int
  bounds : -2 ^ 31 ≤ val ∧ val < 2 ^ 31
  deriving DecidableEq

instance : LT I32 := ⟨fun a b => a.val < b.val⟩

instance (a b : I32) : Decidable (a < b) := inferInstanceAs (Decidable (a.val < b.val))

namespace I32

def zero : I32 := ⟨0, by decide⟩

def one : I32 := ⟨1, by decide⟩

def maxValue : I32 := ⟨2 ^ 31 - 1, by decide⟩

def saturatingAdd (a b : I32) : I32 :=
  ⟨max (-2 ^ 31) (min (2 ^ 31 - 1) (a.val + b.val)), by omega⟩

def succ (a : I32) : I32 := ⟨(a.val + 1 + 2 ^ 31) % 2 ^ 32 - 2 ^ 31, by omega⟩

def maximum : List I32 → Option I32
  | [] => none
  | a :: as =>
    match maximum as with
    | none => some a
    | some m => some (if m < a then a else m)

end I32

/-! ## Envelopes and rows -/

inductive TurnRole where
  | user
  | assistant
  | tool
  | system
  deriving DecidableEq

inductive TurnKind where
  | turn
  | compaction
  deriving DecidableEq

structure TurnEnvelope where
  sessionId : Nat
  tenantId : Nat
  turnIndex : I32
  role : TurnRole
  content : Json
  tokenUsage : Option Json
  kind : TurnKind

structure TurnRow where
  sessionId : Nat
  turnIndex : I32
  role : TurnRole
  content : Json
  tokenUsage : Option Json
  kind : TurnKind

def TurnEnvelope.row (env : TurnEnvelope) (index : I32) : TurnRow :=
  ⟨env.sessionId, index, env.role, env.content, env.tokenUsage, env.kind⟩

/-! ## The flush task -/

/-- The cache of the flush task, by tenant and session, and the rows in the order of their insertion. -/
structure FlushTask where
  baseOffsets : Nat × Nat → Option I32
  rows : List TurnRow

namespace FlushTask
variable (f : FlushTask) (sessionId : Nat)
def taken : List I32 :=
  (f.rows.filter fun row => row.sessionId = sessionId).map TurnRow.turnIndex

def maxTurnIndex : Option I32 := I32.maximum (f.taken sessionId)

def seed : I32 := (f.maxTurnIndex sessionId).elim I32.zero I32.succ

variable (env : TurnEnvelope)
def flushOne : FlushTask × Bool :=
  let key := (env.tenantId, env.sessionId)
  let base := (f.baseOffsets key).getD (f.seed env.sessionId)
  let f := { f with baseOffsets := Function.update f.baseOffsets key (some base) }
  let absoluteIndex := env.turnIndex.saturatingAdd base
  if absoluteIndex ∈ f.taken env.sessionId then
    ({ f with baseOffsets := Function.update f.baseOffsets key none }, false)
  else ({ f with rows := f.rows ++ [env.row absoluteIndex] }, true)

def receive : FlushTask :=
  match f.flushOne env with
  | (f, true) => f
  | (f, false) => (f.flushOne env).1

end FlushTask

/-! ## The loop and the channel -/

structure TurnChannel where
  sessionId : Nat
  tenantId : Nat
  capacity : Nat

/-- `emitted` and `received` are what was handed to the channel and taken out of it so far. -/
structure TurnPipeline where
  turnIndex : I32
  emitted : List TurnEnvelope
  queue : List TurnEnvelope
  received : List TurnEnvelope
  task : FlushTask

inductive TurnEvent where
  | startRun
  | emit (role : TurnRole) (content : Json) (tokenUsage : Option Json) (kind : TurnKind)
  | receive

namespace TurnChannel
variable (ch : TurnChannel)
def start (rows : List TurnRow) : TurnPipeline := ⟨I32.zero, [], [], [], ⟨fun _ => none, rows⟩⟩

variable (s : TurnPipeline)
def step : TurnEvent → TurnPipeline × List TurnEnvelope
  | .startRun => ({ s with turnIndex := I32.zero }, [])
  | .emit role content tokenUsage kind =>
    let env : TurnEnvelope := ⟨ch.sessionId, ch.tenantId, s.turnIndex, role, content, tokenUsage, kind⟩
    -- counted whether or not the envelope is dropped
    let s := { s with turnIndex := s.turnIndex.saturatingAdd I32.one, emitted := s.emitted ++ [env] }
    if s.queue.length < ch.capacity then ({ s with queue := s.queue ++ [env] }, []) else (s, [env])
  | .receive =>
    match s.queue with
    | [] => (s, [])
    | env :: queue => ({ s with queue := queue, received := s.received ++ [env], task := s.task.receive env }, [])

/-- All that was received is stored, in the order in which it was emitted, under growing indices. -/
def InOrder (before : List TurnRow) (s : TurnPipeline) : Prop :=
  (s.received ++ s.queue).Sublist s.emitted ∧
    ∃ indices : List I32, indices.length = s.received.length ∧
      s.task.rows = before ++ List.zipWith TurnEnvelope.row s.received indices ∧ indices.Pairwise (· < ·) ∧
      ∀ row ∈ before, row.sessionId = ch.sessionId → ∀ index ∈ indices, row.turnIndex < index

variable (f : FlushTask)
def IndicesLeft (sessionId : Nat) : Prop := ∀ index ∈ f.taken sessionId, index < I32.maxValue

def NoGap (env : TurnEnvelope) : Prop :=
  match f.baseOffsets (env.tenantId, env.sessionId) with
  | none => IndicesLeft f env.sessionId
  | some base =>
    (∀ index ∈ f.taken env.sessionId, index < env.turnIndex.saturatingAdd base) ∨
      (env.turnIndex.saturatingAdd base ∈ f.taken env.sessionId ∧ IndicesLeft f env.sessionId)

def ReceivesNoGap : TurnEvent → Prop
  | .receive => ∀ env ∈ s.queue.head?, NoGap s.task env
  | _ => True

/-- The first envelope of a run finds room in the channel, and neither numbers nor indices run out. -/
def FirstKept : TurnEvent → Prop
  | .startRun => True
  | .emit _ _ _ _ => s.turnIndex < I32.maxValue ∧ (s.turnIndex = I32.zero → s.queue.length < ch.capacity)
  | .receive => IndicesLeft s.task ch.sessionId

end TurnChannel

namespace I32

lemma lt_iff {a b : I32} : a < b ↔ a.val < b.val := Iff.rfl

lemma saturatingAdd_val (a b : I32) : (a.saturatingAdd b).val = max (-2 ^ 31) (min (2 ^ 31 - 1) (a.val + b.val)) := rfl

lemma ext_iff {a b : I32} : a = b ↔ a.val = b.val := by
  cases a
  cases b
  simp

variable {as : List I32}
lemma maximum_eq_none (h : maximum as = none) : as = [] := by
  cases as with
  | nil => rfl
  | cons a as =>
    rw [maximum] at h
    split at h <;> cases h

lemma maximum_eq_some {m : I32} (h : maximum as = some m) : m ∈ as ∧ ∀ a ∈ as, a.val ≤ m.val := by
  induction as generalizing m with
  | nil => cases h
  | cons a as ih =>
    rw [maximum] at h
    split at h
    · rename_i hnone
      cases h
      rw [maximum_eq_none hnone]
      simp
    · rename_i m' hsome
      obtain ⟨hmem, hle⟩ := ih hsome
      cases h
      split
      · rename_i hlt
        rw [lt_iff] at hlt
        refine ⟨.head _, forall_mem_cons.2 ⟨Int.le_refl _, fun b hb => ?_⟩⟩
        have := hle b hb
        omega
      · rename_i hlt
        rw [lt_iff] at hlt
        exact ⟨.tail _ hmem, forall_mem_cons.2 ⟨by omega, hle⟩⟩

lemma eq_maxValue_iff {a : I32} : a = maxValue ↔ a.val = 2 ^ 31 - 1 := ext_iff

lemma succ_val (a : I32) : a.succ.val = if a = maxValue then -2 ^ 31 else a.val + 1 := by
  have hbound := a.bounds
  show (a.val + 1 + 2 ^ 31) % 2 ^ 32 - 2 ^ 31 = _
  split
  · rename_i h
    rw [eq_maxValue_iff] at h
    rw [h]
    decide
  · rename_i h
    rw [eq_maxValue_iff] at h
    omega

end I32
open I32 TurnEnvelope TurnChannel
namespace FlushTask
open TurnChannel
variable {f : FlushTask} {env : TurnEnvelope}
def Above (f : FlushTask) (sessionId : Nat) (index : I32) : Prop := ∀ other ∈ f.taken sessionId, other < index

lemma Above.not_mem {sessionId index} (h : f.Above sessionId index) : index ∉ f.taken sessionId :=
  fun hmem => Int.lt_irrefl _ (h _ hmem)

lemma seed_cases (f : FlushTask) (sessionId : Nat) : (IndicesLeft f sessionId ∧ f.Above sessionId (f.seed sessionId)) ∨
    (maxValue ∈ f.taken sessionId ∧ (f.seed sessionId).val = -2 ^ 31) := by
  unfold Above seed maxTurnIndex IndicesLeft
  cases hmax : maximum (f.taken sessionId) with
  | none => simp [maximum_eq_none hmax]
  | some m =>
    obtain ⟨hmem, hle⟩ := maximum_eq_some hmax
    have hsucc := m.succ_val
    by_cases hm : m = maxValue
    · rw [if_pos hm] at hsucc
      exact .inr ⟨hm ▸ hmem, hsucc⟩
    · rw [if_neg hm] at hsucc
      rw [eq_maxValue_iff] at hm
      have hbound := m.bounds
      refine .inl ⟨fun index hindex => ?_, fun index hindex => ?_⟩
      · have hval := hle index hindex
        show index.val < 2 ^ 31 - 1
        omega
      · have hval := hle index hindex
        show index.val < m.succ.val
        omega

def seedIndex (f : FlushTask) (env : TurnEnvelope) : I32 := env.turnIndex.saturatingAdd (f.seed env.sessionId)

lemma seedIndex_above_iff (hnonneg : 0 ≤ env.turnIndex.val) :
    f.Above env.sessionId (f.seedIndex env) ↔ IndicesLeft f env.sessionId := by
  have hindex : (f.seedIndex env).val = _ := saturatingAdd_val env.turnIndex (f.seed env.sessionId)
  have hbound := env.turnIndex.bounds
  have hseed := (f.seed env.sessionId).bounds
  rcases f.seed_cases env.sessionId with ⟨hleft, habove⟩ | ⟨hmem, hwrapped⟩
  · refine iff_of_true (fun index hmem => ?_) hleft
    have hlt := lt_iff.1 (habove index hmem)
    rw [lt_iff]
    omega
  · refine iff_of_false (fun habove => ?_) (fun hleft => Int.lt_irrefl _ (hleft _ hmem))
    have hlt : 2 ^ 31 - 1 < (f.seedIndex env).val := habove _ hmem
    omega

def base (f : FlushTask) (env : TurnEnvelope) : I32 :=
  (f.baseOffsets (env.tenantId, env.sessionId)).getD (f.seed env.sessionId)

def firstIndex (f : FlushTask) (env : TurnEnvelope) : I32 :=
  env.turnIndex.saturatingAdd ((f.baseOffsets (env.tenantId, env.sessionId)).getD (f.seed env.sessionId))

lemma flushOne_stored (h : f.firstIndex env ∉ f.taken env.sessionId) : f.flushOne env =
    (⟨Function.update f.baseOffsets (env.tenantId, env.sessionId) (some (f.base env)),
      f.rows ++ [env.row (f.firstIndex env)]⟩, true) := if_neg h

lemma flushOne_refused (h : f.firstIndex env ∈ f.taken env.sessionId) :
    f.flushOne env = (⟨Function.update f.baseOffsets (env.tenantId, env.sessionId) none, f.rows⟩, false) := by
  unfold flushOne
  refine (if_pos h).trans ?_
  simp only [Function.update_idem]

lemma receive_cases (f : FlushTask) (env : TurnEnvelope) :
    (f.firstIndex env ∉ f.taken env.sessionId ∧ (f.receive env).rows = f.rows ++ [env.row (f.firstIndex env)] ∧
      (f.receive env).baseOffsets (env.tenantId, env.sessionId) = some (f.base env)) ∨
    (f.firstIndex env ∈ f.taken env.sessionId ∧ f.seedIndex env ∉ f.taken env.sessionId ∧
      (f.receive env).rows = f.rows ++ [env.row (f.seedIndex env)] ∧
      (f.receive env).baseOffsets (env.tenantId, env.sessionId) = some (f.seed env.sessionId)) ∨
    (f.firstIndex env ∈ f.taken env.sessionId ∧ f.seedIndex env ∈ f.taken env.sessionId ∧
      (f.receive env).rows = f.rows) := by
  by_cases hfirst : f.firstIndex env ∈ f.taken env.sessionId
  · have hretry : f.receive env =
        (flushOne ⟨Function.update f.baseOffsets (env.tenantId, env.sessionId) none, f.rows⟩ env).1 := by
      rw [receive, flushOne_refused hfirst]
    -- the cache is empty now, so that the offset is read
    have hindex : firstIndex ⟨Function.update f.baseOffsets (env.tenantId, env.sessionId) none, f.rows⟩ env =
        f.seedIndex env := by
      unfold firstIndex
      dsimp only
      rw [Function.update_self]
      rfl
    by_cases hseed : f.seedIndex env ∈ f.taken env.sessionId
    · refine .inr (.inr ⟨hfirst, hseed, ?_⟩)
      rw [← hindex] at hseed
      rw [hretry, flushOne_refused hseed]
    · refine .inr (.inl ⟨hfirst, hseed, ?_⟩)
      rw [← hindex] at hseed
      rw [hretry, flushOne_stored hseed, hindex]
      simp only [base, Function.update_self, Option.getD_none, true_and]
      rfl
  · refine .inl ⟨hfirst, ?_⟩
    rw [receive, flushOne_stored hfirst]
    simp only [Function.update_self, and_self]

lemma noGap_iff (hnonneg : 0 ≤ env.turnIndex.val) :
    NoGap f env ↔ ∃ index, (f.receive env).rows = f.rows ++ [env.row index] ∧ f.Above env.sessionId index := by
  have habove := seedIndex_above_iff (f := f) hnonneg
  have hunique : ∀ {index index' : I32}, f.rows ++ [env.row index] = f.rows ++ [env.row index'] → index = index' := by
    intro index index' h
    have hrow := append_cancel_left h
    simpa [TurnEnvelope.row] using hrow
  have hgap : NoGap f env ↔ f.Above env.sessionId (f.firstIndex env) ∨
      (f.firstIndex env ∈ f.taken env.sessionId ∧ IndicesLeft f env.sessionId) := by
    unfold NoGap firstIndex
    cases f.baseOffsets (env.tenantId, env.sessionId) with
    | some base => rfl
    | none =>
      rw [Option.getD_none]
      constructor
      · exact fun hleft => .inl (habove.2 hleft)
      · rintro (hall | ⟨-, hleft⟩)
        · exact habove.1 hall
        · exact hleft
  rw [hgap]
  rcases f.receive_cases env with ⟨hfirst, hrows, -⟩ | ⟨hfirst, hseed, hrows, -⟩ | ⟨hfirst, hseed, hrows⟩
  · constructor
    · rintro (hall | ⟨hmem, -⟩)
      · exact ⟨_, hrows, hall⟩
      · exact absurd hmem hfirst
    · rintro ⟨index, hindex, hall⟩
      rw [hrows] at hindex
      exact .inl (hunique hindex ▸ hall)
  · constructor
    · rintro (hall | ⟨-, hleft⟩)
      · exact absurd hfirst hall.not_mem
      · exact ⟨_, hrows, habove.2 hleft⟩
    · rintro ⟨index, hindex, hall⟩
      rw [hrows] at hindex
      obtain rfl := hunique hindex
      exact .inr ⟨hfirst, habove.1 hall⟩
  · refine iff_of_false ?_ ?_
    · rintro (hall | ⟨-, hleft⟩)
      · exact hall.not_mem hfirst
      · exact (habove.2 hleft).not_mem hseed
    · rintro ⟨index, hindex, -⟩
      rw [hrows] at hindex
      simp at hindex

lemma receive_rows (f : FlushTask) (env : TurnEnvelope) :
    (f.receive env).rows = f.rows ∨ ∃ index, (f.receive env).rows = f.rows ++ [env.row index] := by
  rcases f.receive_cases env with ⟨-, hrows, -⟩ | ⟨-, -, hrows, -⟩ | ⟨-, -, hrows⟩
  · exact .inr ⟨_, hrows⟩
  · exact .inr ⟨_, hrows⟩
  · exact .inl hrows

end FlushTask

/-! ## Rows and their envelopes -/

variable {envs : List TurnEnvelope} {indices : List I32}
lemma map_turnIndex_zipWith (hlen : indices.length = envs.length) :
    (List.zipWith TurnEnvelope.row envs indices).map TurnRow.turnIndex = indices := by
  induction envs generalizing indices with
  | nil => rw [length_eq_zero_iff.1 hlen, zipWith_nil_right, map_nil]
  | cons env envs ih =>
    cases indices with
    | nil => cases hlen
    | cons index indices =>
      rw [zipWith_cons_cons, map_cons, ih (Nat.succ.inj hlen)]
      rfl

variable {sessionId : Nat}
lemma sessionId_zipWith (h : ∀ env ∈ envs, env.sessionId = sessionId) :
    ∀ row ∈ List.zipWith TurnEnvelope.row envs indices, row.sessionId = sessionId := by
  induction envs generalizing indices with
  | nil => simp
  | cons env envs ih =>
    obtain ⟨henv, henvs⟩ := forall_mem_cons.1 h
    cases indices with
    | nil => simp
    | cons index indices =>
      rw [zipWith_cons_cons]
      exact forall_mem_cons.2 ⟨henv, ih henvs⟩

lemma mem_taken {f : FlushTask} {before index}
    (hlen : indices.length = envs.length) (hrows : f.rows = before ++ List.zipWith TurnEnvelope.row envs indices)
    (h : ∀ env ∈ envs, env.sessionId = sessionId) : index ∈ f.taken sessionId ↔
      (∃ row ∈ before, row.sessionId = sessionId ∧ row.turnIndex = index) ∨ index ∈ indices := by
  have hall : (List.zipWith TurnEnvelope.row envs indices).filter (fun row => row.sessionId = sessionId) =
      List.zipWith TurnEnvelope.row envs indices :=
    filter_eq_self.2 fun row hrow => by simpa using sessionId_zipWith h row hrow
  rw [FlushTask.taken, hrows, filter_append, hall, map_append, map_turnIndex_zipWith hlen, mem_append]
  simp [and_assoc]

namespace TurnChannel
variable {ch : TurnChannel} {before : List TurnRow} {s : TurnPipeline}

/-- The envelopes are of the session, and the numbers of a run start at 0. -/
structure Sent (ch : TurnChannel) (s : TurnPipeline) : Prop where
  counter : 0 ≤ s.turnIndex.val
  envelopes : ∀ env ∈ s.received ++ s.queue,
    env.sessionId = ch.sessionId ∧ env.tenantId = ch.tenantId ∧ 0 ≤ env.turnIndex.val

lemma saturatingAdd_one_nonneg {a : I32} (h : 0 ≤ a.val) : 0 ≤ (a.saturatingAdd I32.one).val := by
  have hval := a.saturatingAdd_val I32.one
  have hone : I32.one.val = 1 := rfl
  omega

lemma Sent.step (hs : Sent ch s) (e : TurnEvent) : Sent ch (ch.step s e).1 := by
  cases e with
  | startRun => exact ⟨Int.le_refl 0, hs.envelopes⟩
  | emit role content tokenUsage kind =>
    unfold TurnChannel.step
    dsimp only
    split
    · refine ⟨saturatingAdd_one_nonneg hs.counter, ?_⟩
      rw [← append_assoc]
      intro env henv
      rcases mem_append.1 henv with henv | henv
      · exact hs.envelopes env henv
      · rw [mem_singleton.1 henv]
        exact ⟨rfl, rfl, hs.counter⟩
    · exact ⟨saturatingAdd_one_nonneg hs.counter, hs.envelopes⟩
  | receive =>
    unfold TurnChannel.step
    dsimp only
    split
    · exact hs
    · rename_i env queue hqueue
      refine ⟨hs.counter, ?_⟩
      rw [append_assoc, singleton_append, ← hqueue]
      exact hs.envelopes

variable {f : FlushTask} {env : TurnEnvelope} {queue : List TurnEnvelope}
lemma inOrder_receive (hs : Sent ch s) (hqueue : s.queue = env :: queue) (h : InOrder ch before s) :
    InOrder ch before { s with queue := queue, received := s.received ++ [env], task := s.task.receive env } ↔
      ∃ index, (s.task.receive env).rows = s.task.rows ++ [env.row index] ∧ s.task.Above ch.sessionId index := by
  obtain ⟨hsublist, indices, hlen, hrows, hascending, hbefore⟩ := h
  have hreceived : ∀ env ∈ s.received, env.sessionId = ch.sessionId := by
    intro env henv
    exact (hs.envelopes env (mem_append_left _ henv)).1
  have hsame : s.received ++ [env] ++ queue = s.received ++ s.queue := by
    rw [hqueue, append_assoc, singleton_append]
  have hmem : ∀ {index}, index ∈ s.task.taken ch.sessionId ↔
      (∃ row ∈ before, row.sessionId = ch.sessionId ∧ row.turnIndex = index) ∨ index ∈ indices :=
    mem_taken hlen hrows hreceived
  constructor
  · rintro ⟨-, indices', hlen', hrows', hascending', hbefore'⟩
    dsimp only at hlen' hrows'
    rcases s.task.receive_rows env with hlost | ⟨index, hstored⟩
    · rw [hlost, hrows, append_cancel_left_eq] at hrows'
      have hcount := congrArg List.length hrows'
      simp only [length_zipWith, length_append, length_singleton, hlen, hlen'] at hcount
      omega
    · rcases eq_nil_or_concat' indices' with rfl | ⟨init, last, rfl⟩
      · simp at hlen'
      · rw [length_append, length_append] at hlen'
        have hinit : init.length = s.received.length := Nat.add_right_cancel hlen'
        rw [hstored, hrows, append_assoc, append_cancel_left_eq, zipWith_append hinit.symm] at hrows'
        obtain ⟨hzip, hlast⟩ := append_inj' hrows' rfl
        have hindices : init = indices := by
          rw [← map_turnIndex_zipWith hinit, ← hzip, map_turnIndex_zipWith hlen]
        have hindex : index = last := by simpa [TurnEnvelope.row] using hlast
        subst hindices hindex
        refine ⟨index, hstored, fun other hother => ?_⟩
        rcases hmem.1 hother with ⟨row, hrow, hsession, rfl⟩ | hother
        · exact hbefore' row hrow hsession index (by simp)
        · exact (pairwise_append.1 hascending').2.2 other hother index (.head _)
  · rintro ⟨index, hstored, hall⟩
    refine ⟨by rw [hsame]; exact hsublist, indices ++ [index], by simp [hlen], ?_, ?_, ?_⟩
    · rw [hstored, hrows, zipWith_append hlen.symm, append_assoc]
      rfl
    · refine pairwise_append.2 ⟨hascending, pairwise_singleton _ _, fun other hother last hlast => ?_⟩
      rw [mem_singleton.1 hlast]
      exact hall other (hmem.2 (.inr hother))
    · intro row hrow hsession other hother
      rcases mem_append.1 hother with hother | hother
      · exact hbefore row hrow hsession other hother
      · rw [mem_singleton.1 hother]
        exact hall _ (hmem.2 (.inl ⟨row, hrow, hsession, rfl⟩))

lemma inOrder_step (hs : Sent ch s) (h : InOrder ch before s) (e : TurnEvent) :
    InOrder ch before (ch.step s e).1 ↔ ReceivesNoGap s e := by
  cases e with
  | startRun => exact iff_of_true h trivial
  | emit role content tokenUsage kind =>
    refine iff_of_true ?_ trivial
    unfold TurnChannel.step
    dsimp only
    split
    · refine ⟨?_, h.2⟩
      rw [← append_assoc]
      exact h.1.append_right _
    · exact ⟨h.1.trans (sublist_append_left _ _), h.2⟩
  | receive =>
    unfold TurnChannel.step ReceivesNoGap
    dsimp only
    split
    · rename_i hqueue
      exact iff_of_true h (by simp [hqueue])
    · rename_i env queue hqueue
      obtain ⟨hsession, -, hnonneg⟩ := hs.envelopes env (by simp [hqueue])
      rw [inOrder_receive hs hqueue h, ← hsession, ← FlushTask.noGap_iff hnonneg, hqueue]
      simp

/-! ## Runs whose first envelopes are kept -/

def Follows (prev : Option I32) (n : I32) : Prop := n = I32.zero ∨ ∃ p ∈ prev, p < n

def Rising : (prev : Option I32) → List TurnEnvelope → Prop
  | _, [] => True
  | prev, env :: envs => Follows prev env.turnIndex ∧ Rising (some env.turnIndex) envs

def lastNumber : (prev : Option I32) → List TurnEnvelope → Option I32
  | prev, [] => prev
  | _, env :: envs => lastNumber (some env.turnIndex) envs

lemma lastNumber_append (env : TurnEnvelope) (envs : List TurnEnvelope) :
    ∀ prev, lastNumber prev (envs ++ [env]) = some env.turnIndex := by
  induction envs with
  | nil => exact fun _ => rfl
  | cons e envs ih => exact fun _ => ih _

lemma rising_append {envs} :
    ∀ {prev}, Rising prev envs → Follows (lastNumber prev envs) env.turnIndex → Rising prev (envs ++ [env]) := by
  induction envs with
  | nil => exact fun _ h => ⟨h, trivial⟩
  | cons e envs ih => exact fun hrising h => ⟨hrising.1, ih hrising.2 h⟩

/-- The base offset was set by the first envelope of a run, and the last one has the greatest index. -/
def Cached (ch : TurnChannel) (f : FlushTask) : Option I32 → Prop
  | none => f.baseOffsets (ch.tenantId, ch.sessionId) = none
  | some last => 0 ≤ last.val ∧ ∃ base,
      f.baseOffsets (ch.tenantId, ch.sessionId) = some base ∧ base ∈ f.taken ch.sessionId ∧
      last.saturatingAdd base ∈ f.taken ch.sessionId ∧
      ∀ index ∈ f.taken ch.sessionId, index.val ≤ (last.saturatingAdd base).val

variable {f' : FlushTask}
lemma taken_append {index} (h : f'.rows = f.rows ++ [env.row index]) :
    f'.taken env.sessionId = f.taken env.sessionId ++ [index] := by
  rw [FlushTask.taken, h, filter_append, map_append]
  simp [FlushTask.taken, TurnEnvelope.row]

lemma zero_saturatingAdd (a : I32) : I32.zero.saturatingAdd a = a := by
  have hbound := a.bounds
  rw [ext_iff, saturatingAdd_val]
  show max (-2 ^ 31) (min (2 ^ 31 - 1) (0 + a.val)) = a.val
  omega

lemma cached_append {base} (hsession : env.sessionId = ch.sessionId)
    (htenant : env.tenantId = ch.tenantId) (hnonneg : 0 ≤ env.turnIndex.val)
    (hrows : f'.rows = f.rows ++ [env.row (env.turnIndex.saturatingAdd base)])
    (hcache : f'.baseOffsets (env.tenantId, env.sessionId) = some base)
    (habove : f.Above env.sessionId (env.turnIndex.saturatingAdd base))
    (hbase : base ∈ f.taken env.sessionId ∨ env.turnIndex.saturatingAdd base = base) :
    Cached ch f' (some env.turnIndex) := by
  refine ⟨hnonneg, base, by rw [← htenant, ← hsession]; exact hcache, ?_⟩
  rw [← hsession, taken_append hrows]
  refine ⟨?_, by simp, fun index hindex => ?_⟩
  · rcases hbase with hold | hnew
    · exact mem_append_left _ hold
    · simp [hnew]
  · rcases mem_append.1 hindex with hold | hnew
    · exact Int.le_of_lt (habove index hold)
    · exact Int.le_of_eq (congrArg val (mem_singleton.1 hnew))

lemma cached_receive_zero (hsession : env.sessionId = ch.sessionId) (htenant : env.tenantId = ch.tenantId)
    (hzero : env.turnIndex = I32.zero) (hleft : IndicesLeft f ch.sessionId)
    (hbase : ∀ base ∈ f.baseOffsets (ch.tenantId, ch.sessionId), base ∈ f.taken ch.sessionId) :
    NoGap f env ∧ Cached ch (f.receive env) (some env.turnIndex) := by
  have hnonneg : 0 ≤ env.turnIndex.val := by
    rw [hzero]
    decide
  have hindex : ∀ base, env.turnIndex.saturatingAdd base = base := hzero ▸ zero_saturatingAdd
  have habove : f.Above env.sessionId (f.seedIndex env) := by
    rw [FlushTask.seedIndex_above_iff hnonneg, hsession]
    exact hleft
  rw [← htenant, ← hsession] at hbase
  -- the offset is read
  have hseed : (f.receive env).rows = f.rows ++ [env.row (f.seedIndex env)] →
      (f.receive env).baseOffsets (env.tenantId, env.sessionId) = some (f.seed env.sessionId) →
      Cached ch (f.receive env) (some env.turnIndex) :=
    fun hrows hcache => cached_append hsession htenant hnonneg hrows hcache habove (.inr (hindex _))
  constructor
  · unfold NoGap
    split
    · rw [hsession]
      exact hleft
    · rename_i base hcache
      rw [hindex, hsession]
      exact .inr ⟨hsession ▸ hbase base hcache, hleft⟩
  · rcases f.receive_cases env with ⟨hfirst, hrows, hnext⟩ | ⟨-, -, hrows, hnext⟩ | ⟨-, hmem, -⟩
    · unfold FlushTask.firstIndex at hfirst hrows
      unfold FlushTask.base at hnext
      cases hcache : f.baseOffsets (env.tenantId, env.sessionId) with
      | none =>
        rw [hcache, Option.getD_none] at hrows hnext
        exact hseed hrows hnext
      | some base =>
        rw [hcache, Option.getD_some, hindex] at hfirst
        exact absurd (hbase base hcache) hfirst
    · exact hseed hrows hnext
    · exact absurd hmem habove.not_mem

lemma cached_receive_later {last : I32} (hsession : env.sessionId = ch.sessionId)
    (htenant : env.tenantId = ch.tenantId) (hcached : Cached ch f (some last)) (hlast : last < env.turnIndex)
    (hleft : IndicesLeft f ch.sessionId) : NoGap f env ∧ Cached ch (f.receive env) (some env.turnIndex) := by
  obtain ⟨hnonneg, base, hcache, hbase, hmem, hle⟩ := hcached
  rw [← htenant, ← hsession] at hcache
  rw [← hsession] at hbase
  have hfound : f.base env = base := by rw [FlushTask.base, hcache, Option.getD_some]
  have hindex : f.firstIndex env = env.turnIndex.saturatingAdd base := congrArg env.turnIndex.saturatingAdd hfound
  have habove : f.Above env.sessionId (env.turnIndex.saturatingAdd base) := by
    intro index hindex
    rw [hsession] at hindex
    have hold := hle index hindex
    have hroom : (last.saturatingAdd base).val < 2 ^ 31 - 1 := hleft _ hmem
    have hlast := lt_iff.1 hlast
    have hbounds := base.bounds
    have hval := last.saturatingAdd_val base
    have hval' := env.turnIndex.saturatingAdd_val base
    rw [lt_iff]
    omega
  constructor
  · unfold NoGap
    rw [hcache]
    exact .inl habove
  · rcases f.receive_cases env with ⟨-, hrows, hnext⟩ | ⟨hfirst, -⟩ | ⟨hfirst, -⟩
    · rw [hindex] at hrows
      rw [hfound] at hnext
      exact cached_append hsession htenant (Int.le_trans hnonneg (Int.le_of_lt hlast)) hrows hnext habove (.inl hbase)
    · exact absurd (hindex ▸ hfirst) habove.not_mem
    · exact absurd (hindex ▸ hfirst) habove.not_mem

structure Steady (ch : TurnChannel) (s : TurnPipeline) (prev : Option I32) : Prop where
  sent : Sent ch s
  rising : Rising prev s.queue
  counter : Follows (lastNumber prev s.queue) s.turnIndex
  cached : Cached ch s.task prev

lemma Steady.receives {prev} (hs : Steady ch s prev)
    (hqueue : s.queue = env :: queue) (hleft : IndicesLeft s.task ch.sessionId) :
    NoGap s.task env ∧ Cached ch (s.task.receive env) (some env.turnIndex) := by
  obtain ⟨hsession, htenant, -⟩ := hs.sent.envelopes env (by simp [hqueue])
  have hrising := hs.rising
  rw [hqueue] at hrising
  have hcached := hs.cached
  rcases hrising.1 with hzero | ⟨last, hlast, hlt⟩
  · refine cached_receive_zero hsession htenant hzero hleft fun base hbase => ?_
    cases prev with
    | none =>
      rw [Cached] at hcached
      rw [hcached] at hbase
      cases hbase
    | some last =>
      obtain ⟨-, base', hcache, hmem, -⟩ := hcached
      rw [hcache] at hbase
      cases hbase
      exact hmem
  · cases hlast
    exact cached_receive_later hsession htenant hcached hlt hleft

variable {e : TurnEvent}
lemma steady_step (h : ∃ prev, Steady ch s prev) (hkept : ch.FirstKept s e) :
    ∃ prev, Steady ch (ch.step s e).1 prev := by
  obtain ⟨prev, hs⟩ := h
  have hsent := hs.sent.step e
  cases e with
  | startRun => exact ⟨prev, hsent, hs.rising, .inl rfl, hs.cached⟩
  | emit role content tokenUsage kind =>
    obtain ⟨hless, hroom⟩ := hkept
    have hnext : s.turnIndex < s.turnIndex.saturatingAdd I32.one := by
      have hval := s.turnIndex.saturatingAdd_val I32.one
      have hone : I32.one.val = 1 := rfl
      have hless : s.turnIndex.val < 2 ^ 31 - 1 := hless
      have hcounter := hs.sent.counter
      rw [lt_iff]
      omega
    unfold TurnChannel.step at hsent ⊢
    dsimp only at hsent ⊢
    by_cases hspace : s.queue.length < ch.capacity
    · rw [if_pos hspace] at hsent ⊢
      refine ⟨prev, hsent, rising_append hs.rising hs.counter, ?_, hs.cached⟩
      rw [lastNumber_append]
      exact .inr ⟨_, rfl, hnext⟩
    · rw [if_neg hspace] at hsent ⊢
      refine ⟨prev, hsent, hs.rising, ?_, hs.cached⟩
      rcases hs.counter with hzero | ⟨last, hlast, hlt⟩
      · exact absurd (hroom hzero) hspace
      · exact .inr ⟨last, hlast, Int.lt_trans hlt hnext⟩
  | receive =>
    cases hqueue : s.queue with
    | nil =>
      have hsame : (ch.step s .receive).1 = s := by
        unfold TurnChannel.step
        rw [hqueue]
      rw [hsame]
      exact ⟨prev, hs⟩
    | cons env queue =>
      have hnext : (ch.step s .receive).1 =
          { s with queue := queue, received := s.received ++ [env], task := s.task.receive env } := by
        unfold TurnChannel.step
        rw [hqueue]
      have hrising := hs.rising
      have hcounter := hs.counter
      rw [hqueue] at hrising hcounter
      rw [hnext] at hsent ⊢
      exact ⟨some env.turnIndex, hsent, hrising.2, hcounter, (hs.receives hqueue hkept).2⟩

lemma receivesNoGap_of_firstKept (h : ∃ prev, Steady ch s prev) (hkept : ch.FirstKept s e) : ReceivesNoGap s e := by
  obtain ⟨prev, hs⟩ := h
  cases e with
  | startRun => trivial
  | emit role content tokenUsage kind => trivial
  | receive =>
    intro env henv
    cases hqueue : s.queue with
    | nil =>
      rw [hqueue] at henv
      cases henv
    | cons env' queue =>
      rw [hqueue] at henv
      cases henv
      exact (hs.receives hqueue hkept).1

lemma sent_start (ch : TurnChannel) (before : List TurnRow) : Sent ch (start before) :=
  ⟨Int.le_refl 0, fun _ henv => nomatch henv⟩

lemma inOrder_start (ch : TurnChannel) (before : List TurnRow) : InOrder ch before (start before) :=
  ⟨.slnil, [], rfl, (append_nil before).symm, .nil, fun _ _ _ _ h => nomatch h⟩

/-- Turns are stored in order just if no envelope falls into a gap; none does if the first envelope of
each run is kept. -/
theorem turns_in_order_iff (ch : TurnChannel) (before : List TurnRow) (events : List TurnEvent) :
    (Emitter.Along ch.step (InOrder ch before) (start before) events ↔
      Emitter.EachStep ch.step ReceivesNoGap (start before) events) ∧
    (Emitter.EachStep ch.step ch.FirstKept (start before) events →
      Emitter.EachStep ch.step ReceivesNoGap (start before) events) := by
  constructor
  · exact Emitter.along_iff (fun s e hs => hs.step e) (fun s e hs h => inOrder_step hs h e) events (start before)
      (sent_start ch before) (inOrder_start ch before)
  · have hsteady : ∃ prev, Steady ch (start before) prev := ⟨none, sent_start ch before, trivial, .inl rfl, rfl⟩
    exact Emitter.EachStep.imp (fun s e hs hkept => steady_step hs hkept)
      (fun s e hs hkept => receivesNoGap_of_firstKept hs hkept) hsteady

/-! ## A gap that a later run fills -/

lemma InOrder.ascending (h : InOrder ch [] s) : (s.task.rows.map TurnRow.turnIndex).Pairwise (· < ·) := by
  obtain ⟨-, indices, hlen, hrows, hascending, -⟩ := h
  rw [hrows, nil_append, map_turnIndex_zipWith hlen]
  exact hascending

def shortChannel : TurnChannel := ⟨1, 1, 1⟩

def turnOf (role : TurnRole) (text : String) : TurnEvent := .emit role (.string text) none .turn

def twoRuns : List TurnEvent :=
  [.startRun, turnOf .user "Where is the robot?", .receive, .startRun, turnOf .user "And the arm?", .receive]

instance (f : FlushTask) (sessionId : Nat) : Decidable (IndicesLeft f sessionId) :=
  inferInstanceAs (Decidable (∀ index ∈ f.taken sessionId, index < I32.maxValue))

theorem two_runs_in_order : Emitter.Along shortChannel.step (InOrder shortChannel []) (start []) twoRuns := by
  refine (turns_in_order_iff shortChannel [] twoRuns).1.2 ((turns_in_order_iff shortChannel [] twoRuns).2 ?_)
  refine ⟨trivial, ⟨by decide, fun _ => by decide⟩, ?_, trivial, ⟨by decide, fun _ => by decide⟩, ?_, trivial⟩
  · show IndicesLeft _ _
    decide
  · show IndicesLeft _ _
    decide

def threeRuns : List TurnEvent :=
  [.startRun, turnOf .user "Where is the robot?", .receive, turnOf .assistant "In the hall.",
    .startRun, turnOf .user "And the arm?", .receive, turnOf .assistant "Folded.", .receive,
    .startRun, turnOf .user "Thanks.", .receive]

/-- The answer of the second run is stored under 3, and the third run comes to the index 2 after it. -/
theorem later_run_fills_gap :
    ((Emitter.run shortChannel.step (start []) threeRuns).1.task.rows.map fun row => row.turnIndex.val) = [0, 1, 3, 2] ∧
      ¬ Emitter.Along shortChannel.step (InOrder shortChannel []) (start []) threeRuns := by
  constructor
  · decide
  · intro h
    exact absurd h.last.ascending (by decide)

end TurnChannel
end Roz.Agent
