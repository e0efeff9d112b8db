import Roz.Lib.Run
import Mathlib.Data.List.Nodup
import Mathlib.Data.Int.Order.Basic

/-!
# The device flow (`roz-server/src/routes/device_auth.rs`, `roz-db/src/device_codes.rs`)

The handlers run interleaved, one statement at a time, on one clock in microseconds.
`complete_auth` works in the transaction of its request: `now()` is the instant at which that
transaction began, its update is seen by the others when it commits, and a statement that wants
a row it has updated waits.  The statements of `request_code` and `poll_token` are transactions
of their own.  Every handler first purges; a purge is a step of its own here, as it may fail,
and a request that the rate limiter refuses takes no step.  New codes are fresh.

`poll_token` reads the row, checks it against the clock, and inserts a key later; nothing marks
the row as spent.  What holds of every run is in `Books`: above all, a key is minted only for a
code completed exactly once, and for the tenant that completed it.
-/

namespace Roz.Server
open StepRun List

/-! ## Rows -/

structure DeviceCodeRow where
  deviceCode : String
  userCode : String
  userId : Option String
  tenantId : Option Nat
  expiresAt : Int
  completedAt : Option Int
  deriving DecidableEq

def micros (secs : Nat) : Int := 1000000 * secs

def deviceCodeTtlSecs : Nat := 600

def createDeviceCode (deviceCode userCode : String) (expiresAt : Int) : DeviceCodeRow :=
  ⟨deviceCode, userCode, none, none, expiresAt, none⟩

namespace DeviceCodeRow
variable (row : DeviceCodeRow)
def stale (now : Int) : Bool :=
  decide (row.expiresAt < now) || row.completedAt.any fun completedAt => decide (completedAt < now - micros 3600)

def completable (userCode : String) (now : Int) : Bool :=
  row.userCode == userCode && row.completedAt.isNone && decide (row.expiresAt > now)

def complete (userId : String) (tenantId : Nat) (now : Int) : DeviceCodeRow :=
  { row with userId := some userId, tenantId := some tenantId, completedAt := some now }

end DeviceCodeRow

structure ApiKey where
  tenantId : Nat
  name : String
  scopes : List String
  createdBy : String
  createdAt : Int
  deriving DecidableEq

def createApiKey (tenantId : Nat) (createdBy : String) (now : Int) : ApiKey :=
  ⟨tenantId, "CLI (device flow)", ["read-tasks", "write-tasks", "read-hosts", "read-streams"], createdBy, now⟩

/-! ## Requests -/

inductive PollPhase where
  | found
  | granted (tenantId : Nat) (userId : String)
  | token (key : ApiKey)
  | error (status : Nat) (error : String)
  deriving DecidableEq

structure Poll where
  deviceCode : String
  row : Option DeviceCodeRow
  phase : PollPhase
  deriving DecidableEq

def Poll.sawCompleted (p : Poll) : Bool := p.row.any fun row => row.completedAt.isSome

inductive CompletePhase where
  | began
  | found (row : DeviceCodeRow)
  | admitted
  | updated (deviceCode : String)
  | closed (status : Nat) (text : String)
  deriving DecidableEq

structure CompleteTx where
  tenantId : Nat
  userCode : String
  startedAt : Int
  phase : CompletePhase
  deriving DecidableEq

def CompleteTx.lock (tx : CompleteTx) : Option String :=
  match tx.phase with
  | .updated deviceCode => some deviceCode
  | _ => none

/-- The table, the requests so far, and what came of them: the codes issued, the completions
committed and the keys minted, each with its device code. -/
structure DeviceAuth where
  rows : List DeviceCodeRow
  txs : List CompleteTx
  polls : List Poll
  now : Int
  issued : List DeviceCodeRow
  completions : List (String × Nat)
  minted : List (String × ApiKey)
  deriving DecidableEq

inductive DeviceAuthStep where
  | pass (micros : Nat)
  | purge (age : Nat)
  | requestCode (deviceCode userCode : String) (age : Nat)
  | beginComplete (tenantId : Nat) (userCode : String)
  | advanceComplete (tx : Nat)
  | commit (tx : Nat)
  | abort (tx : Nat)
  | poll (deviceCode : String)
  | checkPoll (poll : Nat)
  | createApiKey (poll : Nat)
  | failPoll (poll : Nat)
  deriving DecidableEq

namespace DeviceAuth

def new (now : Int) : DeviceAuth := ⟨[], [], [], now, [], [], []⟩

variable (s : DeviceAuth)
def locked (deviceCode : String) : Bool := s.txs.any fun tx => tx.lock == some deviceCode

/-- A purge that began at the instant ends.  It waits for a stale row that is being updated. -/
def purgeStaleDeviceCodes (startedAt : Int) : DeviceAuth :=
  if s.rows.any fun row => row.stale startedAt && s.locked row.deviceCode then s
  else { s with rows := s.rows.filter fun row => !row.stale startedAt }

def requestCode (deviceCode userCode : String) (readAt : Int) : DeviceAuth :=
  let row := createDeviceCode deviceCode userCode (readAt + micros deviceCodeTtlSecs)
  if s.issued.any fun old => old.deviceCode == deviceCode || old.userCode == userCode then s
  else { s with rows := s.rows ++ [row], issued := s.issued ++ [row] }

def completeAuth (tx : CompleteTx) : CompletePhase :=
  match tx.phase with
  | .began =>
    match s.rows.find? fun row => row.userCode == tx.userCode with
    | none => .closed 400 "invalid user code"
    | some row => .found row
  | .found row =>
    if row.expiresAt < s.now then .closed 400 "expired code"
    else if row.completedAt.isSome then .closed 400 "code already used"
    else .admitted
  | .admitted =>
    match s.rows.find? fun row => row.completable tx.userCode tx.startedAt with
    | none => .closed 400 "failed to authorize device"
    | some row => if s.locked row.deviceCode then .admitted else .updated row.deviceCode
  | phase => phase

def checkPoll (row : Option DeviceCodeRow) (now : Int) : PollPhase :=
  match row with
  | none => .error 400 "invalid_grant"
  | some row =>
    if row.expiresAt < now then .error 400 "expired_token"
    else if row.completedAt.isNone then .error 400 "authorization_pending"
    else
      match row.tenantId with
      | none => .error 500 "internal server error"
      | some tenantId => .granted tenantId (row.userId.getD "device_flow")

variable (k : Nat)
def setTx (tx : CompleteTx) (phase : CompletePhase) : DeviceAuth :=
  { s with txs := s.txs.set k { tx with phase } }

def setPoll (p : Poll) (phase : PollPhase) : DeviceAuth :=
  { s with polls := s.polls.set k { p with phase } }

def commit (tx : CompleteTx) : DeviceAuth :=
  match tx.phase with
  | .updated deviceCode =>
    { s.setTx k tx (.closed 200 "authorized") with
      rows := s.rows.map fun row =>
        if row.deviceCode = deviceCode then row.complete "api_key" tx.tenantId tx.startedAt else row
      completions := s.completions ++ [(deviceCode, tx.tenantId)] }
  | _ => s

def abort (tx : CompleteTx) : DeviceAuth :=
  match tx.phase with
  | .closed _ _ => s
  | _ => s.setTx k tx (.closed 500 "internal server error")

def mint (p : Poll) : DeviceAuth :=
  match p.phase with
  | .granted tenantId userId =>
    let key := createApiKey tenantId userId s.now
    { s.setPoll k p (.token key) with minted := s.minted ++ [(p.deviceCode, key)] }
  | _ => s

def failPoll (p : Poll) : DeviceAuth :=
  match p.phase with
  | .token _ | .error _ _ => s
  | _ => s.setPoll k p (.error 500 "internal server error")

def step : DeviceAuthStep → DeviceAuth
  | .pass micros => { s with now := s.now + micros }
  | .purge age => s.purgeStaleDeviceCodes (s.now - age)
  | .requestCode deviceCode userCode age => s.requestCode deviceCode userCode (s.now - age)
  | .beginComplete tenantId userCode => { s with txs := s.txs ++ [⟨tenantId, userCode, s.now, .began⟩] }
  | .advanceComplete k => s.txs[k]?.elim s fun tx => s.setTx k tx (s.completeAuth tx)
  | .commit k => s.txs[k]?.elim s fun tx => s.commit k tx
  | .abort k => s.txs[k]?.elim s fun tx => s.abort k tx
  | .poll deviceCode =>
    { s with polls := s.polls ++ [⟨deviceCode, s.rows.find? fun row => row.deviceCode == deviceCode, .found⟩] }
  | .checkPoll k =>
    s.polls[k]?.elim s fun p => if p.phase = .found then s.setPoll k p (checkPoll p.row s.now) else s
  | .createApiKey k => s.polls[k]?.elim s fun p => s.mint k p
  | .failPoll k => s.polls[k]?.elim s fun p => s.failPoll k p

/-! ## What holds of every run -/

variable (completions : List (String × Nat))
def completionsOf (deviceCode : String) : List (String × Nat) :=
  completions.filter fun c => c.1 == deviceCode

def Recorded (row : DeviceCodeRow) : Prop :=
  match row.completedAt with
  | none => completionsOf completions row.deviceCode = []
  | some _ => ∃ tenantId, row.tenantId = some tenantId ∧
      completionsOf completions row.deviceCode = [(row.deviceCode, tenantId)]

/-- The row of a code that was issued, with the expiry it was issued with. -/
def Issued (issued : List DeviceCodeRow) (row : DeviceCodeRow) : Prop :=
  ∃ i ∈ issued, i.deviceCode = row.deviceCode ∧ i.expiresAt = row.expiresAt

structure Books (s : DeviceAuth) : Prop where
  issued_nodup : (s.issued.map (·.deviceCode)).Nodup
  rows_nodup : (s.rows.map (·.deviceCode)).Nodup
  rows_issued : ∀ row ∈ s.rows, Issued s.issued row
  rows_recorded : ∀ row ∈ s.rows, Recorded s.completions row
  completions_issued : ∀ c ∈ s.completions, ∃ i ∈ s.issued, i.deviceCode = c.1
  locks_rows : ∀ (k : Nat) (tx : CompleteTx) deviceCode, s.txs[k]? = some tx → tx.lock = some deviceCode →
    ∃ row ∈ s.rows, row.deviceCode = deviceCode ∧ row.completedAt = none
  locks_unique : ∀ (j k : Nat) (tx tx' : CompleteTx) deviceCode, s.txs[j]? = some tx → s.txs[k]? = some tx' →
    tx.lock = some deviceCode → tx'.lock = some deviceCode → j = k
  polls_rows : ∀ p ∈ s.polls, ∀ row ∈ p.row, row.deviceCode = p.deviceCode ∧ Issued s.issued row ∧
    (row.completedAt.isSome → Recorded s.completions row)
  polls_granted : ∀ p ∈ s.polls, ∀ tenantId userId, p.phase = .granted tenantId userId →
    ∃ row ∈ p.row, row.completedAt.isSome ∧ row.tenantId = some tenantId
  minted_completed : ∀ e ∈ s.minted, completionsOf s.completions e.1 = [(e.1, e.2.tenantId)]

lemma books_new (now : Int) : (new now).Books where
  issued_nodup := nodup_nil
  rows_nodup := nodup_nil
  rows_issued := by simp [new]
  rows_recorded := by simp [new]
  completions_issued := by simp [new]
  locks_rows := by simp [new]
  locks_unique := by simp [new]
  polls_rows := by simp [new]
  polls_granted := by simp [new]
  minted_completed := by simp [new]

variable {s : DeviceAuth} {completions : List (String × Nat)} {row : DeviceCodeRow} {k : Nat} {tx : CompleteTx}
  {deviceCode : String}

lemma recorded_none (h : Recorded completions row) (hat : row.completedAt = none) :
    completionsOf completions row.deviceCode = [] := by
  unfold Recorded at h
  rwa [hat] at h

lemma recorded_some (h : Recorded completions row) (hat : row.completedAt.isSome) :
    ∃ tenantId, row.tenantId = some tenantId ∧
      completionsOf completions row.deviceCode = [(row.deviceCode, tenantId)] := by
  unfold Recorded at h
  obtain ⟨at', hat'⟩ := Option.isSome_iff_exists.1 hat
  rwa [hat'] at h

lemma completionsOf_append_of_ne (completions : List (String × Nat)) {other} (tenantId : Nat) (h : deviceCode ≠ other) :
    completionsOf (completions ++ [(deviceCode, tenantId)]) other = completionsOf completions other := by
  simp [completionsOf, h]

lemma completionsOf_append_self (tenantId : Nat) (h : completionsOf completions deviceCode = []) :
    completionsOf (completions ++ [(deviceCode, tenantId)]) deviceCode = [(deviceCode, tenantId)] := by
  unfold completionsOf at h ⊢
  rw [filter_append, h]
  simp

variable {tenantId : Nat}
lemma recorded_append_of_ne (h : Recorded completions row) (hne : deviceCode ≠ row.deviceCode) :
    Recorded (completions ++ [(deviceCode, tenantId)]) row := by
  unfold Recorded at h ⊢
  rw [completionsOf_append_of_ne completions tenantId hne]
  exact h

lemma Issued.append {issued} (h : Issued issued row) (new : DeviceCodeRow) : Issued (issued ++ [new]) row := by
  obtain ⟨i, hi, heq⟩ := h
  exact ⟨i, mem_append_left _ hi, heq⟩

/-! ### The table -/

lemma requestCode_cases (s : DeviceAuth) (deviceCode userCode : String) (readAt : Int) :
    s.requestCode deviceCode userCode readAt = s ∨
      (∀ i ∈ s.issued, i.deviceCode ≠ deviceCode) ∧ s.requestCode deviceCode userCode readAt = { s with
          rows := s.rows ++ [createDeviceCode deviceCode userCode (readAt + micros deviceCodeTtlSecs)]
          issued := s.issued ++ [createDeviceCode deviceCode userCode (readAt + micros deviceCodeTtlSecs)] } := by
  unfold requestCode
  dsimp only
  by_cases hused : (s.issued.any fun old => old.deviceCode == deviceCode || old.userCode == userCode) = true
  · exact .inl (if_pos hused)
  · refine .inr ⟨fun i hi heq => ?_, if_neg hused⟩
    exact hused (any_eq_true.2 ⟨i, hi, by simp [heq]⟩)

lemma nodup_snoc {α : Type} {key : α → String} {rows new} (h : (rows.map key).Nodup)
    (hnew : ∀ row ∈ rows, key row ≠ key new) : ((rows ++ [new]).map key).Nodup := by
  rw [map_append, nodup_append]
  refine ⟨h, nodup_singleton _, forall_mem_map.2 fun row hrow => ?_⟩
  exact forall_mem_singleton.2 (hnew row hrow)

lemma lock_eq_some : tx.lock = some deviceCode ↔ tx.phase = .updated deviceCode := by
  unfold CompleteTx.lock
  cases tx.phase <;> simp

lemma completeAuth_updated (h : s.completeAuth tx = .updated deviceCode) : tx.lock = some deviceCode ∨
    (∃ row ∈ s.rows, row.deviceCode = deviceCode ∧ row.completedAt = none) ∧ s.locked deviceCode = false := by
  unfold completeAuth at h
  unfold CompleteTx.lock
  cases hphase : tx.phase with
  | began =>
    simp only [hphase] at h
    cases hfind : s.rows.find? fun row => row.userCode == tx.userCode with
    | none => simp [hfind] at h
    | some row => simp [hfind] at h
  | found row =>
    simp only [hphase] at h
    split at h
    · cases h
    · split at h <;> cases h
  | admitted =>
    simp only [hphase] at h
    cases hfind : s.rows.find? fun row => row.completable tx.userCode tx.startedAt with
    | none => simp [hfind] at h
    | some row =>
      rw [hfind] at h
      dsimp only at h
      have hrow := find?_some hfind
      simp only [DeviceCodeRow.completable, Bool.and_eq_true, Option.isNone_iff_eq_none] at hrow
      by_cases hlocked : s.locked row.deviceCode = true
      · rw [if_pos hlocked] at h
        cases h
      · rw [if_neg hlocked] at h
        cases h
        exact .inr ⟨⟨row, mem_of_find?_eq_some hfind, rfl, hrow.1.2⟩, by simpa using hlocked⟩
  | updated code =>
    simp only [hphase] at h
    cases h
    exact .inl rfl
  | closed status text => simp [hphase] at h

lemma checkPoll_granted {row now userId} (h : checkPoll row now = .granted tenantId userId) :
    ∃ r ∈ row, r.completedAt.isSome ∧ r.tenantId = some tenantId := by
  unfold checkPoll at h
  cases row with
  | none => cases h
  | some r =>
    dsimp only at h
    split at h
    · cases h
    · split at h
      · cases h
      · rename_i hcompleted
        cases htenant : r.tenantId with
        | none => simp [htenant] at h
        | some t =>
          simp only [htenant, PollPhase.granted.injEq] at h
          exact ⟨r, rfl, by simpa [Option.isSome_iff_ne_none] using hcompleted, by rw [htenant, h.1]⟩

lemma elim_of (P : DeviceAuth → Prop) {α : Type} {o : Option α} {f} (h : P s)
    (hf : ∀ a, o = some a → P (f a)) : P (o.elim s f) := by
  cases o with
  | none => exact h
  | some a => exact hf a rfl

variable (h : s.Books)
include h

lemma books_pass (micros : Nat) : ({ s with now := s.now + micros } : DeviceAuth).Books :=
  { h with }

lemma books_purge (startedAt : Int) : (s.purgeStaleDeviceCodes startedAt).Books := by
  unfold purgeStaleDeviceCodes
  by_cases hwait : (s.rows.any fun row => row.stale startedAt && s.locked row.deviceCode) = true
  · rw [if_pos hwait]
    exact h
  · rw [if_neg hwait]
    refine { h with rows_nodup := ?_, rows_issued := ?_, rows_recorded := ?_, locks_rows := ?_ }
    · exact h.rows_nodup.sublist (filter_sublist.map _)
    · exact fun row hrow => h.rows_issued row (mem_of_mem_filter hrow)
    · exact fun row hrow => h.rows_recorded row (mem_of_mem_filter hrow)
    · intro k tx deviceCode hk hlock
      obtain ⟨row, hrow, hcode, hopen⟩ := h.locks_rows k tx deviceCode hk hlock
      refine ⟨row, mem_filter.2 ⟨hrow, ?_⟩, hcode, hopen⟩
      have hlocked : s.locked row.deviceCode = true :=
        any_eq_true.2 ⟨tx, mem_of_getElem? hk, by rw [hlock, hcode, beq_self_eq_true]⟩
      simp only [any_eq_true, Bool.and_eq_true, not_exists, not_and] at hwait
      cases hstale : row.stale startedAt with
      | false => rfl
      | true => exact absurd hlocked (hwait row hrow hstale)

lemma books_requestCode {deviceCode userCode} {readAt : Int} : (s.requestCode deviceCode userCode readAt).Books := by
  rcases s.requestCode_cases deviceCode userCode readAt with heq | ⟨hfresh, heq⟩
  · rw [heq]
    exact h
  · rw [heq]
    -- no row, and no completion, is of the new code
    have hrows : ∀ row ∈ s.rows, row.deviceCode ≠ deviceCode := by
      intro row hrow heq
      obtain ⟨i, hi, hcode, _⟩ := h.rows_issued row hrow
      exact hfresh i hi (hcode.trans heq)
    have hnone : completionsOf s.completions deviceCode = [] := by
      refine filter_eq_nil_iff.2 fun c hc heq => ?_
      obtain ⟨i, hi, hcode⟩ := h.completions_issued c hc
      exact hfresh i hi (hcode.trans (beq_iff_eq.1 heq))
    refine { h with
      issued_nodup := nodup_snoc h.issued_nodup hfresh, rows_nodup := nodup_snoc h.rows_nodup hrows
      rows_issued := forall_mem_append.2 ⟨?_, ?_⟩
      rows_recorded := forall_mem_append.2 ⟨h.rows_recorded, forall_mem_singleton.2 hnone⟩
      completions_issued := ?_, locks_rows := ?_, polls_rows := ?_ }
    · exact fun row hrow => (h.rows_issued row hrow).append _
    · exact fun row hrow => ⟨row, mem_append_right _ hrow, rfl, rfl⟩
    · intro c hc
      obtain ⟨i, hi, hcode⟩ := h.completions_issued c hc
      exact ⟨i, mem_append_left _ hi, hcode⟩
    · intro k tx code hk hlock
      obtain ⟨row, hrow, hcode⟩ := h.locks_rows k tx code hk hlock
      exact ⟨row, mem_append_left _ hrow, hcode⟩
    · intro p hp row hrow
      obtain ⟨hcode, hissued, hrecorded⟩ := h.polls_rows p hp row hrow
      exact ⟨hcode, hissued.append _, hrecorded⟩

/-! ### Completions -/

lemma books_setTxs {txs}
    (hold : ∀ (k : Nat) (tx : CompleteTx) deviceCode, txs[k]? = some tx → tx.lock = some deviceCode →
      ∃ tx' : CompleteTx, s.txs[k]? = some tx' ∧ tx'.lock = some deviceCode) :
    ({ s with txs } : DeviceAuth).Books := by
  refine { h with locks_rows := ?_, locks_unique := ?_ }
  · intro k tx deviceCode hk hlock
    obtain ⟨tx', hk', hlock'⟩ := hold k tx deviceCode hk hlock
    exact h.locks_rows k tx' deviceCode hk' hlock'
  · intro j k tx tx' deviceCode hj hk hlock hlock'
    obtain ⟨txj, hj', hlockj⟩ := hold j tx deviceCode hj hlock
    obtain ⟨txk, hk', hlockk⟩ := hold k tx' deviceCode hk hlock'
    exact h.locks_unique j k txj txk deviceCode hj' hk' hlockj hlockk

lemma books_beginComplete {tenantId userCode} :
    ({ s with txs := s.txs ++ [⟨tenantId, userCode, s.now, .began⟩] } : DeviceAuth).Books := by
  refine books_setTxs h fun k tx deviceCode hk hlock => ?_
  rcases getElem?_snoc hk with hk | ⟨_, rfl⟩
  · exact ⟨tx, hk, hlock⟩
  · cases hlock

lemma books_closeTx (k : Nat) (tx : CompleteTx) {status text} : (s.setTx k tx (.closed status text)).Books := by
  refine books_setTxs h fun j tx' deviceCode hj hlock => ?_
  rcases getElem?_set_some hj with ⟨_, rfl⟩ | ⟨_, hj⟩
  · cases hlock
  · exact ⟨tx', hj, hlock⟩

lemma books_advanceComplete (hk : s.txs[k]? = some tx) : (s.setTx k tx (s.completeAuth tx)).Books := by
  by_cases hnew : ∃ deviceCode, s.completeAuth tx = .updated deviceCode ∧ tx.lock ≠ some deviceCode
  · obtain ⟨deviceCode, hphase, hlock⟩ := hnew
    obtain ⟨hrow, hunlocked⟩ := (completeAuth_updated hphase).resolve_left hlock
    have hfree : ∀ (j : Nat) (tx' : CompleteTx), s.txs[j]? = some tx' → tx'.lock ≠ some deviceCode := by
      intro j tx' hj hlock'
      have : s.locked deviceCode = true :=
        any_eq_true.2 ⟨tx', mem_of_getElem? hj, by rw [hlock', beq_self_eq_true]⟩
      rw [hunlocked] at this
      cases this
    rw [hphase]
    refine { h with locks_rows := ?_, locks_unique := ?_ }
    · intro j tx' code hj hlock'
      rcases getElem?_set_some hj with ⟨_, rfl⟩ | ⟨_, hj⟩
      · cases hlock'
        exact hrow
      · exact h.locks_rows j tx' code hj hlock'
    · intro i j tx₁ tx₂ code hi hj hlock₁ hlock₂
      rcases getElem?_set_some hi with ⟨hik, rfl⟩ | ⟨_, hi⟩
      · rcases getElem?_set_some hj with ⟨hjk, _⟩ | ⟨_, hj⟩
        · rw [hik, hjk]
        · cases hlock₁
          exact absurd hlock₂ (hfree j tx₂ hj)
      · rcases getElem?_set_some hj with ⟨_, rfl⟩ | ⟨_, hj⟩
        · cases hlock₂
          exact absurd hlock₁ (hfree i tx₁ hi)
        · exact h.locks_unique i j tx₁ tx₂ code hi hj hlock₁ hlock₂
  · refine books_setTxs h fun j tx' deviceCode hj hlock => ?_
    rcases getElem?_set_some hj with ⟨rfl, rfl⟩ | ⟨_, hj⟩
    · exact ⟨tx, hk, by_contra fun hne => hnew ⟨deviceCode, lock_eq_some.1 hlock, hne⟩⟩
    · exact ⟨tx', hj, hlock⟩

lemma completionsOf_locked (hk : s.txs[k]? = some tx) (hlock : tx.lock = some deviceCode) :
    completionsOf s.completions deviceCode = [] := by
  obtain ⟨row, hrow, rfl, hopen⟩ := h.locks_rows k tx deviceCode hk hlock
  exact recorded_none (h.rows_recorded row hrow) hopen

lemma books_commit (hk : s.txs[k]? = some tx) : (s.commit k tx).Books := by
  unfold commit
  cases hphase : tx.phase with
  | began => exact h
  | found row => exact h
  | admitted => exact h
  | closed status text => exact h
  | updated deviceCode =>
    have hlock : tx.lock = some deviceCode := lock_eq_some.2 hphase
    have hnone := completionsOf_locked h hk hlock
    obtain ⟨target, htarget, htargetCode, _⟩ := h.locks_rows k tx deviceCode hk hlock
    have hkept : ∀ row : DeviceCodeRow,
        let row' := if row.deviceCode = deviceCode then row.complete "api_key" tx.tenantId tx.startedAt else row
        row.deviceCode = row'.deviceCode ∧ row.expiresAt = row'.expiresAt := by
      intro row
      dsimp only
      split <;> exact ⟨rfl, rfl⟩
    -- a code with a completion on record is another one
    have hother : ∀ {code : String} {c : String × Nat}, completionsOf s.completions code = [c] → deviceCode ≠ code := by
      rintro code c hcompletions rfl
      rw [hnone] at hcompletions
      cases hcompletions
    refine
      { h with
        rows_nodup := ?_, rows_issued := ?_, rows_recorded := ?_, completions_issued := ?_, locks_rows := ?_,
        locks_unique := (books_closeTx h k tx).locks_unique, polls_rows := ?_, minted_completed := ?_ }
    · rw [map_map]
      exact (map_congr_left fun row _ => (hkept row).1) ▸ h.rows_nodup
    · intro row' hrow'
      obtain ⟨row, hrow, rfl⟩ := mem_map.1 hrow'
      obtain ⟨i, hi, hicode, hiexpires⟩ := h.rows_issued row hrow
      exact ⟨i, hi, hicode.trans (hkept row).1, hiexpires.trans (hkept row).2⟩
    · intro row' hrow'
      obtain ⟨row, hrow, rfl⟩ := mem_map.1 hrow'
      by_cases heq : row.deviceCode = deviceCode
      · rw [if_pos heq]
        refine ⟨tx.tenantId, rfl, ?_⟩
        show completionsOf (s.completions ++ [(deviceCode, tx.tenantId)]) row.deviceCode = [(row.deviceCode, tx.tenantId)]
        rw [heq]
        exact completionsOf_append_self tx.tenantId hnone
      · rw [if_neg heq]
        exact recorded_append_of_ne (h.rows_recorded row hrow) fun heq' => heq heq'.symm
    · obtain ⟨i, hi, hicode, _⟩ := h.rows_issued target htarget
      exact forall_mem_append.2
        ⟨h.completions_issued, forall_mem_singleton.2 ⟨i, hi, hicode.trans htargetCode⟩⟩
    · intro j tx' code hj hlock'
      rcases getElem?_set_some hj with ⟨_, rfl⟩ | ⟨hjk, hj⟩
      · cases hlock'
      · obtain ⟨row, hrow, rfl, hopen⟩ := h.locks_rows j tx' code hj hlock'
        have hne : row.deviceCode ≠ deviceCode := by
          intro heq
          exact hjk (h.locks_unique j k tx' tx deviceCode hj hk (heq ▸ hlock') hlock)
        refine ⟨row, mem_map.2 ⟨row, hrow, if_neg hne⟩, rfl, hopen⟩
    · intro p hp row hrow
      obtain ⟨hpcode, hissued, hrecorded⟩ := h.polls_rows p hp row hrow
      refine ⟨hpcode, hissued, fun hsome => ?_⟩
      obtain ⟨tenantId, _, hcompletions⟩ := recorded_some (hrecorded hsome) hsome
      exact recorded_append_of_ne (hrecorded hsome) (hother hcompletions)
    · intro e he
      rw [completionsOf_append_of_ne _ _ (hother (h.minted_completed e he))]
      exact h.minted_completed e he

lemma books_abort (k : Nat) (tx : CompleteTx) : (s.abort k tx).Books := by
  unfold abort
  split
  · exact h
  · exact books_closeTx h k tx

/-! ### Polls -/

lemma books_poll (deviceCode : String) :
    ({ s with polls := s.polls ++ [⟨deviceCode, s.rows.find? fun row => row.deviceCode == deviceCode, .found⟩] } :
      DeviceAuth).Books := by
  refine { h with polls_rows := ?_, polls_granted := ?_ }
  · intro p hp row hrow
    rcases mem_append.1 hp with hp | hp
    · exact h.polls_rows p hp row hrow
    · rw [mem_singleton.1 hp] at hrow ⊢
      have hmem := mem_of_find?_eq_some hrow
      exact ⟨by simpa using find?_some hrow, h.rows_issued row hmem, fun _ => h.rows_recorded row hmem⟩
  · intro p hp tenantId userId hphase
    rcases mem_append.1 hp with hp | hp
    · exact h.polls_granted p hp tenantId userId hphase
    · rw [mem_singleton.1 hp] at hphase
      cases hphase

variable {p : Poll}
lemma books_setPoll (hk : s.polls[k]? = some p) {phase}
    (hgranted : ∀ tenantId userId, phase = .granted tenantId userId →
      ∃ row ∈ p.row, row.completedAt.isSome ∧ row.tenantId = some tenantId) : (s.setPoll k p phase).Books := by
  refine { h with polls_rows := ?_, polls_granted := ?_ }
  · intro q hq row hrow
    rcases mem_or_eq_of_mem_set hq with hq | rfl
    · exact h.polls_rows q hq row hrow
    · exact h.polls_rows p (mem_of_getElem? hk) row hrow
  · intro q hq tenantId userId hphase
    rcases mem_or_eq_of_mem_set hq with hq | rfl
    · exact h.polls_granted q hq tenantId userId hphase
    · exact hgranted tenantId userId hphase

lemma books_mint (hk : s.polls[k]? = some p) : (s.mint k p).Books := by
  unfold mint
  cases hphase : p.phase with
  | found => exact h
  | token key => exact h
  | error status text => exact h
  | granted tenantId userId =>
    obtain ⟨row, hrow, hsome, htenant⟩ := h.polls_granted p (mem_of_getElem? hk) tenantId userId hphase
    obtain ⟨hcode, _, hrecorded⟩ := h.polls_rows p (mem_of_getElem? hk) row hrow
    obtain ⟨t, ht, hcompletions⟩ := recorded_some (hrecorded hsome) hsome
    have hset : (s.setPoll k p (.token (createApiKey tenantId userId s.now))).Books :=
      books_setPoll h hk nofun
    obtain rfl : t = tenantId := Option.some.inj (ht.symm.trans htenant)
    exact { hset with
      minted_completed :=
        forall_mem_append.2 ⟨h.minted_completed, forall_mem_singleton.2 (hcode ▸ hcompletions)⟩ }

lemma books_failPoll (hk : s.polls[k]? = some p) : (s.failPoll k p).Books := by
  unfold failPoll
  split
  · exact h
  · exact h
  · exact books_setPoll h hk nofun

lemma books_step (i : DeviceAuthStep) : (s.step i).Books := by
  cases i with
  | pass micros => exact books_pass h micros
  | purge age => exact books_purge h _
  | requestCode deviceCode userCode age => exact books_requestCode h
  | beginComplete tenantId userCode => exact books_beginComplete h
  | advanceComplete k => exact elim_of Books h fun tx hk => books_advanceComplete h hk
  | commit k => exact elim_of Books h fun tx hk => books_commit h hk
  | abort k => exact elim_of Books h fun tx hk => books_abort h k tx
  | poll deviceCode => exact books_poll h deviceCode
  | checkPoll k =>
    refine elim_of Books h fun p hk => ?_
    split
    · exact books_setPoll h hk fun _ _ heq => checkPoll_granted heq
    · exact h
  | createApiKey k => exact elim_of Books h fun p hk => books_mint h hk
  | failPoll k => exact elim_of Books h fun p hk => books_failPoll h hk

end DeviceAuth
end Roz.Server
