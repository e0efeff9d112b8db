import Roz.Lib.Run
import Mathlib.Data.Int.Order.Basic

/-!
# Capability leases (`roz-core/src/lease.rs`, `roz-db/src/leases.rs`)

Every call is one statement in a transaction of its own.  `now()` is the instant at which the
transaction began; what it writes is seen by the others when it commits.  A statement that needs
a row which another transaction has written waits.  Ids are numbers, instants microseconds.
`secsAfter now ttl` is what Postgres makes of `now + make_interval(secs => ttl)`, if it is in
the range of a timestamp; it is a parameter.

`acquire` inserts a lease and looks at no other, so that a lease is exclusive only if its
transaction commits while no other lease of the resource is active (`exclusive_of_vacant`).
-/

namespace Roz.Server
open StepRun

/-! ## Leases -/

inductive LeaseState where
  | active
  | expired
  | released
  deriving DecidableEq

structure CapabilityLease where
  id : Nat
  tenantId : Nat
  hostId : Nat
  resource : String
  holderId : String
  acquiredAt : Int
  expiresAt : Int
  releasedAt : Option Int
  deriving DecidableEq

namespace CapabilityLease
variable (lease : CapabilityLease)
def state (now : Int) : LeaseState :=
  if lease.releasedAt.isSome then .released
  else if now ≥ lease.expiresAt then .expired
  else .active

def subject : Nat × Nat × String := (lease.tenantId, lease.hostId, lease.resource)

def release (at' : Int) : CapabilityLease := { lease with releasedAt := some at' }

variable {lease : CapabilityLease}
lemma state_eq_active {now} : lease.state now = .active ↔ lease.releasedAt = none ∧ now < lease.expiresAt := by
  unfold state
  by_cases hreleased : lease.releasedAt.isSome = true
  · rw [if_pos hreleased]
    simp [Option.isSome_iff_ne_none.1 hreleased]
  · rw [if_neg hreleased]
    by_cases hexpired : now ≥ lease.expiresAt
    · rw [if_pos hexpired]
      simp only [reduceCtorEq, false_iff, not_and]
      intro _
      omega
    · rw [if_neg hexpired]
      simp only [true_iff]
      exact ⟨by simpa using hreleased, by omega⟩

lemma active_of_le {now later} (hle : now ≤ later) (h : lease.state later = .active) : lease.state now = .active := by
  rw [state_eq_active] at h ⊢
  exact ⟨h.1, by omega⟩

end CapabilityLease

/-! ## Transactions -/

inductive LeaseCall where
  | acquire (tenantId hostId : Nat) (resource holderId : String) (ttlSecs : Int)
  | release (id : Nat)
  | expireStale
  deriving DecidableEq

inductive LeaseWrite where
  | insert (lease : CapabilityLease)
  | setReleased (ids : List Nat) (at' : Int)
  deriving DecidableEq

structure LeaseTx where
  id : Nat
  call : LeaseCall
  startedAt : Int
  write : Option LeaseWrite
  deriving DecidableEq

structure LeaseDb where
  rows : List CapabilityLease
  txs : List LeaseTx
  now : Int
  deriving DecidableEq

inductive LeaseStep where
  | pass (micros : Nat)
  | start (tx : Nat) (call : LeaseCall)
  | exec (tx : Nat) (newId : Nat)
  | commit (tx : Nat)
  | rollback (tx : Nat)
  deriving DecidableEq

namespace LeaseDb
variable (db : LeaseDb) (id : Nat)
def locked : Bool :=
  db.txs.any fun tx =>
    match tx.write with
    | some (.setReleased ids _) => ids.contains id
    | _ => false

/-- The primary key is in use, or another transaction is about to use it. -/
def taken : Bool :=
  db.rows.any (fun lease => lease.id == id) || db.txs.any fun tx =>
    match tx.write with
    | some (.insert lease) => lease.id == id
    | _ => false

/-- `UPDATE … SET released_at = now()` of the unreleased rows with a property. -/
def updateReleased (tx : LeaseTx) (wanted : CapabilityLease → Bool) : Option LeaseWrite :=
  let ids := (db.rows.filter fun lease => lease.releasedAt.isNone && wanted lease).map (·.id)
  if ids.any db.locked then none else some (.setReleased ids tx.startedAt)

variable (secsAfter : Int → Int → Option Int)

/-- The statement of a call.  `none` if it waits or fails. -/
def statement (db : LeaseDb) (tx : LeaseTx) (newId : Nat) : Option LeaseWrite :=
  match tx.call with
  | .acquire tenantId hostId resource holderId ttlSecs =>
    if db.taken newId then none
    else (secsAfter tx.startedAt ttlSecs).map fun expiresAt =>
      .insert ⟨newId, tenantId, hostId, resource, holderId, tx.startedAt, expiresAt, none⟩
  | .release id => db.updateReleased tx fun lease => lease.id == id
  | .expireStale => db.updateReleased tx fun lease => decide (lease.expiresAt ≤ tx.startedAt)

variable (rows : List CapabilityLease)
def install : LeaseWrite → List CapabilityLease
  | .insert lease => rows ++ [lease]
  | .setReleased ids at' => rows.map fun lease => if ids.contains lease.id then lease.release at' else lease

def pending : Option LeaseWrite := (db.txs.find? fun tx => tx.id == id).bind (·.write)

def close : LeaseDb := { db with txs := db.txs.filter fun tx => tx.id != id }

def step (db : LeaseDb) : LeaseStep → LeaseDb
  | .pass micros => { db with now := db.now + micros }
  | .start id call =>
    if db.txs.any fun tx => tx.id == id then db else { db with txs := db.txs ++ [⟨id, call, db.now, none⟩] }
  | .exec id newId =>
    { db with
      txs := db.txs.map fun tx =>
        if tx.id = id ∧ tx.write = none then { tx with write := db.statement secsAfter tx newId } else tx }
  | .commit id =>
    match db.pending id with
    | some write => { db.close id with rows := install db.rows write }
    | none => db.close id
  | .rollback id => db.close id

def new (now : Int) : LeaseDb := ⟨[], [], now⟩

/-! ## Exclusiveness -/

def ExclusiveAt (now : Int) : Prop :=
  rows.Pairwise fun a b => a.subject = b.subject → ¬ (a.state now = .active ∧ b.state now = .active)

def Exclusive : Prop := ExclusiveAt db.rows db.now

def acquired : LeaseStep → Option CapabilityLease
  | .commit id =>
    match db.pending id with
    | some (.insert lease) => some lease
    | _ => none
  | _ => none

/-- A lease is committed only while no other lease of its subject is active, or after it expired. -/
def Vacant (i : LeaseStep) : Prop :=
  ∀ lease ∈ db.acquired i, lease.state db.now = .active →
    ∀ other ∈ db.rows, other.subject = lease.subject → other.state db.now ≠ .active

instance decidableExclusive (db : LeaseDb) : Decidable db.Exclusive :=
  inferInstanceAs (Decidable (db.rows.Pairwise _))

instance decidableVacant (db : LeaseDb) (i : LeaseStep) : Decidable (db.Vacant i) :=
  inferInstanceAs (Decidable (∀ lease ∈ db.acquired i, _))

lemma ExclusiveAt.later {rows now later} (h : ExclusiveAt rows now) (hle : now ≤ later) : ExclusiveAt rows later := by
  refine h.imp fun {a b} hab hsubject hactive => hab hsubject ?_
  exact ⟨CapabilityLease.active_of_le hle hactive.1, CapabilityLease.active_of_le hle hactive.2⟩

lemma ExclusiveAt.setReleased {rows now} (h : ExclusiveAt rows now) (ids : List Nat)
    (at' : Int) : ExclusiveAt (install rows (.setReleased ids at')) now := by
  have hactive : ∀ lease : CapabilityLease,
      (if ids.contains lease.id then lease.release at' else lease).state now = .active → lease.state now = .active := by
    intro lease hlease
    by_cases hid : ids.contains lease.id = true
    · rw [if_pos hid, CapabilityLease.state_eq_active] at hlease
      cases hlease.1
    · rwa [if_neg hid] at hlease
  have hsubject : ∀ lease : CapabilityLease,
      (if ids.contains lease.id then lease.release at' else lease).subject = lease.subject := by
    intro lease
    split
    · rfl
    · rfl
  rw [ExclusiveAt, install, List.pairwise_map]
  refine h.imp fun {a b} hab heq hboth => ?_
  rw [hsubject, hsubject] at heq
  exact hab heq ⟨hactive a hboth.1, hactive b hboth.2⟩

lemma ExclusiveAt.insert {rows now} (h : ExclusiveAt rows now) {lease} (hvacant : lease.state now = .active →
      ∀ other ∈ rows, other.subject = lease.subject → other.state now ≠ .active) :
    ExclusiveAt (install rows (.insert lease)) now := by
  rw [ExclusiveAt, install, List.pairwise_append]
  refine ⟨h, List.pairwise_singleton _ _, fun other hother b hb hsubject hboth => ?_⟩
  obtain rfl := List.mem_singleton.1 hb
  exact hvacant hboth.2 other hother hsubject hboth.1

lemma step_cases (db : LeaseDb) (i : LeaseStep) :
    (∃ micros : Nat, (db.step secsAfter i).rows = db.rows ∧ (db.step secsAfter i).now = db.now + micros) ∨
      ∃ id write, i = .commit id ∧ db.pending id = some write ∧
        (db.step secsAfter i).rows = install db.rows write ∧ (db.step secsAfter i).now = db.now := by
  cases i with
  | pass micros => exact .inl ⟨micros, rfl, rfl⟩
  | start id call =>
    refine .inl ⟨0, ?_, ?_⟩
    · simp only [step]
      split <;> rfl
    · simp only [step]
      split <;> simp
  | exec id newId => exact .inl ⟨0, rfl, (Int.add_zero _).symm⟩
  | commit id =>
    cases hpending : db.pending id with
    | none =>
      refine .inl ⟨0, ?_, ?_⟩
      · simp [step, hpending, close]
      · simp [step, hpending, close]
    | some write =>
      refine .inr ⟨id, write, rfl, hpending, ?_, ?_⟩
      · simp [step, hpending]
      · simp [step, hpending, close]
  | rollback id => exact .inl ⟨0, rfl, (Int.add_zero _).symm⟩

lemma exclusive_step {secsAfter} {db : LeaseDb} {i} (h : db.Exclusive)
    (hok : db.Vacant i) : (db.step secsAfter i).Exclusive := by
  unfold Exclusive at h ⊢
  rcases step_cases secsAfter db i with ⟨micros, hrows, hnow⟩ | ⟨id, write, rfl, hpending, hrows, hnow⟩
  · rw [hrows, hnow]
    exact h.later (by omega)
  · rw [hrows, hnow]
    cases write with
    | insert lease => exact h.insert (hok lease (by simp [acquired, hpending]))
    | setReleased ids at' => exact h.setReleased ids at'

theorem exclusive_of_vacant (secsAfter : Int → Int → Option Int) (db : LeaseDb) (h0 : db.Exclusive)
    (steps : List LeaseStep) (hok : EveryStep (fun db i => .next (step secsAfter db i)) db Vacant steps)
    (db' : LeaseDb) (hrun : runFrom (fun db i => .next (step secsAfter db i)) db steps = .next db') :
    db'.Exclusive := by
  refine hok.invariant Exclusive ?_ h0 steps db' hrun
  intro s i s' hs hi hstep
  cases hstep
  exact exclusive_step hs hi

def addSecs (now ttlSecs : Int) : Option Int := some (now + 1000000 * ttlSecs)

def retaken : List LeaseStep :=
  [.start 0 (.acquire 1 2 "arm_gripper" "worker-1" 300), .exec 0 10, .commit 0, .pass 1000000,
    .start 1 (.release 10), .exec 1 0, .commit 1,
    .start 2 (.acquire 1 2 "arm_gripper" "worker-2" 300), .exec 2 11, .commit 2]

theorem retaken_exclusive : ((retaken.foldl (step addSecs) (new 0)).rows.map (·.state 1000000)) = [.released, .active] ∧
    (retaken.foldl (step addSecs) (new 0)).Exclusive :=
  ⟨by decide, exclusive_of_vacant addSecs (new 0) List.Pairwise.nil retaken (by decide) _ (runFrom_total _ _ _)⟩

/-- Two workers hold the gripper at once. -/
theorem gripper_held_twice :
    ¬ (([.start 0 (.acquire 1 2 "arm_gripper" "worker-1" 300), .exec 0 10, .commit 0, .pass 1000000,
      .start 1 (.acquire 1 2 "arm_gripper" "worker-2" 300), .exec 1 11, .commit 1] : List LeaseStep).foldl
        (step addSecs) (new 0)).Exclusive := by
  decide

end LeaseDb
end Roz.Server
