import Mathlib.Logic.Basic

/-!
# Watch channels

A channel holds one value and counts how often it was sent.  A receiver knows the count of the
value it has last waited for; a copy of it knows the same one, and looking at the value does not
change it.  `changed` is ready as soon as something was sent since.

A latch is a channel of a flag that is only ever raised.  A receiver that has never waited for a
latch sees that it is up, however long ago it was raised and through however many copies:

    the latch is up → the receiver has seen nothing → `changed` is ready  (Latch.changed_of_up)
-/

namespace Watch
variable {α : Type}
structure Channel (α : Type) where
  value : α
  version : Nat
  closed : Bool
  deriving DecidableEq

structure Receiver where
  seen : Nat
  deriving DecidableEq

def Channel.new (value : α) : Channel α := ⟨value, 0, false⟩

def Receiver.new : Receiver := ⟨0⟩

variable (c : Channel α)
def Channel.send (value : α) : Channel α := { c with value := value, version := c.version + 1 }

def Channel.close : Channel α := { c with closed := true }

variable (r : Receiver)
def Receiver.clone : Receiver := ⟨r.seen⟩

def Receiver.borrow (_ : Receiver) (c : Channel α) : α := c.value

inductive Changed where
  | ready (r : Receiver)
  | closed
  | pending
  deriving DecidableEq

def Receiver.changed (c : Channel α) : Changed :=
  if r.seen < c.version then .ready ⟨c.version⟩ else if c.closed then .closed else .pending

def Receiver.Unused : Prop := r.seen = 0

lemma Receiver.Unused.clone {r : Receiver} (h : r.Unused) : r.clone.Unused := h

def Latch (c : Channel Bool) : Prop := c.value = true ↔ 0 < c.version

lemma Latch.new : Latch (Channel.new false) := by simp [Latch, Channel.new]

lemma Latch.send (c : Channel Bool) : Latch (c.send true) :=
  iff_of_true rfl (Nat.succ_pos c.version)

lemma Latch.close {c} (h : Latch c) : Latch c.close := h

lemma Latch.changed_of_up {c : Channel Bool} (h : Latch c) (hup : c.value = true) {r : Receiver} (hr : r.Unused) :
    r.changed c = .ready ⟨c.version⟩ := by
  have hversion : r.seen < c.version := by
    rw [hr]
    exact h.1 hup
  rw [Receiver.changed, if_pos hversion]

end Watch
