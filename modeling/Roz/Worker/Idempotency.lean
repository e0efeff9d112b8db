import Mathlib.Algebra.Order.Ring.Nat
import Mathlib.Data.Char
import Mathlib.Data.List.AList
import Mathlib.Data.List.GetD
import Mathlib.Data.List.Induction
import Mathlib.Data.List.Lex

/-!
# The idempotency cache (`roz-worker/src/wal.rs`)

The cache keeps the end of an entry as text, and compares it with the time of a check as text.
`Rfc3339.text` is what chrono prints of an instant in the years 0000 to 9999.  All fields have fixed
widths, up to the fraction.  Where that ends, a `+` follows, which is less than the dot and the digits
that a longer one goes on with; so texts compare as instants do (`text_lt_iff`).
-/

namespace Roz.Worker
open List
namespace Rfc3339

def isLeap (year : Nat) : Bool := year % 4 = 0 ∧ (year % 100 = 0 → year % 400 = 0)

def monthLength (year month : Nat) : Nat :=
  [31, if isLeap year then 29 else 28, 31, 30, 31, 30, 31, 31, 30, 31, 30, 31].getD month 0

/-- All days of the years 0000 to 9999. -/
@[irreducible] def calendar : List (Nat × Nat × Nat) :=
  (range 10000).flatMap fun year => (range 12).flatMap fun month =>
    (range (monthLength year month)).map fun day => (year, month + 1, day + 1)

/-- The last digits of a number, before the rest of the text. -/
def digits : (width n : Nat) → List Char → List Char
  | 0, _, rest => rest
  | width + 1, n, rest => Nat.digitChar (n / 10 ^ width % 10) :: digits width n rest

def zone : List Char := ['+', '0', '0', ':', '0', '0']

def fraction (nanos : Nat) : List Char :=
  if nanos = 0 then zone
  else '.' :: digits 3 (nanos / 1000000)
    (if nanos % 1000000 = 0 then zone
    else digits 3 (nanos / 1000 % 1000) (if nanos % 1000 = 0 then zone else digits 3 (nanos % 1000) zone))

def second : Nat := 1000000000

def day : Nat := 86400 * second

def date (d : Nat × Nat × Nat) (rest : List Char) : List Char :=
  digits 4 d.1 ('-' :: digits 2 d.2.1 ('-' :: digits 2 d.2.2 rest))

def time (t : Nat) : List Char :=
  digits 2 (t / second / 3600) (':' :: digits 2 (t / second / 60 % 60)
    (':' :: digits 2 (t / second % 60) (fraction (t % second))))

/-- The text of an instant, counted in nanoseconds from the beginning of the year 0. -/
def text (t : Nat) : List Char := date (calendar.getD (t / day) (0, 0, 0)) ('T' :: time (t % day))

def Printable (t : Nat) : Prop := t / day < calendar.length

/-! ## Their order -/

variable {n m : Nat} {x y : List Char}
lemma digits_mod_lt (width : Nat) (h : n % 10 ^ width < m % 10 ^ width ∨ n % 10 ^ width = m % 10 ^ width ∧ x < y) :
    digits width n x < digits width m y := by
  induction width with
  | zero => simpa [digits, Nat.mod_one] using h
  | succ width ih =>
    -- the first digit decides, or it is the same and the others do
    have hchar : ∀ a < 10, ∀ b < 10, a < b → Nat.digitChar a < Nat.digitChar b := by decide
    have hn := Nat.mod_lt n (Nat.pow_pos (n := width) (by decide : 0 < 10))
    have hm := Nat.mod_lt m (Nat.pow_pos (n := width) (by decide : 0 < 10))
    rw [Nat.pow_succ, Nat.mod_mul, Nat.mod_mul] at h
    rw [digits, digits, cons_lt_cons_iff]
    rcases Nat.lt_trichotomy (n / 10 ^ width % 10) (m / 10 ^ width % 10) with hlt | heq | hgt
    · exact .inl (hchar _ (Nat.mod_lt _ (by decide)) _ (Nat.mod_lt _ (by decide)) hlt)
    · rw [heq] at h
      exact .inr ⟨congrArg _ heq, ih (h.imp Nat.lt_of_add_lt_add_right (And.imp_left Nat.add_right_cancel))⟩
    · have := Nat.mul_le_mul_left (10 ^ width) hgt
      rw [Nat.mul_succ] at this
      omega

lemma digits_lt {width} (hm : m < 10 ^ width) (h : n < m ∨ n = m ∧ x < y) : digits width n x < digits width m y := by
  refine digits_mod_lt width ?_
  rw [Nat.mod_eq_of_lt hm, Nat.mod_eq_of_lt (by omega)]
  exact h

lemma cons_lt {c} (h : x < y) : c :: x < c :: y := cons_lt_cons_iff.2 (.inr ⟨rfl, h⟩)

/-- The longer fraction is the later one. -/
lemma group_lt {a b} (hab : a < b) (h : digits 3 n x < digits 3 m y) :
    (if a = 0 then zone else digits 3 n x) < if b = 0 then zone else digits 3 m y := by
  have hplus : ∀ a < 10, '+' < Nat.digitChar a := by decide
  rw [if_neg (by omega : b ≠ 0)]
  split
  · exact cons_lt_cons_iff.2 (.inl (hplus _ (Nat.mod_lt _ (by decide))))
  · exact h

lemma fraction_lt (h : n < m) (hm : m < second) : fraction n < fraction m := by
  unfold second at hm
  have hmilli : n / 1000000 < m / 1000000 ∨ n / 1000000 = m / 1000000 ∧ n % 1000000 < m % 1000000 := by omega
  have hmicro (h : n % 1000000 < m % 1000000) : n / 1000 % 1000 < m / 1000 % 1000 ∨
      n / 1000 % 1000 = m / 1000 % 1000 ∧ n % 1000 < m % 1000 := by omega
  unfold fraction
  rw [if_neg (by omega : m ≠ 0)]
  split
  · exact cons_lt_cons_iff.2 (.inl (by decide))
  · refine cons_lt (digits_lt (by omega) (hmilli.imp_right (And.imp_right fun h => ?_)))
    refine group_lt h (digits_lt (by omega) ?_)
    exact (hmicro h).imp_right (And.imp_right fun h => group_lt h (digits_lt (by omega) (.inl h)))

lemma time_lt (h : n < m) (hm : m < day) : time n < time m := by
  have hfields : n / second / 3600 < m / second / 3600 ∨ n / second / 3600 = m / second / 3600 ∧
      (n / second / 60 % 60 < m / second / 60 % 60 ∨ n / second / 60 % 60 = m / second / 60 % 60 ∧
        (n / second % 60 < m / second % 60 ∨ n / second % 60 = m / second % 60 ∧ n % second < m % second)) := by
    unfold second
    omega
  have hhour : m / second / 3600 < 10 ^ 2 := by
    unfold day second at *
    omega
  refine digits_lt hhour (hfields.imp_right (And.imp_right fun h => cons_lt (digits_lt (by omega) ?_)))
  refine h.imp_right (And.imp_right fun h => cons_lt (digits_lt (by omega) ?_))
  exact h.imp_right (And.imp_right fun h => fraction_lt h (Nat.mod_lt _ (by decide)))

def Before (d d' : Nat × Nat × Nat) : Prop :=
  d.1 < d'.1 ∨ d.1 = d'.1 ∧ (d.2.1 < d'.2.1 ∨ d.2.1 = d'.2.1 ∧ d.2.2 < d'.2.2)

lemma pairwise_calendar : calendar.Pairwise Before := by
  unfold calendar
  rw [pairwise_flatMap]
  refine ⟨fun year _ => pairwise_flatMap.2 ⟨fun month _ => ?_, ?_⟩, ?_⟩
  · refine pairwise_map.2 (pairwise_lt_range.imp fun h => ?_)
    exact .inr ⟨rfl, .inr ⟨rfl, Nat.succ_lt_succ h⟩⟩
  · refine pairwise_lt_range.imp fun h d hd d' hd' => ?_
    obtain ⟨_, -, rfl⟩ := mem_map.1 hd
    obtain ⟨_, -, rfl⟩ := mem_map.1 hd'
    exact .inr ⟨rfl, .inl (Nat.succ_lt_succ h)⟩
  · refine pairwise_lt_range.imp fun h d hd d' hd' => ?_
    simp only [mem_flatMap, mem_map] at hd hd'
    obtain ⟨_, -, _, -, rfl⟩ := hd
    obtain ⟨_, -, _, -, rfl⟩ := hd'
    exact .inl h

lemma mem_calendar {d} (h : d ∈ calendar) : d.1 < 10000 ∧ d.2.1 ≤ 12 ∧ d.2.2 ≤ 31 := by
  have hle (year : Nat) : ∀ month < 12, monthLength year month ≤ 31 := by
    unfold monthLength
    split <;> decide
  unfold calendar at h
  simp only [mem_flatMap, mem_range, mem_map] at h
  grind

lemma date_lt {d d'} (hmem : d' ∈ calendar) (h : Before d d' ∨ d = d' ∧ x < y) : date d x < date d' y := by
  obtain ⟨hyear, hmonth, hday⟩ := mem_calendar hmem
  have hfields : d.1 < d'.1 ∨ d.1 = d'.1 ∧
      (d.2.1 < d'.2.1 ∨ d.2.1 = d'.2.1 ∧ (d.2.2 < d'.2.2 ∨ d.2.2 = d'.2.2 ∧ x < y)) := by
    unfold Before at h
    grind
  refine digits_lt hyear (hfields.imp_right (And.imp_right fun h => cons_lt (digits_lt (by omega) ?_)))
  exact h.imp_right (And.imp_right fun h => cons_lt (digits_lt (by omega) h))

lemma text_lt (hm : Printable m) (h : n < m) : text n < text m := by
  have hle : n / day ≤ m / day := Nat.div_le_div_right h.le
  have hmem : calendar.getD (m / day) (0, 0, 0) ∈ calendar := by
    rw [getD_eq_getElem _ _ hm]
    exact getElem_mem hm
  refine date_lt hmem ?_
  rcases hle.lt_or_eq with hlt | heq
  · rw [getD_eq_getElem _ _ (hle.trans_lt hm), getD_eq_getElem _ _ hm]
    exact .inl (pairwise_iff_getElem.1 pairwise_calendar _ _ _ hm hlt)
  · refine .inr ⟨by rw [heq], cons_lt (time_lt ?_ (Nat.mod_lt _ (by decide)))⟩
    unfold day second at *
    omega

lemma text_lt_iff (hn : Printable n) (hm : Printable m) : text n < text m ↔ n < m :=
  StrictMonoOn.lt_iff_lt (s := {t | Printable t}) (fun _ _ _ => text_lt) hn hm

end Rfc3339
open Rfc3339

structure WalStore where
  idempotencyCache : AList fun _ : String => List UInt8 × List Char

/-- The longest `chrono::Duration`, in nanoseconds. -/
def maxDuration : Nat := (2 ^ 63 - 1) * 1000000

namespace WalStore
variable (s : WalStore) (now : Nat) (key : String)
def cacheIdempotency (result : List UInt8) (ttl : Nat) : WalStore :=
  let expires := now + if ttl ≤ maxDuration then ttl else 0
  ⟨s.idempotencyCache.insert key (result, text expires)⟩

def checkIdempotency : Option (List UInt8) :=
  (s.idempotencyCache.lookup key).bind fun (result, expires) => if text now < expires then some result else none

end WalStore

/-- A call of `cache_idempotency`, with the time at which it reads the clock. -/
structure Put where
  now : Nat
  key : String
  result : List UInt8
  ttl : Nat

def Put.Representable (p : Put) : Prop := p.ttl ≤ maxDuration ∧ Printable (p.now + p.ttl)

def puts (history : List Put) : WalStore :=
  history.foldl (fun s p => s.cacheIdempotency p.now p.key p.result p.ttl) ⟨∅⟩

lemma lookup_puts (key : String) (history : List Put) (h : ∀ p ∈ history, p.Representable) :
    (puts history).idempotencyCache.lookup key =
      (history.filter (·.key = key)).getLast?.map fun p => (p.result, text (p.now + p.ttl)) := by
  induction history using reverseRecOn with
  | nil => rfl
  | append_singleton history p ih =>
    obtain ⟨hfront, hlast⟩ := forall_mem_append.1 h
    have hsnoc : puts (history ++ [p]) = (puts history).cacheIdempotency p.now p.key p.result p.ttl :=
      foldl_concat ..
    rw [hsnoc, WalStore.cacheIdempotency, if_pos (hlast p (.head _)).1]
    by_cases hkey : p.key = key
    · simp [hkey]
    · rw [AList.lookup_insert_ne (Ne.symm hkey), ih hfront]
      simp [hkey]

/-- Texts compare as instants do, and a check finds the last entry of its key until that has expired. -/
theorem checkIdempotency_puts : (∀ a b, Printable a → Printable b → (text a < text b ↔ a < b)) ∧
    ∀ history : List Put, (∀ p ∈ history, p.Representable) → ∀ now, Printable now → ∀ key,
      (puts history).checkIdempotency now key =
        ((history.filter (·.key = key)).getLast?.filter fun p => now < p.now + p.ttl).map (·.result) := by
  refine ⟨fun a b ha hb => text_lt_iff ha hb, fun history h now hnow key => ?_⟩
  rw [WalStore.checkIdempotency, lookup_puts key history h]
  cases hlast : (history.filter (·.key = key)).getLast? with
  | none => rfl
  | some p =>
    have hp : p.Representable := h p (mem_of_mem_filter (mem_of_getLast? hlast))
    simp [text_lt_iff hnow hp.2, Option.filter]

end Roz.Worker
