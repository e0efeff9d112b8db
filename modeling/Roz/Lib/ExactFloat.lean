import Mathlib.Algebra.Order.AbsoluteValue.Basic
import Mathlib.Tactic.Linarith

/-!
# Floats with exact finite arithmetic

A value is a rational, one of the two infinities, or NaN.  Finite operations
are exact (no rounding, no overflow, one zero); the special values follow
IEEE 754: NaN absorbs arithmetic and compares false with everything, itself
included; `∞ - ∞`, `0 * ∞`, `0 / 0` and `∞ / ∞` are NaN.

`clamp lo hi x` is partial as in Rust: it panics (`none`) unless `lo ≤ hi`.
`clamp_symm` is what a caller needs of a symmetric clamp:

    0 ≤ m → clamp (-m) m (fin c) = some (fin c') with |c'| ≤ m and c' between 0 and c
-/

namespace ExactFloat

inductive F64 where
  | fin (q : ℚ)
  | inf (neg : Bool)
  | nan
  deriving DecidableEq

namespace F64

instance : Inhabited F64 := ⟨fin 0⟩

def epsilon : ℚ := 1 / 2 ^ 52

lemma epsilon_pos : 0 < epsilon := by decide +kernel

/-! ## Arithmetic -/

def neg : F64 → F64
  | fin q => fin (-q)
  | inf b => inf (!b)
  | nan => nan

def add : F64 → F64 → F64
  | fin a, fin b => fin (a + b)
  | inf a, inf b => if a = b then inf a else nan
  | inf a, fin _ => inf a
  | fin _, inf b => inf b
  | _, _ => nan

def sub (a b : F64) : F64 := add a (neg b)

def mul : F64 → F64 → F64
  | fin a, fin b => fin (a * b)
  | inf a, inf b => inf (xor a b)
  | inf a, fin q => if q = 0 then nan else inf (xor a (decide (q < 0)))
  | fin q, inf b => if q = 0 then nan else inf (xor (decide (q < 0)) b)
  | _, _ => nan

def div : F64 → F64 → F64
  | fin a, fin b => if b = 0 then (if a = 0 then nan else inf (decide (a < 0))) else fin (a / b)
  | fin _, inf _ => fin 0
  | inf a, fin q => inf (xor a (decide (q < 0)))
  | _, _ => nan

def abs : F64 → F64
  | fin q => fin |q|
  | inf _ => inf false
  | nan => nan

/-- `a.mul_add(b, c)`; fused and unfused agree without rounding. -/
def mulAdd (a b c : F64) : F64 := add (mul a b) c

def isNan : F64 → Bool
  | nan => true
  | _ => false

def isInfinite : F64 → Bool
  | inf _ => true
  | _ => false

def isFinite : F64 → Bool
  | fin _ => true
  | _ => false

/-! ## Comparison -/

def ltb : F64 → F64 → Bool
  | fin a, fin b => decide (a < b)
  | inf true, fin _ => true
  | fin _, inf false => true
  | inf true, inf false => true
  | _, _ => false

def leb : F64 → F64 → Bool
  | fin a, fin b => decide (a ≤ b)
  | inf true, fin _ => true
  | fin _, inf false => true
  | inf a, inf b => a || !b
  | _, _ => false

def eqb : F64 → F64 → Bool
  | fin a, fin b => decide (a = b)
  | inf a, inf b => a == b
  | _, _ => false

instance : LT F64 := ⟨fun a b => ltb a b = true⟩
instance : LE F64 := ⟨fun a b => leb a b = true⟩
instance (a b : F64) : Decidable (a < b) := inferInstanceAs (Decidable (ltb a b = true))
instance (a b : F64) : Decidable (a ≤ b) := inferInstanceAs (Decidable (leb a b = true))

/-- `f64::max`: a NaN operand is ignored. -/
def max (a b : F64) : F64 :=
  if a.isNan then b else if b.isNan then a else if a < b then b else a

/-- `x.clamp(lo, hi)`; `none` is the panic of its assertion `lo <= hi`. -/
def clamp (lo hi x : F64) : Option F64 :=
  if lo ≤ hi then some (if x < lo then lo else if hi < x then hi else x) else none

def eqVec : List F64 → List F64 → Bool
  | [], [] => true
  | x :: xs, y :: ys => x.eqb y && eqVec xs ys
  | _, _ => false

/-! ## Lemmas -/

@[simp] lemma neg_fin (q : ℚ) : neg (fin q) = fin (-q) := rfl

variable (a b : ℚ) {m : F64}
@[simp] lemma add_fin : add (fin a) (fin b) = fin (a + b) := rfl

@[simp] lemma sub_fin : sub (fin a) (fin b) = fin (a - b) := by simp [sub, sub_eq_add_neg]

@[simp] lemma mul_fin : mul (fin a) (fin b) = fin (a * b) := rfl

@[simp] lemma abs_fin (q : ℚ) : abs (fin q) = fin |q| := rfl

@[simp] lemma mulAdd_fin (c : ℚ) : mulAdd (fin a) (fin b) (fin c) = fin (a * b + c) := rfl

lemma div_fin (h : b ≠ 0) : div (fin a) (fin b) = fin (a / b) := by simp [div, h]

@[simp] lemma fin_lt_fin : fin a < fin b ↔ a < b := by
  show ltb (fin a) (fin b) = true ↔ _
  simp [ltb]

@[simp] lemma fin_le_fin : fin a ≤ fin b ↔ a ≤ b := by
  show leb (fin a) (fin b) = true ↔ _
  simp [leb]

@[simp] lemma fin_le_posInf : fin a ≤ inf false := rfl

lemma isFinite_iff (x : F64) : x.isFinite = true ↔ ∃ q, x = fin q := by cases x <;> simp [isFinite]

lemma eqVec_self (xs : List F64) (h : ∀ x ∈ xs, x.isFinite = true) : eqVec xs xs = true := by
  induction xs with
  | nil => rfl
  | cons x xs ih =>
    obtain ⟨q, rfl⟩ := (isFinite_iff x).1 (h x List.mem_cons_self)
    simp only [eqVec, eqb, decide_true, Bool.true_and]
    exact ih fun y hy => h y (List.mem_cons_of_mem _ hy)

lemma nonneg_cases {m} (h : fin 0 ≤ m) : (∃ q : ℚ, 0 ≤ q ∧ m = fin q) ∨ m = inf false := by
  cases m with
  | fin q => exact Or.inl ⟨q, (fin_le_fin 0 q).1 h, rfl⟩
  | inf b =>
    cases b with
    | false => exact Or.inr rfl
    | true => cases h
  | nan => cases h

lemma fin_le_trans {a b} (hab : a ≤ b) (hb : fin b ≤ m) : fin a ≤ m := by
  cases m with
  | fin q => exact (fin_le_fin a q).2 (le_trans hab ((fin_le_fin b q).1 hb))
  | inf n =>
    cases n with
    | false => rfl
    | true => cases hb
  | nan => cases hb

lemma le_fin_trans {a b} (ha : m ≤ fin a) (hab : a ≤ b) : m ≤ fin b := by
  cases m with
  | fin q => exact (fin_le_fin q b).2 (le_trans ((fin_le_fin q a).1 ha) hab)
  | inf n =>
    cases n with
    | false => cases ha
    | true => rfl
  | nan => cases ha

lemma between_of_between {lo hi p v r} (hr : p ⊓ v ≤ r ∧ r ≤ p ⊔ v)
    (hp : lo ≤ fin p ∧ fin p ≤ hi) (hv : lo ≤ fin v ∧ fin v ≤ hi) : lo ≤ fin r ∧ fin r ≤ hi := by
  constructor
  · rcases min_le_iff.1 hr.1 with h | h
    · exact le_fin_trans hp.1 h
    · exact le_fin_trans hv.1 h
  · rcases le_max_iff.1 hr.2 with h | h
    · exact fin_le_trans h hp.2
    · exact fin_le_trans h hv.2

lemma fin_le_add {a b e} (ha : fin a ≤ m) (hb : b ≤ a + e) : fin b ≤ m.add (fin e) := by
  cases m with
  | fin q =>
    rw [add_fin, fin_le_fin]
    have := (fin_le_fin a q).1 ha
    linarith
  | inf n =>
    cases n with
    | false => rfl
    | true => cases ha
  | nan => cases ha

lemma fin_mul_le_mul {a t} (ha : fin a ≤ m) (ht : 0 < t) : fin (a * t) ≤ m.mul (fin t) := by
  cases m with
  | fin q =>
    rw [mul_fin, fin_le_fin]
    exact mul_le_mul_of_nonneg_right ((fin_le_fin a q).1 ha) ht.le
  | inf n =>
    cases n with
    | false =>
      have hinf : (inf false).mul (fin t) = inf false := by simp [mul, ht.ne', ht.le]
      rw [hinf]
      rfl
    | true => cases ha
  | nan => cases ha

lemma clamp_symm_nonneg {m x r} (h : clamp (neg m) m x = some r) : fin 0 ≤ m := by
  unfold clamp at h
  split at h
  · next hle =>
    cases m with
    | fin q =>
      rw [neg_fin, fin_le_fin] at hle
      rw [fin_le_fin]
      linarith
    | inf b =>
      cases b with
      | false => rfl
      | true => cases hle
    | nan => cases hle
  · cases h

/-- A symmetric clamp of a finite value: it does not panic, respects the bound,
never overshoots the value, and keeps a value that is within the bound. -/
lemma clamp_symm {m} (hm : fin 0 ≤ m) (c : ℚ) : ∃ c', clamp (neg m) m (fin c) = some (fin c') ∧ fin |c'| ≤ m ∧
    (0 ≤ c → 0 ≤ c' ∧ c' ≤ c) ∧ (c ≤ 0 → c ≤ c' ∧ c' ≤ 0) ∧ (fin |c| ≤ m → c' = c) := by
  rcases nonneg_cases hm with ⟨q, hq, rfl⟩ | rfl
  · unfold clamp
    rw [neg_fin, if_pos ((fin_le_fin _ _).2 (by linarith))]
    simp only [fin_lt_fin, fin_le_fin]
    by_cases h1 : c < -q
    · refine ⟨-q, by rw [if_pos h1], ?_, ?_, ?_, ?_⟩
      · rw [abs_neg, abs_of_nonneg hq]
      · intro h; constructor <;> linarith
      · intro _; constructor <;> linarith
      · intro h; have := (abs_le.1 h).1; linarith
    · by_cases h2 : q < c
      · refine ⟨q, by rw [if_neg h1, if_pos h2], ?_, ?_, ?_, ?_⟩
        · rw [abs_of_nonneg hq]
        · intro _; constructor <;> linarith
        · intro h; constructor <;> linarith
        · intro h; have := (abs_le.1 h).2; linarith
      · refine ⟨c, by rw [if_neg h1, if_neg h2], ?_, fun h => ⟨h, le_refl c⟩,
          fun h => ⟨le_refl c, h⟩, fun _ => rfl⟩
        exact abs_le.2 ⟨not_lt.1 h1, not_lt.1 h2⟩
  · exact ⟨c, rfl, rfl, fun h => ⟨h, le_refl c⟩, fun h => ⟨le_refl c, h⟩, fun _ => rfl⟩

end F64
end ExactFloat
