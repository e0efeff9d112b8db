import Mathlib.Analysis.SpecialFunctions.Trigonometric.Basic
import Roz.Lib.ExactFloat

/-!
# The arithmetic of a floating-point program, over any number type

`Arith` has what rigid transforms use, `Scalar` what distances and joint angles use on top.  A
program written over them runs on machine numbers and is reasoned about on the reals.  The laws
of `max` and `min` that a comparison with zero needs hold on both sides: IEEE 754 ignores a NaN
operand, and a NaN compares false.

    0 ≤ max a b ↔ 0 ≤ a ∨ 0 ≤ b          min a b < 0 ↔ a < 0 ∨ b < 0  (ZeroExtrema)
-/

namespace ExactFloat

class Arith (α : Type) extends Zero α, One α, Add α, Sub α, Mul α, Neg α where
  two : α

class Scalar (α : Type) extends Arith α, Div α, Max α, Min α, LE α, LT α where
  half : α
  /-- The machine epsilon. -/
  epsilon : α
  abs : α → α
  sqrt : α → α
  sin : α → α
  cos : α → α
  /-- `a.mul_add(b, c)`, rounded once. -/
  mulAdd : α → α → α → α
  hypot : α → α → α
  decLE (a b : α) : Decidable (a ≤ b)
  decLT (a b : α) : Decidable (a < b)

instance decidableLE {α : Type} [Scalar α] (a b : α) : Decidable (a ≤ b) := Scalar.decLE a b
instance decidableLT {α : Type} [Scalar α] (a b : α) : Decidable (a < b) := Scalar.decLT a b

/-- On which side of zero a maximum and a minimum lie. -/
class ZeroExtrema (α : Type) [Zero α] [Max α] [Min α] [LE α] [LT α] : Prop where
  zero_le_max (a b : α) : 0 ≤ max a b ↔ 0 ≤ a ∨ 0 ≤ b
  min_lt_zero (a b : α) : min a b < 0 ↔ a < 0 ∨ b < 0

/-! ## The reals -/

noncomputable instance : Scalar ℝ where
  two := 2
  half := 1 / 2
  epsilon := 1 / 2 ^ 52
  abs x := |x|
  sqrt := Real.sqrt
  sin := Real.sin
  cos := Real.cos
  mulAdd a b c := a * b + c
  hypot a b := Real.sqrt (a * a + b * b)
  decLE _ _ := inferInstance
  decLT _ _ := inferInstance

@[simp] lemma real_two : (Arith.two : ℝ) = 2 := rfl
@[simp] lemma real_half : (Scalar.half : ℝ) = 1 / 2 := rfl
variable (x : ℝ)
@[simp] lemma real_abs : Scalar.abs x = |x| := rfl
@[simp] lemma real_sqrt : Scalar.sqrt x = Real.sqrt x := rfl
@[simp] lemma real_sin : Scalar.sin x = Real.sin x := rfl
@[simp] lemma real_cos : Scalar.cos x = Real.cos x := rfl
@[simp] lemma real_mulAdd (a b c : ℝ) : Scalar.mulAdd a b c = a * b + c := rfl
@[simp] lemma real_hypot (a b : ℝ) : Scalar.hypot a b = Real.sqrt (a * a + b * b) := rfl

instance : ZeroExtrema ℝ where
  zero_le_max _ _ := le_max_iff
  min_lt_zero _ _ := min_lt_iff

instance arithRat : Arith ℚ where
  two := 2

@[simp] lemma rat_two : (Arith.two : ℚ) = 2 := rfl

namespace F64

instance : Arith F64 where
  zero := fin 0
  one := fin 1
  add := add
  sub := sub
  mul := mul
  neg := neg
  two := fin 2

def min (a b : F64) : F64 :=
  if a.isNan then b else if b.isNan then a else if b < a then b else a

instance : Max F64 := ⟨max⟩
instance : Min F64 := ⟨min⟩

lemma zero_le_fin (q : ℚ) : (0 : F64) ≤ fin q ↔ 0 ≤ q := fin_le_fin 0 q
lemma fin_lt_zero (q : ℚ) : fin q < (0 : F64) ↔ q < 0 := fin_lt_fin q 0

lemma max_fin (q r : ℚ) : max (fin q) (fin r) = fin (Max.max q r) := by
  simp only [max, isNan, fin_lt_fin, Bool.false_eq_true, if_false]
  split
  · next h => rw [max_eq_right h.le]
  · next h => rw [max_eq_left (not_lt.1 h)]

lemma min_fin (q r : ℚ) : min (fin q) (fin r) = fin (Min.min q r) := by
  simp only [min, isNan, fin_lt_fin, Bool.false_eq_true, if_false]
  split
  · next h => rw [min_eq_right h.le]
  · next h => rw [min_eq_left (not_lt.1 h)]

-- The special values are settled by evaluation; between rationals the order decides.
instance : ZeroExtrema F64 where
  zero_le_max a b := by
    show 0 ≤ max a b ↔ 0 ≤ a ∨ 0 ≤ b
    have hnan : ¬(0 : F64) ≤ nan := Bool.false_ne_true
    have hneg : ¬(0 : F64) ≤ inf true := Bool.false_ne_true
    have hpos : (0 : F64) ≤ inf false := rfl
    cases a with
    | nan => simp [max, isNan, hnan]
    | inf n =>
      cases b with
      | nan => simp [max, isNan, hnan]
      | inf m => revert n m; decide
      | fin r =>
        cases n with
        | false => exact ⟨fun _ => .inl hpos, fun _ => hpos⟩
        | true => exact ⟨.inr, fun h => h.resolve_left hneg⟩
    | fin q =>
      cases b with
      | nan => simp [max, isNan, hnan]
      | inf m =>
        cases m with
        | false => exact ⟨fun _ => .inr hpos, fun _ => hpos⟩
        | true => exact ⟨.inl, fun h => h.resolve_right hneg⟩
      | fin r => rw [max_fin, zero_le_fin, zero_le_fin, zero_le_fin, le_max_iff]
  min_lt_zero a b := by
    show min a b < 0 ↔ a < 0 ∨ b < 0
    have hnan : ¬nan < (0 : F64) := Bool.false_ne_true
    have hneg : inf true < (0 : F64) := rfl
    have hpos : ¬inf false < (0 : F64) := Bool.false_ne_true
    cases a with
    | nan => simp [min, isNan, hnan]
    | inf n =>
      cases b with
      | nan => simp [min, isNan, hnan]
      | inf m => revert n m; decide
      | fin r =>
        cases n with
        | false => exact ⟨.inr, fun h => h.resolve_left hpos⟩
        | true => exact ⟨fun _ => .inl hneg, fun _ => hneg⟩
    | fin q =>
      cases b with
      | nan => simp [min, isNan, hnan]
      | inf m =>
        cases m with
        | false => exact ⟨.inl, fun h => h.resolve_right hpos⟩
        | true => exact ⟨fun _ => .inr hneg, fun _ => hneg⟩
      | fin r => rw [min_fin, fin_lt_zero, fin_lt_zero, fin_lt_zero, min_lt_iff]

end F64
end ExactFloat
