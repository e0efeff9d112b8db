import Roz.Lib.ExactFloat
import Mathlib.Data.List.TakeWhile

/-!
# The texts of numbers

What `str::parse` takes for an unsigned integer and for a float.  A float is read as a literal, a
decimal with its exponent or one of the special values; how a literal is rounded belongs to the
float type.

    parseFloat text = some literal → every character of text is a letter, a digit, +, - or .  (parseFloat_chars)
-/

namespace FloatText

inductive Literal where
  | decimal (neg : Bool) (mantissa : Nat) (exponent : Int)
  | infinity (neg : Bool)
  | nan
  deriving DecidableEq

variable (text : List Char)
def digitsValue : Nat := text.foldl (fun n c => 10 * n + (c.toNat - 48)) 0

/-- One digit or more and nothing else. -/
def parseDigits : Option Nat :=
  if text ≠ [] ∧ text.all Char.isDigit then some (digitsValue text) else none

/-- An unsigned integer below `bound`; a plus sign is allowed. -/
def parseUnsigned (bound : Nat) (text : List Char) : Option Nat :=
  (parseDigits (if text.head? = some '+' then text.tail else text)).filter (· < bound)

def parseExponent : List Char → Option Int
  | '-' :: text => (parseDigits text).map fun n : Nat => -(n : Int)
  | '+' :: text => (parseDigits text).map Int.ofNat
  | text => (parseDigits text).map Int.ofNat

/-- The digits after a point, and what follows them. -/
def parseFraction : List Char → List Char × List Char
  | '.' :: text => (text.takeWhile Char.isDigit, text.dropWhile Char.isDigit)
  | text => ([], text)

/-- Mantissa and exponent: digits with at most one point, at least one digit in all, and then
maybe an exponent. -/
def parseNumber : Option (Nat × Int) :=
  let whole := text.takeWhile Char.isDigit
  let (fraction, rest) := parseFraction (text.dropWhile Char.isDigit)
  if whole ++ fraction = [] then none
  else
    match rest with
    | [] => some (digitsValue (whole ++ fraction), -(fraction.length : Int))
    | c :: rest =>
      if c = 'e' ∨ c = 'E' then
        (parseExponent rest).map fun e => (digitsValue (whole ++ fraction), e - (fraction.length : Int))
      else none

def parseSpecial (neg : Bool) (text : List Char) : Option Literal :=
  let lower := text.map Char.toLower
  if lower = ['i', 'n', 'f'] ∨ lower = ['i', 'n', 'f', 'i', 'n', 'i', 't', 'y'] then some (.infinity neg)
  else if lower = ['n', 'a', 'n'] then some .nan
  else none

def parseMagnitude (neg : Bool) (text : List Char) : Option Literal :=
  match parseNumber text with
  | some (mantissa, exponent) => some (.decimal neg mantissa exponent)
  | none => parseSpecial neg text

def parseFloat : List Char → Option Literal
  | '-' :: text => parseMagnitude true text
  | '+' :: text => parseMagnitude false text
  | text => parseMagnitude false text

/-! ## The characters of a literal -/

def isFloatChar (c : Char) : Bool := c.isAlphanum || c == '+' || c == '-' || c == '.'

variable {c : Char}
lemma isAlphanum_iff : c.isAlphanum = true ↔ c.isUpper = true ∨ c.isLower = true ∨ c.isDigit = true := by
  show ((c.isUpper || c.isLower) || c.isDigit) = true ↔ _
  rw [Bool.or_eq_true, Bool.or_eq_true, or_assoc]

lemma isFloatChar_of_isAlphanum (h : c.isAlphanum = true) : isFloatChar c = true := by simp [isFloatChar, h]

lemma isFloatChar_of_isDigit (h : c.isDigit = true) : isFloatChar c = true :=
  isFloatChar_of_isAlphanum (isAlphanum_iff.2 (.inr (.inr h)))

lemma isAlphanum_of_toLower (h : c.toLower.isLower = true) : c.isAlphanum = true := by
  rw [isAlphanum_iff]
  unfold Char.toLower at h
  split at h
  · rename_i hupper
    exact .inl (decide_eq_true hupper)
  · exact .inr (.inl h)

variable {text : List Char}
lemma parseDigits_chars {n} (h : parseDigits text = some n) : ∀ c ∈ text, isFloatChar c = true := by
  unfold parseDigits at h
  split at h
  · rename_i hdigits
    intro c hc
    exact isFloatChar_of_isDigit (List.all_eq_true.1 hdigits.2 c hc)
  · cases h

lemma parseExponent_chars {e} (h : parseExponent text = some e) : ∀ c ∈ text, isFloatChar c = true := by
  unfold parseExponent at h
  split at h
  all_goals
    obtain ⟨n, hn, -⟩ := Option.map_eq_some_iff.1 h
    have hchars := parseDigits_chars hn
  · exact List.forall_mem_cons.2 ⟨rfl, hchars⟩
  · exact List.forall_mem_cons.2 ⟨rfl, hchars⟩
  · exact hchars

lemma takeWhile_chars {text : List Char} : ∀ c ∈ text.takeWhile Char.isDigit, isFloatChar c = true :=
  fun _ hc => isFloatChar_of_isDigit (List.mem_takeWhile_imp hc)

lemma parseFraction_chars (text : List Char) (h : ∀ c ∈ (parseFraction text).2, isFloatChar c = true) :
    ∀ c ∈ text, isFloatChar c = true := by
  unfold parseFraction at h
  split at h
  · rename_i text
    refine List.forall_mem_cons.2 ⟨rfl, ?_⟩
    rw [← List.takeWhile_append_dropWhile (p := Char.isDigit) (l := text)]
    exact List.forall_mem_append.2 ⟨takeWhile_chars, h⟩
  · exact h

lemma parseNumber_chars {r} (h : parseNumber text = some r) : ∀ c ∈ text, isFloatChar c = true := by
  rw [← List.takeWhile_append_dropWhile (p := Char.isDigit) (l := text)]
  refine List.forall_mem_append.2 ⟨takeWhile_chars, parseFraction_chars _ ?_⟩
  simp only [parseNumber] at h
  split at h
  · cases h
  · cases hrest : (parseFraction (text.dropWhile Char.isDigit)).2 with
    | nil => simp
    | cons c rest =>
      simp only [hrest] at h
      split at h
      · rename_i hc
        obtain ⟨e, he, -⟩ := Option.map_eq_some_iff.1 h
        refine List.forall_mem_cons.2 ⟨?_, parseExponent_chars he⟩
        rcases hc with rfl | rfl <;> rfl
      · cases h

variable {l : Literal}
lemma parseSpecial_chars {neg} (h : parseSpecial neg text = some l) : ∀ c ∈ text, isFloatChar c = true := by
  have hlower : ∀ c ∈ text.map Char.toLower, c.isLower = true := by
    unfold parseSpecial at h
    simp only at h
    split at h
    · rename_i hname
      rcases hname with hname | hname
      · rw [hname]
        exact List.all_eq_true.1 rfl
      · rw [hname]
        exact List.all_eq_true.1 rfl
    · split at h
      · rename_i hname
        rw [hname]
        exact List.all_eq_true.1 rfl
      · cases h
  intro c hc
  exact isFloatChar_of_isAlphanum (isAlphanum_of_toLower (hlower _ (List.mem_map_of_mem hc)))

lemma parseMagnitude_chars {neg} (h : parseMagnitude neg text = some l) : ∀ c ∈ text, isFloatChar c = true := by
  unfold parseMagnitude at h
  split at h
  · rename_i hnumber
    exact parseNumber_chars hnumber
  · exact parseSpecial_chars h

lemma parseFloat_chars (h : parseFloat text = some l) : ∀ c ∈ text, isFloatChar c = true := by
  unfold parseFloat at h
  split at h
  · exact List.forall_mem_cons.2 ⟨rfl, parseMagnitude_chars h⟩
  · exact List.forall_mem_cons.2 ⟨rfl, parseMagnitude_chars h⟩
  · exact parseMagnitude_chars h

lemma parseFloat_nil : parseFloat [] = none := by decide

/-! ## Floats that are read from literals -/

/-- What a comparison of parsed numbers uses of a float type. -/
class ParsedFloat (F : Type) where
  ofLiteral : Literal → F
  ofInt : Int → F
  isFinite : F → Bool
  sub : F → F → F
  abs : F → F
  lt : F → F → Bool
  le : F → F → Bool

open ExactFloat in
/-- Without rounding. -/
instance parsedFloatF64 : ParsedFloat F64 where
  ofLiteral
    | .decimal neg mantissa exponent => .fin ((if neg then -1 else 1) * mantissa * 10 ^ exponent)
    | .infinity neg => .inf neg
    | .nan => .nan
  ofInt n := .fin n
  isFinite := F64.isFinite
  sub := F64.sub
  abs := F64.abs
  lt := F64.ltb
  le := F64.leb

end FloatText
