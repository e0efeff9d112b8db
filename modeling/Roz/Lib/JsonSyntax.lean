import Mathlib.Data.List.TakeWhile
import Mathlib.Data.List.Basic

/-!
# The syntax of JSON texts

A `Value` is a JSON value with the layout of its text: the white space around every member, and
after the last member of every array and object a place for something more, which is not JSON.
What is put there is a parameter; with nothing the text is a JSON text (`Value.strict`).

A JSON text says one thing only, whatever follows it:

    v.strict ++ r = v'.strict ++ r' → v.tree = v'.tree ∧ r = r'  (strict_unique)
-/

namespace JsonSyntax
open List

abbrev Bytes := List UInt8

def quote : UInt8 := 34
def backslash : UInt8 := 92
def comma : UInt8 := 44
def colon : UInt8 := 58

def opener (keyed : Bool) : UInt8 := if keyed then 123 else 91

def closer (keyed : Bool) : UInt8 := if keyed then 125 else 93

variable (b : UInt8)
def isBlank : Bool := b == 32 || b == 9 || b == 10 || b == 13

def Blank : Type := { w : Bytes // ∀ b ∈ w, isBlank b = true }

/-! ## Scalars -/

def isDigit : Bool := 48 ≤ b && b ≤ 57

def isExponent : Bytes → Bool
  | [] => true
  | b :: rest =>
    let digits := if rest.head? = some 43 ∨ rest.head? = some 45 then rest.tail else rest
    (b == 101 || b == 69) && !digits.isEmpty && digits.all isDigit

def isFraction : Bytes → Bool
  | [] => true
  | b :: rest =>
    if b = 46 then !(rest.takeWhile isDigit).isEmpty && isExponent (rest.dropWhile isDigit)
    else isExponent (b :: rest)

def isUnsigned : Bytes → Bool
  | [] => false
  | b :: rest => if b = 48 then isFraction rest else isDigit b && isFraction (rest.dropWhile isDigit)

def isNumber : Bytes → Bool
  | [] => false
  | b :: rest => if b = 45 then isUnsigned rest else isUnsigned (b :: rest)

def isScalar (text : Bytes) : Bool :=
  isNumber text || text == [110, 117, 108, 108] || text == [116, 114, 117, 101] || text == [102, 97, 108, 115, 101]

def isScalarByte : Bool :=
  isDigit b || (97 ≤ b && b ≤ 122) || b == 43 || b == 45 || b == 46 || b == 69

def isHex : Bool := isDigit b || (65 ≤ b && b ≤ 70) || (97 ≤ b && b ≤ 102)

/-- What may stand between the quotes of a string. -/
inductive StringBody : Bytes → Prop
  | nil : StringBody []
  | plain {b rest} : 32 ≤ b → b ≠ quote → b ≠ backslash → StringBody rest → StringBody (b :: rest)
  | escape {b rest} : b ∈ [quote, backslash, 47, 98, 102, 110, 114, 116] → StringBody rest →
      StringBody (backslash :: b :: rest)
  | unicode {a b c d rest} : isHex a = true → isHex b = true → isHex c = true → isHex d = true → StringBody rest →
      StringBody (backslash :: 117 :: a :: b :: c :: d :: rest)

/-! ## Values with their layout -/

/-- What stands before the value of a member: nothing in an array, a key in an object. -/
inductive Label : Bool → Type
  | item : Label false
  | key (body : Bytes) (valid : StringBody body) (before after : Blank) : Label true

mutual

inductive Value (ε : Type) : Type
  | scalar (chars : Bytes) (valid : isScalar chars = true)
  | string (body : Bytes) (valid : StringBody body)
  | empty (keyed : Bool) (blank : Blank)
  | container (keyed : Bool) (members : Members ε keyed)

inductive Members (ε : Type) : Bool → Type
  | last {keyed : Bool} (before : Blank) (label : Label keyed) (value : Value ε) (extra : ε) (after : Blank) :
      Members ε keyed
  | cons {keyed : Bool} (before : Blank) (label : Label keyed) (value : Value ε) (after : Blank)
      (rest : Members ε keyed) : Members ε keyed

end

def quoted (body : Bytes) : Bytes := quote :: body ++ [quote]

def Label.text {keyed : Bool} : Label keyed → Bytes
  | .item => []
  | .key body _ before after => quoted body ++ before.1 ++ colon :: after.1

def Label.name {keyed : Bool} : Label keyed → Option Bytes
  | .item => none
  | .key body .. => some body

section Text
variable {ε : Type} (f : ε → Bytes)

mutual

def Value.text : Value ε → Bytes
  | .scalar chars _ => chars
  | .string body _ => quoted body
  | .empty keyed blank => opener keyed :: blank.1 ++ [closer keyed]
  | .container keyed members => opener keyed :: members.text ++ [closer keyed]

def Members.text {keyed : Bool} : Members ε keyed → Bytes
  | .last before label value extra after => before.1 ++ label.text ++ value.text ++ f extra ++ after.1
  | .cons before label value after rest => before.1 ++ label.text ++ value.text ++ after.1 ++ comma :: rest.text

end
end Text

/-- What a text says: its value without the layout. -/
inductive Tree where
  | scalar (chars : Bytes)
  | string (body : Bytes)
  | container (keyed : Bool) (members : List (Option Bytes × Tree))

mutual

def Value.tree {ε : Type} : Value ε → Tree
  | .scalar chars _ => .scalar chars
  | .string body _ => .string body
  | .empty keyed _ => .container keyed []
  | .container keyed members => .container keyed members.trees

def Members.trees {ε : Type} {keyed : Bool} : Members ε keyed → List (Option Bytes × Tree)
  | .last _ label value _ _ => [(label.name, value.tree)]
  | .cons _ label value _ rest => (label.name, value.tree) :: rest.trees

end

/-! ## The bytes of a scalar -/

variable {b : UInt8} (keyed : Bool)
lemma isScalarByte_of_isDigit (h : isDigit b = true) : isScalarByte b = true := by simp [isScalarByte, h]

lemma takeWhile_isDigit (text : Bytes) : ∀ b ∈ text.takeWhile isDigit, isScalarByte b = true :=
  fun _ hb => isScalarByte_of_isDigit (mem_takeWhile_imp hb)

lemma forall_of_dropWhile {text : Bytes} (h : ∀ b ∈ text.dropWhile isDigit, isScalarByte b = true) :
    ∀ b ∈ text, isScalarByte b = true := by
  rw [← takeWhile_append_dropWhile (p := isDigit) (l := text)]
  exact forall_mem_append.2 ⟨takeWhile_isDigit text, h⟩

lemma isExponent_bytes {text} (h : isExponent text = true) : ∀ b ∈ text, isScalarByte b = true := by
  cases text with
  | nil => exact nofun
  | cons b rest =>
    simp only [isExponent, Bool.and_eq_true, Bool.or_eq_true, beq_iff_eq] at h
    obtain ⟨⟨hb, -⟩, hdigits⟩ := h
    have hdigits' := fun d hd => isScalarByte_of_isDigit (all_eq_true.1 hdigits d hd)
    refine forall_mem_cons.2 ⟨by rcases hb with rfl | rfl <;> rfl, ?_⟩
    split at hdigits'
    · rename_i hsign
      cases rest with
      | nil => exact nofun
      | cons sign digits =>
        simp only [head?_cons, Option.some.injEq] at hsign
        exact forall_mem_cons.2 ⟨by rcases hsign with rfl | rfl <;> rfl, hdigits'⟩
    · exact hdigits'

lemma isFraction_bytes {text : Bytes} (h : isFraction text = true) : ∀ b ∈ text, isScalarByte b = true := by
  cases text with
  | nil => exact nofun
  | cons b rest =>
    simp only [isFraction] at h
    split at h
    · rename_i hb
      subst hb
      rw [Bool.and_eq_true] at h
      exact forall_mem_cons.2 ⟨rfl, forall_of_dropWhile (isExponent_bytes h.2)⟩
    · exact isExponent_bytes h

lemma isUnsigned_bytes {text : Bytes} (h : isUnsigned text = true) : ∀ b ∈ text, isScalarByte b = true := by
  cases text with
  | nil => cases h
  | cons b rest =>
    simp only [isUnsigned] at h
    split at h
    · rename_i hb
      subst hb
      exact forall_mem_cons.2 ⟨rfl, isFraction_bytes h⟩
    · rw [Bool.and_eq_true] at h
      exact forall_mem_cons.2 ⟨isScalarByte_of_isDigit h.1, forall_of_dropWhile (isFraction_bytes h.2)⟩

lemma isNumber_bytes {text} (h : isNumber text = true) : ∀ b ∈ text, isScalarByte b = true := by
  cases text with
  | nil => cases h
  | cons b rest =>
    simp only [isNumber] at h
    split at h
    · rename_i hb
      subst hb
      exact forall_mem_cons.2 ⟨rfl, isUnsigned_bytes h⟩
    · exact isUnsigned_bytes h

lemma isScalar_bytes {text} (h : isScalar text = true) : ∀ b ∈ text, isScalarByte b = true := by
  simp only [isScalar, Bool.or_eq_true, beq_iff_eq] at h
  rcases h with ((h | rfl) | rfl) | rfl
  · exact isNumber_bytes h
  · exact all_eq_true.1 rfl
  · exact all_eq_true.1 rfl
  · exact all_eq_true.1 rfl

lemma isScalar_ne_nil {text} (h : isScalar text = true) : text ≠ [] := by
  rintro rfl
  cases h

/-! ## Where a part ends -/

/-- A scalar cannot go on here. -/
def Delimited (rest : Bytes) : Prop := ∀ b ∈ rest.head?, isScalarByte b = false

lemma append_eq_of_all {p : UInt8 → Bool} {a a' r r' : Bytes} (ha : ∀ b ∈ a, p b = true) (ha' : ∀ b ∈ a', p b = true)
    (hr : ∀ b ∈ r.head?, p b = false) (hr' : ∀ b ∈ r'.head?, p b = false) (h : a ++ r = a' ++ r') :
    a = a' ∧ r = r' := by
  have htake : ∀ {a r : Bytes}, (∀ b ∈ a, p b = true) → (∀ b ∈ r.head?, p b = false) → (a ++ r).takeWhile p = a := by
    intro a r ha hr
    rw [takeWhile_append_of_pos ha]
    cases r with
    | nil => simp
    | cons b r => simp [hr b rfl]
  have heq := htake ha hr
  rw [h, htake ha' hr'] at heq
  subst heq
  exact ⟨rfl, append_cancel_left h⟩

variable {body body' r r' : Bytes}
lemma StringBody.unique (h : StringBody body) (h' : StringBody body')
    (heq : body ++ quote :: r = body' ++ quote :: r') : body = body' ∧ r = r' := by
  induction h generalizing body' with
  | nil =>
    cases h' with
    | nil => exact ⟨rfl, (List.cons.inj heq).2⟩
    | plain _ hquote _ _ => exact absurd (List.cons.inj heq).1.symm hquote
    | escape _ _ => exact absurd (List.cons.inj heq).1 (by decide)
    | unicode _ _ _ _ _ => exact absurd (List.cons.inj heq).1 (by decide)
  | @plain b rest _ hquote hbackslash _ ih =>
    cases h' with
    | nil => exact absurd (List.cons.inj heq).1 hquote
    | plain _ _ _ hrest =>
      obtain ⟨rfl, htail⟩ := List.cons.inj heq
      obtain ⟨rfl, hr⟩ := ih hrest htail
      exact ⟨rfl, hr⟩
    | escape _ _ => exact absurd (List.cons.inj heq).1 hbackslash
    | unicode _ _ _ _ _ => exact absurd (List.cons.inj heq).1 hbackslash
  | @escape b rest hb _ ih =>
    cases h' with
    | nil => exact absurd (List.cons.inj heq).1 (by decide)
    | plain _ _ hbackslash _ => exact absurd (List.cons.inj heq).1.symm hbackslash
    | escape _ hrest =>
      obtain ⟨rfl, htail⟩ := List.cons.inj (List.cons.inj heq).2
      obtain ⟨rfl, hr⟩ := ih hrest htail
      exact ⟨rfl, hr⟩
    | unicode _ _ _ _ _ =>
      rw [(List.cons.inj (List.cons.inj heq).2).1] at hb
      exact absurd hb (by decide)
  | @unicode a b c d rest _ _ _ _ _ ih =>
    cases h' with
    | nil => exact absurd (List.cons.inj heq).1 (by decide)
    | plain _ _ hbackslash _ => exact absurd (List.cons.inj heq).1.symm hbackslash
    | escape hb _ =>
      rw [← (List.cons.inj (List.cons.inj heq).2).1] at hb
      exact absurd hb (by decide)
    | unicode _ _ _ _ hrest =>
      simp only [cons_append, List.cons.injEq, true_and] at heq
      obtain ⟨rfl, rfl, rfl, rfl, htail⟩ := heq
      obtain ⟨rfl, hr⟩ := ih hrest htail
      exact ⟨rfl, hr⟩

lemma quoted_unique (h : StringBody body) (h' : StringBody body')
    (heq : quoted body ++ r = quoted body' ++ r') : body = body' ∧ r = r' := by
  simp only [quoted, cons_append, append_assoc, List.cons.injEq, true_and, nil_append] at heq
  exact h.unique h' heq

/-! ## How a part begins -/

def isStart (b : UInt8) : Bool := isScalarByte b || b == quote || b == opener false || b == opener true

lemma isStart_of_isBlank (h : isBlank b = true) : isStart b = false := by
  simp only [isBlank, Bool.or_eq_true, beq_iff_eq] at h
  rcases h with ((rfl | rfl) | rfl) | rfl <;> decide

lemma isScalarByte_of_isBlank (h : isBlank b = true) : isScalarByte b = false := by
  have hstart := isStart_of_isBlank h
  simp only [isStart, Bool.or_eq_false_iff] at hstart
  exact hstart.1.1.1

lemma isBlank_of_isStart (h : isStart b = true) : isBlank b = false := by
  by_contra hblank
  rw [isStart_of_isBlank (by simpa using hblank)] at h
  cases h

lemma isStart_opener : isStart (opener keyed) = true := by cases keyed <;> decide

lemma isStart_closer : isStart (closer keyed) = false := by cases keyed <;> decide

lemma isBlank_closer : isBlank (closer keyed) = false := by cases keyed <;> decide

section Start
variable {ε : Type} (f : ε → Bytes)
lemma scalar_cons {chars} (h : isScalar chars = true) : ∃ b rest, chars = b :: rest ∧ isScalarByte b = true := by
  obtain ⟨b, rest, rfl⟩ := exists_cons_of_ne_nil (isScalar_ne_nil h)
  exact ⟨b, rest, rfl, isScalar_bytes h b (mem_cons_self ..)⟩

lemma Value.text_cons (v : Value ε) : ∃ b rest, v.text f = b :: rest ∧ isStart b = true := by
  cases v with
  | scalar chars valid =>
    obtain ⟨b, rest, rfl, hb⟩ := scalar_cons valid
    exact ⟨b, rest, rfl, by simp [isStart, hb]⟩
  | string body valid => exact ⟨quote, body ++ [quote], rfl, rfl⟩
  | empty keyed blank => exact ⟨opener keyed, _, rfl, isStart_opener keyed⟩
  | container keyed members => exact ⟨opener keyed, _, rfl, isStart_opener keyed⟩

/-- A member begins with its key or its value. -/
lemma Label.text_append_cons {keyed} (label : Label keyed) (v : Value ε) :
    ∃ b rest, label.text ++ v.text f = b :: rest ∧ isStart b = true := by
  cases label with
  | item => exact v.text_cons f
  | key body valid before after => exact ⟨quote, _, rfl, rfl⟩

end Start
open Value Members
section Strict
variable {ε ε' : Type} (v : Value ε)
def Value.strict : Bytes := v.text fun _ => []

def Members.strict {keyed : Bool} (m : Members ε keyed) : Bytes := m.text fun _ => []

lemma delimited_blank (w : Blank) {b} (hb : isScalarByte b = false) (r : Bytes) : Delimited (w.1 ++ b :: r) := by
  obtain ⟨w, hw⟩ := w
  cases w with
  | nil =>
    rintro c ⟨⟩
    exact hb
  | cons d w =>
    rintro c ⟨⟩
    exact isScalarByte_of_isBlank (hw d (mem_cons_self ..))

lemma blank_unique {w w' : Blank} {b b' : UInt8} (hb : isBlank b = false) (hb' : isBlank b' = false) {r r' : Bytes}
    (h : w.1 ++ b :: r = w'.1 ++ b' :: r') : b :: r = b' :: r' := by
  refine (append_eq_of_all w.2 w'.2 ?_ ?_ h).2
  · rintro c ⟨⟩
    exact hb
  · rintro c ⟨⟩
    exact hb'

variable {keyed : Bool}
lemma Label.unique (l l' : Label keyed) {r r'} (hr : ∀ b ∈ r.head?, isBlank b = false)
    (hr' : ∀ b ∈ r'.head?, isBlank b = false) (h : l.text ++ r = l'.text ++ r') : l.name = l'.name ∧ r = r' := by
  cases l with
  | item =>
    cases l' with
    | item => exact ⟨rfl, h⟩
  | key body valid before after =>
    cases l' with
    | key body' valid' before' after' =>
      simp only [Label.text, append_assoc, cons_append] at h
      obtain ⟨rfl, hrest⟩ := quoted_unique valid valid' h
      have hcolon := blank_unique (by decide) (by decide) hrest
      exact ⟨rfl, (append_eq_of_all after.2 after'.2 hr hr' (List.cons.inj hcolon).2).2⟩

/-- The text after a value begins with white space, a comma or a closer. -/
lemma delimited_closer (w : Blank) (keyed : Bool) (r : Bytes) : Delimited (w.1 ++ closer keyed :: r) :=
  delimited_blank w (by cases keyed <;> decide) r

lemma delimited_comma (w : Blank) {r : Bytes} : Delimited (w.1 ++ comma :: r) := delimited_blank w (by decide) r

lemma Value.head_not_blank (r : Bytes) : ∀ b ∈ (v.strict ++ r).head?, isBlank b = false := by
  intro b hb
  obtain ⟨c, rest, hc, hstart⟩ := v.text_cons (fun _ : ε => [])
  rw [Value.strict, hc] at hb
  obtain rfl : c = b := Option.some.inj hb
  exact isBlank_of_isStart hstart

lemma Label.head_not_blank (label : Label keyed) (v : Value ε) (r : Bytes) :
    ∀ b ∈ (label.text ++ (v.strict ++ r)).head?, isBlank b = false := by
  intro b hb
  obtain ⟨c, rest, hc, hstart⟩ := label.text_append_cons (fun _ : ε => []) v
  rw [← append_assoc, Value.strict, hc] at hb
  obtain rfl : c = b := Option.some.inj hb
  exact isBlank_of_isStart hstart

/-- One member, given that its value has one reading. -/
lemma member_unique {before before' : Blank} {label label' : Label keyed} {value : Value ε} {value' : Value ε'}
    {t t' : Bytes} (ih : value.strict ++ t = value'.strict ++ t' → value.tree = value'.tree ∧ t = t')
    (h : before.1 ++ (label.text ++ (value.strict ++ t)) = before'.1 ++ (label'.text ++ (value'.strict ++ t'))) :
    (label.name, value.tree) = (label'.name, value'.tree) ∧ t = t' := by
  obtain ⟨-, hlabel⟩ := append_eq_of_all before.2 before'.2 (label.head_not_blank value t)
    (label'.head_not_blank value' t') h
  obtain ⟨hname, hrest⟩ := label.unique label' (value.head_not_blank t) (value'.head_not_blank t') hlabel
  obtain ⟨htree, ht⟩ := ih hrest
  exact ⟨by rw [hname, htree], ht⟩

lemma Value.strict_scalar (chars : Bytes) (valid : isScalar chars = true) :
    (scalar chars valid : Value ε).strict = chars := rfl

lemma Value.strict_string (body : Bytes) (valid : StringBody body) :
    (string body valid : Value ε).strict = quoted body := rfl

lemma Value.strict_empty (keyed : Bool) (blank : Blank) (r : Bytes) :
    (Value.empty keyed blank : Value ε).strict ++ r = opener keyed :: (blank.1 ++ closer keyed :: r) :=
  congrArg (opener keyed :: ·) (append_assoc ..)

lemma Value.strict_container (keyed : Bool) (m : Members ε keyed) (r : Bytes) :
    (container keyed m).strict ++ r = opener keyed :: (m.strict ++ closer keyed :: r) :=
  congrArg (opener keyed :: ·) (append_assoc ..)

variable (before : Blank)
lemma Members.strict_last (label : Label keyed) (value : Value ε) (extra : ε) (after : Blank)
    (r : Bytes) : (last before label value extra after).strict ++ r =
      before.1 ++ (label.text ++ (value.strict ++ (after.1 ++ r))) := by
  show before.1 ++ label.text ++ value.strict ++ [] ++ after.1 ++ r = _
  simp only [append_assoc, nil_append]

lemma Members.strict_cons (label : Label keyed) (value : Value ε) (after : Blank)
    (rest : Members ε keyed) (r : Bytes) : (Members.cons before label value after rest).strict ++ r =
      before.1 ++ (label.text ++ (value.strict ++ (after.1 ++ comma :: (rest.strict ++ r)))) := by
  show before.1 ++ label.text ++ value.strict ++ after.1 ++ comma :: rest.strict ++ r = _
  simp only [append_assoc, cons_append]

lemma Members.strict_ne_empty (m : Members ε keyed) (blank : Blank) (r r' : Bytes) :
    m.strict ++ r ≠ blank.1 ++ closer keyed :: r' := by
  have hmember : ∀ (before : Blank) (label : Label keyed) (value : Value ε) (t : Bytes),
      before.1 ++ (label.text ++ (value.strict ++ t)) ≠ blank.1 ++ closer keyed :: r' := by
    intro before label value t h
    obtain ⟨b, rest, hb, hstart⟩ := label.text_append_cons (fun _ : ε => []) value
    rw [Value.strict, ← append_assoc label.text, hb] at h
    obtain ⟨rfl, -⟩ := List.cons.inj (blank_unique (isBlank_of_isStart hstart) (isBlank_closer keyed) h)
    rw [isStart_closer] at hstart
    cases hstart
  cases m with
  | last before label value extra after =>
    rw [strict_last]
    exact hmember before label value _
  | cons before label value after rest =>
    rw [strict_cons]
    exact hmember before label value _

/-! The first byte of a value tells its kind. -/

inductive Kind where
  | scalar
  | string
  | container (keyed : Bool)

def Kind.ofByte (b : UInt8) : Kind :=
  if b = quote then .string
  else if b = opener false then .container false
  else if b = opener true then .container true
  else .scalar

def Value.kind : Value ε → Kind
  | .scalar .. => .scalar
  | .string .. => .string
  | .empty keyed _ | .container keyed _ => .container keyed

lemma Kind.ofByte_opener (keyed : Bool) : Kind.ofByte (opener keyed) = .container keyed := by
  cases keyed <;> rfl

lemma Kind.ofByte_scalar {b} (h : isScalarByte b = true) : Kind.ofByte b = .scalar := by
  have hne : ∀ c, isScalarByte c = false → b ≠ c := by
    rintro c hc rfl
    rw [h] at hc
    cases hc
  rw [Kind.ofByte, if_neg (hne _ (by decide)), if_neg (hne _ (by decide)), if_neg (hne _ (by decide))]

lemma Value.strict_kind (v : Value ε) (r : Bytes) : ∃ b rest, v.strict ++ r = b :: rest ∧ Kind.ofByte b = v.kind := by
  cases v with
  | scalar chars valid =>
    obtain ⟨b, rest, rfl, hb⟩ := scalar_cons valid
    exact ⟨b, rest ++ r, by rw [strict_scalar, cons_append], Kind.ofByte_scalar hb⟩
  | string body valid => exact ⟨quote, _, by rw [strict_string, quoted, cons_append, cons_append], rfl⟩
  | empty keyed blank => exact ⟨opener keyed, _, strict_empty keyed blank r, Kind.ofByte_opener keyed⟩
  | container keyed members => exact ⟨opener keyed, _, strict_container keyed members r, Kind.ofByte_opener keyed⟩

lemma Value.kind_eq {v : Value ε} {v' : Value ε'} {r r'} (h : v.strict ++ r = v'.strict ++ r') : v.kind = v'.kind := by
  obtain ⟨b, rest, hb, hkind⟩ := v.strict_kind r
  obtain ⟨b', rest', hb', hkind'⟩ := v'.strict_kind r'
  rw [hb, hb'] at h
  obtain ⟨rfl, -⟩ := List.cons.inj h
  rw [← hkind, ← hkind']

mutual

lemma Value.strict_unique : (v : Value ε) → (v' : Value ε') → (r r' : Bytes) → Delimited r → Delimited r' →
    v.strict ++ r = v'.strict ++ r' → v.tree = v'.tree ∧ r = r'
  | .scalar chars valid, v', r, r', hr, hr', h => by
    have hkind := kind_eq h
    cases v' with
    | scalar chars' valid' =>
      rw [strict_scalar, strict_scalar] at h
      obtain ⟨rfl, hrest⟩ := append_eq_of_all (isScalar_bytes valid) (isScalar_bytes valid') hr hr' h
      exact ⟨rfl, hrest⟩
    | string | empty | container => cases hkind
  | .string body valid, v', r, r', hr, hr', h => by
    have hkind := kind_eq h
    cases v' with
    | string body' valid' =>
      rw [strict_string, strict_string] at h
      obtain ⟨rfl, hrest⟩ := quoted_unique valid valid' h
      exact ⟨rfl, hrest⟩
    | scalar | empty | container => cases hkind
  | .empty keyed blank, v', r, r', hr, hr', h => by
    have hkind := kind_eq h
    rw [strict_empty] at h
    cases v' with
    | scalar | string => cases hkind
    | empty keyed' blank' =>
      cases hkind
      rw [strict_empty] at h
      have hrest := blank_unique (isBlank_closer keyed) (isBlank_closer keyed) (List.cons.inj h).2
      exact ⟨rfl, (List.cons.inj hrest).2⟩
    | container keyed' members' =>
      cases hkind
      rw [strict_container] at h
      exact absurd (List.cons.inj h).2.symm (members'.strict_ne_empty blank _ r)
  | .container keyed members, v', r, r', hr, hr', h => by
    have hkind := kind_eq h
    rw [strict_container] at h
    cases v' with
    | scalar | string => cases hkind
    | empty keyed' blank' =>
      cases hkind
      rw [strict_empty] at h
      exact absurd (List.cons.inj h).2 (members.strict_ne_empty blank' _ r')
    | container keyed' members' =>
      cases hkind
      rw [strict_container] at h
      obtain ⟨htrees, hr⟩ := Members.strict_unique members members' r r' (List.cons.inj h).2
      exact ⟨by rw [tree, tree, htrees], hr⟩

lemma Members.strict_unique {keyed : Bool} : (m : Members ε keyed) → (m' : Members ε' keyed) → (r r' : Bytes) →
    m.strict ++ closer keyed :: r = m'.strict ++ closer keyed :: r' → m.trees = m'.trees ∧ r = r'
  | .last before label value extra after, m', r, r', h => by
    rw [strict_last] at h
    cases m' with
    | last before' label' value' extra' after' =>
      rw [strict_last] at h
      obtain ⟨hmember, hafter⟩ := member_unique (Value.strict_unique value value' _ _ (delimited_closer after keyed r)
        (delimited_closer after' keyed r')) h
      refine ⟨by rw [trees, trees, hmember], ?_⟩
      exact (List.cons.inj (blank_unique (isBlank_closer keyed) (isBlank_closer keyed) hafter)).2
    | cons before' label' value' after' rest' =>
      rw [strict_cons] at h
      obtain ⟨-, hafter⟩ := member_unique (Value.strict_unique value value' _ _ (delimited_closer after keyed r)
        (delimited_comma after')) h
      have hcomma := (List.cons.inj (blank_unique (isBlank_closer keyed) (by decide) hafter)).1
      exact absurd hcomma (by cases keyed <;> decide)
  | .cons before label value after rest, m', r, r', h => by
    rw [strict_cons] at h
    cases m' with
    | last before' label' value' extra' after' =>
      rw [strict_last] at h
      obtain ⟨-, hafter⟩ := member_unique (Value.strict_unique value value' _ _ (delimited_comma after)
        (delimited_closer after' keyed r')) h
      have hcomma := (List.cons.inj (blank_unique (by decide) (isBlank_closer keyed) hafter)).1
      exact absurd hcomma (by cases keyed <;> decide)
    | cons before' label' value' after' rest' =>
      rw [strict_cons] at h
      obtain ⟨hmember, hafter⟩ := member_unique (Value.strict_unique value value' _ _ (delimited_comma after)
        (delimited_comma after')) h
      have hrest := (List.cons.inj (blank_unique (by decide) (by decide) hafter)).2
      obtain ⟨htrees, hr⟩ := Members.strict_unique rest rest' r r' hrest
      exact ⟨by rw [trees, trees, hmember, htrees], hr⟩

end
end Strict

section Extras
variable {ε : Type}

mutual

def Value.extras : Value ε → List ε
  | .scalar _ _ | .string _ _ | .empty _ _ => []
  | .container _ members => members.extras

def Members.extras {keyed : Bool} : Members ε keyed → List ε
  | .last _ _ value extra _ => value.extras ++ [extra]
  | .cons _ _ value _ rest => value.extras ++ rest.extras

end

variable (f : ε → Bytes)

mutual

/-- White space in these places is white space of a JSON text. -/
lemma Value.exists_strict : (v : Value ε) → (∀ e ∈ v.extras, ∀ b ∈ f e, isBlank b = true) →
    ∃ v' : Value Unit, v'.strict = v.text f ∧ v'.tree = v.tree
  | .scalar chars valid, _ => ⟨.scalar chars valid, by simp [Value.strict, Value.text], rfl⟩
  | .string body valid, _ => ⟨.string body valid, by simp [Value.strict, Value.text], rfl⟩
  | .empty keyed blank, _ => ⟨.empty keyed blank, by simp [Value.strict, Value.text], rfl⟩
  | .container keyed members, h => by
    obtain ⟨members', htext, htrees⟩ := Members.exists_strict members (by simpa [Value.extras] using h)
    refine ⟨.container keyed members', ?_, by rw [tree, tree, htrees]⟩
    simp only [Value.strict, Value.text]
    rw [← htext, Members.strict]

lemma Members.exists_strict {keyed} : (m : Members ε keyed) → (∀ e ∈ m.extras, ∀ b ∈ f e, isBlank b = true) →
    ∃ m' : Members Unit keyed, m'.strict = m.text f ∧ m'.trees = m.trees
  | .last before label value extra after, h => by
    simp only [Members.extras, forall_mem_append, forall_mem_singleton] at h
    obtain ⟨value', htext, htree⟩ := Value.exists_strict value h.1
    refine ⟨.last before label value' () ⟨f extra ++ after.1, forall_mem_append.2 ⟨h.2, after.2⟩⟩, ?_, ?_⟩
    · simp only [Members.strict, Members.text, ← htext, Value.strict, append_assoc, nil_append]
    · simp only [trees, htree]
  | .cons before label value after rest, h => by
    simp only [Members.extras, forall_mem_append] at h
    obtain ⟨value', htext, htree⟩ := Value.exists_strict value h.1
    obtain ⟨rest', hrest, htrees⟩ := Members.exists_strict rest h.2
    refine ⟨.cons before label value' after rest', ?_, ?_⟩
    · simp only [Members.strict, Members.text, ← htext, ← hrest, Value.strict]
    · simp only [trees, htree, htrees]

end

mutual

lemma Value.mem_text_of_extra : (v : Value ε) → ∀ e ∈ v.extras, ∀ b ∈ f e, b ∈ v.text f
  | .scalar .., _, he, _, _ | .string .., _, he, _, _ | .empty .., _, he, _, _ => by simp [Value.extras] at he
  | .container keyed members, e, he, b, hb => by
    have hmem := Members.mem_text_of_extra members e (by simpa [Value.extras] using he) b hb
    simp [Value.text, hmem]

lemma Members.mem_text_of_extra {keyed} : (m : Members ε keyed) → ∀ e ∈ m.extras, ∀ b ∈ f e, b ∈ m.text f
  | .last before label value extra after, e, he, b, hb => by
    rw [Members.extras, mem_append, mem_singleton] at he
    rcases he with he | rfl
    · have hmem := Value.mem_text_of_extra value e he b hb
      simp [Members.text, hmem]
    · simp [Members.text, hb]
  | .cons before label value after rest, e, he, b, hb => by
    rw [Members.extras, mem_append] at he
    rcases he with he | he
    · have hmem := Value.mem_text_of_extra value e he b hb
      simp [Members.text, hmem]
    · have hmem := Members.mem_text_of_extra rest e he b hb
      simp [Members.text, hmem]

end
end Extras

/-! ## The bytes of a text -/

def isTextByte (b : UInt8) : Bool := 32 ≤ b || isBlank b

lemma isTextByte_of_le (h : 32 ≤ b) : isTextByte b = true := by simp [isTextByte, h]

lemma isTextByte_of_isBlank (h : isBlank b = true) : isTextByte b = true := by simp [isTextByte, h]

lemma isTextByte_of_isScalarByte (h : isScalarByte b = true) : isTextByte b = true := by
  apply isTextByte_of_le
  simp only [isScalarByte, isDigit, Bool.or_eq_true, Bool.and_eq_true, decide_eq_true_eq, beq_iff_eq] at h
  rcases h with ((((h | h) | rfl) | rfl) | rfl) | rfl
  · exact UInt8.le_trans (by decide) h.1
  · exact UInt8.le_trans (by decide) h.1
  · decide
  · decide
  · decide
  · decide

lemma isTextByte_of_isHex (h : isHex b = true) : isTextByte b = true := by
  apply isTextByte_of_le
  simp only [isHex, isDigit, Bool.or_eq_true, Bool.and_eq_true, decide_eq_true_eq] at h
  rcases h with (h | h) | h
  · exact UInt8.le_trans (by decide) h.1
  · exact UInt8.le_trans (by decide) h.1
  · exact UInt8.le_trans (by decide) h.1

lemma StringBody.isTextByte {body} (h : StringBody body) : ∀ b ∈ body, isTextByte b = true := by
  induction h with
  | nil => exact nofun
  | plain hb _ _ _ ih => exact forall_mem_cons.2 ⟨isTextByte_of_le hb, ih⟩
  | @escape b rest hb _ ih =>
    have hall : [quote, backslash, 47, 98, 102, 110, 114, 116].all JsonSyntax.isTextByte = true := rfl
    exact forall_mem_cons.2 ⟨rfl, forall_mem_cons.2 ⟨all_eq_true.1 hall b hb, ih⟩⟩
  | unicode ha hb hc hd _ ih =>
    simp only [forall_mem_cons]
    exact ⟨rfl, rfl, isTextByte_of_isHex ha, isTextByte_of_isHex hb, isTextByte_of_isHex hc, isTextByte_of_isHex hd, ih⟩

lemma Blank.isTextByte (w : Blank) : ∀ b ∈ w.1, isTextByte b = true := fun b hb => isTextByte_of_isBlank (w.2 b hb)

lemma quoted_isTextByte {body} (h : StringBody body) : ∀ b ∈ quoted body, isTextByte b = true := by
  rw [quoted, cons_append, forall_mem_cons, forall_mem_append, forall_mem_singleton]
  exact ⟨rfl, h.isTextByte, rfl⟩

lemma Label.isTextByte {keyed} (label : Label keyed) : ∀ b ∈ label.text, isTextByte b = true := by
  cases label with
  | item => exact nofun
  | key body valid before after =>
    rw [Label.text, forall_mem_append, forall_mem_append, forall_mem_cons]
    exact ⟨⟨quoted_isTextByte valid, before.isTextByte⟩, rfl, after.isTextByte⟩

lemma isTextByte_opener : isTextByte (opener keyed) = true := by cases keyed <;> decide

lemma isTextByte_closer : isTextByte (closer keyed) = true := by cases keyed <;> decide

section Text
variable {ε : Type} (f : ε → Bytes)

mutual

/-- Another byte stands in one of the places after the last members. -/
lemma Value.mem_text : (v : Value ε) → ∀ b ∈ v.text f, isTextByte b = true ∨ ∃ e ∈ v.extras, b ∈ f e
  | .scalar chars valid, b, hb => by
    rw [Value.text] at hb
    exact .inl (isTextByte_of_isScalarByte (isScalar_bytes valid b hb))
  | .string body valid, b, hb => by
    rw [Value.text] at hb
    exact .inl (quoted_isTextByte valid b hb)
  | .empty keyed blank, b, hb => by
    rw [Value.text, cons_append, mem_cons, mem_append, mem_singleton] at hb
    rcases hb with rfl | hb | rfl
    · exact .inl (isTextByte_opener keyed)
    · exact .inl (blank.isTextByte b hb)
    · exact .inl (isTextByte_closer keyed)
  | .container keyed members, b, hb => by
    rw [Value.text, cons_append, mem_cons, mem_append, mem_singleton] at hb
    rcases hb with rfl | hb | rfl
    · exact .inl (isTextByte_opener keyed)
    · rw [Value.extras]
      exact Members.mem_text members b hb
    · exact .inl (isTextByte_closer keyed)

lemma Members.mem_text {keyed} : (m : Members ε keyed) → ∀ b ∈ m.text f, isTextByte b = true ∨ ∃ e ∈ m.extras, b ∈ f e
  | .last before label value extra after, b, hb => by
    simp only [Members.text, mem_append] at hb
    rw [Members.extras]
    rcases hb with (((hb | hb) | hb) | hb) | hb
    · exact .inl (before.isTextByte b hb)
    · exact .inl (label.isTextByte b hb)
    · exact (Value.mem_text value b hb).imp_right fun ⟨e, he, hbe⟩ => ⟨e, mem_append_left _ he, hbe⟩
    · exact .inr ⟨extra, mem_append_right _ (mem_singleton_self extra), hb⟩
    · exact .inl (after.isTextByte b hb)
  | .cons before label value after rest, b, hb => by
    simp only [Members.text, mem_append, mem_cons] at hb
    rw [Members.extras]
    rcases hb with (((hb | hb) | hb) | hb) | rfl | hb
    · exact .inl (before.isTextByte b hb)
    · exact .inl (label.isTextByte b hb)
    · exact (Value.mem_text value b hb).imp_right fun ⟨e, he, hbe⟩ => ⟨e, mem_append_left _ he, hbe⟩
    · exact .inl (after.isTextByte b hb)
    · exact .inl rfl
    · exact (Members.mem_text rest b hb).imp_right fun ⟨e, he, hbe⟩ => ⟨e, mem_append_right _ he, hbe⟩

end
end Text

/-! ## Documents -/

structure Document (ε : Type) where
  before : Blank
  value : Value ε
  after : Blank

namespace Document
variable {ε ε' : Type}
def text (f : ε → Bytes) (d : Document ε) : Bytes := d.before.1 ++ d.value.text f ++ d.after.1

variable (d : Document ε)
def strict : Bytes := d.text fun _ => []

lemma strict_unique {d : Document ε} {d' : Document ε'} (h : d.strict = d'.strict) : d.value.tree = d'.value.tree := by
  simp only [strict, text, append_assoc] at h
  obtain ⟨-, hrest⟩ := append_eq_of_all d.before.2 d'.before.2 (d.value.head_not_blank _) (d'.value.head_not_blank _) h
  have hdelimited : ∀ w : Blank, Delimited w.1 := fun w b hb => isScalarByte_of_isBlank (w.2 b (mem_of_head? hb))
  exact (d.value.strict_unique d'.value _ _ (hdelimited d.after) (hdelimited d'.after) hrest).1

lemma exists_strict (f : ε → Bytes) (d : Document ε) (h : ∀ e ∈ d.value.extras, ∀ b ∈ f e, isBlank b = true) :
    ∃ d' : Document Unit, d'.strict = d.text f ∧ d'.value.tree = d.value.tree := by
  obtain ⟨v, htext, htree⟩ := d.value.exists_strict f h
  exact ⟨⟨d.before, v, d.after⟩, by rw [strict, text, text, ← htext, Value.strict], htree⟩

/-- The bytes that are not of JSON are those of the extra parts. -/
lemma mem_text_iff {f} {d : Document ε} {b} (hb : isTextByte b = false) :
    b ∈ d.text f ↔ ∃ e ∈ d.value.extras, b ∈ f e := by
  constructor
  · intro hmem
    have hblank : ∀ w : Blank, b ∉ w.1 := by
      intro w hw
      rw [w.isTextByte b hw] at hb
      cases hb
    simp only [text, mem_append, hblank, or_false, false_or] at hmem
    exact (d.value.mem_text f b hmem).resolve_left (by rw [hb]; exact Bool.false_ne_true)
  · rintro ⟨e, he, hbe⟩
    rw [text, mem_append, mem_append]
    exact .inl (.inr (d.value.mem_text_of_extra f e he b hbe))

lemma not_mem_strict {b : UInt8} (hb : isTextByte b = false) : b ∉ d.strict := by
  rw [strict, mem_text_iff hb]
  rintro ⟨e, -, h⟩
  cases h

end Document
open Classical in
noncomputable def parse (text : Bytes) : Option Tree :=
  if h : ∃ d : Document Unit, d.strict = text then some h.choose.value.tree else none

lemma parse_strict {ε : Type} (d : Document ε) : parse d.strict = some d.value.tree := by
  obtain ⟨d', hstrict, htree⟩ := d.exists_strict (fun _ => []) nofun
  have h : ∃ d' : Document Unit, d'.strict = d.strict := ⟨d', hstrict⟩
  rw [parse, dif_pos h, Document.strict_unique h.choose_spec]

lemma parse_eq_none {text} (h : ∀ d : Document Unit, d.strict ≠ text) : parse text = none := by
  rw [parse, dif_neg]
  rintro ⟨d, hd⟩
  exact h d hd

end JsonSyntax
