import Roz.Lib.JsonSyntax

/-!
# Repair of JSON texts (`roz-core/src/json_repair.rs`)

`fix_trailing_commas` runs over the bytes of a text once, with a state that says whether it is in
a string literal, and drops a comma outside if the next byte after white space closes an array or
an object (`literalBytes_fixLoop`, `fixLoop_fixLoop_iff`, `parse_fixLoop_iff`).

A form feed is white space of `is_ascii_whitespace`, and is none of JSON.
-/

namespace Roz.Core
open JsonSyntax List

/-! ## String literals -/

structure Scan where
  inString : Bool
  escaped : Bool
  deriving DecidableEq

namespace Scan

def start : Scan := ⟨false, false⟩

def step (s : Scan) (c : UInt8) : Scan :=
  if s.inString then
    if s.escaped then { s with escaped := false }
    else if c = backslash then { s with escaped := true }
    else if c = quote then { s with inString := false }
    else s
  else if c = quote then { s with inString := true }
  else s

def run (s : Scan) (text : Bytes) : Scan := text.foldl step s

end Scan

def isAsciiWhitespace (b : UInt8) : Bool := b == 9 || b == 10 || b == 12 || b == 13 || b == 32

def isCloser (b : UInt8) : Bool := b == 125 || b == 93

def closesNext (rest : Bytes) : Bool := (rest.dropWhile isAsciiWhitespace).head?.any isCloser

def fixLoop (s : Scan) : Bytes → Bytes
  | [] => []
  | c :: rest =>
    if s.inString = false ∧ c = comma ∧ closesNext rest = true then fixLoop s rest
    else c :: fixLoop (s.step c) rest

def utf8 (text : String) : Bytes := text.toByteArray.data.toList

def fromUtf8 (bytes : Bytes) : Option String := String.fromUTF8? ⟨bytes.toArray⟩

def fixTrailingCommas (input : String) : String := (fromUtf8 (fixLoop .start (utf8 input))).getD input

lemma step_outside {s : Scan} (h : s.inString = false) {c : UInt8} (hc : c ≠ quote) : s.step c = s := by
  rw [Scan.step, h, if_neg Bool.false_ne_true, if_neg hc]

lemma step_comma {s : Scan} (h : s.inString = false) : s.step comma = s := step_outside h (by decide)

lemma fixLoop_append {a} (ha : comma ∉ a) (s : Scan) (rest : Bytes) :
    fixLoop s (a ++ rest) = a ++ fixLoop (s.run a) rest := by
  induction a generalizing s with
  | nil => rfl
  | cons c a ih =>
    rw [mem_cons, not_or] at ha
    rw [cons_append, fixLoop, if_neg (fun h => ha.1 h.2.1.symm), ih ha.2]
    rfl

def literalBytes (s : Scan) : Bytes → Bytes
  | [] => []
  | c :: rest =>
    if s.inString = true ∨ c = quote then c :: literalBytes (s.step c) rest else literalBytes (s.step c) rest

variable (s : Scan) {b : UInt8} (text : Bytes)
lemma literalBytes_fixLoop : literalBytes s (fixLoop s text) = literalBytes s text := by
  induction text generalizing s with
  | nil => rfl
  | cons c rest ih =>
    rw [fixLoop]
    split
    · rename_i hdrop
      obtain ⟨hout, rfl, -⟩ := hdrop
      have hquote : ¬ (s.inString = true ∨ comma = quote) := by
        rw [hout]
        decide
      rw [ih, literalBytes, if_neg hquote, step_comma hout]
    · rw [literalBytes, literalBytes, ih]

/-! ## A second run -/

def Trailing (s : Scan) (text : Bytes) : Prop :=
  ∃ before after, text = before ++ comma :: after ∧ (s.run before).inString = false ∧ closesNext after = true

def TrailsNext (text : Bytes) : Prop :=
  ∃ blank after, text = blank ++ comma :: after ∧ (∀ b ∈ blank, isAsciiWhitespace b = true) ∧ closesNext after = true

/-- Two commas outside string literals, with nothing but white space between them, and a closer
after them. -/
def DoubleComma (s : Scan) (text : Bytes) : Prop :=
  ∃ before after, text = before ++ comma :: after ∧ (s.run before).inString = false ∧ TrailsNext after

variable {c : UInt8} {rest : Bytes}
lemma exists_comma_cons_iff {P : Bytes → Prop} {s : Scan} :
    (∃ before after, c :: rest = before ++ comma :: after ∧ (s.run before).inString = false ∧ P after) ↔
      (s.inString = false ∧ c = comma ∧ P rest) ∨
        ∃ before after, rest = before ++ comma :: after ∧ ((s.step c).run before).inString = false ∧ P after := by
  constructor
  · rintro ⟨before, after, htext, hout, hafter⟩
    cases before with
    | nil =>
      obtain ⟨rfl, rfl⟩ := List.cons.inj htext
      exact .inl ⟨hout, rfl, hafter⟩
    | cons d before =>
      obtain ⟨rfl, rfl⟩ := List.cons.inj htext
      exact .inr ⟨before, after, rfl, hout, hafter⟩
  · rintro (⟨hout, rfl, hrest⟩ | ⟨before, after, rfl, hout, hafter⟩)
    · exact ⟨[], rest, rfl, hout, hrest⟩
    · exact ⟨c :: before, after, rfl, hout, hafter⟩

lemma closesNext_cons (b : UInt8) (rest : Bytes) :
    closesNext (b :: rest) = if isAsciiWhitespace b then closesNext rest else isCloser b := by
  by_cases hb : isAsciiWhitespace b = true
  · rw [if_pos hb, closesNext, dropWhile_cons_of_pos hb]
    rfl
  · rw [if_neg hb, closesNext, dropWhile_cons_of_neg hb]
    rfl

lemma closesNext_append {blank} (h : ∀ b ∈ blank, isAsciiWhitespace b = true)
    (hb : isAsciiWhitespace b = false) (rest : Bytes) : closesNext (blank ++ b :: rest) = isCloser b := by
  rw [closesNext, dropWhile_append_of_pos h, dropWhile_cons_of_neg (by simp [hb])]
  rfl

lemma trailsNext_cons :
    TrailsNext (b :: rest) ↔ (isAsciiWhitespace b = true ∧ TrailsNext rest) ∨ (b = comma ∧ closesNext rest = true) := by
  constructor
  · rintro ⟨blank, after, htext, hblank, hafter⟩
    cases blank with
    | nil =>
      obtain ⟨rfl, rfl⟩ := List.cons.inj htext
      exact .inr ⟨rfl, hafter⟩
    | cons d blank =>
      obtain ⟨rfl, rfl⟩ := List.cons.inj htext
      rw [forall_mem_cons] at hblank
      exact .inl ⟨hblank.1, blank, after, rfl, hblank.2, hafter⟩
  · rintro (⟨hb, blank, after, rfl, hblank, hafter⟩ | ⟨rfl, hrest⟩)
    · exact ⟨b :: blank, after, rfl, forall_mem_cons.2 ⟨hb, hblank⟩, hafter⟩
    · exact ⟨[], rest, rfl, nofun, hrest⟩

lemma closesNext_fixLoop {s : Scan} (hout : s.inString = false) (text : Bytes) :
    closesNext (fixLoop s text) = true ↔ closesNext text = true ∨ TrailsNext text := by
  induction text with
  | nil =>
    constructor
    · intro h
      cases h
    · rintro (h | ⟨blank, after, h, -⟩)
      · cases h
      · simp at h
  | cons b rest ih =>
    rw [trailsNext_cons, fixLoop]
    by_cases hcomma : b = comma
    · subst hcomma
      have hclose : closesNext (comma :: rest) = false := by
        rw [closesNext_cons]
        rfl
      have hblank : isAsciiWhitespace comma = false := rfl
      by_cases hnext : closesNext rest = true
      · rw [if_pos ⟨hout, rfl, hnext⟩, ih, hnext]
        simp
      · rw [if_neg (fun h => hnext h.2.2), closesNext_cons]
        simp [hclose, hblank, hnext, show isCloser comma = false from rfl]
    · rw [if_neg (fun h => hcomma h.2.1), closesNext_cons, closesNext_cons]
      by_cases hblank : isAsciiWhitespace b = true
      · have hstep : s.step b = s := by
          refine step_outside hout ?_
          rintro rfl
          cases hblank
        simp only [hblank, if_true, hstep, ih, true_and, hcomma, false_and, or_false]
      · simp [hblank, hcomma]

lemma fixLoop_length_le : (fixLoop s text).length ≤ text.length := by
  induction text generalizing s with
  | nil => exact Nat.le_refl _
  | cons c rest ih =>
    rw [fixLoop]
    split
    · exact Nat.le_succ_of_le (ih s)
    · exact Nat.succ_le_succ (ih (s.step c))

lemma fixLoop_eq_self_iff : fixLoop s text = text ↔ ¬ Trailing s text := by
  induction text generalizing s with
  | nil => simp [fixLoop, Trailing]
  | cons c rest ih =>
    rw [Trailing, exists_comma_cons_iff, ← Trailing, fixLoop]
    split
    · rename_i hdrop
      have hlen : fixLoop s rest ≠ c :: rest := by
        intro h
        have := fixLoop_length_le s rest
        rw [h, length_cons] at this
        omega
      exact ⟨fun h => absurd h hlen, fun h => absurd (.inl hdrop) h⟩
    · rename_i hkeep
      rw [List.cons.injEq, ih, not_or]
      simp [hkeep]

lemma trailing_fixLoop_iff : Trailing s (fixLoop s text) ↔ DoubleComma s text := by
  induction text generalizing s with
  | nil => simp [fixLoop, Trailing, DoubleComma]
  | cons c rest ih =>
    rw [DoubleComma, exists_comma_cons_iff, ← DoubleComma, fixLoop]
    split
    · rename_i hdrop
      obtain ⟨hout, rfl, hnext⟩ := hdrop
      have hnot : ¬ TrailsNext rest := by
        rintro ⟨blank, after, rfl, hblank, -⟩
        rw [closesNext_append hblank rfl] at hnext
        cases hnext
      rw [ih, step_comma hout]
      simp [hnot]
    · rename_i hkeep
      rw [Trailing, exists_comma_cons_iff, ← Trailing, ih]
      refine or_congr_left (and_congr_right fun hout => and_congr_right fun hc => ?_)
      subst hc
      rw [step_comma hout, closesNext_fixLoop hout]
      exact or_iff_right fun hnext => hkeep ⟨hout, rfl, hnext⟩

lemma fixLoop_fixLoop_iff : fixLoop s (fixLoop s text) = fixLoop s text ↔ ¬ DoubleComma s text := by
  rw [fixLoop_eq_self_iff, trailing_fixLoop_iff]

/-! ## Documents with trailing commas -/

structure Extra where
  before : Bytes
  after : Bytes
  before_blank : ∀ b ∈ before, isAsciiWhitespace b = true
  after_blank : ∀ b ∈ after, isAsciiWhitespace b = true

def inserted : Option Extra → Bytes
  | none => []
  | some e => e.before ++ comma :: e.after

def remaining : Option Extra → Bytes
  | none => []
  | some e => e.before ++ e.after

lemma isAsciiWhitespace_of_isBlank (h : isBlank b = true) : isAsciiWhitespace b = true := by
  simp only [isBlank, Bool.or_eq_true, beq_iff_eq] at h
  rcases h with ((rfl | rfl) | rfl) | rfl <;> rfl

lemma isBlank_of_isAsciiWhitespace (h : isAsciiWhitespace b = true) (hb : b ≠ 12) : isBlank b = true := by
  simp only [isAsciiWhitespace, Bool.or_eq_true, beq_iff_eq] at h
  rcases h with (((rfl | rfl) | h) | rfl) | rfl
  · rfl
  · rfl
  · exact absurd h hb
  · rfl
  · rfl

lemma isStart_of_isAsciiWhitespace (h : isAsciiWhitespace b = true) : isStart b = false := by
  simp only [isAsciiWhitespace, Bool.or_eq_true, beq_iff_eq] at h
  rcases h with (((rfl | rfl) | rfl) | rfl) | rfl <;> decide

def Plain (a : Bytes) : Prop := ∀ b ∈ a, b ≠ quote ∧ b ≠ comma

lemma fixLoop_cons (hquote : c ≠ quote) (hcomma : c ≠ comma) (rest : Bytes) :
    fixLoop .start (c :: rest) = c :: fixLoop .start rest := by
  rw [fixLoop, if_neg (fun h => hcomma h.2.1), step_outside rfl hquote]

lemma fixLoop_plain {a} (ha : Plain a) (rest : Bytes) : fixLoop .start (a ++ rest) = a ++ fixLoop .start rest := by
  induction a with
  | nil => rfl
  | cons c a ih =>
    obtain ⟨hc, ha⟩ := forall_mem_cons.1 ha
    rw [cons_append, fixLoop_cons hc.1 hc.2, ih ha, cons_append]

lemma plain_blank {a} (h : ∀ b ∈ a, isAsciiWhitespace b = true) : Plain a := by
  intro b hb
  constructor
  · rintro rfl
    cases h _ hb
  · rintro rfl
    cases h _ hb

lemma plain_of_blank (w : Blank) : Plain w.1 := plain_blank fun b hb => isAsciiWhitespace_of_isBlank (w.2 b hb)

lemma plain_scalar {chars} (h : isScalar chars = true) : Plain chars := by
  intro b hb
  have hscalar := isScalar_bytes h b hb
  constructor
  · rintro rfl
    cases hscalar
  · rintro rfl
    cases hscalar

lemma opener_ne (keyed : Bool) : opener keyed ≠ quote ∧ opener keyed ≠ comma := by cases keyed <;> decide

lemma closer_ne (keyed : Bool) : closer keyed ≠ quote ∧ closer keyed ≠ comma := by cases keyed <;> decide

lemma fixLoop_inside (escaped : Bool) (c : UInt8) (rest : Bytes) :
    fixLoop ⟨true, escaped⟩ (c :: rest) = c :: fixLoop (Scan.step ⟨true, escaped⟩ c) rest := by
  rw [fixLoop, if_neg (fun h => nomatch h.1)]

lemma step_plain (hquote : c ≠ quote) (hbackslash : c ≠ backslash) : Scan.step ⟨true, false⟩ c = ⟨true, false⟩ := by
  simp [Scan.step, hquote, hbackslash]

lemma isHex_ne (h : isHex b = true) : b ≠ quote ∧ b ≠ backslash := by
  constructor
  · rintro rfl
    cases h
  · rintro rfl
    cases h

lemma fixLoop_body {body} (h : StringBody body) (rest : Bytes) :
    fixLoop ⟨true, false⟩ (body ++ quote :: rest) = body ++ quote :: fixLoop .start rest := by
  have hbackslash : Scan.step ⟨true, false⟩ backslash = ⟨true, true⟩ := rfl
  have hescaped : ∀ c, Scan.step ⟨true, true⟩ c = ⟨true, false⟩ := fun _ => rfl
  induction h with
  | nil => exact fixLoop_inside false quote rest
  | plain _ hquote hne _ ih => rw [cons_append, fixLoop_inside, step_plain hquote hne, ih, cons_append]
  | escape _ _ ih =>
    rw [cons_append, cons_append, fixLoop_inside, hbackslash, fixLoop_inside, hescaped, ih, cons_append, cons_append]
  | unicode ha hb hc hd _ ih =>
    have hhex := fun {c : UInt8} (h : isHex c = true) => step_plain (isHex_ne h).1 (isHex_ne h).2
    simp only [cons_append, fixLoop_inside, hbackslash, hescaped, hhex ha, hhex hb, hhex hc, hhex hd, ih]

lemma fixLoop_quoted {body} (h : StringBody body) (rest : Bytes) :
    fixLoop .start (quoted body ++ rest) = quoted body ++ fixLoop .start rest := by
  have hopen : fixLoop .start (quote :: (body ++ quote :: rest)) =
      quote :: fixLoop ⟨true, false⟩ (body ++ quote :: rest) := by
    rw [fixLoop, if_neg (fun h => absurd h.2.1 (by decide))]
    rfl
  simp only [quoted, cons_append, append_assoc, nil_append]
  rw [hopen, fixLoop_body h]

lemma fixLoop_label {keyed} (label : Label keyed) (rest : Bytes) :
    fixLoop .start (label.text ++ rest) = label.text ++ fixLoop .start rest := by
  cases label with
  | item => rfl
  | key body valid before after =>
    simp only [Label.text, append_assoc, cons_append]
    rw [fixLoop_quoted valid, fixLoop_plain (plain_of_blank before), fixLoop_cons (by decide) (by decide),
      fixLoop_plain (plain_of_blank after)]

lemma closesNext_members {keyed} (m : Members (Option Extra) keyed) (rest : Bytes) :
    closesNext (m.text inserted ++ rest) = false := by
  have hmember : ∀ (before : Blank) (label : Label keyed) (value : Value (Option Extra)) (t : Bytes),
      closesNext (before.1 ++ (label.text ++ (value.text inserted ++ t))) = false := by
    intro before label value t
    obtain ⟨b, tail, hb, hstart⟩ := label.text_append_cons inserted value
    have hblank : isAsciiWhitespace b = false := by
      by_contra h
      rw [isStart_of_isAsciiWhitespace (by simpa using h)] at hstart
      cases hstart
    rw [← append_assoc label.text, hb, cons_append,
      closesNext_append (fun c hc => isAsciiWhitespace_of_isBlank (before.2 c hc)) hblank]
    by_contra hcloser
    simp only [isCloser, Bool.not_eq_false, Bool.or_eq_true, beq_iff_eq] at hcloser
    rcases hcloser with rfl | rfl <;> cases hstart
  cases m with
  | last before label value extra after =>
    simp only [Members.text, append_assoc]
    exact hmember before label value _
  | cons before label value after m =>
    simp only [Members.text, append_assoc]
    exact hmember before label value _

lemma fixLoop_inserted (extra : Option Extra) (after : Blank) (keyed : Bool) (rest : Bytes) :
    fixLoop .start (inserted extra ++ (after.1 ++ closer keyed :: rest)) =
      remaining extra ++ (after.1 ++ closer keyed :: fixLoop .start rest) := by
  have hend : fixLoop .start (after.1 ++ closer keyed :: rest) = after.1 ++ closer keyed :: fixLoop .start rest := by
    rw [fixLoop_plain (plain_of_blank after), fixLoop_cons (closer_ne keyed).1 (closer_ne keyed).2]
  cases extra with
  | none => exact hend
  | some e =>
    have hnext : closesNext (e.after ++ (after.1 ++ closer keyed :: rest)) = true := by
      rw [← append_assoc, closesNext_append]
      · cases keyed <;> rfl
      · exact forall_mem_append.2 ⟨e.after_blank, fun b hb => isAsciiWhitespace_of_isBlank (after.2 b hb)⟩
      · cases keyed <;> rfl
    simp only [inserted, remaining, append_assoc, cons_append]
    rw [fixLoop_plain (plain_blank e.before_blank), fixLoop, if_pos ⟨rfl, rfl, hnext⟩,
      fixLoop_plain (plain_blank e.after_blank), hend]

mutual

lemma fixLoop_value : (v : Value (Option Extra)) → (rest : Bytes) →
    fixLoop .start (v.text inserted ++ rest) = v.text remaining ++ fixLoop .start rest
  | .scalar chars valid, rest => by
    simp only [Value.text]
    exact fixLoop_plain (plain_scalar valid) rest
  | .string body valid, rest => by
    simp only [Value.text]
    exact fixLoop_quoted valid rest
  | .empty keyed blank, rest => by
    simp only [Value.text, cons_append, append_assoc, nil_append]
    rw [fixLoop_cons (opener_ne keyed).1 (opener_ne keyed).2, fixLoop_plain (plain_of_blank blank),
      fixLoop_cons (closer_ne keyed).1 (closer_ne keyed).2]
  | .container keyed members, rest => by
    simp only [Value.text, cons_append, append_assoc, nil_append]
    rw [fixLoop_cons (opener_ne keyed).1 (opener_ne keyed).2, fixLoop_members members rest]

lemma fixLoop_members {keyed : Bool} : (m : Members (Option Extra) keyed) → (rest : Bytes) →
    fixLoop .start (m.text inserted ++ closer keyed :: rest) = m.text remaining ++ closer keyed :: fixLoop .start rest
  | .last before label value extra after, rest => by
    simp only [Members.text, append_assoc]
    rw [fixLoop_plain (plain_of_blank before), fixLoop_label, fixLoop_value value, fixLoop_inserted]
  | .cons before label value after m, rest => by
    simp only [Members.text, append_assoc, cons_append]
    rw [fixLoop_plain (plain_of_blank before), fixLoop_label, fixLoop_value value, fixLoop_plain (plain_of_blank after),
      fixLoop, closesNext_members, if_neg (fun h => nomatch h.2.2), step_comma rfl, fixLoop_members m rest]

end

variable (d : Document (Option Extra))
lemma fixLoop_document : fixLoop .start (d.text inserted) = d.text remaining := by
  have hend : fixLoop .start d.after.1 = d.after.1 := by
    simpa [fixLoop] using fixLoop_plain (plain_of_blank d.after) []
  rw [Document.text, Document.text, append_assoc, fixLoop_plain (plain_of_blank d.before), fixLoop_value, hend,
    append_assoc]

def formFeed : UInt8 := 12

lemma mem_inserted_iff (hb : b ≠ comma) (extra : Option Extra) : b ∈ inserted extra ↔ b ∈ remaining extra := by
  cases extra with
  | none => rfl
  | some e => simp [inserted, remaining, hb]

lemma parse_fixLoop_iff : parse (fixLoop .start (d.text inserted)) = parse d.strict ↔ formFeed ∉ d.text inserted := by
  have hform : isTextByte formFeed = false := rfl
  rw [fixLoop_document, parse_strict, Document.mem_text_iff hform]
  constructor
  · rintro h ⟨e, he, hmem⟩
    have hremaining : formFeed ∈ d.text remaining :=
      (Document.mem_text_iff hform).2 ⟨e, he, (mem_inserted_iff (by decide) e).1 hmem⟩
    have hnone : parse (d.text remaining) = none := by
      apply parse_eq_none
      intro d' hd'
      rw [← hd'] at hremaining
      exact d'.not_mem_strict hform hremaining
    rw [hnone] at h
    cases h
  · intro h
    have hblank : ∀ e ∈ d.value.extras, ∀ b ∈ remaining e, isBlank b = true := by
      intro e he b hb
      have hne : b ≠ formFeed := by
        rintro rfl
        exact h ⟨e, he, (mem_inserted_iff (by decide) e).2 hb⟩
      cases e with
      | none => cases hb
      | some e =>
        refine isBlank_of_isAsciiWhitespace ?_ hne
        exact (mem_append.1 hb).elim (e.before_blank b) (e.after_blank b)
    obtain ⟨d', htext, htree⟩ := d.exists_strict remaining hblank
    rw [← htext, parse_strict, htree]

/-! ## Strings -/

lemma utf8_eq (text : String) : utf8 text = text.toList.flatMap String.utf8EncodeChar := by
  rw [utf8, ← String.utf8Encode_toList, List.utf8Encode, data_toByteArray]

lemma utf8_inj {a b} (h : utf8 a = utf8 b) : a = b :=
  String.toByteArray_inj.1 (ByteArray.ext (Array.toList_inj.1 h))

variable (cs : List Char)
lemma fromUtf8_flatMap : ∃ text, fromUtf8 (cs.flatMap String.utf8EncodeChar) = some text ∧
    utf8 text = cs.flatMap String.utf8EncodeChar := by
  have hbytes : (⟨(cs.flatMap String.utf8EncodeChar).toArray⟩ : ByteArray) = cs.utf8Encode :=
    ByteArray.ext data_toByteArray.symm
  have hvalid : (⟨(cs.flatMap String.utf8EncodeChar).toArray⟩ : ByteArray).IsValidUTF8 := .intro cs hbytes
  exact ⟨String.fromUTF8 _ hvalid, dif_pos hvalid, rfl⟩

lemma comma_not_mem_utf8EncodeChar {c} (hc : c ≠ ',') : comma ∉ String.utf8EncodeChar c := by
  have hcode : c.val.toNat ≠ 44 := by
    intro h
    exact hc (Char.ext (UInt32.toNat_inj.1 h))
  have hbyte : ∀ n : Nat, comma = UInt8.ofNat n → n % 256 = 44 := by
    intro n h
    have hnat := congrArg UInt8.toNat h
    rw [UInt8.toNat_ofNat'] at hnat
    exact hnat.symm
  intro h
  -- One byte is the code itself; of more bytes each is 128 or greater.
  simp only [String.utf8EncodeChar] at h
  split_ifs at h <;> simp only [mem_cons, not_mem_nil, or_false] at h
  · have := hbyte _ h
    omega
  · rcases h with h | h
    all_goals
      have := hbyte _ h
      omega
  · rcases h with h | h | h
    all_goals
      have := hbyte _ h
      omega
  · rcases h with h | h | h | h
    all_goals
      have := hbyte _ h
      omega

lemma fixLoop_flatMap :
    ∃ cs' : List Char, fixLoop s (cs.flatMap String.utf8EncodeChar) = cs'.flatMap String.utf8EncodeChar := by
  induction cs generalizing s with
  | nil => exact ⟨[], rfl⟩
  | cons c cs ih =>
    rw [flatMap_cons]
    by_cases hc : c = ','
    · subst hc
      have hencode : String.utf8EncodeChar ',' = [comma] := by decide
      rw [hencode, singleton_append, fixLoop]
      split
      · exact ih s
      · obtain ⟨cs', hcs'⟩ := ih (s.step comma)
        exact ⟨',' :: cs', by rw [hcs', flatMap_cons, hencode, singleton_append]⟩
    · rw [fixLoop_append (comma_not_mem_utf8EncodeChar hc)]
      obtain ⟨cs', hcs'⟩ := ih (s.run (String.utf8EncodeChar c))
      exact ⟨c :: cs', by rw [hcs', flatMap_cons]⟩

lemma utf8_fixTrailingCommas (input : String) : utf8 (fixTrailingCommas input) = fixLoop .start (utf8 input) := by
  obtain ⟨cs, hcs⟩ := fixLoop_flatMap .start input.toList
  rw [← utf8_eq] at hcs
  obtain ⟨text, htext, hutf8⟩ := fromUtf8_flatMap cs
  rw [fixTrailingCommas, hcs, htext, Option.getD_some, hutf8]

/-- Commas after last members are removed from a document, unless a form feed was inserted with them;
a second run changes nothing, unless two commas stood before a closer; string literals stay. -/
theorem fixTrailingCommas_repairs (d : Document (Option Extra)) (input : String) :
    (∀ document text : String, utf8 document = d.strict → utf8 text = d.text inserted →
      parse (utf8 document) = some d.value.tree ∧
        (parse (utf8 (fixTrailingCommas text)) = parse (utf8 document) ↔ formFeed ∉ utf8 text)) ∧
    (fixTrailingCommas (fixTrailingCommas input) = fixTrailingCommas input ↔ ¬ DoubleComma .start (utf8 input)) ∧
    literalBytes .start (utf8 (fixTrailingCommas input)) = literalBytes .start (utf8 input) := by
  refine ⟨?_, ?_, ?_⟩
  · intro document text hdocument htext
    rw [utf8_fixTrailingCommas, hdocument, htext]
    exact ⟨parse_strict d, parse_fixLoop_iff d⟩
  · rw [← fixLoop_fixLoop_iff, ← utf8_fixTrailingCommas, ← utf8_fixTrailingCommas]
    exact ⟨congrArg utf8, utf8_inj⟩
  · rw [utf8_fixTrailingCommas, literalBytes_fixLoop]

lemma blank_nil : ∀ b ∈ ([] : Bytes), isBlank b = true := nofun

lemma asciiWhitespace_nil : ∀ b ∈ ([] : Bytes), isAsciiWhitespace b = true := nofun

lemma asciiWhitespace_formFeed : ∀ b ∈ [formFeed], isAsciiWhitespace b = true := forall_mem_singleton.2 rfl

lemma scalar_one : isScalar [49] = true := by decide

def oneItem (extra : Extra) : Document (Option Extra) where
  before := ⟨[], blank_nil⟩
  value := .container false (.last ⟨[], blank_nil⟩ .item (.scalar [49] scalar_one) (some extra) ⟨[], blank_nil⟩)
  after := ⟨[], blank_nil⟩

def noBlank : Extra := ⟨[], [], asciiWhitespace_nil, asciiWhitespace_nil⟩

def formFeedAfter : Extra := ⟨[], [formFeed], asciiWhitespace_nil, asciiWhitespace_formFeed⟩

theorem fixTrailingCommas_repairs_one :
    parse (utf8 (fixTrailingCommas "[1,]")) = some (.container false [(none, .scalar [49])]) := by
  obtain ⟨hdocument, hfixed⟩ :=
    (fixTrailingCommas_repairs (oneItem noBlank) "[1,]").1 "[1]" "[1,]" (by decide) (by decide)
  rw [hfixed.2 (by decide), hdocument]
  rfl

/-- Of two commas before a bracket the second run finds another one, and with a form feed after the
comma the result is no JSON text. -/
theorem fixTrailingCommas_leaves_comma : fixTrailingCommas "[1,,]" = "[1,]" ∧ fixTrailingCommas "[1,]" = "[1]" ∧
      parse (utf8 (fixTrailingCommas "[1,\x0c]")) ≠ parse (utf8 "[1]") := by
  refine ⟨utf8_inj ?_, utf8_inj ?_, ?_⟩
  · rw [utf8_fixTrailingCommas]
    decide
  · rw [utf8_fixTrailingCommas]
    decide
  · have hstrict : utf8 "[1]" = (oneItem formFeedAfter).strict := by decide
    have htext : utf8 "[1,\x0c]" = (oneItem formFeedAfter).text inserted := by decide
    rw [utf8_fixTrailingCommas, hstrict, htext, Ne, parse_fixLoop_iff]
    exact not_not.2 (by decide)

end Roz.Core
