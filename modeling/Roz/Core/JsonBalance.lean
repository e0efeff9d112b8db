import Roz.Core.JsonRepair
import Roz.Lib.Nesting

/-!
# Dangling brackets (`roz-core/src/json_repair.rs`)

`close_dangling_braces` keeps the closers that it expects on a stack, and appends what is left of
them, after a quote if the text ends inside a string literal.  Its scan of string literals is that
of `fix_trailing_commas` (`closeBytes_error_iff`, `closeBytes_closed_iff`).

A quote that is appended after an escaping backslash is part of the literal.
-/

namespace Roz.Core
open JsonSyntax Nesting Scan List

inductive JsonRepairError where
  | unrepairable (message : String)
  deriving DecidableEq

def debugByte : Option UInt8 → String
  | none => "None"
  | some b => "Some(" ++ toString b.toNat ++ ")"

def mismatch (c : UInt8) (expected : Option UInt8) : JsonRepairError :=
  .unrepairable ("mismatched bracket: found " ++ String.singleton (Char.ofUInt8 c) ++ " with expected " ++ debugByte expected)

/-- The loop of `close_dangling_braces`, on the bytes not yet read; the top of the stack comes first. -/
def danglingLoop (s : Scan) (stack : Bytes) : Bytes → Except JsonRepairError (Scan × Bytes)
  | [] => .ok (s, stack)
  | c :: rest =>
    if s.inString = true ∨ c = quote then danglingLoop (s.step c) stack rest
    else if c = opener true then danglingLoop s (closer true :: stack) rest
    else if c = opener false then danglingLoop s (closer false :: stack) rest
    else if c = closer true ∨ c = closer false then
      if stack.head? = some c then danglingLoop s stack.tail rest else .error (mismatch c stack.head?)
    else danglingLoop s stack rest

variable (s : Scan)
def closing (stack : Bytes) : Bytes := (if s.inString then [quote] else []) ++ stack

def closeBytes (text : Bytes) : Except JsonRepairError Bytes :=
  (danglingLoop .start [] text).map fun (s, stack) => text ++ closing s stack

def closeDanglingBraces (input : String) : Except JsonRepairError String :=
  (danglingLoop .start [] (utf8 input)).map fun (s, stack) =>
    input ++ String.ofList ((closing s stack).map Char.ofUInt8)

/-! ## The brackets of a text -/

def bracket (c : UInt8) : Option (Bracket Bool) :=
  if c = opener true then some (.opening true)
  else if c = opener false then some (.opening false)
  else if c = closer true then some (.closing true)
  else if c = closer false then some (.closing false)
  else none

def brackets (s : Scan) : Bytes → List (Bracket Bool)
  | [] => []
  | c :: rest => (if s.inString then none else bracket c).toList ++ brackets (s.step c) rest

lemma brackets_append (a b : Bytes) : brackets s (a ++ b) = brackets s a ++ brackets (s.run a) b := by
  induction a generalizing s with
  | nil => rfl
  | cons c a ih =>
    rw [cons_append, brackets, brackets, ih, append_assoc]
    rfl

lemma Scan.run_append (a b : Bytes) : s.run (a ++ b) = (s.run a).run b := foldl_append

lemma closer_inj {k k'} (h : closer k = closer k') : k = k' := by
  revert h
  cases k <;> cases k' <;> decide

lemma bracket_closer (k : Bool) : bracket (closer k) = some (.closing k) := by cases k <;> decide

def byteOf : Bracket Bool → UInt8
  | .opening k => opener k
  | .closing k => closer k

lemma byteOf_of_bracket {c b} (h : bracket c = some b) : c = byteOf b := by
  unfold bracket at h
  split_ifs at h with hc hc hc hc
  all_goals
    cases h
    exact hc

lemma byteOf_ne_quote (b : Bracket Bool) : byteOf b ≠ quote := by rcases b with (_ | _) | (_ | _) <;> decide

/-! ## The loop -/

lemma head?_map_closer {ks : List Bool} {k} : (ks.map closer).head? = some (closer k) ↔ ks.head? = some k := by
  cases ks with
  | nil => simp
  | cons k' ks =>
    simp only [map_cons, head?_cons, Option.some.injEq]
    exact ⟨closer_inj, congrArg closer⟩

variable {s : Scan}
lemma danglingLoop_opening (hout : s.inString = false) (stack : Bytes) (k : Bool) (rest : Bytes) :
    danglingLoop s stack (opener k :: rest) = danglingLoop s (closer k :: stack) rest := by
  cases k <;> simp [danglingLoop, hout, opener, quote]

lemma danglingLoop_closing (hout : s.inString = false) (stack : Bytes) (k : Bool) (rest : Bytes) :
    danglingLoop s stack (closer k :: rest) =
      if stack.head? = some (closer k) then danglingLoop s stack.tail rest
      else .error (mismatch (closer k) stack.head?) := by
  cases k <;> simp [danglingLoop, hout, opener, closer, quote]

lemma danglingLoop_other {c} (h : s.inString = true ∨ bracket c = none) (stack rest : Bytes) :
    danglingLoop s stack (c :: rest) = danglingLoop (s.step c) stack rest := by
  rw [danglingLoop]
  by_cases hread : s.inString = true ∨ c = quote
  · rw [if_pos hread]
  · rw [not_or] at hread
    have hnone := h.resolve_left hread.1
    unfold bracket at hnone
    split_ifs at hnone with ho ho' hc hc'
    rw [if_neg (not_or.2 hread), if_neg ho, if_neg ho', if_neg (not_or.2 ⟨hc, hc'⟩),
      step_outside (Bool.not_eq_true _ ▸ hread.1) hread.2]

lemma danglingLoop_eq (s : Scan) (ks : List Bool) (text : Bytes) : (danglingLoop s (ks.map closer) text).toOption =
    (run ks (brackets s text)).map fun ks' => (s.run text, ks'.map closer) := by
  induction text generalizing s ks with
  | nil => rfl
  | cons c rest ih =>
    rw [brackets]
    by_cases hother : s.inString = true ∨ bracket c = none
    · have hnone : (if s.inString then none else bracket c) = none := by
        rcases hother with hin | hnone
        · rw [if_pos hin]
        · rw [hnone, ite_self]
      rw [danglingLoop_other hother, ih, hnone]
      rfl
    · rw [not_or, Bool.not_eq_true] at hother
      obtain ⟨hout, hsome⟩ := hother
      obtain ⟨b, hb⟩ := Option.ne_none_iff_exists'.1 hsome
      have hstep : s.step c = s := step_outside hout (byteOf_of_bracket hb ▸ byteOf_ne_quote b)
      have hrun : s.run (c :: rest) = s.run rest := congrArg (fun s' => Scan.run s' rest) hstep
      rw [hout, if_neg Bool.false_ne_true, hb, hstep, hrun, Option.toList_some, singleton_append,
        byteOf_of_bracket hb, run_cons]
      cases b with
      | opening k => exact (congrArg Except.toOption (danglingLoop_opening hout _ k rest)).trans (ih s (k :: ks))
      | closing k =>
        rw [byteOf, danglingLoop_closing hout, Nesting.step]
        by_cases hhead : ks.head? = some k
        · rw [if_pos (head?_map_closer.2 hhead), if_pos hhead, ← map_tail, ih]
          rfl
        · rw [if_neg (mt head?_map_closer.1 hhead), if_neg hhead]
          rfl

variable (text : Bytes)
lemma closeBytes_eq : (closeBytes text).toOption = (run [] (brackets .start text)).map fun ks =>
    text ++ closing (Scan.start.run text) (ks.map closer) := by
  have h := danglingLoop_eq .start [] text
  rw [map_nil] at h
  have hmap : (closeBytes text).toOption =
      (danglingLoop .start [] text).toOption.map fun (s, stack) => text ++ closing s stack := by
    unfold closeBytes
    cases danglingLoop .start [] text with
    | error e => rfl
    | ok r => rfl
  rw [hmap, h, Option.map_map]
  rfl

lemma closeBytes_error_iff : (∃ e, closeBytes text = .error e) ↔ Mismatched (brackets .start text) := by
  rw [← run_eq_none_iff, ← Option.map_eq_none_iff (f := fun ks => text ++ closing (Scan.start.run text) (ks.map closer)),
    ← closeBytes_eq]
  cases closeBytes text with
  | error e => exact ⟨fun _ => rfl, fun _ => ⟨e, rfl⟩⟩
  | ok out => exact ⟨fun ⟨_, h⟩ => (nomatch h), fun h => (nomatch h)⟩

lemma closeBytes_ok {text out} (h : closeBytes text = .ok out) :
    ∃ ks, Leaves ks (brackets .start text) ∧ out = text ++ closing (Scan.start.run text) (ks.map closer) := by
  have heq := closeBytes_eq text
  rw [h] at heq
  obtain ⟨ks, hks, hout⟩ := Option.map_eq_some_iff.1 heq.symm
  exact ⟨ks, run_eq_some_iff.1 hks, hout.symm⟩

/-! ## The result -/

/-- Scanned as the text was, every literal is closed and every bracket has its partner. -/
def Closed : Prop := (Scan.start.run text).inString = false ∧ Nested (brackets .start text)

lemma Scan.step_escaped (hs : s.escaped = true → s.inString = true) (c : UInt8)
    (h : (s.step c).escaped = true) : (s.step c).inString = true := by
  rcases s with ⟨_ | _, _ | _⟩
  · by_cases hc : c = quote
    · simp [Scan.step, hc] at h
    · simp [Scan.step, hc] at h
  · cases hs rfl
  · by_cases hc : c = backslash
    · simp [Scan.step, hc]
    · by_cases hc' : c = quote
      · simp [Scan.step, hc', quote, backslash] at h
      · simp [Scan.step, hc, hc']
  · rfl

lemma Scan.run_escaped (hs : s.escaped = true → s.inString = true) (text : Bytes) :
    (s.run text).escaped = true → (s.run text).inString = true := by
  induction text generalizing s with
  | nil => exact hs
  | cons c rest ih => exact ih (step_escaped hs c)

lemma run_closers_outside (hout : s.inString = false) (ks : List Bool) : s.run (ks.map closer) = s := by
  induction ks with
  | nil => rfl
  | cons k ks ih =>
    have hstep : s.step (closer k) = s := step_outside hout (closer_ne k).1
    rw [map_cons, Scan.run, foldl_cons, hstep]
    exact ih

lemma brackets_closers_outside (hout : s.inString = false) (ks : List Bool) :
    brackets s (ks.map closer) = ks.map .closing := by
  induction ks with
  | nil => rfl
  | cons k ks ih =>
    have hstep : s.step (closer k) = s := step_outside hout (closer_ne k).1
    rw [map_cons, brackets, hstep, ih, hout, if_neg Bool.false_ne_true, bracket_closer]
    rfl

lemma run_closers_inside (ks : List Bool) : Scan.run ⟨true, false⟩ (ks.map closer) = ⟨true, false⟩ := by
  induction ks with
  | nil => rfl
  | cons k ks ih =>
    have hstep : Scan.step ⟨true, false⟩ (closer k) = ⟨true, false⟩ :=
      step_plain (closer_ne k).1 (by cases k <;> decide)
    rw [map_cons, Scan.run, foldl_cons, hstep]
    exact ih

variable {ks : List Bool}
lemma closed_append_closers {text} (hout : (Scan.start.run text).inString = false)
    (hks : Leaves ks (brackets .start text)) : Closed (text ++ ks.map closer) := by
  constructor
  · rw [run_append, run_closers_outside hout, hout]
  · rw [brackets_append, brackets_closers_outside hout]
    exact hks.close

lemma closed_closing_iff {text} (hks : Leaves ks (brackets .start text)) :
    Closed (text ++ closing (Scan.start.run text) (ks.map closer)) ↔ (Scan.start.run text).escaped = false := by
  have hescaped := run_escaped (s := .start) nofun text
  rcases hrun : Scan.start.run text with ⟨_ | _, _ | _⟩
  · refine iff_of_true ?_ rfl
    exact closed_append_closers (by rw [hrun]) hks
  · rw [hrun] at hescaped
    cases hescaped rfl
  · -- the quote closes the literal, and it is no bracket
    refine iff_of_true ?_ rfl
    have hquote : Scan.start.run (text ++ [quote]) = ⟨false, false⟩ := by
      rw [run_append, hrun]
      rfl
    have hsame : brackets .start (text ++ [quote]) = brackets .start text := by
      rw [brackets_append, hrun]
      exact append_nil _
    rw [closing, if_pos rfl, ← append_assoc]
    exact closed_append_closers (by rw [hquote]) (hsame ▸ hks)
  · -- the quote is escaped, and the closers are inside the literal as well
    refine iff_of_false ?_ Bool.noConfusion
    rintro ⟨hout, -⟩
    rw [run_append, hrun, closing, if_pos rfl, run_append] at hout
    have hquote : Scan.run ⟨true, true⟩ [quote] = ⟨true, false⟩ := rfl
    rw [hquote, run_closers_inside] at hout
    cases hout

/-- A text is returned as it is just if nothing in it is left open. -/
theorem closeBytes_eq_self_iff (text : Bytes) : closeBytes text = .ok text ↔ Closed text := by
  constructor
  · intro h
    obtain ⟨ks, hks, heq⟩ := closeBytes_ok h
    obtain ⟨hquote, hnil⟩ := append_eq_nil_iff.1 (self_eq_append_right.1 heq)
    rw [map_eq_nil_iff.1 hnil] at hks
    exact ⟨by simpa using hquote, leaves_nil_iff.1 hks⟩
  · rintro ⟨hout, hnested⟩
    have heq := closeBytes_eq text
    rw [run_nested hnested, Option.map_some, closing, hout] at heq
    cases h : closeBytes text <;> simp_all [Except.toOption]

/-! ## Strings -/

lemma utf8_append (a b : String) : utf8 (a ++ b) = utf8 a ++ utf8 b := by
  rw [utf8_eq, utf8_eq, utf8_eq, String.toList_append, flatMap_append]

lemma utf8_closing (s : Scan) (ks : List Bool) :
    utf8 (String.ofList ((closing s (ks.map closer)).map Char.ofUInt8)) = closing s (ks.map closer) := by
  have hquote : String.utf8EncodeChar (Char.ofUInt8 quote) = [quote] := by decide
  have hcloser : ∀ k, String.utf8EncodeChar (Char.ofUInt8 (closer k)) = [closer k] := by decide
  have hclosers : ∀ ks : List Bool, ((ks.map closer).map Char.ofUInt8).flatMap String.utf8EncodeChar = ks.map closer := by
    intro ks
    induction ks with
    | nil => rfl
    | cons k ks ih =>
      rw [map_cons, map_cons, flatMap_cons, hcloser, ih]
      rfl
  rw [utf8_eq, String.toList_ofList, closing, map_append, flatMap_append, hclosers]
  split_ifs
  · rw [map_singleton, flatMap_singleton, hquote]
  · rfl

lemma utf8_closeDanglingBraces (input : String) : (closeDanglingBraces input).map utf8 = closeBytes (utf8 input) := by
  have h := danglingLoop_eq .start [] (utf8 input)
  rw [map_nil] at h
  unfold closeDanglingBraces closeBytes
  cases hloop : danglingLoop .start [] (utf8 input) with
  | error e => rfl
  | ok r =>
    rw [hloop] at h
    obtain ⟨ks, -, hr⟩ := Option.map_eq_some_iff.1 h.symm
    subst hr
    simp only [Except.map]
    rw [utf8_append, utf8_closing]

/-- Dangling brackets are closed, unless the text ends with an escape inside a string literal. -/
theorem closeDanglingBraces_closes (text : Bytes) :
    ((∃ e, closeBytes text = .error e) ↔ Mismatched (brackets .start text)) ∧
    (∀ out, closeBytes text = .ok out → ∃ suffix, out = text ++ suffix ∧
      (Closed out ↔ (Scan.start.run text).escaped = false)) ∧
    ∀ input, utf8 input = text → (closeDanglingBraces input).map utf8 = closeBytes text := by
  refine ⟨closeBytes_error_iff text, ?_, ?_⟩
  · intro out hout
    obtain ⟨ks, hks, rfl⟩ := closeBytes_ok hout
    exact ⟨_, rfl, closed_closing_iff hks⟩
  · rintro input rfl
    exact utf8_closeDanglingBraces input

theorem closeDanglingBraces_closes_both : ∃ out, closeBytes (utf8 "[\"a") = .ok out ∧ Closed out := by
  have hok : closeBytes (utf8 "[\"a") = .ok (utf8 "[\"a\"]") := by decide
  obtain ⟨-, -, hclosed⟩ := (closeDanglingBraces_closes (utf8 "[\"a")).2.1 _ hok
  exact ⟨_, hok, hclosed.2 (by decide)⟩

/-- After an escaping backslash the literal stays open. -/
theorem closeDanglingBraces_escaped_quote : closeDanglingBraces "\"\\" = .ok "\"\\\"" ∧ ¬ Closed (utf8 "\"\\\"") := by
  refine ⟨by decide, ?_⟩
  rintro ⟨hout, -⟩
  have hin : (Scan.start.run (utf8 "\"\\\"")).inString = true := by decide
  rw [hin] at hout
  cases hout

end Roz.Core
