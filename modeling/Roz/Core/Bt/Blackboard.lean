import Roz.Lib.ByteText
import Roz.Lib.FloatText
import Roz.OpenAi.ChatChunk
import Std.Data.ExtTreeMap

/-!
# The blackboard of a behavior tree (`roz-core/src/bt/blackboard.rs`)

Values, scopes, and references `{sensor.readings[0].value}` into them.  A text is a list of
characters, and a slice of it that the source takes is partial: `none` outside is a panic, `none`
inside is the `None` of the source.

A reference never panics, and it resolves to what its path leads to (`resolveReference_spec`).
-/

namespace Roz.Core.Bt
open ByteText FloatText List

def trim (text : Text) : Text := ByteText.trim OpenAi.isWhitespace text

section Values
variable (F : Type) [ParsedFloat F]
inductive Number where
  | posInt (n : UInt64)
  | negInt (n : Int64)
  | float (x : F) (finite : ParsedFloat.isFinite x = true)

/-- `serde_json::Value`, with numbers that are compared; the fields of an object are in key order. -/
inductive Value where
  | null
  | bool (b : Bool)
  | number (n : Number F)
  | string (text : String)
  | array (items : List Value)
  | object (fields : List (String × Value))

end Values

variable {F : Type} [ParsedFloat F]

namespace Number

def asF64 : Number F → F
  | .posInt n => ParsedFloat.ofInt n.toNat
  | .negInt n => ParsedFloat.ofInt n.toInt
  | .float x _ => x

def fromF64 (x : F) : Option (Number F) :=
  if h : ParsedFloat.isFinite x = true then some (.float x h) else none

end Number

namespace Value

def asF64 : Value F → Option F
  | .number n => some n.asF64
  | _ => none

def asBool : Value F → Option Bool
  | .bool b => some b
  | _ => none

def asStr : Value F → Option String
  | .string text => some text
  | _ => none

def asArray : Value F → Option (List (Value F))
  | .array items => some items
  | _ => none

def field : Value F → String → Option (Value F)
  | .object fields, name => fields.lookup name
  | _, _ => none

def item (v : Value F) (index : Nat) : Option (Value F) := v.asArray.bind fun items => items[index]?

end Value

/-! ## Paths -/

inductive PathSegment where
  | field (name : String)
  | indexed (name : String) (index : Nat)
  deriving DecidableEq

def PathSegment.name : PathSegment → String
  | .field name | .indexed name _ => name

variable (part : Text)
def parsePart : Option (Option PathSegment) :=
  match find ['['] part with
  | some bracketPos =>
    match slice part 0 bracketPos with
    | none => none
    | some name =>
      if part.getLast? ≠ some ']' then some none
      else
        match slice part (bracketPos + 1) (byteLen part - 1) with
        | none => none
        | some indexStr =>
          match parseUnsigned (2 ^ 64) indexStr with
          | none => some none
          | some index => some (some (.indexed (String.ofList name) index))
  | none => some (some (.field (String.ofList part)))

def parseParts : List Text → Option (Option (List PathSegment))
  | [] => some (some [])
  | part :: parts =>
    match parsePart part with
    | none => none
    | some none => some none
    | some (some segment) => (parseParts parts).map (Option.map (segment :: ·))

variable (path : Text)
def parsePathSegments : Option (Option (List PathSegment)) := parseParts (path.splitOn '.')

def navigateSegment (value : Value F) : PathSegment → Option (Value F)
  | .field name => value.field name
  | .indexed name index => (value.field name).bind fun v => v.item index

/-! ## Scopes -/

inductive Blackboard (F : Type) [ParsedFloat F] where
  | mk (entries : Std.ExtTreeMap String (Value F)) (parent : Option (Blackboard F))

namespace Blackboard

def new : Blackboard F := ⟨∅, none⟩

def child (parent : Blackboard F) : Blackboard F := ⟨∅, some parent⟩

def set : Blackboard F → String → Value F → Blackboard F
  | ⟨entries, parent⟩, key, value => ⟨entries.insert key value, parent⟩

def get : Blackboard F → String → Option (Value F)
  | ⟨entries, none⟩, key => entries[key]?
  | ⟨entries, some parent⟩, key => entries[key]?.or (parent.get key)

variable (b : Blackboard F) (first : PathSegment)
def rootValue : Option (Value F) :=
  (b.get first.name).bind fun root =>
    match first with
    | .field _ => some root
    | .indexed _ index => root.item index

/-- The first segment is looked up in the scopes, the others in the value found so far. -/
def follow (rest : List PathSegment) : Option (Value F) :=
  (b.rootValue first).bind fun root => rest.foldlM navigateSegment root

def resolveReference (reference : Text) : Option (Option (Value F)) :=
  let trimmed := trim reference
  if wrapped '\x7b' '\x7d' trimmed then
    match slice trimmed 1 (byteLen trimmed - 1) with
    | none => none
    | some path =>
      if path.isEmpty then some none
      else
        match parsePathSegments path with
        | none => none
        | some none | some (some []) => some none
        | some (some (first :: rest)) => some (b.follow first rest)
  else some none

end Blackboard

/-! ## What a path says -/

def SegmentText : PathSegment → Prop
  | .field name => part = name.toList ∧ '[' ∉ part
  | .indexed name index =>
    ∃ indexStr, part = name.toList ++ '[' :: indexStr ++ [']'] ∧ '[' ∉ name.toList ∧
      parseUnsigned (2 ^ 64) indexStr = some index

def PathText (segments : List PathSegment) : Prop :=
  path ≠ [] ∧ List.Forall₂ SegmentText (path.splitOn '.') segments

namespace Blackboard

def RefersTo (b : Blackboard F) (text : Text) (v : Value F) : Prop :=
  ∃ path first rest, text = '\x7b' :: path ++ ['\x7d'] ∧ PathText path (first :: rest) ∧ b.follow first rest = some v

end Blackboard

lemma not_segmentText_of_bracket {part} (hmem : '[' ∈ part) (hlast : part.getLast? ≠ some ']')
    (segment : PathSegment) : ¬ SegmentText part segment := by
  cases segment with
  | field name => exact fun h => h.2 hmem
  | indexed name index =>
    rintro ⟨indexStr, rfl, -⟩
    exact hlast getLast?_concat

lemma segmentText_indexed_iff {name} (hname : '[' ∉ name) (indexStr : Text) (segment : PathSegment) :
    SegmentText (name ++ '[' :: indexStr ++ [']']) segment ↔
      ∃ index, segment = .indexed (String.ofList name) index ∧ parseUnsigned (2 ^ 64) indexStr = some index := by
  cases segment with
  | field other =>
    constructor
    · rintro ⟨-, h⟩
      simp at h
    · rintro ⟨index, h, -⟩
      cases h
  | indexed other index =>
    constructor
    · rintro ⟨otherStr, heq, hother, hindex⟩
      have hfirst := firstAt_of_not_mem hname [] (indexStr ++ [']'])
      have hfirst' := firstAt_of_not_mem hother [] (otherStr ++ [']'])
      simp only [append_assoc, cons_append, nil_append] at heq hfirst hfirst'
      rw [heq] at hfirst
      obtain ⟨rfl, hrest⟩ := hfirst.unique hfirst'
      rw [append_cancel_right hrest, hindex]
      exact ⟨index, by rw [String.ofList_toList], rfl⟩
    · rintro ⟨i, heq, hindex⟩
      obtain ⟨rfl, rfl⟩ := PathSegment.indexed.inj heq
      exact ⟨indexStr, by rw [String.toList_ofList], by rwa [String.toList_ofList], hindex⟩

lemma parsePart_spec : Returns (parsePart part) (SegmentText part) := by
  rcases find_spec ['['] part with ⟨name, after, hfirst, hfind⟩ | ⟨hnot, hfind⟩
  · simp only [parsePart, hfind, hfirst.slice_before]
    by_cases hlast : part.getLast? = some ']'
    · rw [if_neg (not_not.2 hlast)]
      -- the closing bracket is behind the opening one
      obtain ⟨indexStr, rfl⟩ : ∃ indexStr, after = indexStr ++ [']'] := by
        rcases after.eq_nil_or_concat' with rfl | ⟨indexStr, c, rfl⟩
        · rw [hfirst.eq, append_nil, getLast?_concat] at hlast
          exact absurd hlast (by decide)
        · rw [hfirst.eq, ← append_assoc, getLast?_concat] at hlast
          exact ⟨indexStr, by rw [Option.some.inj hlast]⟩
      have hpart : part = name ++ '[' :: indexStr ++ [']'] := by simpa using hfirst.eq
      have hindex : slice part (byteLen name + 1) (byteLen part - 1) = some indexStr := by
        have hopen : '['.utf8Size = 1 := by decide
        have hclose : ']'.utf8Size = 1 := by decide
        have hstart : byteLen name + 1 = byteLen (name ++ ['[']) := by simp [hopen]
        have hstop : byteLen part - 1 = byteLen (name ++ ['[']) + byteLen indexStr := by
          rw [hpart]
          simp only [byteLen_append, byteLen_cons, byteLen_nil, hopen, hclose]
          omega
        rw [hstart, hstop, hfirst.eq, ← append_assoc (name ++ ['['])]
        exact slice_append (name ++ ['[']) indexStr [']']
      have hsegment := segmentText_indexed_iff hfirst.not_mem indexStr
      simp only [hindex]
      rw [hpart]
      cases hparse : parseUnsigned (2 ^ 64) indexStr with
      | none =>
        apply returns_none
        intro segment h
        obtain ⟨index, -, hindex⟩ := (hsegment segment).1 h
        rw [hparse] at hindex
        cases hindex
      | some index =>
        apply returns_some ((hsegment _).2 ⟨index, rfl, hparse⟩)
        intro segment h
        obtain ⟨other, rfl, hindex⟩ := (hsegment segment).1 h
        rw [hparse] at hindex
        rw [Option.some.inj hindex]
    · rw [if_pos hlast]
      have hmem : '[' ∈ part := by
        rw [hfirst.eq]
        simp
      exact returns_none (not_segmentText_of_bracket hmem hlast)
  · simp only [parsePart, hfind]
    rw [singleton_infix_iff] at hnot
    apply returns_some ⟨by rw [String.toList_ofList], hnot⟩
    intro segment h
    cases segment with
    | field name =>
      obtain ⟨rfl, -⟩ := h
      rw [String.ofList_toList]
    | indexed name index =>
      obtain ⟨indexStr, rfl, -⟩ := h
      simp at hnot

lemma parseParts_spec (parts : List Text) : Returns (parseParts parts) (List.Forall₂ SegmentText parts) := by
  induction parts with
  | nil => exact returns_some .nil fun segments h => forall₂_nil_left_iff.1 h
  | cons part parts ih =>
    rcases (parsePart_spec part).cases with ⟨hpart, hnot⟩ | ⟨segment, hpart, hsegment, hunique⟩
    · rw [parseParts, hpart]
      apply returns_none
      intro segments h
      cases h with
      | cons hsegment _ => exact hnot _ hsegment
    · rcases ih.cases with ⟨hparts, hnot⟩ | ⟨rest, hparts, hrest, hunique'⟩
      · rw [parseParts, hpart]
        simp only [hparts]
        apply returns_none
        intro segments h
        cases h with
        | cons _ hrest => exact hnot _ hrest
      · rw [parseParts, hpart]
        simp only [hparts]
        apply returns_some (.cons hsegment hrest)
        intro segments h
        cases h with
        | cons hsegment' hrest' => rw [hunique _ hsegment', hunique' _ hrest']

lemma not_pathText_nil : ¬ PathText path [] := by
  rintro ⟨-, h⟩
  exact splitOn_ne_nil '.' path (forall₂_nil_right_iff.1 h)

namespace Blackboard

lemma refersTo_braces_iff {b : Blackboard F} {path : Text} {v} : b.RefersTo ('\x7b' :: path ++ ['\x7d']) v ↔
    ∃ first rest, PathText path (first :: rest) ∧ b.follow first rest = some v := by
  constructor
  · rintro ⟨other, first, rest, heq, hpath, hv⟩
    rw [append_cancel_right (List.cons.inj heq).2]
    exact ⟨first, rest, hpath, hv⟩
  · rintro ⟨first, rest, hpath, hv⟩
    exact ⟨path, first, rest, rfl, hpath, hv⟩

lemma resolveReference_spec (b : Blackboard F) (reference : Text) :
    Returns (b.resolveReference reference) (b.RefersTo (trim reference)) := by
  simp only [resolveReference]
  generalize trim reference = trimmed
  by_cases hwrapped : wrapped '\x7b' '\x7d' trimmed = true
  · obtain ⟨-, h⟩ | ⟨path, rfl⟩ := wrapped_iff.1 hwrapped
    · exact absurd h (by decide)
    rw [if_pos hwrapped, slice_inner (by decide) (by decide)]
    by_cases hempty : path = []
    · subst hempty
      apply returns_none
      intro v hv
      obtain ⟨first, rest, hpath, -⟩ := refersTo_braces_iff.1 hv
      exact hpath.1 rfl
    · simp only [List.isEmpty_iff, hempty, if_false, parsePathSegments]
      rcases (parseParts_spec (path.splitOn '.')).cases with ⟨hparts, hnot⟩ | ⟨segments, hparts, hsegments, hunique⟩
      · rw [hparts]
        apply returns_none
        intro v hv
        obtain ⟨first, rest, hpath, -⟩ := refersTo_braces_iff.1 hv
        exact hnot _ hpath.2
      · rw [hparts]
        cases segments with
        | nil => exact absurd ⟨hempty, hsegments⟩ (not_pathText_nil path)
        | cons first rest =>
          refine ⟨b.follow first rest, rfl, fun v => ?_⟩
          rw [refersTo_braces_iff]
          constructor
          · intro hv
            exact ⟨first, rest, ⟨hempty, hsegments⟩, hv⟩
          · rintro ⟨first', rest', hpath, hv⟩
            obtain ⟨rfl, rfl⟩ := List.cons.inj (hunique _ hpath.2)
            exact hv
  · rw [if_neg hwrapped]
    apply returns_none
    rintro v ⟨path, first, rest, rfl, -⟩
    exact hwrapped (wrapped_iff.2 (.inr ⟨path, rfl⟩))

end Blackboard
end Roz.Core.Bt
