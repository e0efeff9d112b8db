import Roz.Agent.Bt.Node
import Roz.Core.Bt.Blackboard

/-!
# Conditions on the blackboard (`roz-core/src/bt/eval.rs`)

A condition is `lhs op rhs`.  The operators are searched for in a fixed order, each in the whole
text; the first one with something on both sides splits it (`Splits`).  An operand is a reference,
a quoted text, a boolean or a number (`Denotes`).  The evaluation comes to

    evaluateCondition expr b = some .satisfied ↔ the split text compares true  (evaluateCondition_satisfied_iff)

A text of one quote character is taken for a quoted text, and the slice between its quotes, which
would end before it starts, panics (`evaluateCondition_returns_iff`).
-/

namespace Roz.Core.Bt
open ByteText FloatText
open Roz.Agent.Bt (ConditionResult)
variable {F : Type} [ParsedFloat F]

/-! ## Splitting -/

inductive Op where
  | le
  | ge
  | ne
  | eq
  | lt
  | gt
  deriving DecidableEq

def Op.text : Op → Text
  | .le => ['<', '=']
  | .ge => ['>', '=']
  | .ne => ['!', '=']
  | .eq => ['=', '=']
  | .lt => ['<']
  | .gt => ['>']

def operators : List Op := [.le, .ge, .ne, .eq, .lt, .gt]

def parseWith (expr : Text) : List Op → Option (Option (Text × Op × Text))
  | [] => some none
  | op :: ops =>
    match find op.text expr with
    | none => parseWith expr ops
    | some pos =>
      match slice expr 0 pos with
      | none => none
      | some before =>
        match slice expr (pos + byteLen op.text) (byteLen expr) with
        | none => none
        | some after =>
          let lhs := trim before
          let rhs := trim after
          if !lhs.isEmpty && !rhs.isEmpty then some (some (lhs, op, rhs)) else parseWith expr ops

variable (expr : Text)
def parseExpression : Option (Option (Text × Op × Text)) := parseWith expr operators

/-! ## Operands -/

def singleQuote : Char := '\x27'

def numberValue (l : Literal) : Value F :=
  match Number.fromF64 (ParsedFloat.ofLiteral l : F) with
  | some n => .number n
  | none => .null

def trueText : Text := ['t', 'r', 'u', 'e']

def falseText : Text := ['f', 'a', 'l', 's', 'e']

def resolveOperand (operand : Text) (b : Blackboard F) : Option (Option (Value F)) :=
  let trimmed := trim operand
  if wrapped '\x7b' '\x7d' trimmed then b.resolveReference trimmed
  else if wrapped '"' '"' trimmed || wrapped singleQuote singleQuote trimmed then
    match slice trimmed 1 (byteLen trimmed - 1) with
    | none => none
    | some inner => some (some (.string (String.ofList inner)))
  else if trimmed = trueText then some (some (.bool true))
  else if trimmed = falseText then some (some (.bool false))
  else
    match parseFloat trimmed with
    | some l => some (some (numberValue l))
    | none => some none

/-! ## Comparison -/

def floatEqTolerance : F := ParsedFloat.ofLiteral (.decimal false 1 (-10))

def compareF64 (lhs : F) (op : Op) (rhs : F) : Bool :=
  let distance := ParsedFloat.abs (ParsedFloat.sub lhs rhs)
  match op with
  | .eq => ParsedFloat.lt distance floatEqTolerance
  | .ne => ParsedFloat.le floatEqTolerance distance
  | .lt => ParsedFloat.lt lhs rhs
  | .gt => ParsedFloat.lt rhs lhs
  | .le => ParsedFloat.le lhs rhs
  | .ge => ParsedFloat.le rhs lhs

def compareBool (lhs : Bool) (op : Op) (rhs : Bool) : Bool :=
  match op with
  | .eq => lhs == rhs
  | .ne => lhs != rhs
  | _ => false

def compareStr (lhs : String) (op : Op) (rhs : String) : Bool :=
  match op with
  | .eq => lhs == rhs
  | .ne => lhs != rhs
  | .lt => decide (lhs < rhs)
  | .gt => decide (rhs < lhs)
  | .le => decide (lhs ≤ rhs)
  | .ge => decide (rhs ≤ lhs)

def compareValues (lhs : Value F) (op : Op) (rhs : Value F) : Bool :=
  match lhs.asF64, rhs.asF64 with
  | some l, some r => compareF64 l op r
  | _, _ =>
    match lhs.asBool, rhs.asBool with
    | some l, some r => compareBool l op r
    | _, _ =>
      match lhs.asStr, rhs.asStr with
      | some l, some r => compareStr l op r
      | _, _ => false

def evaluateOperands (lhsStr : Text) (op : Op) (rhsStr : Text) (b : Blackboard F) : Option ConditionResult :=
  match resolveOperand lhsStr b with
  | none => none
  | some none => some (.violated ("could not resolve lhs: " ++ String.ofList lhsStr))
  | some (some lhsVal) =>
    match resolveOperand rhsStr b with
    | none => none
    | some none => some (.violated ("could not resolve rhs: " ++ String.ofList rhsStr))
    | some (some rhsVal) =>
      if compareValues lhsVal op rhsVal then some .satisfied
      else some (.violated (String.ofList (lhsStr ++ ' ' :: op.text ++ ' ' :: rhsStr) ++ " evaluated to false"))

/-- Evaluate a condition expression against a blackboard; `none` is a panic. -/
def evaluateCondition (expr : String) (b : Blackboard F) : Option ConditionResult :=
  let trimmed := trim expr.toList
  match parseExpression trimmed with
  | none => none
  | some none => some (.violated ("invalid expression: " ++ String.ofList trimmed))
  | some (some (lhsStr, op, rhsStr)) => evaluateOperands lhsStr op rhsStr b

/-! ## How a text is split -/

def SplitAt (op : Op) (lhs rhs : Text) : Prop :=
  ∃ before after, FirstAt op.text expr before after ∧ lhs = trim before ∧ rhs = trim after ∧ lhs ≠ [] ∧ rhs ≠ []

inductive SplitBy (expr : Text) : List Op → Text × Op × Text → Prop
  | here {op ops lhs rhs} : SplitAt expr op lhs rhs → SplitBy expr (op :: ops) (lhs, op, rhs)
  | later {op ops r} : (∀ lhs rhs, ¬ SplitAt expr op lhs rhs) → SplitBy expr ops r → SplitBy expr (op :: ops) r

def Splits (expr lhs : Text) (op : Op) (rhs : Text) : Prop := SplitBy expr operators (lhs, op, rhs)

lemma SplitAt.unique {expr lhs rhs lhs' rhs' op} (h : SplitAt expr op lhs rhs)
    (h' : SplitAt expr op lhs' rhs') : lhs = lhs' ∧ rhs = rhs' := by
  obtain ⟨before, after, hfirst, rfl, rfl, -⟩ := h
  obtain ⟨before', after', hfirst', rfl, rfl, -⟩ := h'
  obtain ⟨rfl, rfl⟩ := hfirst.unique hfirst'
  exact ⟨rfl, rfl⟩

lemma SplitBy.unique {expr ops r r'} (h : SplitBy expr ops r) (h' : SplitBy expr ops r') : r = r' := by
  induction h with
  | here hat =>
    cases h' with
    | here hat' =>
      obtain ⟨rfl, rfl⟩ := hat.unique hat'
      rfl
    | later hnot _ => exact absurd hat (hnot _ _)
  | later hnot _ ih =>
    cases h' with
    | here hat' => exact absurd hat' (hnot _ _)
    | later _ h' => exact ih h'

variable {tried ops : List Op}
lemma SplitBy.append {expr r} (htried : ∀ op ∈ tried, ∀ lhs rhs, ¬ SplitAt expr op lhs rhs) (h : SplitBy expr ops r) :
    SplitBy expr (tried ++ ops) r := by
  induction tried with
  | nil => exact h
  | cons op tried ih =>
    rw [List.forall_mem_cons] at htried
    exact .later htried.1 (ih htried.2)

lemma SplitBy.mem_of_splitAt {expr lhs rhs lhs' rhs' op op'}
    (h : SplitBy expr (tried ++ ops) (lhs, op, rhs)) (hmem : op' ∈ tried) (hat : SplitAt expr op' lhs' rhs') :
    op ∈ tried ∧ SplitAt expr op lhs rhs := by
  induction tried with
  | nil => cases hmem
  | cons o tried ih =>
    cases h with
    | here h => exact ⟨List.mem_cons_self .., h⟩
    | later hnot h =>
      rcases List.mem_cons.1 hmem with rfl | hmem
      · exact absurd hat (hnot _ _)
      · obtain ⟨hop, hsplit⟩ := ih h hmem
        exact ⟨List.mem_cons_of_mem _ hop, hsplit⟩

variable {op : Op}
lemma parseWith_of_splitAt {expr lhs rhs} (h : SplitAt expr op lhs rhs) (ops : List Op) :
    parseWith expr (op :: ops) = some (some (lhs, op, rhs)) := by
  obtain ⟨before, after, hfirst, rfl, rfl, hlhs, hrhs⟩ := h
  simp only [parseWith, hfirst.find_eq, hfirst.slice_before, hfirst.slice_after]
  rw [if_pos (by simp [hlhs, hrhs])]

lemma parseWith_of_not_splitAt {expr} (h : ∀ lhs rhs, ¬ SplitAt expr op lhs rhs) (ops : List Op) :
    parseWith expr (op :: ops) = parseWith expr ops := by
  rcases find_spec op.text expr with ⟨before, after, hfirst, hfind⟩ | ⟨-, hfind⟩
  · simp only [parseWith, hfind, hfirst.slice_before, hfirst.slice_after]
    rw [if_neg]
    intro hsides
    simp only [Bool.and_eq_true, Bool.not_eq_eq_eq_not, Bool.not_true, List.isEmpty_eq_false_iff] at hsides
    exact h _ _ ⟨before, after, hfirst, rfl, rfl, hsides.1, hsides.2⟩
  · rw [parseWith, hfind]

lemma parseWith_spec (ops : List Op) : Returns (parseWith expr ops) (SplitBy expr ops) := by
  induction ops with
  | nil => exact returns_none nofun
  | cons op ops ih =>
    by_cases hat : ∃ lhs rhs, SplitAt expr op lhs rhs
    · obtain ⟨lhs, rhs, hat⟩ := hat
      rw [parseWith_of_splitAt hat]
      exact returns_some (.here hat) fun r hr => hr.unique (.here hat)
    · have hnot : ∀ lhs rhs, ¬ SplitAt expr op lhs rhs := fun lhs rhs h => hat ⟨lhs, rhs, h⟩
      rw [parseWith_of_not_splitAt hnot]
      refine ih.congr fun r => ⟨.later hnot, fun h => ?_⟩
      cases h with
      | here h => exact absurd h (hnot _ _)
      | later _ h => exact h

lemma SplitBy.trimmed {expr lhs rhs ops} (h : SplitBy expr ops (lhs, op, rhs)) : trim lhs = lhs ∧ trim rhs = rhs := by
  generalize hr : (lhs, op, rhs) = r at h
  induction h with
  | here hat =>
    obtain ⟨rfl, rfl, rfl⟩ : lhs = _ ∧ op = _ ∧ rhs = _ := by simpa using hr
    obtain ⟨before, after, -, rfl, rfl, -⟩ := hat
    exact ⟨trim_trim before, trim_trim after⟩
  | later _ _ ih => exact ih hr

/-! ## What an operand says -/

def IsQuote (c : Char) : Prop := c = '"' ∨ c = singleQuote

def LoneQuote (text : Text) : Prop := ∃ q, IsQuote q ∧ text = [q]

inductive Denotes (b : Blackboard F) (text : Text) : Value F → Prop
  | reference {v} : b.RefersTo text v → Denotes b text v
  | quoted {q} {inner : Text} : IsQuote q → text = q :: inner ++ [q] → Denotes b text (.string (String.ofList inner))
  | true : text = trueText → Denotes b text (.bool true)
  | false : text = falseText → Denotes b text (.bool false)
  | number {l} : parseFloat text = some l → Denotes b text (numberValue l)

lemma wrapped_quote_iff {text : Text} : (wrapped '"' '"' text || wrapped singleQuote singleQuote text) = true ↔
      LoneQuote text ∨ ∃ q inner, IsQuote q ∧ text = q :: inner ++ [q] := by
  rw [Bool.or_eq_true, wrapped_iff, wrapped_iff]
  constructor
  · rintro ((⟨h, -⟩ | ⟨inner, h⟩) | (⟨h, -⟩ | ⟨inner, h⟩))
    · exact .inl ⟨'"', .inl rfl, h⟩
    · exact .inr ⟨'"', inner, .inl rfl, h⟩
    · exact .inl ⟨singleQuote, .inr rfl, h⟩
    · exact .inr ⟨singleQuote, inner, .inr rfl, h⟩
  · rintro (⟨q, rfl | rfl, h⟩ | ⟨q, inner, rfl | rfl, h⟩)
    · exact .inl (.inl ⟨h, rfl⟩)
    · exact .inr (.inl ⟨h, rfl⟩)
    · exact .inl (.inr ⟨inner, h⟩)
    · exact .inr (.inr ⟨inner, h⟩)

lemma IsQuote.utf8Size {q : Char} (hq : IsQuote q) : q.utf8Size = 1 := by rcases hq with rfl | rfl <;> decide

lemma not_wrapped_of_parseFloat {text : Text} {l : Literal} (h : parseFloat text = some l) {first last : Char}
    (hfirst : isFloatChar first = false) : wrapped first last text = false := by
  by_contra hwrapped
  rw [Bool.not_eq_false, wrapped_iff] at hwrapped
  have hmem : first ∈ text := by
    rcases hwrapped with ⟨rfl, -⟩ | ⟨inner, rfl⟩
    · exact List.mem_singleton_self first
    · exact List.mem_cons_self ..
  rw [parseFloat_chars h first hmem] at hfirst
  cases hfirst

lemma resolveOperand_loneQuote {operand : Text} (h : LoneQuote (trim operand)) (b : Blackboard F) :
    resolveOperand operand b = none := by
  obtain ⟨q, hq, htext⟩ := h
  have hwrapped : wrapped '\x7b' '\x7d' [q] = false := by rcases hq with rfl | rfl <;> decide
  simp only [resolveOperand, htext, hwrapped]
  rw [if_neg Bool.false_ne_true, if_pos (wrapped_quote_iff.2 (.inl ⟨q, hq, rfl⟩)), slice_lone hq.utf8Size]

section Operand
variable {operand : Text} {b : Blackboard F} {v : Value F}
lemma resolveOperand_returns (h : ¬ LoneQuote (trim operand)) : ∃ r, resolveOperand operand b = some r := by
  simp only [resolveOperand]
  split_ifs with hbraces hquotes htrue hfalse
  · obtain ⟨r, hr, -⟩ := b.resolveReference_spec (trim operand)
    exact ⟨r, hr⟩
  · obtain ⟨q, inner, hq, htext⟩ := (wrapped_quote_iff.1 hquotes).resolve_left h
    rw [htext, slice_inner hq.utf8Size hq.utf8Size]
    exact ⟨_, rfl⟩
  · exact ⟨_, rfl⟩
  · exact ⟨_, rfl⟩
  · cases parseFloat (trim operand) with
    | none => exact ⟨_, rfl⟩
    | some l => exact ⟨_, rfl⟩

lemma denotes_of_resolveOperand (h : resolveOperand operand b = some (some v)) : Denotes b (trim operand) v := by
  simp only [resolveOperand] at h
  split_ifs at h with hbraces hquotes htrue hfalse
  · obtain ⟨r, hr, hv⟩ := b.resolveReference_spec (trim operand)
    rw [h] at hr
    have hrefers := (hv v).1 (Option.some.inj hr).symm
    rw [show trim (trim operand) = trim operand from trim_trim operand] at hrefers
    exact .reference hrefers
  · rcases wrapped_quote_iff.1 hquotes with ⟨q, hq, htext⟩ | ⟨q, inner, hq, htext⟩
    · rw [htext, slice_lone hq.utf8Size] at h
      cases h
    · rw [htext, slice_inner hq.utf8Size hq.utf8Size] at h
      obtain rfl := Option.some.inj (Option.some.inj h)
      exact .quoted hq htext
  · obtain rfl := Option.some.inj (Option.some.inj h)
    exact .true htrue
  · obtain rfl := Option.some.inj (Option.some.inj h)
    exact .false hfalse
  · cases hparse : parseFloat (trim operand) with
    | none =>
      rw [hparse] at h
      cases h
    | some l =>
      rw [hparse] at h
      obtain rfl := Option.some.inj (Option.some.inj h)
      exact .number hparse

lemma resolveOperand_of_denotes (h : Denotes b (trim operand) v) : resolveOperand operand b = some (some v) := by
  simp only [resolveOperand]
  cases h with
  | reference h =>
    obtain ⟨path, first, rest, htext, -⟩ := id h
    rw [if_pos (by rw [htext]; exact wrapped_iff.2 (.inr ⟨path, rfl⟩))]
    obtain ⟨r, hr, hv⟩ := b.resolveReference_spec (trim operand)
    rw [hr, (hv v).2 (by rwa [show trim (trim operand) = trim operand from trim_trim operand])]
  | @quoted q inner hq htext =>
    rw [htext, if_neg, if_pos (wrapped_quote_iff.2 (.inr ⟨q, inner, hq, rfl⟩)), slice_inner hq.utf8Size hq.utf8Size]
    rw [wrapped_iff]
    rintro (⟨-, h⟩ | ⟨path, h⟩)
    · exact absurd h (by decide)
    · rw [(List.cons.inj h).1] at hq
      rcases hq with hq | hq <;> exact absurd hq (by decide)
  | true htext => rw [htext, if_neg (by decide), if_neg (by decide), if_pos rfl]
  | false htext => rw [htext, if_neg (by decide), if_neg (by decide), if_neg (by decide), if_pos rfl]
  | @number l hparse =>
    have htrue : trim operand ≠ trueText := by
      intro htext
      rw [htext] at hparse
      exact absurd hparse (by simp [show parseFloat trueText = none by decide])
    have hfalse : trim operand ≠ falseText := by
      intro htext
      rw [htext] at hparse
      exact absurd hparse (by simp [show parseFloat falseText = none by decide])
    rw [not_wrapped_of_parseFloat hparse (by decide), not_wrapped_of_parseFloat hparse (by decide),
      not_wrapped_of_parseFloat hparse (by decide), if_neg htrue, if_neg hfalse, hparse]
    rfl

end Operand

lemma denotes_iff_resolveOperand {text : Text} (h : trim text = text) (b : Blackboard F) (v : Value F) :
    Denotes b text v ↔ resolveOperand text b = some (some v) := by
  constructor
  · intro hv
    rw [← h] at hv
    exact resolveOperand_of_denotes hv
  · intro hv
    have hdenotes := denotes_of_resolveOperand hv
    rwa [h] at hdenotes

lemma resolveOperand_spec (operand : Text) (h : ¬ LoneQuote (trim operand)) (b : Blackboard F) :
    Returns (resolveOperand operand b) (Denotes b (trim operand)) := by
  obtain ⟨r, hr⟩ := resolveOperand_returns (b := b) h
  refine ⟨r, hr, fun v => ⟨?_, fun hv => ?_⟩⟩
  · rintro rfl
    exact denotes_of_resolveOperand hr
  · exact Option.some.inj (hr.symm.trans (resolveOperand_of_denotes hv))

section Operands
variable {lhs rhs : Text} (hlhs : trim lhs = lhs) (hrhs : trim rhs = rhs) (op : Op) (b : Blackboard F)

include hlhs hrhs

lemma evaluateOperands_satisfied_iff : evaluateOperands lhs op rhs b = some .satisfied ↔
      ∃ l r, Denotes b lhs l ∧ Denotes b rhs r ∧ compareValues l op r = true := by
  constructor
  · intro h
    rw [evaluateOperands] at h
    split at h
    · cases h
    · cases h
    · rename_i l hl
      split at h
      · cases h
      · cases h
      · rename_i r hr
        have hl' := denotes_of_resolveOperand hl
        have hr' := denotes_of_resolveOperand hr
        rw [hlhs] at hl'
        rw [hrhs] at hr'
        split at h
        · rename_i hcompare
          exact ⟨l, r, hl', hr', hcompare⟩
        · cases h
  · rintro ⟨l, r, hl, hr, hcompare⟩
    rw [← hlhs] at hl
    rw [← hrhs] at hr
    simp only [evaluateOperands, resolveOperand_of_denotes hl, resolveOperand_of_denotes hr, hcompare, if_true]

lemma evaluateOperands_returns_iff : (∃ result, evaluateOperands lhs op rhs b = some result) ↔
      ¬ LoneQuote lhs ∧ ((∃ v, Denotes b lhs v) → ¬ LoneQuote rhs) := by
  by_cases hlone : LoneQuote lhs
  · have hnone : resolveOperand lhs b = none := resolveOperand_loneQuote (by rwa [hlhs]) b
    simp [evaluateOperands, hnone, hlone]
  have hleft := resolveOperand_spec lhs (by rwa [hlhs]) b
  rw [hlhs] at hleft
  rcases hleft.cases with ⟨hl, hnot⟩ | ⟨l, hl, hdenotes, -⟩
  · simp [evaluateOperands, hl, hlone, hnot]
  by_cases hlone' : LoneQuote rhs
  · have hnone : resolveOperand rhs b = none := resolveOperand_loneQuote (by rwa [hrhs]) b
    simp only [evaluateOperands, hl, hnone]
    constructor
    · rintro ⟨result, h⟩
      cases h
    · rintro ⟨-, h⟩
      exact absurd hlone' (h ⟨l, hdenotes⟩)
  · refine ⟨fun _ => ⟨hlone, fun _ => hlone'⟩, fun _ => ?_⟩
    rcases (resolveOperand_spec rhs (by rwa [hrhs]) b).cases with ⟨hr, -⟩ | ⟨r, hr, -⟩
    · simp only [evaluateOperands, hl, hr]
      exact ⟨_, rfl⟩
    · simp only [evaluateOperands, hl, hr]
      split_ifs
      · exact ⟨_, rfl⟩
      · exact ⟨_, rfl⟩

end Operands

lemma evaluateCondition_cases (expr : String) (b : Blackboard F) :
    ((∃ reason, evaluateCondition expr b = some (.violated reason)) ∧
        ∀ lhs op rhs, ¬ Splits (trim expr.toList) lhs op rhs) ∨
      ∃ lhs op rhs, Splits (trim expr.toList) lhs op rhs ∧ evaluateCondition expr b = evaluateOperands lhs op rhs b := by
  rcases (parseWith_spec (trim expr.toList) operators).cases with ⟨hparse, hnot⟩ | ⟨⟨lhs, op, rhs⟩, hparse, hsplits, -⟩
  · refine .inl ⟨⟨"invalid expression: " ++ String.ofList (trim expr.toList), ?_⟩, fun lhs op rhs => hnot _⟩
    simp only [evaluateCondition, parseExpression, hparse]
  · refine .inr ⟨lhs, op, rhs, hsplits, ?_⟩
    simp only [evaluateCondition, parseExpression, hparse]

lemma Splits.unique {expr lhs rhs lhs' rhs' : Text} {op op' : Op} (h : Splits expr lhs op rhs)
    (h' : Splits expr lhs' op' rhs') : lhs = lhs' ∧ op = op' ∧ rhs = rhs' := by simpa using SplitBy.unique h h'

lemma evaluateCondition_satisfied_iff (expr : String) (b : Blackboard F) : evaluateCondition expr b = some .satisfied ↔
      ∃ lhs op rhs l r, Splits (trim expr.toList) lhs op rhs ∧ Denotes b lhs l ∧ Denotes b rhs r ∧
        compareValues l op r = true := by
  rcases evaluateCondition_cases expr b with ⟨⟨reason, h⟩, hnot⟩ | ⟨lhs, op, rhs, hsplits, h⟩
  · rw [h]
    constructor
    · intro h
      cases h
    · rintro ⟨lhs, op, rhs, l, r, hsplits, -⟩
      exact absurd hsplits (hnot lhs op rhs)
  · obtain ⟨hlhs, hrhs⟩ := hsplits.trimmed
    rw [h, evaluateOperands_satisfied_iff hlhs hrhs]
    constructor
    · rintro ⟨l, r, hcompare⟩
      exact ⟨lhs, op, rhs, l, r, hsplits, hcompare⟩
    · rintro ⟨lhs', op', rhs', l, r, hsplits', hcompare⟩
      obtain ⟨rfl, rfl, rfl⟩ := hsplits.unique hsplits'
      exact ⟨l, r, hcompare⟩

theorem evaluateCondition_returns_iff (expr : String) (b : Blackboard F) :
    (∃ result, evaluateCondition expr b = some result) ↔ ∀ lhs op rhs, Splits (trim expr.toList) lhs op rhs →
        ¬ LoneQuote lhs ∧ ((∃ v, Denotes b lhs v) → ¬ LoneQuote rhs) := by
  rcases evaluateCondition_cases expr b with ⟨⟨reason, h⟩, hnot⟩ | ⟨lhs, op, rhs, hsplits, h⟩
  · exact ⟨fun _ lhs op rhs hsplits => absurd hsplits (hnot lhs op rhs), fun _ => ⟨_, h⟩⟩
  · obtain ⟨hlhs, hrhs⟩ := hsplits.trimmed
    rw [h, evaluateOperands_returns_iff hlhs hrhs]
    constructor
    · intro hquotes lhs' op' rhs' hsplits'
      obtain ⟨rfl, rfl, rfl⟩ := hsplits.unique hsplits'
      exact hquotes
    · intro hquotes
      exact hquotes lhs op rhs hsplits

open ExactFloat in
theorem evaluateCondition_lone_quote_panics :
    evaluateCondition "{mode} == \"" ((Blackboard.new : Blackboard F64).set "mode" (.string "auto")) = none ∧
      evaluateCondition "' != {mode}" (Blackboard.new : Blackboard F64) = none := by
  decide

end Roz.Core.Bt
