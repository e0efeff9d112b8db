import Roz.Core.Bt.Eval

/-!
# The documented grammar of conditions

A condition as the documentation of `evaluate_condition` has it: a reference, an operator, and a
reference, a number, a boolean or a quoted text, with spaces around them.  Its meaning is the
comparison of the two operands (`Condition.Compares`).

The evaluation gives that meaning unless an operator that is searched for earlier stands in the
quoted text (`Condition.Hidden`); then the text is split there, and what is left of the quoted
text denotes nothing (`Condition.evaluates_iff`).
-/

namespace Roz.Core.Bt
open ByteText FloatText Blackboard PathSegment List
open Roz.Agent.Bt (ConditionResult)
variable {F : Type} [ParsedFloat F]

/-! ## Conditions -/

def isOpChar (c : Char) : Bool := c == '<' || c == '>' || c == '=' || c == '!'

structure Path where
  chars : Text
  plain : ∀ c ∈ chars, isOpChar c = false ∧ c ≠ '\x7b' ∧ c ≠ '\x7d'

def Path.text (path : Path) : Text := '\x7b' :: path.chars ++ ['\x7d']

inductive Operand where
  | reference (path : Path)
  | number (chars : Text) (l : Literal) (parses : parseFloat chars = some l)
  | bool (value : Bool)
  | quoted (content : Text) (noQuote : '"' ∉ content)

namespace Operand

def text : Operand → Text
  | .reference path => path.text
  | .number chars _ _ => chars
  | .bool value => if value then trueText else falseText
  | .quoted content _ => '"' :: content ++ ['"']

def Resolves (b : Blackboard F) : Operand → Value F → Prop
  | .reference path, v => b.resolveReference path.text = some (some v)
  | .number _ l _, v => v = numberValue l
  | .bool value, v => v = .bool value
  | .quoted content _, v => v = .string (String.ofList content)

end Operand

structure Condition where
  lhs : Path
  op : Op
  rhs : Operand
  leading : Nat
  beforeOp : Nat
  afterOp : Nat
  trailing : Nat

def spaces (n : Nat) : Text := List.replicate n ' '

namespace Condition

def before (c : Condition) : Text := c.lhs.text ++ spaces c.beforeOp

def after (c : Condition) : Text := spaces c.afterOp ++ c.rhs.text

def body (c : Condition) : Text := c.before ++ c.op.text ++ c.after

def text (c : Condition) : String := String.ofList (spaces c.leading ++ c.body ++ spaces c.trailing)

def Compares (c : Condition) (b : Blackboard F) : Prop :=
  ∃ l r, (Operand.reference c.lhs).Resolves b l ∧ c.rhs.Resolves b r ∧ compareValues l c.op r = true

end Condition

def Op.earlier (op : Op) : List Op := operators.takeWhile (· ≠ op)

def Condition.Hidden (c : Condition) : Prop :=
  ∃ content noQuote, c.rhs = .quoted content noQuote ∧ ∃ op ∈ c.op.earlier, op.text <:+: content

/-! ## Characters -/

lemma isFloatChar_toNat {c : Char} (h : isFloatChar c = true) :
    c.toNat = 43 ∨ c.toNat = 45 ∨ c.toNat = 46 ∨ (48 ≤ c.toNat ∧ c.toNat ≤ 57) ∨
      (65 ≤ c.toNat ∧ c.toNat ≤ 90) ∨ (97 ≤ c.toNat ∧ c.toNat ≤ 122) := by
  simp only [isFloatChar, Bool.or_eq_true, isAlphanum_iff, beq_iff_eq] at h
  rcases h with (((h | h | h) | rfl) | rfl) | rfl
  · exact .inr (.inr (.inr (.inr (.inl (of_decide_eq_true h)))))
  · obtain ⟨hlow, hhigh⟩ := Bool.and_eq_true_iff.1 h
    exact .inr (.inr (.inr (.inr (.inr ⟨of_decide_eq_true hlow, of_decide_eq_true hhigh⟩))))
  · obtain ⟨hlow, hhigh⟩ := Bool.and_eq_true_iff.1 h
    exact .inr (.inr (.inr (.inl ⟨of_decide_eq_true hlow, of_decide_eq_true hhigh⟩)))
  · exact .inl rfl
  · exact .inr (.inl rfl)
  · exact .inr (.inr (.inl rfl))

lemma isFloatChar_spec {c : Char} (h : isFloatChar c = true) : isOpChar c = false ∧ OpenAi.isWhitespace c = false := by
  have hcode := isFloatChar_toNat h
  constructor
  · by_contra hop
    simp only [isOpChar, Bool.not_eq_false, Bool.or_eq_true, beq_iff_eq] at hop
    rcases hop with ((rfl | rfl) | rfl) | rfl <;> exact absurd hcode (by decide)
  · simp only [OpenAi.isWhitespace, Bool.or_eq_false_iff, Bool.and_eq_false_iff, decide_eq_false_iff_not,
      beq_eq_false_iff_ne]
    omega

lemma Op.text_ne_nil (op : Op) : op.text ≠ [] := by cases op <;> decide

lemma Op.isOpChar_of_mem {op : Op} {c : Char} (h : c ∈ op.text) : isOpChar c = true := by
  cases op <;> (simp [Op.text] at h; rcases h with rfl | rfl <;> rfl)

lemma not_mem_op {c : Char} (h : isOpChar c = false) (op : Op) : c ∉ op.text := by
  intro hmem
  rw [Op.isOpChar_of_mem hmem] at h
  cases h

lemma Op.not_infix_of_earlier {op o : Op} (h : o ∈ op.earlier) : ¬ o.text <:+: op.text := by
  revert h
  cases op <;> cases o <;> decide

lemma Op.operators_eq (op : Op) : ∃ later, operators = op.earlier ++ op :: later := by
  cases op <;> exact ⟨_, rfl⟩

lemma isOpChar_of_mem_spaces {n : Nat} {c : Char} (h : c ∈ spaces n) : isOpChar c = false := by
  rw [eq_of_mem_replicate h]
  rfl

lemma isWhitespace_of_mem_spaces {n : Nat} {c : Char} (h : c ∈ spaces n) : OpenAi.isWhitespace c = true := by
  rw [eq_of_mem_replicate h]
  rfl

/-! ## The parts of a condition -/

lemma Path.isOpChar_of_mem (path : Path) {c : Char} (h : c ∈ path.text) : isOpChar c = false := by
  rcases mem_append.1 h with h | h
  · rcases mem_cons.1 h with rfl | h
    · rfl
    · exact (path.plain c h).1
  · rw [mem_singleton.1 h]
    rfl

lemma Path.trimmed (path : Path) : Trimmed OpenAi.isWhitespace path.text := by
  constructor
  · rintro c ⟨⟩
    rfl
  · intro c hc
    rw [Path.text, getLast?_concat, Option.mem_some_iff] at hc
    rw [← hc]
    rfl

namespace Operand

lemma isOpChar_of_mem {operand : Operand} (h : ∀ content noQuote, operand ≠ .quoted content noQuote) {c : Char}
    (hc : c ∈ operand.text) : isOpChar c = false := by
  cases operand with
  | reference path => exact path.isOpChar_of_mem hc
  | number chars l parses => exact (isFloatChar_spec (parseFloat_chars parses c hc)).1
  | bool value =>
    have hall : (Operand.bool value).text.all (fun d => !isOpChar d) = true := by cases value <;> rfl
    simpa using all_eq_true.1 hall c hc
  | quoted content noQuote => exact absurd rfl (h content noQuote)

variable (operand : Operand)
lemma text_ne_nil : operand.text ≠ [] := by
  cases operand with
  | reference path => exact cons_ne_nil _ _
  | number chars l parses =>
    rintro rfl
    rw [parseFloat_nil] at parses
    cases parses
  | bool value => cases value <;> decide
  | quoted content noQuote => exact cons_ne_nil _ _

lemma trimmed (operand : Operand) : Trimmed OpenAi.isWhitespace operand.text := by
  cases operand with
  | reference path => exact path.trimmed
  | number chars l parses =>
    have hchars := fun c hc => (isFloatChar_spec (parseFloat_chars parses c hc)).2
    exact ⟨fun c hc => hchars c (mem_of_head? hc), fun c hc => hchars c (mem_of_getLast? hc)⟩
  | bool value => cases value <;> exact ⟨by rintro c ⟨⟩; rfl, by rintro c ⟨⟩; rfl⟩
  | quoted content noQuote =>
    constructor
    · rintro c ⟨⟩
      rfl
    · intro c hc
      rw [Operand.text, getLast?_concat, Option.mem_some_iff] at hc
      rw [← hc]
      rfl

lemma trim_text : trim operand.text = operand.text := trim_eq_self operand.trimmed

lemma denotes_iff (b : Blackboard F) (v : Value F) : Denotes b operand.text v ↔ operand.Resolves b v := by
  have hunique : ∀ w, Denotes b operand.text w → (Denotes b operand.text v ↔ v = w) := by
    intro w hw
    rw [denotes_iff_resolveOperand operand.trim_text] at *
    rw [hw, Option.some.injEq, Option.some.injEq, eq_comm]
  cases operand with
  | reference path =>
    have hwrapped : wrapped '\x7b' '\x7d' path.text = true := wrapped_iff.2 (.inr ⟨path.chars, rfl⟩)
    have htrim : trim path.text = path.text := trim_eq_self path.trimmed
    show Denotes b path.text v ↔ _
    rw [denotes_iff_resolveOperand htrim]
    simp only [resolveOperand, htrim, hwrapped, if_true]
    rfl
  | number chars l parses => exact hunique _ (.number parses)
  | bool value =>
    cases value with
    | false => exact hunique _ (.false rfl)
    | true => exact hunique _ (.true rfl)
  | quoted content noQuote => exact hunique _ (.quoted (.inl rfl) rfl)

lemma head_not_op {operand : Operand} {c : Char} {rest : Text} (h : operand.text = c :: rest) : isOpChar c = false := by
  by_cases hquoted : ∃ content noQuote, operand = .quoted content noQuote
  · obtain ⟨content, noQuote, rfl⟩ := hquoted
    obtain ⟨rfl, -⟩ := List.cons.inj h
    rfl
  · refine isOpChar_of_mem (fun content noQuote heq => hquoted ⟨content, noQuote, heq⟩) ?_
    rw [h]
    exact mem_cons_self ..

end Operand

namespace Condition
variable (c : Condition)
lemma isOpChar_of_mem_before {d : Char} (h : d ∈ c.before) : isOpChar d = false :=
  (mem_append.1 h).elim c.lhs.isOpChar_of_mem isOpChar_of_mem_spaces

lemma trim_before : trim c.before = c.lhs.text := by
  have h := trim_append (fun d (hd : d ∈ []) => nomatch hd) (fun d => isWhitespace_of_mem_spaces (n := c.beforeOp))
    c.lhs.trimmed
  exact h

lemma trim_after : trim c.after = c.rhs.text := by
  have h := trim_append (fun d => isWhitespace_of_mem_spaces (n := c.afterOp)) (fun d (hd : d ∈ []) => nomatch hd)
    c.rhs.trimmed
  rwa [append_nil] at h

lemma trim_text : trim c.text.toList = c.body := by
  rw [text, String.toList_ofList]
  refine trim_append (fun d => isWhitespace_of_mem_spaces) (fun d => isWhitespace_of_mem_spaces) ⟨?_, ?_⟩
  · rintro d ⟨⟩
    rfl
  · intro d hd
    obtain ⟨front, last, hlast⟩ := (eq_nil_or_concat' c.rhs.text).resolve_left c.rhs.text_ne_nil
    have hget : c.body.getLast? = some last := by
      rw [body, after, hlast, ← append_assoc, ← append_assoc, getLast?_concat]
    rw [hget, Option.mem_some_iff] at hd
    rw [← hd]
    exact c.rhs.trimmed.2 last (by rw [hlast, getLast?_concat]; rfl)

lemma firstAt_op : FirstAt c.op.text c.body c.before c.after := by
  cases hop : c.op.text with
  | nil => exact absurd hop c.op.text_ne_nil
  | cons d rest =>
    have hd : d ∉ c.before := by
      intro hmem
      have hopChar : isOpChar d = true := Op.isOpChar_of_mem (hop ▸ mem_cons_self ..)
      rw [c.isOpChar_of_mem_before hmem] at hopChar
      cases hopChar
    rw [body, hop]
    exact firstAt_of_not_mem hd rest c.after

lemma splitAt_op : SplitAt c.body c.op c.lhs.text c.rhs.text :=
  ⟨c.before, c.after, c.firstAt_op, c.trim_before.symm, c.trim_after.symm, cons_ne_nil _ _, c.rhs.text_ne_nil⟩

def front : Text := c.before ++ c.op.text ++ spaces c.afterOp

lemma body_eq : c.body = c.front ++ c.rhs.text := (append_assoc ..).symm

variable {c} {o : Op} (ho : o ∈ c.op.earlier)

include ho

lemma not_infix_front : ¬ o.text <:+: c.front := by
  have hplain : ∀ d ∈ c.before, d ∉ o.text := fun d hd => not_mem_op (c.isOpChar_of_mem_before hd) o
  rw [front, append_assoc, infix_append_left_iff o.text_ne_nil hplain]
  cases c.afterOp with
  | zero =>
    rw [spaces, replicate_zero, append_nil]
    exact Op.not_infix_of_earlier ho
  | succ n =>
    have hspaces : ∀ d ∈ spaces n, d ∉ o.text := fun d hd => not_mem_op (isOpChar_of_mem_spaces hd) o
    rw [spaces, replicate_succ, infix_append_cons_iff (not_mem_op rfl o), ← append_nil (List.replicate n ' '),
      ← spaces, infix_append_left_iff o.text_ne_nil hspaces, infix_nil]
    rintro (h | h)
    · exact Op.not_infix_of_earlier ho h
    · exact o.text_ne_nil h

lemma infix_rhs_of_earlier (h : o.text <:+: c.body) : o.text <:+: c.rhs.text := by
  obtain ⟨d, rest, hrhs⟩ := exists_cons_of_ne_nil c.rhs.text_ne_nil
  rw [body_eq, hrhs, infix_append_cons_iff (not_mem_op (Operand.head_not_op hrhs) o)] at h
  rw [hrhs]
  exact (h.resolve_left (not_infix_front ho)).trans (suffix_cons d rest).isInfix

omit ho

/-! ## What the text is split into -/

lemma splits_of_not_hidden (h : ¬ c.Hidden) : Splits c.body c.lhs.text c.op c.rhs.text := by
  obtain ⟨later, hops⟩ := c.op.operators_eq
  rw [Splits, hops]
  refine SplitBy.append (fun o ho lhs rhs hat => ?_) (.here c.splitAt_op)
  obtain ⟨x, y, hfirst, -⟩ := hat
  have hoccurs := infix_rhs_of_earlier ho ⟨x, y, hfirst.eq.symm⟩
  by_cases hquoted : ∃ content noQuote, c.rhs = .quoted content noQuote
  · obtain ⟨content, noQuote, hrhs⟩ := hquoted
    rw [hrhs, Operand.text, infix_append_cons_iff (not_mem_op rfl o), infix_nil, or_iff_left o.text_ne_nil,
      ← nil_append (_ :: content), infix_append_cons_iff (not_mem_op rfl o), infix_nil,
      or_iff_right o.text_ne_nil] at hoccurs
    exact h ⟨content, noQuote, hrhs, o, ho, hoccurs⟩
  · obtain ⟨d, rest, hd⟩ := exists_cons_of_ne_nil o.text_ne_nil
    have hmem : d ∈ o.text := by
      rw [hd]
      exact mem_cons_self ..
    have hplain := Operand.isOpChar_of_mem (fun content noQuote heq => hquoted ⟨content, noQuote, heq⟩)
      (hoccurs.subset hmem)
    rw [Op.isOpChar_of_mem hmem] at hplain
    cases hplain

lemma rest_of_quoted (ho : o ∈ c.op.earlier) {content : Text} {noQuote : '"' ∉ content}
    (hrhs : c.rhs = .quoted content noQuote) {x y : Text} (h : FirstAt o.text c.body x y) :
    '\x7b' ∈ x ∧ ∃ rest, y = rest ++ ['"'] ∧ '"' ∉ rest := by
  have hquote : '"' ∉ o.text := not_mem_op rfl o
  have hbody : x ++ o.text ++ y = c.front ++ '"' :: (content ++ ['"']) := by
    rw [← h.eq, body_eq, hrhs]
    rfl
  rcases append_cons_cases hquote hbody with ⟨y', hfront, -⟩ | ⟨x', rfl, hcontent⟩
  · exact absurd ⟨x, y', hfront.symm⟩ (not_infix_front ho)
  · refine ⟨by simp [front, before, Path.text], ?_⟩
    rcases append_cons_cases hquote hcontent.symm with ⟨rest, rfl, rfl⟩ | ⟨x'', -, hnil⟩
    · exact ⟨rest, rfl, fun hmem => noQuote (mem_append_right _ hmem)⟩
    · simp [o.text_ne_nil] at hnil

lemma not_denotes_rest {rest : Text} (h : '"' ∉ rest) (b : Blackboard F) (v : Value F) :
    ¬ Denotes b (rest ++ ['"']) v := by
  intro hv
  cases hv with
  | reference hv =>
    obtain ⟨path, first, segments, htext, -⟩ := hv
    have hlast := congrArg List.getLast? htext
    rw [getLast?_concat, getLast?_concat] at hlast
    exact absurd hlast (by decide)
  | @quoted q inner hq htext =>
    obtain ⟨hrest, hlast⟩ := append_inj' htext rfl
    obtain rfl : '"' = q := by simpa using hlast
    exact h (hrest ▸ List.mem_cons_self ..)
  | true htext =>
    have hlast := congrArg List.getLast? htext
    rw [List.getLast?_concat] at hlast
    exact absurd hlast (by decide)
  | false htext =>
    have hlast := congrArg List.getLast? htext
    rw [List.getLast?_concat] at hlast
    exact absurd hlast (by decide)
  | number hparse => exact absurd (parseFloat_chars hparse '"' (by simp)) (by decide)

lemma not_satisfied_of_hidden (h : c.Hidden) (b : Blackboard F) : evaluateCondition c.text b ≠ some .satisfied := by
  obtain ⟨content, noQuote, hrhs, o, ho, hoccurs⟩ := h
  rw [Ne, evaluateCondition_satisfied_iff, trim_text]
  rintro ⟨lhs, op, rhs, l, r, hsplits, -, hr, -⟩
  -- the earlier operator of the quoted text splits, or one before it
  have hat : ∃ lhs rhs, SplitAt c.body o lhs rhs := by
    have hbody : o.text <:+: c.body := by
      rw [body_eq, hrhs]
      exact hoccurs.trans ⟨c.front ++ ['"'], ['"'], by simp [Operand.text]⟩
    obtain ⟨x, y, hfirst⟩ := exists_firstAt hbody
    obtain ⟨hx, rest, rfl, -⟩ := rest_of_quoted ho hrhs hfirst
    refine ⟨_, _, x, _, hfirst, rfl, rfl, fun hnil => ?_, fun hnil => ?_⟩
    · exact absurd (trim_eq_nil_iff.1 hnil _ hx) (by decide)
    · exact absurd (trim_eq_nil_iff.1 hnil '"' (by simp)) (by decide)
  obtain ⟨lhs', rhs', hat⟩ := hat
  obtain ⟨later, hops⟩ := c.op.operators_eq
  rw [Splits, hops] at hsplits
  obtain ⟨hop, x, y, hfirst, -, rfl, -⟩ := hsplits.mem_of_splitAt ho hat
  obtain ⟨-, rest, rfl, hrest⟩ := rest_of_quoted hop hrhs hfirst
  rw [trim, trim_concat (by decide)] at hr
  exact not_denotes_rest (fun hmem => hrest ((dropWhile_suffix _).subset hmem)) b r hr

/-! ## A blackboard for every path -/

end Condition

def PathSegment.place (value : Value F) : PathSegment → Value F
  | .field _ => value
  | .indexed _ index => .array (List.replicate index .null ++ [value])

def nest (value : Value F) : List PathSegment → Value F
  | [] => value
  | segment :: rest => .object [(segment.name, segment.place (nest value rest))]

variable (value : Value F)
lemma item_replicate (index : Nat) : (Value.array (List.replicate index .null ++ [value])).item index = some value := by
  simp [Value.item, Value.asArray]

lemma foldlM_nest (segments : List PathSegment) :
    segments.foldlM navigateSegment (nest value segments) = some value := by
  induction segments with
  | nil => rfl
  | cons segment rest ih =>
    have hstep : navigateSegment (nest value (segment :: rest)) segment = some (nest value rest) := by
      cases segment with
      | field name => simp [nest, navigateSegment, Value.field, PathSegment.name, place]
      | indexed name index => simp [nest, navigateSegment, Value.field, PathSegment.name, place, item_replicate]
    rw [foldlM_cons, hstep]
    exact ih

lemma exists_follow (first : PathSegment) (rest : List PathSegment) :
    ∃ b : Blackboard F, b.follow first rest = some value := by
  refine ⟨Blackboard.new.set first.name (first.place (nest value rest)), ?_⟩
  have hroot : ((Blackboard.new : Blackboard F).set first.name (first.place (nest value rest))).rootValue first =
      some (nest value rest) := by
    cases first with
    | field name => simp [rootValue, Blackboard.new, Blackboard.set, Blackboard.get, place]
    | indexed name index =>
      simp [rootValue, Blackboard.new, Blackboard.set, Blackboard.get, place, item_replicate]
  rw [follow, hroot]
  exact foldlM_nest value rest

lemma Path.resolves_iff (path : Path) (b : Blackboard F) (v : Value F) : (Operand.reference path).Resolves b v ↔
    ∃ first rest, PathText path.chars (first :: rest) ∧ b.follow first rest = some v := by
  obtain ⟨r, hr, hrefers⟩ := b.resolveReference_spec path.text
  rw [Operand.Resolves, hr, Option.some.injEq, hrefers, show trim path.text = path.text from trim_eq_self path.trimmed]
  exact refersTo_braces_iff

lemma exists_compareStr (op : Op) {content} (h : content ≠ "") : ∃ text, compareStr text op content = true := by
  have hle : content ≤ content := String.le_refl content
  have hempty : "" < content := by
    obtain ⟨c, rest, hc⟩ := exists_cons_of_ne_nil (mt String.toList_eq_nil_iff.1 h)
    rw [String.lt_iff, hc]
    exact nil_lt_cons c rest
  have hlonger : ∀ text : List Char, text < text ++ ['a'] := by
    intro text
    induction text with
    | nil => exact nil_lt_cons _ _
    | cons c text ih => exact cons_lt_cons_iff.2 (.inr ⟨rfl, ih⟩)
  cases op with
  | le => exact ⟨content, decide_eq_true hle⟩
  | ge => exact ⟨content, decide_eq_true hle⟩
  | ne => exact ⟨"", by simp [compareStr, h.symm]⟩
  | eq => exact ⟨content, by simp [compareStr]⟩
  | lt => exact ⟨"", decide_eq_true hempty⟩
  | gt =>
    refine ⟨content ++ "a", decide_eq_true ?_⟩
    rw [String.lt_iff, String.toList_append]
    exact hlonger content.toList

namespace Condition

/-- The evaluation gives the meaning of a condition on every blackboard, just if no operator that is
searched for earlier is hidden in the quoted text, or the path of the left operand cannot be read
at all. -/
theorem evaluates_iff (c : Condition) :
    (∀ b : Blackboard F, evaluateCondition c.text b = some .satisfied ↔ c.Compares b) ↔
      (c.Hidden → ¬ ∃ segments, PathText c.lhs.chars segments) := by
  constructor
  · rintro h hhidden ⟨segments, hpath⟩
    obtain ⟨content, noQuote, hrhs, o, -, hoccurs⟩ := id hhidden
    have hne : String.ofList content ≠ "" := by
      intro hnil
      rw [← String.toList_eq_nil_iff, String.toList_ofList] at hnil
      rw [hnil, infix_nil] at hoccurs
      exact o.text_ne_nil hoccurs
    cases segments with
    | nil => exact not_pathText_nil _ hpath
    | cons first rest =>
      obtain ⟨text, htext⟩ := exists_compareStr c.op hne
      obtain ⟨b, hb⟩ := exists_follow (.string text : Value F) first rest
      refine not_satisfied_of_hidden hhidden b ((h b).2 ⟨.string text, .string (String.ofList content), ?_, ?_, htext⟩)
      · exact (c.lhs.resolves_iff b _).2 ⟨first, rest, hpath, hb⟩
      · rw [hrhs]
        rfl
  · intro h b
    by_cases hhidden : c.Hidden
    · refine ⟨fun hs => absurd hs (not_satisfied_of_hidden hhidden b), ?_⟩
      rintro ⟨l, r, hl, -⟩
      obtain ⟨first, rest, hpath, -⟩ := (c.lhs.resolves_iff b l).1 hl
      exact absurd ⟨_, hpath⟩ (h hhidden)
    · have hsplits := splits_of_not_hidden hhidden
      rw [evaluateCondition_satisfied_iff, trim_text]
      constructor
      · rintro ⟨lhs, op, rhs, l, r, hsplits', hl, hr, hcompare⟩
        obtain ⟨rfl, rfl, rfl⟩ := hsplits.unique hsplits'
        exact ⟨l, r, ((Operand.reference c.lhs).denotes_iff b l).1 hl, (c.rhs.denotes_iff b r).1 hr, hcompare⟩
      · rintro ⟨l, r, hl, hr, hcompare⟩
        exact ⟨_, _, _, l, r, hsplits, ((Operand.reference c.lhs).denotes_iff b l).2 hl, (c.rhs.denotes_iff b r).2 hr,
          hcompare⟩

lemma mode_plain : ∀ c ∈ ['m', 'o', 'd', 'e'], isOpChar c = false ∧ c ≠ '\x7b' ∧ c ≠ '\x7d' := by
  simp [isOpChar]

lemma le_noQuote : '"' ∉ ['a', '<', '=', 'b'] := by decide

def hiddenLe : Condition where
  lhs := ⟨['m', 'o', 'd', 'e'], mode_plain⟩
  op := .eq
  rhs := .quoted ['a', '<', '=', 'b'] le_noQuote
  leading := 0
  beforeOp := 1
  afterOp := 1
  trailing := 0

open ExactFloat in
/-- The mode is `a<=b`, and the condition that it is that is violated. -/
theorem hidden_operator_violates : let b := (Blackboard.new : Blackboard F64).set "mode" (.string "a<=b")
    hiddenLe.Compares b ∧
      evaluateCondition hiddenLe.text b = some (.violated "could not resolve lhs: {mode} == \"a") := by
  refine ⟨⟨.string "a<=b", .string "a<=b", ?_, ?_, ?_⟩, ?_⟩
  · refine (hiddenLe.lhs.resolves_iff _ _).2 ⟨.field "mode", [], ⟨by decide, ?_⟩, ?_⟩
    · exact .cons ⟨by decide, by decide⟩ .nil
    · simp [follow, rootValue, Blackboard.new, Blackboard.set, Blackboard.get, PathSegment.name]
  · exact congrArg Value.string (by decide : "a<=b" = String.ofList ['a', '<', '=', 'b'])
  · decide
  · decide

end Condition
end Roz.Core.Bt
