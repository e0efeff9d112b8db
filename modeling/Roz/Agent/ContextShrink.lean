import Roz.Agent.Context
import Roz.Lib.ByteText
import Mathlib.Data.List.Forall2
import Std.Data.String.ToNat

/-!
# What the structural levels of compaction do to sizes

`clear_tool_results` replaces the contents of all but the last tool results by placeholders that
name their size.  A placeholder has 20 bytes or more, so a shorter content grows; and the size in
a placeholder is that of what it replaces, which the next time is the placeholder itself
(`messageTokens_clear_le_iff`, `clear_idempotent_iff`).

`clear_thinking` empties a turn that only has thinking (`noneEmptied_iff`).
-/

namespace Roz.Agent
open ByteText ExactFloat Message ContextManager List
namespace ContentPart

def content : ContentPart → Option String
  | .toolResult _ _ content _ => some content
  | _ => none

def withoutContent : ContentPart → ContentPart
  | .toolResult id name _ isError => .toolResult id name "" isError
  | part => part

lemma content_isSome (p : ContentPart) : p.content.isSome = p.isToolResult := by cases p <;> rfl

lemma ext_content {p q : ContentPart} (h : p.withoutContent = q.withoutContent) (hc : p.content = q.content) : p = q := by
  cases p <;> cases q <;> simp_all [withoutContent, content]

end ContentPart

namespace ContextManager

/-! ## Contents -/

def contentsOf (parts : List ContentPart) : List String := parts.filterMap ContentPart.content

variable (messages : List Message)
def contents : List String := messages.flatMap fun m => contentsOf m.parts

def skeleton : List Message :=
  messages.map fun m => { m with parts := m.parts.map ContentPart.withoutContent }

variable (content : String)
def placeholder : String := "[cleared: ~" ++ toString (estimateTokens content) ++ " tokens]"

lemma placeholder_eq : placeholder content = "[cleared: ~" ++ toString (estimateTokens content) ++ " tokens]" := rfl

def clearCount (cm : ContextManager) (messages : List Message) : Nat := (contents messages).length - cm.keepToolResults

variable (p : ContentPart)
lemma contentsOf_cons (parts : List ContentPart) : contentsOf (p :: parts) = p.content.toList ++ contentsOf parts := by
  rw [contentsOf, filterMap_cons]
  cases p.content with
  | none => rfl
  | some c => rfl

variable (m : Message)
lemma contents_cons (messages : List Message) :
    contents (m :: messages) = contentsOf m.parts ++ contents messages := flatMap_cons

variable (parts : List ContentPart) (cm : ContextManager) (messages : List Message)
  {messages' : List Message}

lemma contentsOf_length_eq : (contentsOf parts).length = parts.countP ContentPart.isToolResult := by
  rw [contentsOf, length_filterMap_eq_countP]
  congr 1
  funext p
  exact p.content_isSome

lemma contentsOf_length_of_skeleton {parts parts'}
    (h : parts.map ContentPart.withoutContent = parts'.map ContentPart.withoutContent) :
    (contentsOf parts).length = (contentsOf parts').length := by
  have hcount : ∀ l : List ContentPart, (l.map ContentPart.withoutContent).countP ContentPart.isToolResult =
      l.countP ContentPart.isToolResult := by
    intro l
    rw [countP_map]
    congr 1
    funext p
    cases p <;> rfl
  rw [contentsOf_length_eq, contentsOf_length_eq, ← hcount, h, hcount]

lemma parts_ext {parts parts' : List ContentPart}
    (h : parts.map ContentPart.withoutContent = parts'.map ContentPart.withoutContent)
    (hc : contentsOf parts = contentsOf parts') : parts = parts' := by
  induction parts generalizing parts' with
  | nil => exact (map_eq_nil_iff.1 h.symm).symm
  | cons p parts ih =>
    obtain ⟨p', parts', rfl, hp, hparts⟩ := map_eq_cons_iff.1 h.symm
    have hlen : p.content.toList.length = p'.content.toList.length := by
      have hskeleton : [p].map ContentPart.withoutContent = [p'].map ContentPart.withoutContent := by simp [hp]
      have hsingle := contentsOf_length_of_skeleton hskeleton
      simpa [contentsOf_cons] using hsingle
    rw [contentsOf_cons, contentsOf_cons] at hc
    obtain ⟨hhead, htail⟩ := append_inj hc hlen
    have hcontent : p.content = p'.content := by
      rw [← Option.head?_toList (o := p.content), hhead, Option.head?_toList]
    rw [ContentPart.ext_content hp.symm hcontent, ih hparts.symm htail]

lemma messages_ext {messages} (h : skeleton messages = skeleton messages')
    (hc : contents messages = contents messages') : messages = messages' := by
  induction messages generalizing messages' with
  | nil => exact (map_eq_nil_iff.1 h.symm).symm
  | cons m messages ih =>
    obtain ⟨m', messages', rfl, hm, hmessages⟩ := map_eq_cons_iff.1 h.symm
    obtain ⟨hrole, hparts⟩ := Message.mk.inj hm
    rw [contents_cons, contents_cons] at hc
    obtain ⟨hhead, htail⟩ := append_inj hc (contentsOf_length_of_skeleton hparts.symm)
    have hsame : m = m' := congrArg₂ Message.mk hrole.symm (parts_ext hparts.symm hhead)
    rw [hsame, ih hmessages.symm htail]

/-! ## Clearing -/

lemma content_clearPart : (clearPart p).content = p.content.map placeholder := by cases p <;> rfl

lemma contentsOf_clearParts : ∀ n,
    contentsOf (clearParts n parts).1 = ((contentsOf parts).take n).map placeholder ++ (contentsOf parts).drop n ∧
      (clearParts n parts).2 = n - (contentsOf parts).length := by
  induction parts with
  | nil => intro n; cases n <;> simp [clearParts, contentsOf]
  | cons p parts ih =>
    intro n
    cases n with
    | zero => simp [clearParts]
    | succ n =>
      have hresult := p.content_isSome
      simp only [clearParts]
      rw [contentsOf_cons, contentsOf_cons, content_clearPart]
      cases hc : p.content with
      | none =>
        rw [hc] at hresult
        rw [← hresult]
        exact ih (n + 1)
      | some c =>
        rw [hc] at hresult
        rw [← hresult]
        obtain ⟨hparts, hleft⟩ := ih n
        simp [hparts, hleft]

lemma contents_clearMessages : ∀ n,
    contents (clearMessages n messages) = ((contents messages).take n).map placeholder ++ (contents messages).drop n := by
  induction messages with
  | nil => intro n; simp [clearMessages, contents]
  | cons m messages ih =>
    intro n
    obtain ⟨hparts, hleft⟩ := contentsOf_clearParts m.parts n
    rw [clearMessages, contents_cons, contents_cons, ih, take_append, drop_append, map_append]
    dsimp only
    rw [hleft, hparts]
    by_cases hn : n ≤ (contentsOf m.parts).length
    · rw [Nat.sub_eq_zero_of_le hn]
      simp
    · rw [drop_of_length_le (by omega)]
      simp

lemma clearParts_withoutContent : ∀ n,
    (clearParts n parts).1.map ContentPart.withoutContent = parts.map ContentPart.withoutContent := by
  induction parts with
  | nil => intro n; cases n <;> rfl
  | cons p parts ih =>
    intro n
    cases n with
    | zero => rfl
    | succ n =>
      have hp : (clearPart p).withoutContent = p.withoutContent := by cases p <;> rfl
      simp only [clearParts]
      rw [map_cons, map_cons, hp, ih]

lemma skeleton_clearMessages : ∀ n, skeleton (clearMessages n messages) = skeleton messages := by
  induction messages with
  | nil => intro n; rfl
  | cons m messages ih =>
    intro n
    have hrest := ih (clearParts n m.parts).2
    simp only [skeleton] at hrest
    simp only [clearMessages, skeleton, map_cons, clearParts_withoutContent, hrest]

lemma clearMessages_zero : clearMessages 0 messages = messages := by
  induction messages with
  | nil => rfl
  | cons m messages ih => simp [clearMessages, clearParts, ih]

lemma clearToolResults_eq : cm.clearToolResults messages = clearMessages (cm.clearCount messages) messages := by
  have htotal : (messages.map fun m => m.parts.countP ContentPart.isToolResult).sum = (contents messages).length := by
    rw [contents, length_flatMap]
    congr 1
    exact map_congr_left fun m _ => (contentsOf_length_eq m.parts).symm
  unfold clearToolResults clearCount
  dsimp only
  rw [htotal]
  split
  · rename_i hle
    rw [Nat.sub_eq_zero_of_le hle, clearMessages_zero]
  · rfl

lemma skeleton_clearToolResults : skeleton (cm.clearToolResults messages) = skeleton messages := by
  rw [clearToolResults_eq, skeleton_clearMessages]

lemma contents_clearToolResults : contents (cm.clearToolResults messages) =
    ((contents messages).take (cm.clearCount messages)).map placeholder ++
      (contents messages).drop (cm.clearCount messages) := by rw [clearToolResults_eq, contents_clearMessages]

/-! ## Sizes -/

def bytes (contents : List String) : Nat := (contents.map String.utf8ByteSize).sum

/-- The messages, each with the contents that are cleared in it if the first `n` are. -/
def clearedIn : (n : Nat) → List Message → List (Message × List String)
  | _, [] => []
  | n, m :: messages => (m, (contentsOf m.parts).take n) :: clearedIn (n - (contentsOf m.parts).length) messages

section Sizes
variable (print : Json → String)
def chars (m : Message) : Nat := (m.parts.map (Message.partChars print)).sum

/-- The estimate of a message with the sizes of placeholders in place of those of its cleared contents. -/
def estimateAfter (p : Message × List String) : Nat :=
  max (u32 ((chars print p.1 + bytes (p.2.map placeholder) - bytes p.2) / 4)) 1

/-- The total does not grow if the sizes of placeholders are put in place of those of contents. -/
def Shrinks (cm : ContextManager) (messages : List Message) : Prop :=
  u32 ((clearedIn (cm.clearCount messages) messages).map (estimateAfter print)).sum ≤ messageTokens print messages

lemma bytes_cons (c : String) (cs : List String) : bytes (c :: cs) = c.utf8ByteSize + bytes cs := by simp [bytes]

lemma chars_clearParts (parts : List ContentPart) : ∀ n,
    ((clearParts n parts).1.map (partChars print)).sum + bytes ((contentsOf parts).take n) =
      (parts.map (partChars print)).sum + bytes (((contentsOf parts).take n).map placeholder) := by
  induction parts with
  | nil => intro n; cases n <;> simp [clearParts, contentsOf]
  | cons p parts ih =>
    intro n
    cases n with
    | zero => simp [clearParts, bytes]
    | succ n =>
      simp only [clearParts, map_cons, sum_cons]
      rw [contentsOf_cons]
      cases p with
      | toolResult id name content isError =>
        have hrest := ih n
        simp only [ContentPart.isToolResult, ContentPart.content, if_true, Option.toList_some, singleton_append,
          take_succ_cons, map_cons, bytes_cons, clearPart, partChars, placeholder_eq] at hrest ⊢
        omega
      | _ =>
        have hrest := ih (n + 1)
        simp only [ContentPart.isToolResult, ContentPart.content, Bool.false_eq_true, if_false, Option.toList_none,
          nil_append, clearPart] at hrest ⊢
        omega

lemma estimatedTokens_clear (n : Nat) (m : Message) :
    estimatedTokens print { m with parts := (clearParts n m.parts).1 } =
      estimateAfter print (m, (contentsOf m.parts).take n) := by
  have hchars := chars_clearParts print m.parts n
  have hafter : ((clearParts n m.parts).1.map (partChars print)).sum =
      chars print m + bytes (((contentsOf m.parts).take n).map placeholder) - bytes ((contentsOf m.parts).take n) := by
    unfold chars
    omega
  rw [estimatedTokens, estimateAfter, hafter]

lemma estimates_clearMessages (messages : List Message) : ∀ n,
    (clearMessages n messages).map (estimatedTokens print) = (clearedIn n messages).map (estimateAfter print) := by
  induction messages with
  | nil => intro n; rfl
  | cons m messages ih =>
    intro n
    obtain ⟨-, hleft⟩ := contentsOf_clearParts m.parts n
    simp only [clearMessages, clearedIn, map_cons]
    rw [estimatedTokens_clear, ih, hleft]

lemma messageTokens_clear_le_iff (cm : ContextManager) (messages : List Message) :
    messageTokens print (cm.clearToolResults messages) ≤ messageTokens print messages ↔ cm.Shrinks print messages := by
  rw [clearToolResults_eq, messageTokens, estimates_clearMessages]
  rfl

end Sizes

/-! ## Placeholders -/

lemma toString_size (n : Nat) : (toString n).utf8ByteSize = (Nat.toDigits 10 n).length := by
  rw [Nat.toString_eq_repr, utf8ByteSize_eq, Nat.toList_repr]
  apply byteLen_of_ascii
  intro c hc
  have hdigit := Nat.isDigit_of_mem_toDigits (by decide) (by decide) hc
  simp only [Char.isDigit, Bool.and_eq_true, decide_eq_true_eq] at hdigit
  exact UInt32.le_trans hdigit.2 (by decide)

variable (c : String)
lemma placeholder_size : (placeholder c).utf8ByteSize = 19 + (Nat.toDigits 10 (estimateTokens c)).length := by
  rw [placeholder_eq, String.utf8ByteSize_append, String.utf8ByteSize_append, toString_size,
    show "[cleared: ~".utf8ByteSize = 11 by decide, show " tokens]".utf8ByteSize = 8 by decide]
  omega

lemma estimateTokens_lt : estimateTokens c < 10 ^ 10 := by
  have : u32 c.utf8ByteSize < 2 ^ 32 := Nat.mod_lt _ (by decide)
  unfold estimateTokens
  omega

lemma placeholder_size_le {c} (h : 20 ≤ c.utf8ByteSize) : (placeholder c).utf8ByteSize ≤ c.utf8ByteSize := by
  obtain ⟨k, hk⟩ : ∃ k, c.utf8ByteSize = k + 20 := ⟨c.utf8ByteSize - 20, by omega⟩
  have hpow : (k + 20) / 4 < 10 ^ (k + 1) := by
    clear hk
    induction k with
    | zero => decide
    | succ k ih =>
      rw [Nat.pow_succ]
      omega
  have hestimate : estimateTokens c ≤ (k + 20) / 4 := by
    unfold estimateTokens
    rw [hk]
    exact Nat.div_le_div_right (Nat.mod_le _ _)
  have hdigits := (Nat.length_toDigits_le_iff (by decide) (Nat.succ_pos k)).2 (Nat.lt_of_le_of_lt hestimate hpow)
  rw [placeholder_size]
  omega

lemma placeholder_inj {c c'} : placeholder c = placeholder c' ↔ estimateTokens c = estimateTokens c' := by
  constructor
  · intro h
    have h1 := String.append_left_inj _ |>.1 h
    have h2 := String.append_right_inj _ |>.1 h1
    exact Nat.repr_inj.1 h2
  · intro h
    rw [placeholder_eq, placeholder_eq, h]

lemma placeholder_placeholder_iff :
    placeholder (placeholder c) = placeholder c ↔ 20 ≤ u32 c.utf8ByteSize ∧ u32 c.utf8ByteSize < 24 := by
  have hlt := estimateTokens_lt c
  have hten := (Nat.length_toDigits_le_iff (b := 10) (by decide) (by decide : 0 < 10)).2 hlt
  have hone := Nat.length_toDigits_le_iff (b := 10) (n := estimateTokens c) (by decide) Nat.one_pos
  have hpos : 0 < (Nat.toDigits 10 (estimateTokens c)).length := length_pos_iff.2 Nat.toDigits_ne_nil
  have hsize := placeholder_size c
  have hagain : estimateTokens (placeholder c) = (19 + (Nat.toDigits 10 (estimateTokens c)).length) / 4 := by
    rw [estimateTokens, u32, hsize, Nat.mod_eq_of_lt (by omega)]
  have hbytes : estimateTokens c = u32 c.utf8ByteSize / 4 := rfl
  rw [placeholder_inj, hagain]
  omega

lemma bytes_placeholder_le {cs} (h : ∀ c ∈ cs, 20 ≤ c.utf8ByteSize) : bytes (cs.map placeholder) ≤ bytes cs := by
  induction cs with
  | nil => exact Nat.le_refl _
  | cons c cs ih =>
    obtain ⟨hc, hcs⟩ := forall_mem_cons.1 h
    rw [map_cons, bytes_cons, bytes_cons]
    exact Nat.add_le_add (placeholder_size_le hc) (ih hcs)

variable (print : Json → String)
lemma estimatesAfter_le {messages} : ∀ n, (∀ c ∈ (contents messages).take n, 20 ≤ c.utf8ByteSize) →
    (messages.map fun m => max (chars print m / 4) 1).sum < 2 ^ 32 →
    ((clearedIn n messages).map (estimateAfter print)).sum ≤ (messages.map (estimatedTokens print)).sum ∧
      (messages.map (estimatedTokens print)).sum = (messages.map fun m => max (chars print m / 4) 1).sum := by
  induction messages with
  | nil => exact fun n _ _ => ⟨Nat.le_refl _, rfl⟩
  | cons m messages ih =>
    intro n hlong htotal
    simp only [map_cons, sum_cons] at htotal
    rw [contents_cons, take_append, forall_mem_append] at hlong
    obtain ⟨hrest, hsum⟩ := ih (n - (contentsOf m.parts).length) hlong.2 (by omega)
    have hhead := bytes_placeholder_le hlong.1
    have hu : ∀ x, x ≤ chars print m / 4 → u32 x = x := fun x hx => Nat.mod_eq_of_lt (by omega)
    have hafter : (chars print m + bytes (((contentsOf m.parts).take n).map placeholder) -
        bytes ((contentsOf m.parts).take n)) / 4 ≤ chars print m / 4 := Nat.div_le_div_right (by omega)
    have hself : estimatedTokens print m = max (chars print m / 4) 1 := by
      unfold estimatedTokens
      rw [← chars, hu _ (Nat.le_refl _)]
    simp only [clearedIn, map_cons, sum_cons, estimateAfter]
    rw [hu _ hafter, hself]
    omega

lemma shrinks_of_long {cm : ContextManager} {messages}
    (hlong : ∀ c ∈ (contents messages).take (cm.clearCount messages), 20 ≤ c.utf8ByteSize)
    (htotal : (messages.map fun m => max (chars print m / 4) 1).sum < 2 ^ 32) : cm.Shrinks print messages := by
  obtain ⟨hsum, htokens⟩ := estimatesAfter_le print _ hlong htotal
  unfold Shrinks messageTokens u32
  rw [Nat.mod_eq_of_lt (by omega), Nat.mod_eq_of_lt (by omega)]
  exact hsum

lemma clearCount_le : cm.clearCount messages ≤ (contents messages).length := Nat.sub_le _ _

lemma clear_idempotent_iff : cm.clearToolResults (cm.clearToolResults messages) = cm.clearToolResults messages ↔
    ∀ c ∈ (contents messages).take (cm.clearCount messages), 20 ≤ u32 c.utf8ByteSize ∧ u32 c.utf8ByteSize < 24 := by
  have hcontents := cm.contents_clearToolResults messages
  have hlen : (((contents messages).take (cm.clearCount messages)).map placeholder).length = cm.clearCount messages := by
    rw [length_map, length_take, Nat.min_eq_left (cm.clearCount_le messages)]
  have hcount : cm.clearCount (cm.clearToolResults messages) = cm.clearCount messages := by
    unfold clearCount at hlen ⊢
    rw [hcontents, length_append, length_drop]
    unfold clearCount
    omega
  have htwice := cm.contents_clearToolResults (cm.clearToolResults messages)
  rw [hcount, hcontents, take_left' hlen, drop_left' hlen] at htwice
  have hsame : cm.clearToolResults (cm.clearToolResults messages) = cm.clearToolResults messages ↔
      contents (cm.clearToolResults (cm.clearToolResults messages)) = contents (cm.clearToolResults messages) :=
    ⟨congrArg contents, messages_ext (by rw [skeleton_clearToolResults])⟩
  rw [hsame, htwice, hcontents, append_left_inj, map_map, map_inj_left]
  exact forall₂_congr fun c _ => placeholder_placeholder_iff c

/-! ## Stripped turns -/

def onlyThinking : Bool := isThinkingTurn m && m.parts.all ContentPart.isThinking

def thinkingShape : Bool × Bool × Bool := (isThinkingTurn m, onlyThinking m, m.parts.isEmpty)

def EmptiedAt (cm : ContextManager) (messages : List Message) (i : Nat) : Prop :=
  (∃ m ∈ messages[i]?, onlyThinking m = true) ∧
    (messages.take i).countP isThinkingTurn < messages.countP isThinkingTurn - cm.keepThinkingTurns

lemma thinkingShape_of_skeleton {messages} (h : skeleton messages = skeleton messages') :
    messages.map thinkingShape = messages'.map thinkingShape := by
  have hpart : ∀ p : ContentPart, p.withoutContent.isThinking = p.isThinking := by
    intro p
    cases p <;> rfl
  have hshape : ∀ l : List Message, (skeleton l).map thinkingShape = l.map thinkingShape := by
    intro l
    rw [skeleton, map_map]
    refine map_congr_left fun m _ => ?_
    simp [thinkingShape, onlyThinking, isThinkingTurn, Function.comp_def, any_map, all_map, hpart]
  rw [← hshape, h, hshape]

lemma countP_thinking : messages.countP isThinkingTurn = (messages.map thinkingShape).countP (·.1) := by
  rw [countP_map]
  rfl

lemma emptiedAt_congr {messages} (h : messages.map thinkingShape = messages'.map thinkingShape)
    (i : Nat) : cm.EmptiedAt messages i ↔ cm.EmptiedAt messages' i := by
  have hget : ∀ l : List Message, (∃ m ∈ l[i]?, onlyThinking m = true) ↔ ∃ t ∈ (l.map thinkingShape)[i]?, t.2.1 = true := by
    intro l
    rw [getElem?_map]
    simp [thinkingShape]
  unfold EmptiedAt
  rw [hget, hget, countP_thinking, countP_thinking, countP_thinking messages', countP_thinking (messages'.take i),
    map_take, map_take, h]

lemma stripThinking_getElem? : ∀ n i, (stripThinking n messages)[i]? = messages[i]?.map fun m =>
    if isThinkingTurn m = true ∧ (messages.take i).countP isThinkingTurn < n then
      { m with parts := m.parts.filter fun p => !p.isThinking }
      else m := by
  induction messages with
  | nil => intro n i; cases n <;> simp [stripThinking]
  | cons m messages ih =>
    intro n i
    cases n with
    | zero => simp [stripThinking]
    | succ n =>
      rw [stripThinking]
      by_cases hm : isThinkingTurn m = true
      · rw [if_pos hm]
        cases i with
        | zero => simp [hm]
        | succ i => simp [ih, hm]
      · rw [if_neg hm]
        cases i with
        | zero => simp [hm]
        | succ i => simp [ih, hm]

lemma clearThinking_eq :
    cm.clearThinking messages = stripThinking (messages.countP isThinkingTurn - cm.keepThinkingTurns) messages := by
  unfold clearThinking
  dsimp only
  split
  · rename_i hle
    rw [Nat.sub_eq_zero_of_le hle]
    cases messages <;> rfl
  · rfl

lemma clearThinking_empty_iff {messages i m m'} (hm : messages[i]? = some m)
    (hm' : (cm.clearThinking messages)[i]? = some m') : m'.parts = [] ↔ m.parts = [] ∨ cm.EmptiedAt messages i := by
  rw [clearThinking_eq, stripThinking_getElem?, hm, Option.map_some, Option.some.injEq] at hm'
  have hempty : m.parts = [] → isThinkingTurn m = false := by
    intro h
    simp [isThinkingTurn, h]
  have hat : cm.EmptiedAt messages i ↔ onlyThinking m = true ∧
      (messages.take i).countP isThinkingTurn < messages.countP isThinkingTurn - cm.keepThinkingTurns := by
    unfold EmptiedAt
    simp [hm]
  rw [hat]
  subst hm'
  split
  · rename_i hstrip
    have hne : m.parts ≠ [] := by
      intro h
      rw [hempty h] at hstrip
      cases hstrip.1
    have hall : (m.parts.filter fun p => !p.isThinking) = [] ↔ onlyThinking m = true := by
      simp [onlyThinking, hstrip.1]
    simp only [hall, hne, false_or]
    exact ⟨fun h => ⟨h, hstrip.2⟩, fun h => h.1⟩
  · rename_i hkeep
    refine ⟨.inl, fun h => h.resolve_right ?_⟩
    rintro ⟨hturn, hlt⟩
    simp only [onlyThinking, Bool.and_eq_true] at hturn
    exact hkeep ⟨hturn.1, hlt⟩

section Emptied
variable (print : Json → String)
def StripsThinking (cm : ContextManager) (messages : List Message) : Prop :=
  cm.thinkingClearThreshold <
    cm.fractionUsed print (cm.escalate print .toolResults cm.toolClearThreshold cm.clearToolResults messages).1

def summaryOf (cm : ContextManager) (model : Option Model) (messages : List Message) :
    Option (Message × List Message × List Message × String) :=
  match model with
  | none => none
  | some model =>
    if cm.summaryThreshold < cm.fractionUsed print messages then cm.summaryParts print model messages else none

/-- Where the messages of the result come from; the summary comes from none. -/
def origins (cm : ContextManager) (model : Option Model) (messages : List Message) : List (Option Message) :=
  match cm.summaryOf print model (cm.structuralLevels print messages).1 with
  | none => messages.map some
  | some (_, old, _, _) => (messages.take 1).map some ++ none :: (messages.drop (old.length + 1)).map some

def NoneEmptied (cm : ContextManager) (model : Option Model) (messages : List Message) : Prop :=
  List.Forall₂ (fun origin m' => ∀ m ∈ origin, m.parts ≠ [] → m'.parts ≠ []) (cm.origins print model messages)
    (cm.compactEscalating print model messages).1

def KeepsEmptied (cm : ContextManager) (model : Option Model) (messages : List Message) : Prop :=
  cm.StripsThinking print messages ∧ ∃ i, cm.EmptiedAt messages i ∧
    ∀ parts, cm.summaryOf print model (cm.structuralLevels print messages).1 = some parts → parts.2.1.length < i

variable (cm : ContextManager) (messages : List Message)
lemma escalate_skeleton :
    skeleton (cm.escalate print .toolResults cm.toolClearThreshold cm.clearToolResults messages).1 = skeleton messages := by
  unfold escalate
  split
  · exact cm.skeleton_clearToolResults messages
  · rfl

lemma structuralLevels_length : (cm.structuralLevels print messages).1.length = messages.length := by
  have h := congrArg List.length (structuralLevels_shape print cm messages)
  rwa [length_map, length_map] at h

lemma structuralLevels_empty_iff {messages i m m'} (hm : messages[i]? = some m)
    (hm' : (cm.structuralLevels print messages).1[i]? = some m') :
    m'.parts = [] ↔ m.parts = [] ∨ (cm.StripsThinking print messages ∧ cm.EmptiedAt messages i) := by
  unfold structuralLevels at hm'
  dsimp only at hm'
  have hskeleton := escalate_skeleton print cm messages
  unfold StripsThinking
  generalize (cm.escalate print .toolResults cm.toolClearThreshold cm.clearToolResults messages).1 = cleared at hskeleton hm' ⊢
  have hshape := thinkingShape_of_skeleton hskeleton
  have hget := congrArg (·[i]?) hshape
  simp only [getElem?_map, hm, Option.map_some] at hget
  obtain ⟨m₁, hm₁, hm₁shape⟩ := Option.map_eq_some_iff.1 hget
  have hempty : m₁.parts = [] ↔ m.parts = [] := by
    have h := congrArg (fun t => t.2.2) hm₁shape
    simp only [thinkingShape] at h
    rw [← List.isEmpty_iff, ← List.isEmpty_iff, h]
  rw [← emptiedAt_congr cm hshape]
  unfold escalate at hm'
  split at hm'
  · rename_i hstrips
    rw [clearThinking_empty_iff cm hm₁ hm', hempty]
    simp [hstrips]
  · rename_i hkeeps
    rw [hm₁] at hm'
    cases hm'
    simp [hkeeps, hempty]

variable (model : Option Model)
lemma compactEscalating_eq (messages : List Message) : (cm.compactEscalating print model messages).1 =
    match cm.summaryOf print model (cm.structuralLevels print messages).1 with
    | none => (cm.structuralLevels print messages).1
    | some (system, _, recent, text) => system :: .ofUser ("[Summary of earlier conversation]\n" ++ text) :: recent := by
  unfold compactEscalating summaryOf
  cases model with
  | none => rfl
  | some model =>
    dsimp only
    split
    · unfold summarize
      cases cm.summaryParts print model (cm.structuralLevels print messages).1 with
      | none => rfl
      | some parts => rfl
    · rfl

lemma summaryOf_eq_some {cm : ContextManager} {model messages system old recent text}
    (h : cm.summaryOf print model messages = some (system, old, recent, text)) :
    messages = system :: (old ++ recent) ∧ system.role = .system := by
  cases model with
  | none => cases h
  | some model =>
    simp only [summaryOf] at h
    split at h
    · cases messages with
      | nil => cases h
      | cons first rest =>
        simp only [summaryParts] at h
        split at h
        · cases h
        · rename_i hrole
          have happend := splitPreservingPairs_append print rest (cm.maxTokens / 4)
          split at h
          · cases h
          · cases h
            exact ⟨by rw [happend], not_not.1 hrole⟩
    · cases h

lemma forall₂_drop_iff (k : Nat) :
    List.Forall₂ (fun origin m' => ∀ m ∈ origin, m.parts ≠ [] → m'.parts ≠ []) ((messages.drop k).map some)
        ((cm.structuralLevels print messages).1.drop k) ↔
      ¬ (cm.StripsThinking print messages ∧ ∃ i, k ≤ i ∧ cm.EmptiedAt messages i) := by
  have hlen := structuralLevels_length print cm messages
  rw [forall₂_map_left_iff, forall₂_iff_get]
  constructor
  · rintro ⟨-, hget⟩ ⟨hstrips, i, hki, hat⟩
    obtain ⟨⟨m, hm, honly⟩, -⟩ := id hat
    obtain ⟨hi, hmi⟩ := List.getElem?_eq_some_iff.1 hm
    have hne : m.parts ≠ [] := by
      intro hnil
      simp [onlyThinking, isThinkingTurn, hnil] at honly
    have hkept := hget (i - k) (by rw [length_drop]; omega) (by rw [length_drop]; omega) m
    simp only [get_eq_getElem, getElem_drop, Nat.add_sub_cancel' hki, hmi] at hkept
    refine hkept rfl hne ?_
    exact (structuralLevels_empty_iff print cm hm (getElem?_eq_getElem (by omega))).2 (.inr ⟨hstrips, hat⟩)
  · intro hnone
    refine ⟨by rw [length_drop, length_drop, hlen], ?_⟩
    intro i hi hi' m hm hne hempty
    rw [length_drop] at hi hi'
    simp only [get_eq_getElem, getElem_drop, Option.mem_def, Option.some.injEq] at hm hempty
    have hm' : messages[k + i]? = some m := by rw [getElem?_eq_getElem (by omega), hm]
    rcases (structuralLevels_empty_iff print cm hm' (getElem?_eq_getElem (by omega))).1 hempty with h | ⟨hstrips, hat⟩
    · exact hne h
    · exact hnone ⟨hstrips, k + i, Nat.le_add_right k i, hat⟩

lemma noneEmptied_iff (messages : List Message) :
    cm.NoneEmptied print model messages ↔ ¬ cm.KeepsEmptied print model messages := by
  unfold NoneEmptied KeepsEmptied origins
  rw [compactEscalating_eq]
  cases hsummary : cm.summaryOf print model (cm.structuralLevels print messages).1 with
  | none =>
    have hall := forall₂_drop_iff print cm messages 0
    simp only [drop_zero, Nat.zero_le, true_and] at hall
    refine hall.trans (not_congr (and_congr_right fun _ => exists_congr fun i => ?_))
    exact ⟨fun h => ⟨h, nofun⟩, And.left⟩
  | some parts =>
    obtain ⟨system, old, recent, text⟩ := parts
    obtain ⟨hlevels, hrole⟩ := summaryOf_eq_some print hsummary
    have hrest := forall₂_drop_iff print cm messages (old.length + 1)
    rw [hlevels, drop_succ_cons, drop_left] at hrest
    have hlen := structuralLevels_length print cm messages
    rw [hlevels] at hlen
    cases messages with
    | nil => cases hlen
    | cons first rest =>
      -- the system message is no turn of the assistant
      have hshape := structuralLevels_shape print cm (first :: rest)
      rw [hlevels, map_cons, map_cons] at hshape
      have hfirst : first.role = .system := (congrArg Shape.role (List.cons.inj hshape).1).symm.trans hrole
      have hhead : first.parts ≠ [] → system.parts ≠ [] := by
        intro hne hempty
        have hsystem : (cm.structuralLevels print (first :: rest)).1[0]? = some system := by
          rw [hlevels]
          rfl
        have h := (structuralLevels_empty_iff print cm rfl hsystem).1 hempty
        obtain ⟨-, ⟨m, hm, honly⟩, -⟩ := h.resolve_left hne
        cases hm
        simp [onlyThinking, isThinkingTurn, hfirst] at honly
      have hkept : ∀ i, (old.length + 1 ≤ i ∧ cm.EmptiedAt (first :: rest) i) ↔ cm.EmptiedAt (first :: rest) i ∧
          ∀ parts, some (system, old, recent, text) = some parts → parts.2.1.length < i := by
        intro i
        rw [and_comm]
        refine and_congr_right fun _ => ⟨?_, fun h => h _ rfl⟩
        rintro hi parts ⟨⟩
        exact hi
      rw [exists_congr hkept] at hrest
      rw [← hrest]
      simp only [take_succ_cons, take_zero, map_cons, map_nil, singleton_append, forall₂_cons]
      refine ⟨fun h => h.2.2, fun h => ⟨?_, fun m hm => (nomatch hm), h⟩⟩
      rintro m ⟨⟩
      exact hhead

end Emptied

/-- What the structural levels do: clearing changes only contents before the last ones; the total does
not grow just if the placeholders' sizes do not make it grow; clearing again changes nothing just if all
cleared contents are of a placeholder's size; and no message is emptied just if no turn with only thinking
is stripped and kept. -/
theorem structural_compaction_iff (print : Json → String) (cm : ContextManager) (model : Option Model)
    (messages : List Message) : (skeleton (cm.clearToolResults messages) = skeleton messages ∧
      contents (cm.clearToolResults messages) = ((contents messages).take (cm.clearCount messages)).map placeholder ++
          (contents messages).drop (cm.clearCount messages)) ∧
    (messageTokens print (cm.clearToolResults messages) ≤ messageTokens print messages ↔ cm.Shrinks print messages) ∧
    ((∀ c ∈ (contents messages).take (cm.clearCount messages), 20 ≤ c.utf8ByteSize) →
      (messages.map fun m => max (chars print m / 4) 1).sum < 2 ^ 32 → cm.Shrinks print messages) ∧
    (cm.clearToolResults (cm.clearToolResults messages) = cm.clearToolResults messages ↔
      ∀ c ∈ (contents messages).take (cm.clearCount messages), 20 ≤ u32 c.utf8ByteSize ∧ u32 c.utf8ByteSize < 24) ∧
    (cm.NoneEmptied print model messages ↔ ¬ cm.KeepsEmptied print model messages) :=
  ⟨⟨cm.skeleton_clearToolResults messages, cm.contents_clearToolResults messages⟩,
    messageTokens_clear_le_iff print cm messages, shrinks_of_long print, cm.clear_idempotent_iff messages,
    noneEmptied_iff print cm model messages⟩

def sixResults : List Message :=
  [.toolResults (List.replicate 6 ("", "read", content, false))]

def thinkingTurns : List Message := List.replicate 3 (.assistantParts [.thinking "so" ""])

theorem structural_compaction_long :
    (ContextManager.new 1).Shrinks (fun _ => "") (sixResults "a result of more than twenty bytes") :=
  (structural_compaction_iff (fun _ => "") (.new 1) none (sixResults "a result of more than twenty bytes")).2.2.1
    (by decide) (by decide)

/-- An empty content grows to five tokens, its placeholder changes the next time, and the first of three
turns with only thinking is emptied. -/
theorem structural_compaction_grows :
    messageTokens (fun _ => "") (sixResults "") < messageTokens (fun _ => "") ((ContextManager.new 4).clearToolResults (sixResults "")) ∧
      (ContextManager.new 4).clearToolResults ((ContextManager.new 4).clearToolResults (sixResults "")) ≠
        (ContextManager.new 4).clearToolResults (sixResults "") ∧
      ¬ (ContextManager.new 4).NoneEmptied (fun _ => "") none thinkingTurns := by
  refine ⟨by decide, ?_, ?_⟩
  · rw [Ne, clear_idempotent_iff]
    decide
  · rw [noneEmptied_iff, not_not]
    refine ⟨by unfold StripsThinking; with_unfolding_all decide, 0, ⟨⟨_, rfl, rfl⟩, by decide⟩, ?_⟩
    exact nofun

end ContextManager
end Roz.Agent
