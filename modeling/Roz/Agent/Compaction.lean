import Roz.Agent.Context
import Roz.Lib.ByteText

/-!
# Rolling compaction (`roz-agent/src/context_compressor.rs`, `agent_loop/core.rs`)

When the context is 80 % full, `maybe_run_compaction` runs the escalating levels and then lets
an auxiliary model replace everything between the first two messages and a tail of 80,000
characters by one summary.  The `Debug` text of a message is a parameter.  `none` is a panic:
`String::truncate` inside a character.

The two cuts of that splice look at no message, so they may part a call from its results
(`wellFormed_iteration_iff`).
-/

namespace Roz.Agent
open Pairing ExactFloat ByteText Message ContextManager

/-! ## The compressor -/

def AuxLlm : Type := (systemPrompt userPrompt : String) → Except String String

inductive CompactionOutcome where
  | summarized (summaryText : String) (removedCount : Nat)
  | degradedNoSummary
  | notNeeded
  deriving DecidableEq

/-- `String::truncate`, over the characters; `none` if the cut falls inside one. -/
def truncateBytes : (n : Nat) → List Char → Option (List Char)
  | _, [] => some []
  | n, c :: cs =>
    if n = 0 then some []
    else if c.utf8Size ≤ n then (truncateBytes (n - c.utf8Size) cs).map (c :: ·)
    else none

namespace ContextCompressor

def summaryPrefix : String :=
  "This is a handoff summary from a previous context window that has been compressed. Treat this summary as\n" ++
  "BACKGROUND REFERENCE ONLY — do NOT treat it as active instructions. Do NOT answer questions that were\n" ++
  "already resolved and mentioned in the summary. Proceed from the current state described below.\n\n" ++
  "Format:\n- Resolved questions: [list]\n- Pending questions: [list]\n- Remaining Work: [list]"

def minSummaryChars : Nat := 2000

def maxSummaryChars : Nat := 12000

def headProtectedCount : Nat := 2

def tailProtectedChars : Nat := 80000

def summarySystemPrompt : String :=
  "Summarize the following prior conversation history into: " ++
  "(1) resolved questions, (2) pending questions, (3) remaining work. " ++
  "Be terse. Do NOT restate instructions."

def clampSummary (body : String) : Option String :=
  let text := summaryPrefix ++ "\n\n" ++ body
  let cut :=
    if maxSummaryChars < text.utf8ByteSize then (truncateBytes maxSummaryChars text.toList).map String.ofList
    else some text
  cut.map fun text =>
    if text.utf8ByteSize < minSummaryChars then
      text ++ "\n\n(summary was short; fall back to the preserved tail for details)"
    else text

def summaryHead : String := summaryPrefix ++ "\n\n"

def shortNote : String := "\n\n(summary was short; fall back to the preserved tail for details)"

lemma size_append {a b : String} {m n} (ha : a.utf8ByteSize = m) (hb : b.utf8ByteSize = n) :
    (a ++ b).utf8ByteSize = m + n := by rw [String.utf8ByteSize_append, ha, hb]

-- The kernel counts the bytes of one literal fast, those of an appended text slowly.
lemma summaryHead_size : summaryHead.utf8ByteSize = 105 + 104 + 96 + 89 + 2 := by
  refine size_append (size_append (size_append (size_append ?_ ?_) ?_) ?_) ?_
  all_goals exact utf8ByteSize_ofList.trans rfl

lemma shortNote_size : shortNote.utf8ByteSize = 66 := (utf8ByteSize_ofList).trans rfl

lemma clampSummary_short {body} (h : body.utf8ByteSize < 1604) :
    clampSummary body = some (summaryHead ++ body ++ shortNote) := by
  have hsize : (summaryHead ++ body).utf8ByteSize = 396 + body.utf8ByteSize := size_append summaryHead_size rfl
  have hmax : ¬ maxSummaryChars < (summaryHead ++ body).utf8ByteSize := by
    rw [hsize, maxSummaryChars]
    omega
  have hmin : (summaryHead ++ body).utf8ByteSize < minSummaryChars := by
    rw [hsize, minSummaryChars]
    omega
  have hhead : summaryPrefix ++ "\n\n" = summaryHead := rfl
  simp only [clampSummary, hhead, if_neg hmax, Option.map_some, if_pos hmin]
  rfl

section Compact
variable {M : Type} (approxText : M → String)
def approxChars (m : M) : Nat := (approxText m).utf8ByteSize

/-- Where the protected tail starts, over the messages not yet looked at, last first. -/
def tailStart : (before : List M) → (tailChars : Nat) → Nat
  | [], _ => 0
  | m :: before, tailChars =>
    if tailProtectedChars < tailChars + approxChars approxText m then before.length + 1
    else tailStart before (tailChars + approxChars approxText m)

variable (messages : List M)
def middleEnd : Option Nat :=
  if messages.length ≤ headProtectedCount + 1 then none
  else if tailStart approxText messages.reverse 0 ≤ headProtectedCount then none
  else some (tailStart approxText messages.reverse 0)

def middlePrompt (tailStart : Nat) : String :=
  "\n---\n".intercalate (((messages.take tailStart).drop headProtectedCount).map approxText)

def compact (aux : Option AuxLlm) : Option CompactionOutcome :=
  match middleEnd approxText messages with
  | none => some .notNeeded
  | some tailStart =>
    match aux with
    | none => some .degradedNoSummary
    | some aux =>
      match aux summarySystemPrompt (middlePrompt approxText messages tailStart) with
      | .error _ => some .degradedNoSummary
      | .ok body => (clampSummary body).map fun text => .summarized text (tailStart - headProtectedCount)

lemma tailStart_le (before : List M) : ∀ tailChars, tailStart approxText before tailChars ≤ before.length := by
  induction before with
  | nil => exact fun _ => Nat.le_refl 0
  | cons m before ih =>
    intro tailChars
    rw [tailStart]
    split
    · exact Nat.le_refl _
    · exact Nat.le_succ_of_le (ih _)

lemma middleEnd_eq_some {messages t} (h : middleEnd approxText messages = some t) :
    3 < messages.length ∧ 2 < t ∧ t ≤ messages.length := by
  unfold middleEnd headProtectedCount at h
  have hle := tailStart_le approxText messages.reverse 0
  rw [List.length_reverse] at hle
  split at h
  · cases h
  · split at h
    · cases h
    · cases h
      exact ⟨by omega, by omega, hle⟩

end Compact
end ContextCompressor

/-! ## One iteration of the loop -/

open ContextManager ContextCompressor
section Definition

-- how a JSON value and a message are printed
variable (print : Json → String) (debug : Message → String)
def spliceSummary (messages : List Message) (removedCount : Nat) (summaryText : String) : List Message :=
  messages.take headProtectedCount ++ .ofSystem summaryText :: messages.drop (headProtectedCount + removedCount)

variable (cm : ContextManager) (model : Model) (aux : Option AuxLlm)
def maybeRunCompaction (messages : List Message) : Option (List Message) :=
  if cm.fractionUsed print messages < .fin (4 / 5) then some messages
  else
    let messages := (cm.compactEscalating print (some model) messages).1
    match aux with
    | none => some messages
    | some aux =>
      match compact debug messages (some aux) with
      | none => none
      | some (.summarized summaryText removedCount) => some (spliceSummary messages removedCount summaryText)
      | some _ => some messages

/-- `maybe_run_compaction`, then `compact_escalating` with whatever the model answers then. -/
def iterationCompaction (nextModel : Model) (messages : List Message) : Option (List Message) :=
  (maybeRunCompaction print debug cm model aux messages).map fun messages =>
    (cm.compactEscalating print (some nextModel) messages).1

/-- The history that is spliced, the start of its tail and the reply to the middle part, if the
splice takes place. -/
def spliceOf (messages : List Message) : Option (List Message × Nat × String) :=
  if cm.fractionUsed print messages < .fin (4 / 5) then none
  else
    let messages := (cm.compactEscalating print (some model) messages).1
    match aux, middleEnd debug messages with
    | some aux, some tailStart =>
      match aux summarySystemPrompt (middlePrompt debug messages tailStart) with
      | .error _ => none
      | .ok body => some (messages, tailStart, body)
    | _, _ => none

/-- The splice cuts no character of its summary.  The message before the middle part is no call,
unless the next summary takes it in; nor is the last one of the middle part, unless the next
summary takes in its results. -/
def KeepsPairs (nextModel : Model) (messages : List Message) : Prop :=
  ∀ history tailStart body, spliceOf print debug cm model aux messages = some (history, tailStart, body) →
    ∃ text, clampSummary body = some text ∧
      (∀ m ∈ history[1]?, m.isCall →
        1 ≤ cm.summarizedCount print nextModel (spliceSummary history (tailStart - 2) text)) ∧
      (∀ m ∈ history[tailStart - 1]?, m.isCall →
        3 ≤ cm.summarizedCount print nextModel (spliceSummary history (tailStart - 2) text))

end Definition

section Iteration
variable (print : Json → String) (debug : Message → String) (cm : ContextManager) (model : Model)
lemma maybeRunCompaction_eq (aux : Option AuxLlm) (messages : List Message) :
    maybeRunCompaction print debug cm model aux messages =
      match spliceOf print debug cm model aux messages with
      | none =>
        some (if cm.fractionUsed print messages < .fin (4 / 5) then messages
          else (cm.compactEscalating print (some model) messages).1)
      | some (history, tailStart, body) =>
        (clampSummary body).map (spliceSummary history (tailStart - 2)) := by
  unfold maybeRunCompaction spliceOf
  by_cases hlow : cm.fractionUsed print messages < .fin (4 / 5)
  · simp only [if_pos hlow]
  · simp only [if_neg hlow]
    cases aux with
    | none => rfl
    | some aux =>
      simp only [compact]
      -- a variable for the kernel, which would compute with the texts of `clampSummary`
      obtain ⟨clamp, hclamp⟩ : ∃ clamp, clamp = clampSummary := ⟨_, rfl⟩
      rw [← hclamp]
      cases middleEnd debug (cm.compactEscalating print (some model) messages).1 with
      | none => rfl
      | some t =>
        dsimp only
        generalize aux summarySystemPrompt _ = reply
        cases reply with
        | error e => rfl
        | ok body =>
          dsimp only
          cases clamp body with
          | none => rfl
          | some text => rfl

lemma spliceOf_eq_some {cm model aux messages history tailStart body}
    (h : spliceOf print debug cm model aux messages = some (history, tailStart, body)) :
    history = (cm.compactEscalating print (some model) messages).1 ∧ 3 < history.length ∧ 2 < tailStart ∧
      tailStart ≤ history.length := by
  unfold spliceOf at h
  split at h
  · cases h
  · cases aux with
    | none => cases h
    | some aux =>
      cases hmid : middleEnd debug (cm.compactEscalating print (some model) messages).1 with
      | none =>
        simp only [hmid] at h
        cases h
      | some t =>
        simp only [hmid] at h
        split at h
        · cases h
        · cases h
          exact ⟨rfl, middleEnd_eq_some debug hmid⟩

lemma compactEscalating_head {system rest} (hrole : system.role = .system) (h : WellFormed (system :: rest)) :
    ∃ system' rest', (cm.compactEscalating print (some model) (system :: rest)).1 = system' :: rest' ∧
      system'.role = .system := by
  rcases compactEscalating_cases print cm model (system :: rest) with
    ⟨-, hshape⟩ | ⟨system', rest', text, hlevels, hrole', hresult⟩
  · rw [List.map_cons] at hshape
    obtain ⟨system', rest', heq, hsystem, -⟩ := List.map_eq_cons_iff.1 hshape
    refine ⟨system', rest', heq, ?_⟩
    rw [← hrole]
    exact congrArg Shape.role hsystem
  · have hshape := structuralLevels_shape print cm (system :: rest)
    have hwf : WellFormed (system' :: rest') := by
      unfold WellFormed
      rw [← hlevels, hshape]
      exact h
    have hno : NoCallAnswers rest' := fun m hm => noCallAnswers_of_wellFormed hwf m (.tail _ hm)
    exact ⟨system', _, (hresult hno).1, hrole'⟩

lemma history_parts {history : List Message} {t} (ht : 2 < t) (hle : t ≤ history.length) :
    ∃ system c mid tail, mid ≠ [] ∧ history = system :: c :: (mid ++ tail) ∧ t = mid.length + 2 := by
  match history, hle with
  | system :: c :: rest, hle =>
    have hrest : t - 2 ≤ rest.length := by
      simp only [List.length_cons] at hle
      omega
    have hlen : (rest.take (t - 2)).length = t - 2 := by rw [List.length_take, Nat.min_eq_left hrest]
    refine ⟨system, c, rest.take (t - 2), rest.drop (t - 2), ?_, by rw [List.take_append_drop], by omega⟩
    intro hnil
    rw [hnil, List.length_nil] at hlen
    omega
  | [], hle =>
    simp only [List.length_nil] at hle
    omega
  | [_], hle =>
    simp only [List.length_singleton] at hle
    omega

variable (system c : Message)
lemma spliceSummary_parts (mid tail : List Message) (text : String) :
    spliceSummary (system :: c :: (mid ++ tail)) mid.length text = system :: c :: .ofSystem text :: tail := by
  unfold spliceSummary headProtectedCount
  rw [Nat.add_comm, show mid.length + 2 = (mid.length + 1) + 1 from rfl]
  simp

lemma getLast?_parts {mid} (tail : List Message) (hmid : mid ≠ []) :
    (system :: c :: (mid ++ tail))[mid.length + 1]? = mid.getLast? := by
  have hpos : 0 < mid.length := List.length_pos_iff.2 hmid
  rw [List.getLast?_eq_getElem?, List.getElem?_cons_succ]
  obtain ⟨n, hn⟩ : ∃ n, mid.length = n + 1 := ⟨mid.length - 1, by omega⟩
  rw [hn, List.getElem?_cons_succ, List.getElem?_append_left (by omega)]
  rfl

/-- After the splice of a well-formed history and the next compaction, the history is well formed
if and only if the next summary takes in each open end. -/
lemma wellFormed_splice_iff (nextModel : Model) {system c mid tail}
    (hwf : WellFormed (system :: c :: (mid ++ tail))) (hrole : system.role = .system) (hmid : mid ≠ []) (text : String) :
    WellFormed (cm.compactEscalating print (some nextModel) (system :: c :: .ofSystem text :: tail)).1 ↔
      (c.isCall → 1 ≤ cm.summarizedCount print nextModel (system :: c :: .ofSystem text :: tail)) ∧
      (∀ m ∈ mid.getLast?, m.isCall →
        3 ≤ cm.summarizedCount print nextModel (system :: c :: .ofSystem text :: tail)) := by
  have hcall : ¬ system.isCall := not_isCall_of_role (by simp [hrole])
  have hplain : system.hasToolResults = false := (plain_shape system).1 hwf.plain_head
  have hrest : WellFormed (c :: (mid ++ tail)) := (wellFormed_cons_iff hcall hplain).1 hwf
  have hsummary : ¬ (ofSystem text).isCall := not_isCall_of_role (by simp [ofSystem])
  have hno : NoCallAnswers (c :: .ofSystem text :: tail) := by
    intro m hm hc
    rcases List.mem_cons.1 hm with rfl | hm
    · exact noCallAnswers_of_wellFormed hrest m (.head _) hc
    · rcases List.mem_cons.1 hm with rfl | hm
      · exact absurd hc hsummary
      · exact noCallAnswers_of_wellFormed hrest m (.tail _ (List.mem_append_right mid hm)) hc
  obtain ⟨hiff, hcut⟩ := wellFormed_compactEscalating_iff print cm nextModel hrole hplain hno
  have hpaired : Paired toolPairing (c.shape :: (mid.map shape ++ tail.map shape)) := by
    have h := hrest
    unfold WellFormed at h
    rwa [List.map_cons, List.map_append] at h
  have hclosed : Closed toolPairing (mid.map shape) ↔ ∀ m ∈ mid.getLast?, ¬ m.isCall := by
    unfold Closed
    rw [List.getLast?_map]
    simp only [Option.mem_map, forall_exists_index, and_imp, forall_apply_eq_imp_iff₂, opens_shape]
  rw [hiff]
  refine (Paired.splice_drop_iff hpaired (by simpa using hmid) ((opens_shape _).not.2 hsummary) rfl hcut).trans ?_
  rw [opens_shape, hclosed]
  simp only [not_forall, not_not, forall_exists_index]

end Iteration

/-- After one iteration's compactions a well-formed history is well formed again if and only if
the splice parts no call from its results for good. -/
theorem wellFormed_iteration_iff (print : Json → String) (debug : Message → String) (cm : ContextManager)
    (model : Model) (aux : Option AuxLlm) (nextModel : Model) (system : Message) (rest : List Message)
    (hrole : system.role = .system) (h : WellFormed (system :: rest)) :
    (∃ after, iterationCompaction print debug cm model aux nextModel (system :: rest) = some after ∧ WellFormed after) ↔
      KeepsPairs print debug cm model aux nextModel (system :: rest) := by
  unfold iterationCompaction
  rw [maybeRunCompaction_eq]
  cases hsplice : spliceOf print debug cm model aux (system :: rest) with
  | none =>
    have hkeeps : KeepsPairs print debug cm model aux nextModel (system :: rest) := by
      intro history tailStart body hs
      rw [hsplice] at hs
      cases hs
    refine iff_of_true ⟨_, rfl, ?_⟩ hkeeps
    split
    · exact wellFormed_compactEscalating print cm nextModel hrole h
    · obtain ⟨system', rest', heq, hrole'⟩ := compactEscalating_head print cm model hrole h
      have hwf := wellFormed_compactEscalating print cm model hrole h
      rw [heq] at hwf ⊢
      exact wellFormed_compactEscalating print cm nextModel hrole' hwf
  | some splice =>
    obtain ⟨history, t, body⟩ := splice
    obtain ⟨hhistory, hlen, ht, hle⟩ := spliceOf_eq_some print debug hsplice
    obtain ⟨system', rest', heq, hrole'⟩ := compactEscalating_head print cm model hrole h
    have hwf := wellFormed_compactEscalating print cm model hrole h
    rw [← hhistory] at heq hwf
    obtain ⟨s, c, mid, tail, hmid, hparts, rfl⟩ := history_parts ht hle
    obtain ⟨rfl, -⟩ := List.cons.inj (hparts.symm.trans heq)
    subst hparts
    have hiff := wellFormed_splice_iff print cm nextModel hwf hrole' hmid
    -- the condition of the spliced history, with its parts named
    have hkeeps : KeepsPairs print debug cm model aux nextModel (system :: rest) ↔
        ∃ text, clampSummary body = some text ∧
          WellFormed (cm.compactEscalating print (some nextModel) (s :: c :: .ofSystem text :: tail)).1 := by
      have hlast : (s :: c :: (mid ++ tail))[mid.length + 2 - 1]? = mid.getLast? := getLast?_parts s c tail hmid
      have hsecond : (s :: c :: (mid ++ tail))[1]? = some c := rfl
      unfold KeepsPairs
      rw [hsplice]
      simp only [hiff]
      constructor
      · intro hk
        obtain ⟨text, htext, h1, h3⟩ := hk _ _ _ rfl
        rw [Nat.add_sub_cancel, spliceSummary_parts] at h1 h3
        rw [hlast] at h3
        exact ⟨text, htext, h1 c rfl, h3⟩
      · rintro ⟨text, htext, h1, h3⟩ history t body hs
        cases hs
        rw [hlast, hsecond]
        simp only [Nat.add_sub_cancel, spliceSummary_parts]
        refine ⟨text, htext, fun m hm => ?_, h3⟩
        cases hm
        exact h1
    rw [hkeeps]
    simp only [Nat.add_sub_cancel, Option.map_map, Option.map_eq_some_iff, Function.comp_apply, spliceSummary_parts]
    constructor
    · rintro ⟨after, ⟨text, htext, rfl⟩, hafter⟩
      exact ⟨text, htext, hafter⟩
    · rintro ⟨text, htext, hafter⟩
      exact ⟨_, ⟨text, htext, rfl⟩, hafter⟩

/-! ## A call longer than the tail -/

def doubled : Nat → String
  | 0 => "x"
  | k + 1 => doubled k ++ doubled k

lemma doubled_size (k : Nat) : (doubled k).utf8ByteSize = 2 ^ k := by
  induction k with
  | zero => rfl
  | succ k ih =>
    rw [doubled, String.utf8ByteSize_append, ih, Nat.pow_succ]
    omega

def plainJson : Json → String
  | .string s => "\"" ++ s ++ "\""
  | _ => "null"

def plainDebugPart : ContentPart → String
  | .text body => "Text \x7b text: \"" ++ body ++ "\" \x7d"
  | .toolUse id name input =>
    "ToolUse \x7b id: \"" ++ id ++ "\", name: \"" ++ name ++ "\", input: String(" ++ plainJson input ++ ") \x7d"
  | .toolResult id name content isError =>
    "ToolResult \x7b tool_use_id: \"" ++ id ++ "\", name: \"" ++ name ++ "\", content: \"" ++ content ++
      "\", is_error: " ++ toString isError ++ " \x7d"
  | _ => ""

def debugRole : MessageRole → String
  | .system => "System"
  | .user => "User"
  | .assistant => "Assistant"

/-- The derived `Debug` of messages whose texts have no characters to escape. -/
def plainDebug (m : Message) : String :=
  "Message \x7b role: " ++ debugRole m.role ++ ", parts: [" ++ ", ".intercalate (m.parts.map plainDebugPart) ++ "] \x7d"

variable (text : String)
def callOf : Message := .assistantParts [.toolUse "toolu_1" "write_file" (.string text)]

def resultOfCall : Message := .toolResults [("toolu_1", "write_file", "ok", false)]

def longCall : List Message :=
  [.ofSystem "You are Roz.", .ofUser "Write the log.", callOf text, resultOfCall]

def briefModel : Model := fun _ => .ok ⟨[.text "Summary."], .endTurn, ⟨0, 0, 0, 0⟩⟩

def briefAux : AuxLlm := fun _ _ => .ok "Nothing is pending."

def briefSummary : String := (clampSummary "Nothing is pending.").getD ""

lemma compactEscalating_eq_self {print} {cm : ContextManager} {model messages}
    (hresults : cm.clearToolResults messages = messages) (hthinking : cm.clearThinking messages = messages)
    (hlow : ¬ cm.summaryThreshold < cm.fractionUsed print messages) :
    (cm.compactEscalating print (some model) messages).1 = messages := by
  have hstructural : (cm.structuralLevels print messages).1 = messages := by
    simp only [structuralLevels]
    rw [escalate_eq_self _ _ hresults, escalate_eq_self _ _ hthinking]
  simp only [compactEscalating, hstructural, if_neg hlow]

section LongCall
variable {text : String} (htext : text.utf8ByteSize = 131072)

include htext

lemma longCall_tokens : messageTokens plainJson (longCall text) = 32780 := by
  simp only [messageTokens, longCall, callOf, resultOfCall, estimatedTokens, partChars,
    ofSystem, ofUser, assistantParts, toolResults, plainJson, u32, List.map_cons,
    List.map_nil, String.utf8ByteSize_append, htext]
  decide

lemma longCall_fraction : (ContextManager.new 40000).fractionUsed plainJson (longCall text) = .fin (1639 / 2000) := by
  rw [fractionUsed, longCall_tokens htext]
  norm_num [F64.div, new]

lemma longCall_compact :
    ((ContextManager.new 40000).compactEscalating plainJson (some briefModel) (longCall text)).1 = longCall text := by
  refine compactEscalating_eq_self rfl rfl ?_
  rw [longCall_fraction htext]
  norm_num [new]

lemma longCall_middleEnd : middleEnd plainDebug (longCall text) = some 3 := by
  have hresult : approxChars plainDebug resultOfCall ≤ 80000 := by decide +kernel
  have hcall : 80000 < approxChars plainDebug (callOf text) := by
    have hdebug : plainDebug (callOf text) = "Message \x7b role: " ++ "Assistant" ++ ", parts: [" ++
        ("ToolUse \x7b id: \"" ++ "toolu_1" ++ "\", name: \"" ++ "write_file" ++ "\", input: String(" ++
          ("\"" ++ text ++ "\"") ++ ") \x7d") ++ "] \x7d" := rfl
    rw [approxChars, hdebug]
    simp only [String.utf8ByteSize_append, htext]
    omega
  have hstart : tailStart plainDebug (longCall text).reverse 0 = 3 := by
    have hreverse : (longCall text).reverse =
        [resultOfCall, callOf text, .ofUser "Write the log.", .ofSystem "You are Roz."] := rfl
    rw [hreverse, tailStart, if_neg (by unfold tailProtectedChars; omega), tailStart,
      if_pos (by unfold tailProtectedChars; omega)]
    rfl
  simp only [middleEnd, hstart]
  rfl

lemma longCall_spliced {summaryText} (hclamp : clampSummary "Nothing is pending." = some summaryText) :
    maybeRunCompaction plainJson plainDebug (.new 40000) briefModel (some briefAux) (longCall text) =
      some [.ofSystem "You are Roz.", .ofUser "Write the log.", .ofSystem summaryText, resultOfCall] := by
  have hfull : ¬ (ContextManager.new 40000).fractionUsed plainJson (longCall text) < .fin (4 / 5) := by
    rw [longCall_fraction htext]
    norm_num
  simp only [maybeRunCompaction, if_neg hfull, longCall_compact htext, compact, longCall_middleEnd htext, briefAux,
    hclamp]
  rfl

end LongCall

theorem wellFormed_iteration_longCall :
    ∃ after, iterationCompaction plainJson plainDebug (.new 40000) briefModel none briefModel (longCall (doubled 17)) =
      some after ∧ WellFormed after := by
  refine (wellFormed_iteration_iff plainJson plainDebug (.new 40000) briefModel none briefModel _ _ rfl ?_).2 ?_
  · decide
  · intro history tailStart body h
    simp [spliceOf] at h

lemma spliced_low {summaryText} (h : summaryText.utf8ByteSize = 481) :
    ¬ (ContextManager.new 40000).summaryThreshold < (ContextManager.new 40000).fractionUsed plainJson
      [.ofSystem "You are Roz.", .ofUser "Write the log.", .ofSystem summaryText, resultOfCall] := by
  simp only [fractionUsed, messageTokens, resultOfCall, estimatedTokens, partChars, ofSystem,
    ofUser, toolResults, u32, List.map_cons, List.map_nil, h]
  decide +kernel

lemma briefSummary_eq : clampSummary "Nothing is pending." = some briefSummary ∧ briefSummary.utf8ByteSize = 481 := by
  have hclamp := clampSummary_short (show "Nothing is pending.".utf8ByteSize < 1604 by decide)
  have hbrief : briefSummary = summaryHead ++ "Nothing is pending." ++ shortNote := by
    rw [briefSummary, hclamp, Option.getD_some]
  refine ⟨by rw [hclamp, hbrief], ?_⟩
  rw [hbrief, size_append (size_append summaryHead_size rfl) shortNote_size]
  decide

/-- The summary replaces the call and leaves its result behind. -/
theorem splice_orphans_result : WellFormed (longCall (doubled 17)) ∧
    ∃ after, iterationCompaction plainJson plainDebug (.new 40000) briefModel (some briefAux) briefModel
      (longCall (doubled 17)) = some after ∧ ¬ WellFormed after := by
  have hsize : (doubled 17).utf8ByteSize = 131072 := doubled_size 17
  obtain ⟨hclamp, hbrief⟩ := briefSummary_eq
  refine ⟨by decide, _, by rw [iterationCompaction, longCall_spliced hsize hclamp]; rfl, ?_⟩
  dsimp only
  rw [compactEscalating_eq_self rfl rfl (spliced_low hbrief)]
  decide

end Roz.Agent
