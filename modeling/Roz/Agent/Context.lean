import Roz.Agent.Message
import Roz.Lib.ExactFloat

/-!
# Escalating context compaction (`roz-agent/src/context.rs`)

`compact_escalating` clears old tool results, strips old thinking, and lets a model summarize the
older messages, as the context fills up.  All three levels keep calls and results together
(`wellFormed_compactEscalating`).
-/

namespace Roz.Agent
open Pairing ExactFloat Message List

inductive CompactionLevel where
  | toolResults
  | thinking
  | summary
  deriving DecidableEq

structure CompactionEvent where
  level : CompactionLevel
  messagesBefore : Nat
  messagesAfter : Nat
  tokensBefore : Nat
  tokensAfter : Nat
  summary : Option String
  deriving DecidableEq

structure ContextManager where
  maxTokens : Nat
  toolClearThreshold : F64
  thinkingClearThreshold : F64
  summaryThreshold : F64
  keepToolResults : Nat
  keepThinkingTurns : Nat

namespace ContextManager

def new (maxTokens : Nat) : ContextManager := ⟨maxTokens, .fin (1 / 2), .fin (13 / 20), .fin (17 / 20), 5, 2⟩

def estimateTokens (text : String) : Nat := u32 text.utf8ByteSize / 4

section Definition

-- how a JSON value is printed
variable (print : Json → String) (messages : List Message)
def messageTokens : Nat := u32 (messages.map (Message.estimatedTokens print)).sum

variable (cm : ContextManager)
def fractionUsed (messages : List Message) : F64 :=
  (F64.fin (messageTokens print messages)).div (.fin cm.maxTokens)

/-! ## Level 1 -/

def clearPart : ContentPart → ContentPart
  | .toolResult id name content isError =>
    .toolResult id name ("[cleared: ~" ++ toString (estimateTokens content) ++ " tokens]") isError
  | part => part

/-- Clear the first `n` tool results; the second component is how many of the `n` are left. -/
def clearParts : (n : Nat) → List ContentPart → List ContentPart × Nat
  | 0, parts => (parts, 0)
  | n + 1, [] => ([], n + 1)
  | n + 1, part :: parts =>
    let rest := clearParts (if part.isToolResult then n else n + 1) parts
    (clearPart part :: rest.1, rest.2)

def clearMessages : (n : Nat) → List Message → List Message
  | _, [] => []
  | n, m :: messages =>
    let cleared := clearParts n m.parts
    { m with parts := cleared.1 } :: clearMessages cleared.2 messages

def clearToolResults (messages : List Message) : List Message :=
  let total := (messages.map fun m => m.parts.countP ContentPart.isToolResult).sum
  if total ≤ cm.keepToolResults then messages else clearMessages (total - cm.keepToolResults) messages

def isThinkingTurn (m : Message) : Bool := decide (m.role = .assistant) && m.parts.any ContentPart.isThinking

/-- Strip the thinking of the first `n` assistant messages that have some. -/
def stripThinking : (n : Nat) → List Message → List Message
  | 0, messages => messages
  | _, [] => []
  | n + 1, m :: messages =>
    if isThinkingTurn m then { m with parts := m.parts.filter fun p => !p.isThinking } :: stripThinking n messages
    else m :: stripThinking (n + 1) messages

def clearThinking (messages : List Message) : List Message :=
  let total := messages.countP isThinkingTurn
  if total ≤ cm.keepThinkingTurns then messages else stripThinking (total - cm.keepThinkingTurns) messages

/-! ## Level 3 -/

/-- The loop of `split_preserving_pairs`, over the messages not yet taken, last first. -/
def splitBack (recentBudget : Nat) : (before : List Message) → (tokens : Nat) → (recent : List Message) →
    List Message × List Message
  | [], _, recent => ([], recent)
  | [msg], tokens, recent =>
    if recentBudget < u32 (tokens + msg.estimatedTokens print) then ([msg], recent) else ([], msg :: recent)
  | msg :: prev :: earlier, tokens, recent =>
    if msg.hasToolResults ∧ prev.isCall then
      let pairTokens := u32 (msg.estimatedTokens print + prev.estimatedTokens print)
      if recentBudget < u32 (tokens + pairTokens) then (msg :: prev :: earlier, recent)
      else splitBack recentBudget earlier (u32 (tokens + pairTokens)) (prev :: msg :: recent)
    else if recentBudget < u32 (tokens + msg.estimatedTokens print) then (msg :: prev :: earlier, recent)
    else splitBack recentBudget (prev :: earlier) (u32 (tokens + msg.estimatedTokens print)) (msg :: recent)

def splitPreservingPairs (recentBudget : Nat) : List Message × List Message :=
  let split := splitBack print recentBudget messages.reverse 0 []
  (split.1.reverse, split.2)

def roleText : MessageRole → String
  | .system => "system"
  | .user => "user"
  | .assistant => "assistant"

def formatMessagesForSummary : String :=
  "\n".intercalate (messages.map fun m => roleText m.role ++ ": " ++ m.text.getD "")

def summaryRequest (old : List Message) : CompletionRequest where
  messages := [
    .ofSystem ("You are a conversation summarizer. Summarize the following conversation " ++
      "into a concise paragraph that captures all important context, decisions, " ++
      "and outcomes. Preserve tool names, parameter values, and error messages."),
    .ofUser (formatMessagesForSummary old)]
  tools := []
  maxTokens := 1024
  toolChoice := none
  responseSchema := none

variable (model : Model)

/-- The messages that are replaced, those that are kept, and the summary.  `none` is an error. -/
def summaryParts : List Message → Option (Message × List Message × List Message × String)
  | [] => none
  | system :: rest =>
    if system.role ≠ .system then none
    else
      let split := splitPreservingPairs print rest (cm.maxTokens / 4)
      match model (summaryRequest split.1) with
      | .error _ => none
      | .ok response => some (system, split.1, split.2, response.text.getD "Summary unavailable.")

def summarize (messages : List Message) : Option (List Message × String) :=
  match summaryParts print cm model messages with
  | none => none
  | some (system, _, recent, text) =>
    some (system :: .ofUser ("[Summary of earlier conversation]\n" ++ text) :: recent, text)

/-! ## Escalation -/

def escalate (level : CompactionLevel) (threshold : F64)
    (compact : List Message → List Message) (messages : List Message) : List Message × List CompactionEvent :=
  if threshold < cm.fractionUsed print messages then
    let after := compact messages
    (after, [⟨level, messages.length, after.length, messageTokens print messages, messageTokens print after, none⟩])
  else (messages, [])

def structuralLevels (messages : List Message) : List Message × List CompactionEvent :=
  let first := cm.escalate print .toolResults cm.toolClearThreshold cm.clearToolResults messages
  let second := cm.escalate print .thinking cm.thinkingClearThreshold cm.clearThinking first.1
  (second.1, first.2 ++ second.2)

def compactEscalating (model : Option Model) (messages : List Message) : List Message × List CompactionEvent :=
  let structural := cm.structuralLevels print messages
  match model with
  | none => structural
  | some model =>
    if cm.summaryThreshold < cm.fractionUsed print structural.1 then
      match cm.summarize print model structural.1 with
      | none => structural
      | some (after, summary) =>
        (after, structural.2 ++ [⟨.summary, structural.1.length, after.length, messageTokens print structural.1,
          messageTokens print after, some summary⟩])
    else structural

def summarizedCount (messages : List Message) : Nat :=
  let structural := (cm.structuralLevels print messages).1
  if cm.summaryThreshold < cm.fractionUsed print structural then
    match cm.summaryParts print model structural with
    | none => 0
    | some (_, old, _, _) => old.length
  else 0

end Definition

/-! ## Levels 1 and 2 keep every message's shape -/

variable (part : ContentPart)
lemma clearPart_useId : (clearPart part).useId = part.useId := by cases part <;> rfl

lemma clearPart_resultId : (clearPart part).resultId = part.resultId := by cases part <;> rfl

lemma clearParts_filterMap {β : Type} {f : ContentPart → Option β} (hf : ∀ part, f (clearPart part) = f part)
    (parts : List ContentPart) : ∀ n, (clearParts n parts).1.filterMap f = parts.filterMap f := by
  induction parts with
  | nil => intro n; cases n <;> rfl
  | cons part parts ih =>
    intro n
    cases n with
    | zero => rfl
    | succ n =>
      simp only [clearParts]
      rw [filterMap_cons, filterMap_cons, hf, ih]

variable (messages : List Message)
lemma clearMessages_shape : ∀ n, (clearMessages n messages).map shape = messages.map shape := by
  induction messages with
  | nil => intro n; rfl
  | cons m messages ih =>
    intro n
    simp only [clearMessages, map_cons, ih, shape, useIds, resultIds]
    rw [clearParts_filterMap clearPart_useId, clearParts_filterMap clearPart_resultId]

variable (cm : ContextManager)
lemma clearToolResults_shape (messages : List Message) :
    (cm.clearToolResults messages).map shape = messages.map shape := by
  simp only [clearToolResults]
  split
  · rfl
  · exact clearMessages_shape messages _

lemma filterMap_filter_not_thinking {β : Type} {f : ContentPart → Option β}
    (hf : ∀ part, part.isThinking = true → f part = none) (parts : List ContentPart) :
    (parts.filter fun p => !p.isThinking).filterMap f = parts.filterMap f := by
  induction parts with
  | nil => rfl
  | cons part parts ih =>
    cases ht : part.isThinking with
    | true => simp [ht, hf part ht, ih]
    | false => simp [ht, filterMap_cons, ih]

lemma useId_of_isThinking (h : part.isThinking = true) : part.useId = none := by
  cases part with
  | thinking => rfl
  | _ => cases h

lemma resultId_of_isThinking (h : part.isThinking = true) : part.resultId = none := by
  cases part with
  | thinking => rfl
  | _ => cases h

lemma stripThinking_shape : ∀ n, (stripThinking n messages).map shape = messages.map shape := by
  induction messages with
  | nil => intro n; cases n <;> rfl
  | cons m messages ih =>
    intro n
    cases n with
    | zero => rfl
    | succ n =>
      simp only [stripThinking]
      split
      · simp only [map_cons, ih, shape, useIds, resultIds]
        rw [filterMap_filter_not_thinking useId_of_isThinking, filterMap_filter_not_thinking resultId_of_isThinking]
      · simp only [map_cons, ih]

lemma clearThinking_shape (messages : List Message) : (cm.clearThinking messages).map shape = messages.map shape := by
  simp only [clearThinking]
  split
  · rfl
  · exact stripThinking_shape messages _

section Spec
variable (print : Json → String) (cm : ContextManager) (messages : List Message)
variable {compact : List Message → List Message} (model : Model) (recentBudget : Nat) {level : CompactionLevel} {threshold : F64}
lemma escalate_shape (h : ∀ messages, (compact messages).map shape = messages.map shape) (messages : List Message) :
    (cm.escalate print level threshold compact messages).1.map shape = messages.map shape := by
  unfold escalate
  split
  · exact h messages
  · rfl

lemma escalate_eq_self {messages} (h : compact messages = messages) :
    (cm.escalate print level threshold compact messages).1 = messages := by
  unfold escalate
  split
  · exact h
  · rfl

lemma structuralLevels_shape : (cm.structuralLevels print messages).1.map shape = messages.map shape := by
  unfold structuralLevels
  dsimp only
  rw [escalate_shape print cm cm.clearThinking_shape, escalate_shape print cm cm.clearToolResults_shape]

/-! ## Level 3 cuts no pair -/

def NoCallAnswers (messages : List Message) : Prop := ∀ m ∈ messages, m.isCall → m.hasToolResults = false

lemma noCallAnswers_of_wellFormed {messages} (h : WellFormed messages) : NoCallAnswers messages := by
  intro m hm hc
  by_contra hr
  have huser := role_of_hasToolResults h m hm (by simpa using hr)
  exact not_isCall_of_role (by simp [huser]) hc

lemma splitBack_append (before : List Message) (tokens : Nat) (recent : List Message) :
    (splitBack print recentBudget before tokens recent).1.reverse ++ (splitBack print recentBudget before tokens recent).2 =
      before.reverse ++ recent := by
  fun_induction splitBack print recentBudget before tokens recent with
  | case1 | case2 | case4 | case6 => rfl
  | case3 => simp
  | case5 _ _ _ _ _ _ _ _ ih =>
    rw [ih]
    simp
  | case7 _ _ _ _ _ _ _ ih =>
    rw [ih]
    simp

lemma splitBack_undivided {before tokens recent} (hno : NoCallAnswers before)
    (hcut : ∀ a ∈ before.head?, a.isCall → ∀ b ∈ recent.head?, b.hasToolResults = false) :
    ∀ a ∈ (splitBack print recentBudget before tokens recent).1.head?, a.isCall →
      ∀ b ∈ (splitBack print recentBudget before tokens recent).2.head?, b.hasToolResults = false := by
  fun_induction splitBack print recentBudget before tokens recent with
  | case1 | case2 | case4 | case6 => exact hcut
  | case3 => exact nofun
  | case5 msg prev earlier tokens recent hpair pairTokens hlt ih =>
    have hprev := hno prev (.tail _ (.head _)) hpair.2
    refine ih (fun m hm => hno m (.tail _ (.tail _ hm))) ?_
    intro a _ _ b hb
    obtain rfl : prev = b := by simpa using hb
    exact hprev
  | case7 msg prev earlier tokens recent hpair hlt ih =>
    refine ih (fun m hm => hno m (.tail _ hm)) ?_
    intro a ha hc b hb
    obtain rfl : msg = b := by simpa using hb
    obtain rfl : prev = a := by simpa using ha
    by_contra hr
    exact hpair ⟨by simpa using hr, hc⟩

lemma splitPreservingPairs_append :
    (splitPreservingPairs print messages recentBudget).1 ++ (splitPreservingPairs print messages recentBudget).2 =
      messages := by
  have happ := splitBack_append print recentBudget messages.reverse 0 []
  rwa [reverse_reverse, append_nil] at happ

lemma splitPreservingPairs_spec (hno : NoCallAnswers messages) :
    messages = (splitPreservingPairs print messages recentBudget).1 ++
        (splitPreservingPairs print messages recentBudget).2 ∧
      ∀ a ∈ (splitPreservingPairs print messages recentBudget).1.getLast?, a.isCall →
        ∀ b ∈ (splitPreservingPairs print messages recentBudget).2.head?, b.hasToolResults = false := by
  refine ⟨(splitPreservingPairs_append print messages recentBudget).symm, ?_⟩
  unfold splitPreservingPairs
  dsimp only
  rw [getLast?_reverse]
  exact splitBack_undivided print recentBudget (fun m hm => hno m (mem_reverse.1 hm))
    nofun

/-! ## The whole escalation -/

/-- The compaction either keeps every shape, or replaces the messages after the system message up
to a cut that parts no call from its results. -/
lemma compactEscalating_cases (messages : List Message) : (cm.summarizedCount print model messages = 0 ∧
      (cm.compactEscalating print (some model) messages).1.map shape = messages.map shape) ∨
    ∃ system rest text, (cm.structuralLevels print messages).1 = system :: rest ∧ system.role = .system ∧
      (NoCallAnswers rest → (cm.compactEscalating print (some model) messages).1 =
            system :: .ofUser text :: rest.drop (cm.summarizedCount print model messages) ∧
          CleanCut toolPairing (rest.map shape) (cm.summarizedCount print model messages)) := by
  have hshape := structuralLevels_shape print cm messages
  simp only [compactEscalating, summarizedCount, summarize]
  split
  · cases hlevels : (cm.structuralLevels print messages).1 with
    | nil => exact .inl ⟨rfl, by rw [hlevels] at hshape; simpa [summaryParts, hlevels] using hshape⟩
    | cons system rest =>
      by_cases hrole : system.role = .system
      · cases hreply : model (summaryRequest (splitPreservingPairs print rest (cm.maxTokens / 4)).1) with
        | error e =>
          refine .inl ⟨?_, ?_⟩
          · simp [summaryParts, hrole, hreply]
          · rw [hlevels] at hshape
            simpa [summaryParts, hrole, hreply, hlevels] using hshape
        | ok response =>
          refine .inr ⟨system, rest, "[Summary of earlier conversation]\n" ++ response.text.getD "Summary unavailable.",
            rfl, hrole, fun hno => ?_⟩
          obtain ⟨happ, hcut⟩ := splitPreservingPairs_spec print rest (cm.maxTokens / 4) hno
          simp only [summaryParts, hrole, hreply, ne_eq, not_true_eq_false, if_false]
          generalize splitPreservingPairs print rest (cm.maxTokens / 4) = split at happ hcut
          obtain ⟨old, recent⟩ := split
          dsimp only at happ hcut ⊢
          subst happ
          refine ⟨by rw [drop_left], ?_⟩
          intro a ha ho b hb
          rw [map_append, ← length_map (f := shape)] at ha hb
          rw [take_left, getLast?_map] at ha
          rw [drop_left, head?_map] at hb
          obtain ⟨m, hm, rfl⟩ := Option.mem_map.1 ha
          obtain ⟨m', hm', rfl⟩ := Option.mem_map.1 hb
          exact (plain_shape m').2 (hcut m hm ((opens_shape m).1 ho) m' hm')
      · refine .inl ⟨?_, ?_⟩
        · simp [summaryParts, hrole]
        · rw [hlevels] at hshape
          simpa [summaryParts, hrole, hlevels] using hshape
  · exact .inl ⟨rfl, hshape⟩

variable {system : Message} {rest : List Message}

/-- After a plain system message, the compaction leaves a well-formed history if and only if what
it does not summarize is well formed. -/
lemma wellFormed_compactEscalating_iff
    (hrole : system.role = .system) (hplain : system.hasToolResults = false) (hno : NoCallAnswers rest) :
    (WellFormed (cm.compactEscalating print (some model) (system :: rest)).1 ↔
        Paired toolPairing ((rest.map shape).drop (cm.summarizedCount print model (system :: rest)))) ∧
      CleanCut toolPairing (rest.map shape) (cm.summarizedCount print model (system :: rest)) := by
  have hopens : ¬ toolPairing.opens system.shape := by
    rw [opens_shape]
    exact not_isCall_of_role (by simp [hrole])
  rcases compactEscalating_cases print cm model (system :: rest) with
    ⟨hzero, hshape⟩ | ⟨system', rest', text, hlevels, hrole', hresult⟩
  · rw [hzero]
    refine ⟨?_, ?_⟩
    · unfold WellFormed
      rw [hshape, map_cons, paired_cons_iff hopens ((plain_shape system).2 hplain), drop_zero]
    · intro a ha
      cases ha
  · have hshape := structuralLevels_shape print cm (system :: rest)
    rw [hlevels, map_cons, map_cons] at hshape
    obtain ⟨hsystem, hrest⟩ := List.cons.inj hshape
    have hno' : NoCallAnswers rest' := by
      intro m hm hc
      have hmem : m.shape ∈ rest.map shape := hrest ▸ mem_map_of_mem hm
      obtain ⟨m', hm', heq⟩ := mem_map.1 hmem
      have hc' : m'.isCall := by rwa [← opens_shape, heq, opens_shape]
      have hp' := (plain_shape m').2 (hno m' hm' hc')
      rwa [heq, plain_shape] at hp'
    obtain ⟨heq, hcut⟩ := hresult hno'
    rw [hrest] at hcut
    refine ⟨?_, hcut⟩
    have hplain' : system'.hasToolResults = false := by rwa [← plain_shape, hsystem, plain_shape]
    rw [heq, wellFormed_cons_iff (not_isCall_of_role (by simp [hrole'])) hplain',
      wellFormed_cons_iff (not_isCall_of_role (by simp [ofUser])) rfl, WellFormed, map_drop, hrest]

lemma wellFormed_compactEscalating (hrole : system.role = .system) (h : WellFormed (system :: rest)) :
    WellFormed (cm.compactEscalating print (some model) (system :: rest)).1 := by
  have hplain : system.hasToolResults = false := (plain_shape system).1 h.plain_head
  have hcall : ¬ system.isCall := not_isCall_of_role (by simp [hrole])
  have hrest : WellFormed rest := (wellFormed_cons_iff hcall hplain).1 h
  obtain ⟨hiff, hcut⟩ := wellFormed_compactEscalating_iff print cm model hrole hplain
    (noCallAnswers_of_wellFormed hrest)
  exact hiff.2 (Paired.drop hrest hcut)

end Spec
end ContextManager
end Roz.Agent
