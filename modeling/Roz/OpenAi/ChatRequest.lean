import Roz.Agent.Message

/-!
# The chat request (`roz-agent/src/model/openai.rs`, `roz-core/src/thinking.rs`)

A history becomes the messages of a chat request: assistant messages lose their unsigned
reasoning, and then every message is translated to exactly one wire message.  A message with the
results of several calls becomes the message of its first result, and its text is dropped
(`buildChatRequest_carries_iff`).

The temperature, which is never set, is left out.
-/

namespace Roz.OpenAi
open Roz.Agent ContentPart Message List

/-! ## Reasoning across turns -/

inductive ThinkingConfig where
  | signed
  | unsignedTagged (openTag closeTag : String)
  | none

structure AssistantTurn where
  text : String
  thinking : ThinkingConfig
  reasoningSegment : String

def stripUnsignedForCrossTurn (turns : List AssistantTurn) : List AssistantTurn :=
  turns.map fun turn =>
    match turn.thinking with
    | .unsignedTagged _ _ => { turn with reasoningSegment := "" }
    | .none => turn
    | .signed => turn

def asThinking : ContentPart → Option (String × String)
  | .thinking body signature => some (body, signature)
  | _ => none

def isOther : ContentPart → Bool
  | .text _ => false
  | .thinking _ _ => false
  | _ => true

variable (m : Message)
def stripMessage : Message :=
  match m.role with
  | .assistant =>
    let text := String.join (m.parts.filterMap ContentPart.asText)
    let thoughts := m.parts.filterMap asThinking
    let reasoningSegment := String.join (thoughts.map (·.1))
    let hasSigned := thoughts.any fun thought => thought.2 ≠ ""
    let thinking : ThinkingConfig :=
      if hasSigned then .signed
      else if reasoningSegment = "" then .none
      else .unsignedTagged "<think>" "</think>"
    let stripped := (stripUnsignedForCrossTurn [⟨text, thinking, reasoningSegment⟩]).head?.getD ⟨text, .none, ""⟩
    let signature := ((thoughts.find? fun thought => thought.2 ≠ "").map (·.2)).getD ""
    { role := .assistant
      parts := (if stripped.text = "" then [] else [.text stripped.text]) ++
        (if stripped.reasoningSegment = "" then [] else [.thinking stripped.reasoningSegment signature]) ++
        m.parts.filter isOther }
  | _ => m

def stripHistoryForCrossTurn (messages : List Message) : List Message := messages.map stripMessage

/-! ## Wire messages -/

structure ChatFunctionCall where
  name : String
  arguments : String
  deriving DecidableEq

structure ChatToolCall where
  id : String
  kind : String
  function : ChatFunctionCall
  deriving DecidableEq

inductive ChatMessage where
  | system (content : String)
  | user (content : String)
  | assistant (content : Option String) (toolCalls : List ChatToolCall)
  | tool (toolCallId content : String)
  deriving DecidableEq

variable (print : Json → String)
def chatToolCall : ContentPart → Option ChatToolCall
  | .toolUse id name input => some ⟨id, "function", name, print input⟩
  | _ => none

def asToolMessage : ContentPart → Option ChatMessage
  | .toolResult toolUseId _ content _ => some (.tool toolUseId content)
  | _ => none

/-- A user message with results becomes the message of the first of them. -/
def toChatMessage (m : Message) : ChatMessage :=
  match m.role with
  | .system => .system (m.text.getD "")
  | .user => (m.parts.findSome? asToolMessage).getD (.user (m.text.getD ""))
  | .assistant => .assistant m.text (m.parts.filterMap (chatToolCall print))

/-! ## The request -/

structure ChatToolFunction where
  name : String
  description : Option String
  parameters : Json

structure ChatTool where
  kind : String
  function : ChatToolFunction

structure ChatJsonSchema where
  name : String
  schema : Json
  strict : Bool

inductive ChatResponseFormat where
  | jsonObject
  | jsonSchema (jsonSchema : ChatJsonSchema)

structure ChatCompletionsRequest where
  model : String
  messages : List ChatMessage
  tools : List ChatTool
  toolChoice : Option Json
  stream : Bool
  maxTokens : Option Nat
  responseFormat : Option ChatResponseFormat

def mapChatToolChoice : ToolChoiceStrategy → Json
  | .auto => .string "auto"
  | .any => .string "required"
  | .none => .string "none"
  | .required name => .object [("function", .object [("name", .string name)]), ("type", .string "function")]

def rozOutputSchemaName : String := "roz_output_schema"

def buildChatRequest (model : String) (req : CompletionRequest) : ChatCompletionsRequest where
  model := model
  messages := (stripHistoryForCrossTurn req.messages).map (toChatMessage print)
  tools := req.tools.map fun t =>
    ⟨"function", t.name, if t.description = "" then none else some t.description, t.parameters⟩
  toolChoice := req.toolChoice.map mapChatToolChoice
  stream := true
  maxTokens := if req.maxTokens = 0 then none else some req.maxTokens
  responseFormat := req.responseSchema.map fun schema => .jsonSchema ⟨rozOutputSchemaName, schema, true⟩

/-! ## What a request is to carry -/

def toolMessages : List ChatMessage := m.parts.filterMap asToolMessage

def spoken : List ChatMessage := if m.text.getD "" = "" then [] else [.user (m.text.getD "")]

/-- The wire messages carry the history, in order: every text, every call, and after a message
with calls one tool message for each result, in any order, before anything else. -/
inductive Carries (print : Json → String) : List Message → List ChatMessage → Prop
  | nil : Carries print [] []
  | system {m : Message} {history : List Message} {wire : List ChatMessage} (hrole : m.role = .system)
      (rest : Carries print history wire) : Carries print (m :: history) (.system (m.text.getD "") :: wire)
  | user {m : Message} {history : List Message} {wire : List ChatMessage} (hrole : m.role = .user)
      (hresults : m.hasToolResults = false) (rest : Carries print history wire) :
      Carries print (m :: history) (.user (m.text.getD "") :: wire)
  | assistant {m : Message} {content : Option String} {history : List Message} {wire : List ChatMessage}
      (hrole : m.role = .assistant) (huse : m.hasToolUse = false) (htext : content.getD "" = m.text.getD "")
      (rest : Carries print history wire) : Carries print (m :: history) (.assistant content [] :: wire)
  | call {m r : Message} {content : Option String} {tools : List ChatMessage} {history : List Message}
      {wire : List ChatMessage} (hcall : m.isCall) (hrole : r.role = .user)
      (htext : content.getD "" = m.text.getD "") (htools : tools.Perm (toolMessages r))
      (rest : Carries print history wire) :
      Carries print (m :: r :: history)
        (.assistant content (m.parts.filterMap (chatToolCall print)) :: (tools ++ (spoken r ++ wire)))

section Message
variable (print : Json → String) {m r : Message} {p : ContentPart}
lemma asText_of_isOther (h : isOther p = true) : p.asText = none := by cases p <;> first | rfl | cases h

lemma chatToolCall_of_not_isOther (h : isOther p = false) : chatToolCall print p = none := by
  cases p <;> first | rfl | cases h

variable (parts : List ContentPart)
lemma texts_filter_isOther : (parts.filter isOther).filterMap asText = [] := by
  rw [filterMap_eq_nil_iff]
  intro p hp
  exact asText_of_isOther (mem_filter.1 hp).2

lemma calls_filter_isOther :
    (parts.filter isOther).filterMap (chatToolCall print) = parts.filterMap (chatToolCall print) := by
  rw [filterMap_filter]
  refine filterMap_congr fun p _ => ?_
  cases h : isOther p with
  | true => rfl
  | false => exact (chatToolCall_of_not_isOther print h).symm

lemma text_getD (m : Message) : m.text.getD "" = String.join (m.parts.filterMap asText) := by
  rw [Message.text, textOf]
  cases hparts : m.parts.filterMap asText with
  | nil => rfl
  | cons t ts => rfl

lemma stripped_text (turn other : AssistantTurn) :
    ((stripUnsignedForCrossTurn [turn]).head?.getD other).text = turn.text := by
  obtain ⟨text, thinking, reasoning⟩ := turn
  cases thinking <;> rfl

lemma thinking_part {segment signature} :
    ∃ thoughts : List (String × String), (if segment = "" then [] else [thinking segment signature]) =
      thoughts.map fun thought => .thinking thought.1 thought.2 := by
  by_cases hsegment : segment = ""
  · exact ⟨[], if_pos hsegment⟩
  · exact ⟨[(segment, signature)], if_neg hsegment⟩

lemma parts_stripMessage (hrole : m.role = .assistant) : ∃ thoughts : List (String × String), (stripMessage m).parts =
    (if m.text.getD "" = "" then [] else [.text (m.text.getD "")]) ++
      thoughts.map (fun thought => .thinking thought.1 thought.2) ++ m.parts.filter isOther := by
  simp only [stripMessage, hrole, stripped_text, ← text_getD, append_cancel_right_eq, append_cancel_left_eq]
  exact thinking_part

lemma filterMap_thinking {β : Type} {f : ContentPart → Option β} (hf : ∀ body signature, f (.thinking body signature) = none)
    (thoughts : List (String × String)) :
    (thoughts.map fun thought => thinking thought.1 thought.2).filterMap f = [] := by
  rw [filterMap_eq_nil_iff]
  intro p hp
  obtain ⟨thought, -, rfl⟩ := mem_map.1 hp
  exact hf _ _

lemma toChatMessage_assistant (hrole : m.role = .assistant) :
    ∃ content : Option String, content.getD "" = m.text.getD "" ∧
      toChatMessage print (stripMessage m) = .assistant content (m.parts.filterMap (chatToolCall print)) := by
  have hstripped : (stripMessage m).role = .assistant := by rw [stripMessage, hrole]
  obtain ⟨thoughts, hparts⟩ := parts_stripMessage hrole
  refine ⟨(stripMessage m).text, ?_, ?_⟩
  · rw [text_getD (stripMessage m), hparts, filterMap_append, filterMap_append, texts_filter_isOther,
      filterMap_thinking fun _ _ => rfl]
    by_cases htext : m.text.getD "" = ""
    · rw [if_pos htext, htext]
      rfl
    · rw [if_neg htext]
      simp [asText, String.join]
  · rw [toChatMessage, hstripped]
    dsimp only
    rw [hparts, filterMap_append, filterMap_append, calls_filter_isOther, filterMap_thinking fun _ _ => rfl]
    by_cases htext : m.text.getD "" = ""
    · rw [if_pos htext]
      rfl
    · rw [if_neg htext]
      rfl

lemma stripMessage_of_ne (hrole : m.role ≠ .assistant) : stripMessage m = m := by
  cases hm : m.role with
  | system => simp only [stripMessage, hm]
  | user => simp only [stripMessage, hm]
  | assistant => exact absurd hm hrole

lemma toChatMessage_user (hrole : m.role = .user) (hresults : m.hasToolResults = false) :
    toChatMessage print (stripMessage m) = .user (m.text.getD "") := by
  have hnone : m.parts.findSome? asToolMessage = none := by
    rw [findSome?_eq_none_iff]
    intro p hp
    have hp := any_eq_false.1 hresults p hp
    cases p <;> first | rfl | exact absurd rfl hp
  rw [stripMessage_of_ne (by rw [hrole]; decide), toChatMessage, hrole]
  simp only [hnone, Option.getD_none]

lemma toChatMessage_results (hrole : r.role = .user) {t ts}
    (htools : toolMessages r = t :: ts) : toChatMessage print (stripMessage r) = t := by
  have hfirst : r.parts.findSome? asToolMessage = some t := by
    rw [← head?_filterMap]
    exact congrArg List.head? htools
  rw [stripMessage_of_ne (by rw [hrole]; decide), toChatMessage, hrole]
  simp only [hfirst, Option.getD_some]

lemma length_toolMessages (m : Message) : (toolMessages m).length = m.resultIds.length := by
  have hid : ∀ p : ContentPart, (asToolMessage p).isSome = p.resultId.isSome := by
    intro p
    cases p <;> rfl
  rw [toolMessages, resultIds, length_filterMap_eq_countP, length_filterMap_eq_countP]
  simp only [hid]

lemma calls_eq_nil (huse : m.hasToolUse = false) : m.parts.filterMap (chatToolCall print) = [] := by
  rw [filterMap_eq_nil_iff]
  intro p hp
  have hp := any_eq_false.1 huse p hp
  cases p <;> first | rfl | exact absurd rfl hp

end Message

section History
variable (print : Json → String) (messages : List Message)
def chatMessages : List ChatMessage :=
  (stripHistoryForCrossTurn messages).map (toChatMessage print)

lemma chatMessages_cons (m : Message) (messages : List Message) :
    chatMessages print (m :: messages) = toChatMessage print (stripMessage m) :: chatMessages print messages := rfl

lemma length_chatMessages : (chatMessages print messages).length = messages.length := by
  rw [chatMessages, stripHistoryForCrossTurn, length_map, length_map]

variable {print} {m r : Message} {history : List Message} {wire : List ChatMessage}
lemma one_le_length_toolMessages (hcall : m.isCall) (hids : r.resultIds.Perm m.useIds) :
    1 ≤ (toolMessages r).length := by
  rw [length_toolMessages, hids.length_eq]
  exact length_pos_iff.2 ((hasToolUse_iff m).1 hcall.2)

lemma Carries.call_inv (h : Carries print (m :: r :: history) wire) (hcall : m.isCall) :
    ∃ content tools rest, tools.Perm (toolMessages r) ∧ Carries print history rest ∧
      wire = .assistant content (m.parts.filterMap (chatToolCall print)) :: (tools ++ (spoken r ++ rest)) := by
  cases h with
  | system hrole => exact absurd (hcall.1.symm.trans hrole) (by decide)
  | user hrole => exact absurd (hcall.1.symm.trans hrole) (by decide)
  | assistant _ huse => exact absurd (hcall.2.symm.trans huse) (by decide)
  | call _ _ _ htools rest => exact ⟨_, _, _, htools, rest, rfl⟩

lemma Carries.single_inv (h : Carries print (m :: history) wire) (hcall : ¬ m.isCall) :
    ∃ w rest, wire = w :: rest ∧ Carries print history rest := by
  cases h with
  | system _ rest => exact ⟨_, _, rfl, rest⟩
  | user _ _ rest => exact ⟨_, _, rfl, rest⟩
  | assistant _ _ _ rest => exact ⟨_, _, rfl, rest⟩
  | call hm => exact absurd hm hcall

lemma Carries.length_le (hwell : WellFormed history) :
    ∀ {wire : List ChatMessage}, Carries print history wire → history.length ≤ wire.length := by
  induction hwell using WellFormed.induction with
  | nil => exact fun _ => Nat.zero_le _
  | single m l hcall _ _ ih _ =>
    intro wire h
    obtain ⟨w, rest, rfl, hrest⟩ := h.single_inv hcall
    exact Nat.succ_le_succ (ih hrest)
  | pair m r l hcall _ _ hids _ ih _ =>
    intro wire h
    obtain ⟨content, tools, rest, htools, hrest, rfl⟩ := h.call_inv hcall
    have hlen := ih hrest
    have hone := one_le_length_toolMessages hcall hids
    rw [← htools.length_eq] at hone
    simp only [length_cons, length_append]
    omega

def SingleCalls (history : List Message) : Prop :=
  (∀ m ∈ history, m.isCall → m.useIds.length = 1) ∧
    ∀ m ∈ history, m.hasToolResults = true → m.text.getD "" = ""

lemma singleCalls_cons (hcall : ¬ m.isCall) (hresults : m.hasToolResults = false) :
    SingleCalls (m :: history) ↔ SingleCalls history := by simp [SingleCalls, hcall, hresults]

lemma singleCalls_pair (hcall : m.isCall) (hplain : m.hasToolResults = false) (hrole : r.role = .user)
    (hids : r.resultIds.Perm m.useIds) : SingleCalls (m :: r :: history) ↔
      (m.useIds.length = 1 ∧ r.text.getD "" = "") ∧ SingleCalls history := by
  have hr : ¬ r.isCall := not_isCall_of_role (by rw [hrole]; decide)
  have hresults : r.hasToolResults = true := by
    rw [hasToolResults_iff]
    intro hnil
    rw [hnil] at hids
    exact (hasToolUse_iff m).1 hcall.2 hids.symm.eq_nil
  simp only [SingleCalls, forall_mem_cons, hcall, hplain, hr, hresults, true_imp_iff, false_imp_iff, Bool.false_eq_true]
  tauto

lemma carries_cons_iff (hcall : ¬ m.isCall) (hresults : m.hasToolResults = false) :
    Carries print (m :: history) (chatMessages print (m :: history)) ↔
      Carries print history (chatMessages print history) := by
  rw [chatMessages_cons]
  constructor
  · intro h
    obtain ⟨w, rest, heq, hrest⟩ := h.single_inv hcall
    obtain ⟨-, rfl⟩ := List.cons.inj heq
    exact hrest
  · intro h
    cases hrole : m.role with
    | system =>
      have hw : toChatMessage print (stripMessage m) = .system (m.text.getD "") := by
        rw [stripMessage_of_ne (by rw [hrole]; decide), toChatMessage, hrole]
      rw [hw]
      exact .system hrole h
    | user =>
      rw [toChatMessage_user print hrole hresults]
      exact .user hrole hresults h
    | assistant =>
      have huse : m.hasToolUse = false := Bool.eq_false_iff.2 fun huse => hcall ⟨hrole, huse⟩
      obtain ⟨content, htext, hw⟩ := toChatMessage_assistant print hrole
      rw [hw, calls_eq_nil print huse]
      exact .assistant hrole huse htext h

/-- A call and its answer are carried if there is one result and no text beside it: the wire
messages would not be enough for more. -/
lemma carries_pair_iff (hcall : m.isCall) (hrole : r.role = .user) (hids : r.resultIds.Perm m.useIds)
    (hwell : WellFormed history) : Carries print (m :: r :: history) (chatMessages print (m :: r :: history)) ↔
      (m.useIds.length = 1 ∧ r.text.getD "" = "") ∧ Carries print history (chatMessages print history) := by
  obtain ⟨content, htext, hw⟩ := toChatMessage_assistant print hcall.1
  have hone := one_le_length_toolMessages hcall hids
  obtain ⟨t, ts, htools⟩ := exists_cons_of_length_pos hone
  have hlength : (toolMessages r).length = m.useIds.length := by rw [length_toolMessages, hids.length_eq]
  rw [chatMessages_cons, chatMessages_cons, hw, toChatMessage_results print hrole htools]
  constructor
  · intro h
    obtain ⟨content', tools, rest, hperm, hrest, heq⟩ := h.call_inv hcall
    obtain ⟨-, heq⟩ := List.cons.inj heq
    have hcount := congrArg List.length heq
    have hrestLength := hrest.length_le hwell
    have htoolsLength := hperm.length_eq
    simp only [length_cons, length_append, length_chatMessages] at hcount
    have hspoken : spoken r = [] := length_eq_zero_iff.1 (by omega)
    obtain ⟨t', rfl⟩ := length_eq_one_iff.1 (show tools.length = 1 by omega)
    rw [hspoken] at heq
    obtain ⟨-, rfl⟩ := List.cons.inj heq
    refine ⟨⟨by rw [← hlength, ← htoolsLength]; rfl, ?_⟩, hrest⟩
    by_contra htext
    rw [spoken, if_neg htext] at hspoken
    cases hspoken
  · rintro ⟨⟨huse, hempty⟩, h⟩
    have hts : ts = [] := by
      rw [htools, huse] at hlength
      exact length_eq_zero_iff.1 (Nat.succ.inj hlength)
    subst hts
    have hspoken : spoken r = [] := if_pos hempty
    have hperm : [t].Perm (toolMessages r) := by rw [htools]
    have hcarries := Carries.call hcall hrole htext hperm h
    rw [hspoken] at hcarries
    exact hcarries

lemma carries_chatMessages_iff (hwell : WellFormed history) :
    Carries print history (chatMessages print history) ↔ SingleCalls history := by
  induction hwell using WellFormed.induction with
  | nil => exact ⟨fun _ => by simp [SingleCalls], fun _ => .nil⟩
  | single m l hcall hresults _ ih _ => rw [carries_cons_iff hcall hresults, singleCalls_cons hcall hresults, ih]
  | pair m r l hcall hplain hrole hids hl ih _ =>
    rw [carries_pair_iff hcall hrole hids hl, singleCalls_pair hcall hplain hrole hids, ih]

end History

theorem buildChatRequest_carries_iff (print : Json → String) (model : String) (req : CompletionRequest)
    (hwell : WellFormed req.messages) : Carries print req.messages (buildChatRequest print model req).messages ↔
      (∀ m ∈ req.messages, m.isCall → m.useIds.length = 1) ∧
        ∀ m ∈ req.messages, m.hasToolResults = true → m.text.getD "" = "" :=
  carries_chatMessages_iff hwell

def calling (ids : List String) : CompletionRequest where
  messages :=
    [.ofUser "where?", .assistantParts (ids.map fun id => .toolUse id "look" .null),
      .toolResults (ids.map fun id => (id, "look", "here", false))]
  tools := []
  maxTokens := 0
  toolChoice := none
  responseSchema := none

theorem one_call_carried :
    Carries (fun _ => "null") (calling ["a"]).messages (buildChatRequest (fun _ => "null") "m" (calling ["a"])).messages :=
  (buildChatRequest_carries_iff _ _ _ (by decide)).2 (by decide)

/-- The second of two results is lost. -/
theorem second_result_lost : WellFormed (calling ["a", "b"]).messages ∧
      ¬ Carries (fun _ => "null") (calling ["a", "b"]).messages
        (buildChatRequest (fun _ => "null") "m" (calling ["a", "b"])).messages := by
  have hwell : WellFormed (calling ["a", "b"]).messages := by decide
  refine ⟨hwell, fun h => ?_⟩
  have hsingle := (carries_chatMessages_iff hwell).1 h
  exact absurd (hsingle.1 _ (.tail _ (.head _)) (by decide)) (by decide)

end Roz.OpenAi
