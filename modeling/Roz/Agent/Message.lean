import Roz.Lib.Pairing
import Mathlib.Algebra.Ring.Nat

/-!
# Messages, tool calls and model responses

From `roz-core/src/tools.rs` and `roz-agent/src/model/types.rs`.  How a JSON value is printed is a
parameter.  Token counts are `u32`, which wraps as in a release build.

A history is well formed if every assistant message with tool calls is followed by a user message
that carries the results of exactly these calls, and no other message carries results.
-/

namespace Roz.Agent
open Pairing List

/-- `serde_json::Value`; a number is given by its text, an object by its fields in key order. -/
inductive Json where
  | null
  | bool (value : Bool)
  | number (text : String)
  | string (value : String)
  | array (items : List Json)
  | object (fields : List (String × Json))

namespace Json

def get : Json → String → Option Json
  | .object fields, key => fields.lookup key
  | _, _ => none

def asStr : Json → Option String
  | .string value => some value
  | _ => none

def asArray : Json → Option (List Json)
  | .array items => some items
  | _ => none

def asObject : Json → Option (List (String × Json))
  | .object fields => some fields
  | _ => none

end Json

/-! ## Tools -/

inductive ToolCategory where
  | physical
  | pure
  | codeSandbox
  deriving DecidableEq

structure ToolCall where
  id : String
  tool : String
  params : Json

structure ToolResult where
  output : Json
  error : Option String
  exitCode : Option Int
  truncated : Bool
  durationMs : Option Nat

def ToolResult.ofError (message : String) : ToolResult := ⟨.null, some message, none, false, none⟩

structure ToolSchema where
  name : String
  description : String
  parameters : Json

/-! ## Messages -/

inductive ContentPart where
  | text (body : String)
  | toolUse (id name : String) (input : Json)
  | toolResult (toolUseId name content : String) (isError : Bool)
  | thinking (body signature : String)
  | image (mediaType data : String)

inductive MessageRole where
  | system
  | user
  | assistant
  deriving DecidableEq

structure Message where
  role : MessageRole
  parts : List ContentPart

namespace ContentPart

def isToolUse : ContentPart → Bool
  | .toolUse .. => true
  | _ => false

def isToolResult : ContentPart → Bool
  | .toolResult .. => true
  | _ => false

def isThinking : ContentPart → Bool
  | .thinking .. => true
  | _ => false

def useId : ContentPart → Option String
  | .toolUse id _ _ => some id
  | _ => none

def resultId : ContentPart → Option String
  | .toolResult id _ _ _ => some id
  | _ => none

def asText : ContentPart → Option String
  | .text body => some body
  | _ => none

def asToolCall : ContentPart → Option ToolCall
  | .toolUse id name input => some ⟨id, name, input⟩
  | _ => none

variable (p : ContentPart)
lemma useId_isSome : p.useId.isSome = p.isToolUse := by cases p <;> rfl

lemma resultId_isSome : p.resultId.isSome = p.isToolResult := by cases p <;> rfl

lemma useId_eq_map : p.useId = p.asToolCall.map ToolCall.id := by cases p <;> rfl

end ContentPart

def u32 (n : Nat) : Nat := n % 2 ^ 32

def textOf (parts : List ContentPart) : Option String :=
  let texts := parts.filterMap ContentPart.asText
  if texts.isEmpty then none else some (String.join texts)

namespace Message

def ofSystem (text : String) : Message := ⟨.system, [.text text]⟩

def ofUser (text : String) : Message := ⟨.user, [.text text]⟩

def userWithImages (text : String) (images : List (String × String)) : Message :=
  ⟨.user, .text text :: images.map fun image => .image image.1 image.2⟩

def assistantParts (parts : List ContentPart) : Message := ⟨.assistant, parts⟩

variable (results : List (String × String × String × Bool))
def toolResults : Message :=
  ⟨.user, results.map fun r => .toolResult r.1 r.2.1 r.2.2.1 r.2.2.2⟩

variable (m : Message)
def text : Option String := textOf m.parts

variable (print : Json → String)
def partChars : ContentPart → Nat
  | .text body => body.utf8ByteSize
  | .toolUse id name input => id.utf8ByteSize + name.utf8ByteSize + (print input).utf8ByteSize
  | .toolResult id _ content _ => id.utf8ByteSize + content.utf8ByteSize
  | .thinking body _ => body.utf8ByteSize
  | .image _ _ => 256

def estimatedTokens (m : Message) : Nat :=
  max (u32 ((m.parts.map (partChars print)).sum / 4)) 1

def hasToolUse : Bool := m.parts.any ContentPart.isToolUse

def hasToolResults : Bool := m.parts.any ContentPart.isToolResult

def useIds : List String := m.parts.filterMap ContentPart.useId

def resultIds : List String := m.parts.filterMap ContentPart.resultId

def isCall : Prop := m.role = .assistant ∧ m.hasToolUse = true

instance (m : Message) : Decidable m.isCall := inferInstanceAs (Decidable (_ ∧ _))

lemma not_isCall_of_role {m : Message} (h : m.role ≠ .assistant) : ¬ m.isCall := fun hc => h hc.1

lemma hasToolUse_iff : m.hasToolUse = true ↔ m.useIds ≠ [] := by
  simp only [hasToolUse, any_eq_true, useIds, ne_eq, filterMap_eq_nil_iff, not_forall,
    ← ContentPart.useId_isSome, Option.isSome_iff_ne_none, exists_prop]

lemma hasToolResults_iff : m.hasToolResults = true ↔ m.resultIds ≠ [] := by
  simp only [hasToolResults, any_eq_true, resultIds, ne_eq, filterMap_eq_nil_iff, not_forall,
    ← ContentPart.resultId_isSome, Option.isSome_iff_ne_none, exists_prop]

lemma resultIds_toolResults : (toolResults results).resultIds = results.map Prod.fst := by
  unfold toolResults resultIds
  rw [filterMap_map, ← filterMap_eq_map]
  rfl

end Message

/-! ## Model responses -/

inductive StopReason where
  | endTurn
  | toolUse
  | maxTokens
  deriving DecidableEq

structure TokenUsage where
  inputTokens : Nat
  outputTokens : Nat
  cacheReadTokens : Nat
  cacheCreationTokens : Nat
  deriving DecidableEq

inductive ToolChoiceStrategy where
  | auto
  | any
  | required (name : String)
  | none
  deriving DecidableEq

structure CompletionRequest where
  messages : List Message
  tools : List ToolSchema
  maxTokens : Nat
  toolChoice : Option ToolChoiceStrategy
  responseSchema : Option Json

structure CompletionResponse where
  parts : List ContentPart
  stopReason : StopReason
  usage : TokenUsage

namespace CompletionResponse
variable (r : CompletionResponse)
def text : Option String := textOf r.parts

def toolCalls : List ToolCall := r.parts.filterMap ContentPart.asToolCall

end CompletionResponse

def Model : Type := CompletionRequest → Except String CompletionResponse

/-! ## Well-formed histories -/

structure Shape where
  role : MessageRole
  useIds : List String
  resultIds : List String
  deriving DecidableEq

variable (m : Message)
def Message.shape : Shape := ⟨m.role, m.useIds, m.resultIds⟩

namespace Shape

def Calls (s : Shape) : Prop := s.role = .assistant ∧ s.useIds ≠ []

def Answers (s t : Shape) : Prop := t.role = .user ∧ t.resultIds.Perm s.useIds

lemma not_calls_of_answers {s t : Shape} (h : s.Answers t) : ¬ t.Calls := by
  intro hc
  rw [Calls, h.1] at hc
  exact absurd hc.1 (by decide)

lemma resultIds_of_answers {s t : Shape} (hs : s.Calls) (h : s.Answers t) : ¬ t.resultIds = [] := by
  intro hnil
  have hperm := h.2
  rw [hnil] at hperm
  exact hs.2 hperm.symm.eq_nil

end Shape

def toolPairing : Rules Shape where
  opens := Shape.Calls
  plain := fun s => s.resultIds = []
  answers := Shape.Answers
  not_opens_of_answers := Shape.not_calls_of_answers
  not_plain_of_answers := Shape.resultIds_of_answers

instance : DecidablePred toolPairing.opens := fun s => inferInstanceAs (Decidable (s.role = _ ∧ s.useIds ≠ []))

instance : DecidablePred toolPairing.plain := fun s => inferInstanceAs (Decidable (s.resultIds = []))

instance (s t : Shape) : Decidable (toolPairing.answers s t) :=
  inferInstanceAs (Decidable (t.role = .user ∧ t.resultIds.Perm s.useIds))

/-- Every assistant message with tool calls is followed by a user message that carries the
results of exactly these calls, and no other message carries results. -/
def WellFormed (messages : List Message) : Prop := Paired toolPairing (messages.map Message.shape)

instance (messages : List Message) : Decidable (WellFormed messages) :=
  inferInstanceAs (Decidable (Paired _ _))

lemma opens_shape : toolPairing.opens m.shape ↔ m.isCall := by
  rw [Message.isCall, Message.hasToolUse_iff]
  rfl

lemma plain_shape : toolPairing.plain m.shape ↔ m.hasToolResults = false := by
  rw [← Bool.not_eq_true, Message.hasToolResults_iff, not_not]
  rfl

variable {l : List Message}
lemma wellFormed_cons_iff {m} (hu : ¬ m.isCall) (hr : m.hasToolResults = false) : WellFormed (m :: l) ↔ WellFormed l :=
  paired_cons_iff ((opens_shape m).not.2 hu) ((plain_shape m).2 hr)

lemma WellFormed.induction {motive : (l : List Message) → WellFormed l → Prop} (nil : motive [] .nil)
    (single : ∀ m l, ¬ m.isCall → m.hasToolResults = false → ∀ hl : WellFormed l, motive l hl →
      ∀ h, motive (m :: l) h)
    (pair : ∀ m r l, m.isCall → m.hasToolResults = false → r.role = .user → r.resultIds.Perm m.useIds →
      ∀ hl : WellFormed l, motive l hl → ∀ h, motive (m :: r :: l) h)
    {l} (h : WellFormed l) : motive l h := by
  have hpaired : Paired toolPairing (l.map Message.shape) := h
  generalize hshapes : l.map Message.shape = shapes at hpaired
  induction hpaired generalizing l with
  | nil =>
    obtain rfl := map_eq_nil_iff.1 hshapes
    exact nil
  | single ho hp htail ih =>
    obtain ⟨m, l, rfl, rfl, hl⟩ := map_eq_cons_iff.1 hshapes
    have hwell : WellFormed l := by rwa [WellFormed, hl]
    exact single m l ((opens_shape m).not.1 ho) ((plain_shape m).1 hp) hwell (ih hwell hl) h
  | pair ho hp hb hrest ih =>
    obtain ⟨m, l, rfl, rfl, hl⟩ := map_eq_cons_iff.1 hshapes
    obtain ⟨r, l, rfl, rfl, htail⟩ := map_eq_cons_iff.1 hl
    have hwell : WellFormed l := by rwa [WellFormed, htail]
    exact pair m r l ((opens_shape m).1 ho) ((plain_shape m).1 hp) hb.1 hb.2 hwell (ih hwell htail) h

lemma role_of_hasToolResults (h : WellFormed l) : ∀ m ∈ l, m.hasToolResults = true → m.role = .user := by
  induction h using WellFormed.induction with
  | nil => exact nofun
  | single m l hcall hresults hl ih =>
    intro m' hm hr
    rcases mem_cons.1 hm with rfl | hm
    · exact absurd (hresults.symm.trans hr) Bool.false_ne_true
    · exact ih m' hm hr
  | pair m r l hcall hplain hrole hids hl ih =>
    intro m' hm hr
    rcases mem_cons.1 hm with rfl | hm
    · exact absurd (hplain.symm.trans hr) Bool.false_ne_true
    · rcases mem_cons.1 hm with rfl | hm
      · exact hrole
      · exact ih m' hm hr

end Roz.Agent
