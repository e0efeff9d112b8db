import Roz.Lib.Emitter
import Mathlib.Data.List.AList
import Mathlib.Data.List.Sort
import Mathlib.Algebra.Ring.Nat

/-!
# The chat wire (`roz-openai/src/wire/chat.rs`, `wire/events.rs`, `client.rs`)

The normalizer turns the chunks of a streamed chat completion into response events.  While it does
not know how the model marks its reasoning, it withholds content in a buffer.

A step takes a state and returns the next state and the events.  Byte indices into a text that lie
on character boundaries are given as numbers of characters.  The override format is kept by the
code for its `Debug` text only, and left out.
-/

namespace Roz.OpenAi
open Emitter List

/-! ## Chunks -/

structure ChatChunkFunction where
  name : Option String
  arguments : Option String

structure ChatChunkToolCall where
  index : Nat
  id : Option String
  function : Option ChatChunkFunction

structure ChatChunkDelta where
  content : Option String
  reasoningContent : Option String
  reasoning : Option String
  toolCalls : List ChatChunkToolCall

def ChatChunkDelta.reasoningText (delta : ChatChunkDelta) : Option String :=
  delta.reasoningContent.or delta.reasoning

structure ChatChunkChoice where
  delta : ChatChunkDelta
  finishReason : Option String

structure ChatChunkUsage where
  promptTokens : Option Nat
  completionTokens : Option Nat

structure ChatCompletionChunk where
  choices : List ChatChunkChoice
  usage : Option ChatChunkUsage

/-! ## Events -/

structure WireTokenUsage where
  inputTokens : Nat
  outputTokens : Nat
  cachedInputTokens : Option Nat
  reasoningOutputTokens : Option Nat
  deriving DecidableEq

inductive ResponseItem where
  | message (id : Option String) (role : String)
  | functionCall (id : Option String) (callId name arguments : String)
  | functionCallOutput
  | reasoning
  | itemReference
  deriving DecidableEq

inductive ResponseEvent where
  | created
  | outputTextDelta (delta : String)
  | reasoningContentDelta (delta : String) (contentIndex : Int)
  | reasoningSummaryDelta (delta : String) (summaryIndex : Int)
  | toolCallStart (id name : String)
  | toolCallArgsDelta (delta : String)
  | outputItemDone (item : ResponseItem)
  | completed (responseId : Option String) (tokenUsage : Option WireTokenUsage)
  | serverReasoningIncluded (included : Bool)
  deriving DecidableEq

/-! ## Texts -/

def isWhitespace (c : Char) : Bool :=
  (9 ≤ c.toNat && c.toNat ≤ 13) || c.toNat == 0x20 || c.toNat == 0x85 || c.toNat == 0xA0 || c.toNat == 0x1680 ||
    (0x2000 ≤ c.toNat && c.toNat ≤ 0x200A) || c.toNat == 0x2028 || c.toNat == 0x2029 || c.toNat == 0x202F ||
    c.toNat == 0x205F || c.toNat == 0x3000

variable (text : String)
def trimStart : String := String.ofList (text.toList.dropWhile isWhitespace)

def takeBytes : (n : Nat) → List Char → Option (List Char)
  | 0, _ => some []
  | _ + 1, [] => none
  | n + 1, c :: cs => if c.utf8Size ≤ n + 1 then (takeBytes (n + 1 - c.utf8Size) cs).map (c :: ·) else none

def sliceTo (n : Nat) (text : String) : Option String := (takeBytes n text.toList).map String.ofList

def eqIgnoreAsciiCase (a b : String) : Bool := a.toList.map Char.toLower == b.toList.map Char.toLower

def startsWithThink : Bool :=
  match sliceTo 7 (trimStart text) with
  | some s => eqIgnoreAsciiCase s "<think>"
  | none => false

def findTag (tag : List Char) : List Char → Option Nat
  | [] => if tag.isEmpty then some 0 else none
  | c :: cs => if tag.isPrefixOf (c :: cs) then some 0 else (findTag tag cs).map (· + 1)

def closeTag : List Char := "</think>".toList

/-! ## The normalizer -/

inductive DetectedReasoningFormat where
  | none
  | openaiReasoningContent
  | thinkTags
  deriving DecidableEq

def autoDetectBufferCapBytes : Nat := 4 * 1024

def autoDetectMaxEmptyChunks : Nat := 3

structure ToolCallAccum where
  id : String
  name : String
  arguments : String
  -- `ToolCallStart` has been emitted
  started : Bool
  deriving DecidableEq

def ToolCallAccum.default : ToolCallAccum := ⟨"", "", "", false⟩

structure ChatChunkNormalizer where
  detectedFormat : Option DetectedReasoningFormat
  earlyContentBuffer : String
  earlyReasoningBuffer : String
  emptyChunksSeen : Nat
  thinkTagClosed : Bool
  thinkTagSuffix : String
  toolCalls : AList fun _ : Nat => ToolCallAccum
  tokenUsage : Option WireTokenUsage
  completed : Bool

namespace ToolCallAccum
variable (slot : ToolCallAccum)
def withId (id : Option String) : ToolCallAccum :=
  match id with
  | some id => if slot.id = "" then { slot with id := id } else slot
  | none => slot

def withName (name : Option String) : ToolCallAccum :=
  match name with
  | some name => if slot.name = "" then { slot with name := name } else slot
  | none => slot

def start : ToolCallAccum × List ResponseEvent :=
  if slot.started = false ∧ slot.id ≠ "" ∧ slot.name ≠ "" then
    ({ slot with started := true }, [.toolCallStart slot.id slot.name])
  else (slot, [])

def pushArguments (arguments : Option String) : ToolCallAccum × List ResponseEvent :=
  match arguments with
  | some args =>
    if args = "" then (slot, [])
    else ({ slot with arguments := slot.arguments ++ args }, if slot.started then [.toolCallArgsDelta args] else [])
  | none => (slot, [])

def feed (tc : ChatChunkToolCall) : ToolCallAccum × List ResponseEvent :=
  match tc.function with
  | none => (slot.withId tc.id, [])
  | some func =>
    let started := ((slot.withId tc.id).withName func.name).start
    let pushed := started.1.pushArguments func.arguments
    (pushed.1, started.2 ++ pushed.2)

lemma mem_feed {slot : ToolCallAccum} {tc e} (he : e ∈ (slot.feed tc).2) :
    (∃ id name, e = .toolCallStart id name) ∨ ∃ args, e = .toolCallArgsDelta args := by
  unfold feed at he
  split at he
  · cases he
  · rcases mem_append.1 he with he | he
    · unfold start at he
      split at he
      · exact .inl ⟨_, _, mem_singleton.1 he⟩
      · cases he
    · unfold pushArguments at he
      split at he
      · split at he
        · cases he
        · dsimp only at he
          split at he
          · exact .inr ⟨_, mem_singleton.1 he⟩
          · cases he
      · cases he

end ToolCallAccum

namespace ChatChunkNormalizer

def new (overrideFormat : Option DetectedReasoningFormat) : ChatChunkNormalizer where
  detectedFormat := overrideFormat
  earlyContentBuffer := ""
  earlyReasoningBuffer := ""
  emptyChunksSeen := 0
  thinkTagClosed := false
  thinkTagSuffix := ""
  toolCalls := ∅
  tokenUsage := none
  completed := false

variable (n : ChatChunkNormalizer)
def withCalls (calls : AList fun _ : Nat => ToolCallAccum) : ChatChunkNormalizer :=
  { n with toolCalls := calls }

def feedToolCall (tc : ChatChunkToolCall) : ChatChunkNormalizer × List ResponseEvent :=
  let fed := ((n.toolCalls.lookup tc.index).getD .default).feed tc
  (n.withCalls (n.toolCalls.insert tc.index fed.1), fed.2)

/-! ### Content and reasoning -/

variable (c : String)
def contentStartsWithThink : Bool :=
  startsWithThink (n.earlyContentBuffer ++ c)

/-- The content is not the tag, and long enough to rule out that it becomes one. -/
def rulesOutThink (trimmed : String) : Bool :=
  if trimmed = "" then false
  else
    match sliceTo 7 trimmed with
    | some s => !eqIgnoreAsciiCase s "<think>"
    | none => decide (7 ≤ trimmed.utf8ByteSize)

def shouldCommitNone : Bool :=
  decide (autoDetectBufferCapBytes ≤ n.earlyContentBuffer.utf8ByteSize) ||
    decide (autoDetectMaxEmptyChunks ≤ n.emptyChunksSeen) || rulesOutThink (trimStart n.earlyContentBuffer)

variable (text : String)
def textEvents : List ResponseEvent := if text = "" then [] else [.outputTextDelta text]

def reasoningEvents : List ResponseEvent :=
  if text = "" then [] else [.reasoningContentDelta text 0]

def routeThinkTagContent : ChatChunkNormalizer × List ResponseEvent :=
  if text = "" then (n, [])
  else if n.thinkTagClosed then (n, [.outputTextDelta text])
  else
    let haystack := n.thinkTagSuffix.toList ++ text.toList
    match findTag closeTag (haystack.map Char.toLower) with
    | some idx =>
      let suffixLen := n.thinkTagSuffix.length
      ({ n with thinkTagClosed := true, thinkTagSuffix := "" },
        reasoningEvents (String.ofList (text.toList.take (idx - suffixLen))) ++
          textEvents (String.ofList (text.toList.drop (idx + closeTag.length - suffixLen))))
    | none =>
      ({ n with thinkTagSuffix := String.ofList (haystack.drop (haystack.length - 7)) },
        [.reasoningContentDelta text 0])

variable (fmt : DetectedReasoningFormat)
def commit : ChatChunkNormalizer × List ResponseEvent :=
  let drained := { n with detectedFormat := some fmt, earlyReasoningBuffer := "", earlyContentBuffer := "" }
  match fmt with
  | .none => (drained, textEvents n.earlyContentBuffer)
  | .openaiReasoningContent => (drained, reasoningEvents n.earlyReasoningBuffer ++ textEvents n.earlyContentBuffer)
  | .thinkTags => drained.routeThinkTagContent n.earlyContentBuffer

def handleThinkTagOpening : ChatChunkNormalizer × List ResponseEvent :=
  { n with earlyContentBuffer := "" }.routeThinkTagContent
    (String.ofList ((trimStart (n.earlyContentBuffer ++ c)).toList.drop 7))

def countEmptyChunk : ChatChunkNormalizer × List ResponseEvent :=
  let counted := { n with emptyChunksSeen := n.emptyChunksSeen + 1 }
  if autoDetectMaxEmptyChunks ≤ counted.emptyChunksSeen then counted.commit .none else (counted, [])

def bufferContent : ChatChunkNormalizer × List ResponseEvent :=
  let buffered := { n with earlyContentBuffer := n.earlyContentBuffer ++ c }
  if buffered.shouldCommitNone then buffered.commit .none else (buffered, [])

def route (delta : ChatChunkDelta) : ChatChunkNormalizer × List ResponseEvent :=
  match fmt with
  | .none => (n, textEvents (delta.content.getD ""))
  | .openaiReasoningContent =>
    (n, reasoningEvents (delta.reasoningText.getD "") ++ textEvents (delta.content.getD ""))
  | .thinkTags => n.routeThinkTagContent (delta.content.getD "")

variable (delta : ChatChunkDelta)
def feedContent : ChatChunkNormalizer × List ResponseEvent :=
  match n.detectedFormat with
  | some fmt => n.route fmt delta
  | none =>
    match delta.reasoningText, delta.content with
    | some _, _ =>
      -- what was withheld goes first, then this delta
      let committed := n.commit .openaiReasoningContent
      let routed := committed.1.route .openaiReasoningContent delta
      (routed.1, committed.2 ++ routed.2)
    | none, some c =>
      if n.contentStartsWithThink c then { n with detectedFormat := some .thinkTags }.handleThinkTagOpening c
      else if c ≠ "" ∨ n.earlyContentBuffer ≠ "" then n.bufferContent c
      else n.countEmptyChunk
    | none, none => n.countEmptyChunk

/-! ### The end of a completion -/

def emitToolCallDones : ChatChunkNormalizer × List ResponseEvent :=
  (n.withCalls ∅, (n.toolCalls.keys.insertionSort (· ≤ ·)).filterMap fun index =>
      (n.toolCalls.lookup index).map fun acc => .outputItemDone (.functionCall none acc.id acc.name acc.arguments))

def messageDone : ResponseEvent := .outputItemDone (.message none "assistant")

def emitCompleted : ChatChunkNormalizer × List ResponseEvent :=
  if n.completed then (n, [])
  else ({ n with completed := true, tokenUsage := none }, [.completed none n.tokenUsage])

def feedFinishReason (reason : Option String) : ChatChunkNormalizer × List ResponseEvent :=
  match reason with
  | none => (n, [])
  | some reason =>
    if reason = "tool_calls" then
      let dones := n.emitToolCallDones
      let completed := dones.1.emitCompleted
      (completed.1, dones.2 ++ completed.2)
    else if reason = "stop" then
      let completed := n.emitCompleted
      (completed.1, messageDone :: completed.2)
    else n.emitCompleted

/-! ### Chunks -/

def feedDelta : ChatChunkNormalizer × List ResponseEvent :=
  let called := Emitter.run feedToolCall n delta.toolCalls
  let routed := called.1.feedContent delta
  (routed.1, called.2 ++ routed.2)

def feedChoice (choice : ChatChunkChoice) : ChatChunkNormalizer × List ResponseEvent :=
  let fed := n.feedDelta choice.delta
  let finished := fed.1.feedFinishReason choice.finishReason
  (finished.1, fed.2 ++ finished.2)

def recordUsage (usage : Option ChatChunkUsage) : ChatChunkNormalizer :=
  match usage with
  | none => n
  | some usage =>
    { n with tokenUsage := some ⟨usage.promptTokens.getD 0, usage.completionTokens.getD 0, none, none⟩ }

def feed (chunk : ChatCompletionChunk) : ChatChunkNormalizer × List ResponseEvent :=
  Emitter.run feedChoice (n.recordUsage chunk.usage) chunk.choices

def finalize : ChatChunkNormalizer × List ResponseEvent :=
  if n.completed then (n, [])
  else
    let flushed := match n.detectedFormat with
      | none => n.commit .none
      | some _ => (n, [])
    let dones := if flushed.1.toolCalls.keys.isEmpty then (flushed.1, []) else flushed.1.emitToolCallDones
    let completed := dones.1.emitCompleted
    (completed.1, flushed.2 ++ dones.2 ++ completed.2)

end ChatChunkNormalizer

/-! ## A stream as a list of items -/

inductive WireItem where
  | usage (reported : ChatChunkUsage)
  | choice (received : ChatChunkChoice)

def WireItem.asChoice : WireItem → Option ChatChunkChoice
  | .usage _ => none
  | .choice received => some received

def ChatCompletionChunk.items (chunk : ChatCompletionChunk) : List WireItem :=
  chunk.usage.toList.map .usage ++ chunk.choices.map .choice

variable (n : ChatChunkNormalizer)
def ChatChunkNormalizer.feedItem : WireItem → ChatChunkNormalizer × List ResponseEvent
  | .usage reported => (n.recordUsage (some reported), [])
  | .choice received => n.feedChoice received

variable (chunks : List ChatCompletionChunk)
def choicesOf : List ChatChunkChoice :=
  chunks.flatMap ChatCompletionChunk.choices

lemma asChoice_items : (chunks.flatMap ChatCompletionChunk.items).filterMap WireItem.asChoice = choicesOf chunks := by
  unfold choicesOf
  induction chunks with
  | nil => rfl
  | cons chunk chunks ih =>
    have husage : (chunk.usage.toList.map WireItem.usage).filterMap WireItem.asChoice = [] := by
      cases chunk.usage <;> rfl
    have hchoices : (chunk.choices.map WireItem.choice).filterMap WireItem.asChoice = chunk.choices := by
      rw [filterMap_map]
      exact filterMap_some
    rw [flatMap_cons, filterMap_append, ih, flatMap_cons, ChatCompletionChunk.items,
      filterMap_append, husage, hchoices, nil_append]

open ChatChunkNormalizer

lemma run_choices (choices : List ChatChunkChoice) : ∀ n, Emitter.run feedItem n (choices.map .choice) =
    Emitter.run feedChoice n choices := by
  induction choices with
  | nil => exact fun n => rfl
  | cons choice choices ih =>
    intro n
    rw [map_cons, run_cons, run_cons, ih]
    rfl

lemma run_feed (chunks : List ChatCompletionChunk) : Emitter.run feed n chunks =
    Emitter.run feedItem n (chunks.flatMap ChatCompletionChunk.items) := by
  refine run_flatMap (fun n chunk => ?_) chunks n
  rw [ChatCompletionChunk.items, run_append, run_choices, feed]
  cases chunk.usage with
  | none => rfl
  | some usage => rfl

lemma feedChoice_of_none {choice} (h : choice.finishReason = none) (n : ChatChunkNormalizer) :
    n.feedChoice choice = n.feedDelta choice.delta := by
  rw [feedChoice, h]
  exact Prod.ext rfl (append_nil _)

variable (items : List WireItem)
def deltasOf : List ChatChunkDelta :=
  (items.filterMap WireItem.asChoice).map ChatChunkChoice.delta

def Unfinished : Prop :=
  ∀ choice ∈ items.filterMap WireItem.asChoice, choice.finishReason = none

lemma run_usages : ∀ n, (∀ item ∈ items, item.asChoice = none) →
    (Emitter.run feedItem n items).1.completed = n.completed ∧ (Emitter.run feedItem n items).2 = [] := by
  induction items with
  | nil => exact fun n _ => ⟨rfl, rfl⟩
  | cons item items ih =>
    intro n h
    cases item with
    | usage reported => exact ih (n.recordUsage (some reported)) fun i hi => h i (.tail _ hi)
    | choice received => cases h _ (.head _)

lemma items_split {items front last} (h : items.filterMap WireItem.asChoice = front ++ [last]) :
    ∃ before after, items = before ++ .choice last :: after ∧ before.filterMap WireItem.asChoice = front ∧
      ∀ item ∈ after, item.asChoice = none := by
  obtain ⟨before, rest, rfl, hbefore, hrest⟩ := filterMap_eq_append_iff.1 h
  obtain ⟨between, item, after, rfl, hbetween, hitem, hafter⟩ := filterMap_eq_cons_iff.1 hrest
  refine ⟨before ++ between, after, ?_, ?_, filterMap_eq_nil_iff.1 hafter⟩
  · cases item with
    | usage reported => cases hitem
    | choice received =>
      cases hitem
      rw [append_assoc]
  · rw [filterMap_append, hbefore, filterMap_eq_nil_iff.2 hbetween, append_nil]

open ChatChunkNormalizer in
/-- The events of `stream_chat` for a stream that opens and whose chunks all parse. -/
def streamChat (serverReasoningIncluded : Bool) (overrideFormat : Option DetectedReasoningFormat)
    (chunks : List ChatCompletionChunk) : List ResponseEvent :=
  let fed := Emitter.run feed (.new overrideFormat) chunks
  (if serverReasoningIncluded then [.serverReasoningIncluded true] else []) ++ fed.2 ++ (finalize fed.1).2

end Roz.OpenAi
