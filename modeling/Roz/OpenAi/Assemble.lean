import Roz.OpenAi.ChatChunk
import Roz.Agent.Message

/-!
# The response of a stream (`roz-agent/src/model/openai.rs`)

`run_stream_and_assemble` and the `Done` chunk of `stream` read the events of a completion with one
slot for the tool call that is being streamed.  Errors of the stream are left out.  How JSON is
parsed is a parameter.
-/

namespace Roz.OpenAi
open Roz.Agent (Json ContentPart CompletionResponse StopReason TokenUsage)

structure PendingTool where
  id : String
  name : String
  args : String
  deriving DecidableEq

structure Assembly where
  text : String
  reasoning : String
  toolCalls : List ContentPart
  pendingTool : Option PendingTool
  usage : TokenUsage

def toRozUsage (u : WireTokenUsage) : TokenUsage :=
  ⟨u.inputTokens, u.outputTokens, u.cachedInputTokens.getD 0, 0⟩

namespace Assembly
variable (fromStr : String → Option Json)
def start : Assembly := ⟨"", "", [], none, ⟨0, 0, 0, 0⟩⟩

def toolUse (id name args : String) : ContentPart := .toolUse id name ((fromStr args).getD .null)

variable (a : Assembly)
def flushPending : Assembly :=
  match a.pendingTool with
  | none => a
  | some p => { a with toolCalls := a.toolCalls ++ [toolUse fromStr p.id p.name p.args], pendingTool := none }

def event : ResponseEvent → Assembly
  | .outputTextDelta s => { a with text := a.text ++ s }
  | .reasoningContentDelta delta _ => { a with reasoning := a.reasoning ++ delta }
  | .reasoningSummaryDelta delta _ => { a with reasoning := a.reasoning ++ delta }
  | .toolCallStart id name => { a.flushPending fromStr with pendingTool := some ⟨id, name, ""⟩ }
  | .toolCallArgsDelta s => { a with pendingTool := a.pendingTool.map fun p => { p with args := p.args ++ s } }
  | .outputItemDone (.functionCall _ callId name arguments) =>
    -- the final arguments override the streamed ones
    { a with
      toolCalls := a.toolCalls ++ [toolUse fromStr callId name arguments]
      pendingTool := a.pendingTool.filter fun p => !(p.id == callId && p.name == name) }
  | .outputItemDone _ => a
  | .completed _ (some usage) => { a with usage := toRozUsage usage }
  | .completed _ none => a
  | .created => a
  | .serverReasoningIncluded _ => a

def parts : List ContentPart :=
  (if a.reasoning = "" then [] else [.thinking a.reasoning ""]) ++ (if a.text = "" then [] else [.text a.text]) ++
    a.toolCalls

/-- The stop reason is settled at `Completed`, with the calls there are then. -/
def stopAt (stop : StopReason) : ResponseEvent → StopReason
  | .completed .. => if a.toolCalls.isEmpty ∧ a.pendingTool.isNone then stop else .toolUse
  | _ => stop

end Assembly

variable (fromStr : String → Option Json) (events : List ResponseEvent)
def runStreamAndAssemble : CompletionResponse :=
  let read := events.foldl (fun read e => (read.1.event fromStr e, read.1.stopAt read.2 e)) (Assembly.start, .endTurn)
  { parts := (read.1.flushPending fromStr).parts
    stopReason := if read.1.pendingTool.isSome then .toolUse else read.2
    usage := read.1.usage }

def streamDone : CompletionResponse :=
  let read := (events.foldl (Assembly.event fromStr) .start).flushPending fromStr
  { parts := read.parts
    stopReason := if read.toolCalls.isEmpty then .endTurn else .toolUse
    usage := read.usage }

end Roz.OpenAi
