import Roz.OpenAi.Assemble
import Roz.OpenAi.TextPreserved

/-!
# Tool calls on the chat wire

The normalizer streams a call (its start and its arguments) as soon as its id and name are known,
and at the end gives out an item for every call.  The assembler has one slot for the call that is
being streamed: it takes a streamed call as complete when the next one starts, and once more when
its item comes.  So every announced call but the last is there twice (`toolCalls_iff`).
-/

namespace Roz.OpenAi
open ChatChunkNormalizer List ResponseEvent
open Roz.Agent (Json ContentPart ToolCall)
namespace ChatChunkToolCall
variable (f : ChatChunkToolCall)
def hasId : Bool := f.id.any (· ≠ "")

def hasName : Bool := f.function.any fun func => func.name.any (· ≠ "")

def args : String := ((f.function.bind ChatChunkFunction.arguments)).getD ""

end ChatChunkToolCall

/-- One call with its fragments: wherever they give an id or a name, it is that of the call. -/
structure WireCall where
  index : Nat
  id : String
  name : String
  fragments : List ChatChunkToolCall
  id_ne : id ≠ ""
  name_ne : name ≠ ""
  of_index : ∀ f ∈ fragments, f.index = index
  of_id : ∀ f ∈ fragments, ∀ x ∈ f.id, x = "" ∨ x = id
  of_name : ∀ f ∈ fragments, ∀ func ∈ f.function, ∀ x ∈ func.name, x = "" ∨ x = name
  has_id : ∃ f ∈ fragments, f.hasId = true
  has_name : ∃ f ∈ fragments, f.hasName = true

def announces : (idSeen nameSeen : Bool) → List ChatChunkToolCall → Bool
  | _, _, [] => false
  | idSeen, nameSeen, f :: fs =>
    (f.function.isSome && (idSeen || f.hasId) && (nameSeen || f.hasName)) ||
      announces (idSeen || f.hasId) (nameSeen || f.hasName) fs

namespace WireCall

def announced (c : WireCall) : Bool := announces false false c.fragments

def arguments (c : WireCall) : String := String.join (c.fragments.map ChatChunkToolCall.args)

def toolCall (fromStr : String → Option Json) (c : WireCall) : ToolCall :=
  ⟨c.id, c.name, (fromStr c.arguments).getD .null⟩

end WireCall
open WireCall ToolCallAccum Assembly
section Slot
variable (id name : String)
def slotAt (idSeen nameSeen : Bool) (arguments : String) (started : Bool) : ToolCallAccum :=
  ⟨if idSeen then id else "", if nameSeen then name else "", arguments, started⟩

/-- The arguments of a fragment, as an event for a call that has started. -/
def argsEvents (text : String) : List ResponseEvent := if text = "" then [] else [.toolCallArgsDelta text]

variable {id name} {idSeen nameSeen started : Bool} {arguments : String} {given : Option String}
lemma withId_slotAt (hid : id ≠ "") (h : ∀ x ∈ given, x = "" ∨ x = id) :
    (slotAt id name idSeen nameSeen arguments started).withId given =
      slotAt id name (idSeen || given.any (· ≠ "")) nameSeen arguments started := by
  cases given with
  | none => simp [withId]
  | some x =>
    cases idSeen with
    | true => simp [withId, slotAt, hid]
    | false =>
      rcases h x rfl with rfl | rfl
      · simp [withId, slotAt]
      · simp [withId, slotAt, hid]

lemma withName_slotAt (hname : name ≠ "") (h : ∀ x ∈ given, x = "" ∨ x = name) :
    (slotAt id name idSeen nameSeen arguments started).withName given =
      slotAt id name idSeen (nameSeen || given.any (· ≠ "")) arguments started := by
  cases given with
  | none => simp [withName]
  | some x =>
    cases nameSeen with
    | true => simp [withName, slotAt, hname]
    | false =>
      rcases h x rfl with rfl | rfl
      · simp [withName, slotAt]
      · simp [withName, slotAt, hname]

lemma start_slotAt (hid : id ≠ "") (hname : name ≠ "") : (slotAt id name idSeen nameSeen arguments started).start =
    (slotAt id name idSeen nameSeen arguments (started || (idSeen && nameSeen)),
      if !started && (idSeen && nameSeen) then [.toolCallStart id name] else []) := by
  cases idSeen <;> cases nameSeen <;> cases started <;> simp [ToolCallAccum.start, slotAt, hid, hname]

lemma pushArguments_slotAt (given : Option String) :
    (slotAt id name idSeen nameSeen arguments started).pushArguments given =
      (slotAt id name idSeen nameSeen (arguments ++ given.getD "") started,
        if started then argsEvents (given.getD "") else []) := by
  cases given with
  | none => cases started <;> simp [pushArguments, slotAt, argsEvents]
  | some args =>
    by_cases h : args = ""
    · cases started <;> simp [pushArguments, slotAt, argsEvents, h]
    · cases started <;> simp [pushArguments, slotAt, argsEvents, h]

lemma feed_slotAt (hid : id ≠ "") (hname : name ≠ "") {f}
    (hfid : ∀ x ∈ f.id, x = "" ∨ x = id) (hfname : ∀ func ∈ f.function, ∀ x ∈ func.name, x = "" ∨ x = name)
    (idSeen nameSeen : Bool) (arguments : String) (started : Bool) :
    let starts := f.function.isSome && (idSeen || f.hasId) && (nameSeen || f.hasName)
    (slotAt id name idSeen nameSeen arguments started).feed f =
      (slotAt id name (idSeen || f.hasId) (nameSeen || f.hasName) (arguments ++ f.args) (started || starts),
        (if !started && starts then [.toolCallStart id name] else []) ++
          if started || starts then argsEvents f.args else []) := by
  intro starts
  cases hfunc : f.function with
  | none =>
    have hstarts : starts = false := by simp [starts, hfunc]
    have hnoName : f.hasName = false := by simp [ChatChunkToolCall.hasName, hfunc]
    have hnoArgs : f.args = "" := by simp [ChatChunkToolCall.args, hfunc]
    rw [ToolCallAccum.feed, hfunc, hstarts, hnoName, hnoArgs, Bool.or_false, Bool.or_false, String.append_empty]
    dsimp only
    rw [withId_slotAt hid hfid]
    cases started <;> rfl
  | some func =>
    have hstarts : starts = ((idSeen || f.hasId) && (nameSeen || f.hasName)) := by simp [starts, hfunc]
    have hhasName : f.hasName = func.name.any (· ≠ "") := by simp [ChatChunkToolCall.hasName, hfunc]
    have hargs : f.args = func.arguments.getD "" := by simp [ChatChunkToolCall.args, hfunc]
    rw [hstarts, hargs, ToolCallAccum.feed, hfunc]
    dsimp only
    rw [withId_slotAt hid hfid, withName_slotAt hname (hfname func hfunc), ← hhasName, start_slotAt hid hname]
    dsimp only
    rw [pushArguments_slotAt]
    rfl

lemma run_slotAt (hid : id ≠ "") (hname : name ≠ "") {fs} (hfid : ∀ f ∈ fs, ∀ x ∈ f.id, x = "" ∨ x = id)
    (hfname : ∀ f ∈ fs, ∀ func ∈ f.function, ∀ x ∈ func.name, x = "" ∨ x = name) :
    ∀ idSeen nameSeen arguments started, ∃ deltas : List String,
      Emitter.run ToolCallAccum.feed (slotAt id name idSeen nameSeen arguments started) fs =
        (slotAt id name (idSeen || fs.any ChatChunkToolCall.hasId) (nameSeen || fs.any ChatChunkToolCall.hasName)
            (arguments ++ String.join (fs.map ChatChunkToolCall.args)) (started || announces idSeen nameSeen fs),
          (if !started && announces idSeen nameSeen fs then [.toolCallStart id name] else []) ++
            deltas.map .toolCallArgsDelta) ∧
      (started = false → announces idSeen nameSeen fs = false → deltas = []) := by
  induction fs with
  | nil =>
    intro idSeen nameSeen arguments started
    refine ⟨[], ?_, fun _ _ => rfl⟩
    simp [announces]
  | cons f fs ih =>
    intro idSeen nameSeen arguments started
    obtain ⟨deltas, hrun, hnone⟩ := ih (fun g hg => hfid g (.tail _ hg)) (fun g hg => hfname g (.tail _ hg))
      (idSeen || f.hasId) (nameSeen || f.hasName) (arguments ++ f.args)
      (started || (f.function.isSome && (idSeen || f.hasId) && (nameSeen || f.hasName)))
    have hargs : argsEvents f.args = (if f.args = "" then [] else [f.args]).map toolCallArgsDelta := by
      unfold argsEvents
      split <;> rfl
    rw [Emitter.run_cons, feed_slotAt hid hname (hfid f (.head _)) (hfname f (.head _)), hrun]
    simp only [announces, any_cons, map_cons, String.join_cons, Bool.or_assoc, String.append_assoc]
    -- by whether this fragment announces the call, and whether it had started
    by_cases hstarts : (f.function.isSome && (idSeen || f.hasId) && (nameSeen || f.hasName)) = true
    · refine ⟨(if f.args = "" then [] else [f.args]) ++ deltas, ?_, fun _ h => by simp [hstarts] at h⟩
      rw [map_append, ← hargs]
      cases started <;> simp [hstarts]
    · rw [Bool.not_eq_true] at hstarts
      cases started with
      | true =>
        refine ⟨(if f.args = "" then [] else [f.args]) ++ deltas, ?_, nofun⟩
        rw [map_append, ← hargs]
        simp [hstarts]
      | false =>
        rw [hstarts] at hnone
        refine ⟨deltas, ?_, fun _ h => hnone rfl (by simpa [hstarts] using h)⟩
        simp [hstarts]

end Slot

namespace WireCall
variable (c : WireCall)
def streamed : List ResponseEvent := (Emitter.run ToolCallAccum.feed .default c.fragments).2

def slot : ToolCallAccum := ⟨c.id, c.name, c.arguments, c.announced⟩

lemma fragments_ne_nil : c.fragments ≠ [] := by
  obtain ⟨f, hf, -⟩ := c.has_id
  exact ne_nil_of_mem hf

lemma run_fragments : (Emitter.run ToolCallAccum.feed .default c.fragments).1 = c.slot ∧
    ∃ deltas : List String, c.streamed =
      if c.announced then .toolCallStart c.id c.name :: deltas.map .toolCallArgsDelta else [] := by
  obtain ⟨deltas, hrun, hnone⟩ := run_slotAt c.id_ne c.name_ne c.of_id c.of_name false false "" false
  have hdefault : ToolCallAccum.default = slotAt c.id c.name false false "" false := rfl
  have hid : c.fragments.any ChatChunkToolCall.hasId = true := any_eq_true.2 c.has_id
  have hname : c.fragments.any ChatChunkToolCall.hasName = true := any_eq_true.2 c.has_name
  constructor
  · rw [hdefault, hrun, hid, hname, String.empty_append]
    simp [slotAt, slot, WireCall.arguments, announced]
  · refine ⟨deltas, ?_⟩
    rw [streamed, hdefault, hrun]
    by_cases h : c.announced = true
    · have h' : announces false false c.fragments = true := h
      simp [h, h']
    · rw [Bool.not_eq_true] at h
      have h' : announces false false c.fragments = false := h
      simp [h, h', hnone rfl h']

end WireCall

/-! ## The slots of a stream -/

variable (calls : AList fun _ : Nat => ToolCallAccum) (tc : ChatChunkToolCall)
def feedCall : (AList fun _ : Nat => ToolCallAccum) × List ResponseEvent :=
  let fed := ((calls.lookup tc.index).getD .default).feed tc
  (calls.insert tc.index fed.1, fed.2)

lemma run_feedCall {i fs} (hfs : ∀ f ∈ fs, f.index = i) : ∀ calls, (Emitter.run feedCall calls fs).2 =
      (Emitter.run ToolCallAccum.feed ((calls.lookup i).getD .default) fs).2 ∧
    ((Emitter.run feedCall calls fs).1.lookup i).getD .default =
      (Emitter.run ToolCallAccum.feed ((calls.lookup i).getD .default) fs).1 ∧
    (∀ j, j ∈ (Emitter.run feedCall calls fs).1 ↔ j ∈ calls ∨ (fs ≠ [] ∧ j = i)) ∧
    ∀ j, j ≠ i → (Emitter.run feedCall calls fs).1.lookup j = calls.lookup j := by
  induction fs with
  | nil => exact fun calls => ⟨rfl, rfl, fun j => by simp, fun j _ => rfl⟩
  | cons f fs ih =>
    intro calls
    have hf : f.index = i := hfs f (.head _)
    obtain ⟨hevents, hslot, hmem, hother⟩ := ih (fun g hg => hfs g (.tail _ hg)) (feedCall calls f).1
    have hlookup : ((feedCall calls f).1.lookup i).getD .default =
        (((calls.lookup i).getD .default).feed f).1 := by
      rw [feedCall, hf, AList.lookup_insert]
      rfl
    rw [Emitter.run_cons, Emitter.run_cons]
    rw [hlookup] at hevents hslot
    refine ⟨?_, hslot, fun j => ?_, fun j hj => ?_⟩
    · rw [hevents, feedCall, hf]
    · rw [hmem j, feedCall, AList.mem_insert, hf]
      simp only [ne_eq, reduceCtorEq, not_false_eq_true, true_and]
      tauto
    · rw [hother j hj, feedCall, hf, AList.lookup_insert_ne hj]

variable (cs : List WireCall)
lemma run_calls : ∀ calls, (cs.map index).Nodup → (∀ c ∈ cs, c.index ∉ calls) →
    (Emitter.run feedCall calls (cs.flatMap fragments)).2 = cs.flatMap streamed ∧
      (∀ c ∈ cs, (Emitter.run feedCall calls (cs.flatMap fragments)).1.lookup c.index = some c.slot) ∧
      (∀ j, j ∈ (Emitter.run feedCall calls (cs.flatMap fragments)).1 ↔
        j ∈ calls ∨ j ∈ cs.map index) ∧ ∀ j, j ∉ cs.map index →
        (Emitter.run feedCall calls (cs.flatMap fragments)).1.lookup j = calls.lookup j := by
  induction cs with
  | nil =>
    intro calls _ _
    refine ⟨rfl, fun c hc => ?_, fun j => ?_, fun j _ => rfl⟩
    · cases hc
    · simp
  | cons c cs ih =>
    intro calls hnodup hnew
    obtain ⟨hfresh, hnodup⟩ := nodup_cons.1 hnodup
    obtain ⟨hevents, hslot, hmem, hother⟩ := run_feedCall c.of_index calls
    have hnone : calls.lookup c.index = none := AList.lookup_eq_none.2 (hnew c (.head _))
    rw [hnone, Option.getD_none] at hevents hslot
    have hin : c.index ∈ (Emitter.run feedCall calls c.fragments).1 :=
      (hmem c.index).2 (.inr ⟨c.fragments_ne_nil, rfl⟩)
    obtain ⟨slot, hlookup⟩ := Option.isSome_iff_exists.1 (AList.lookup_isSome.2 hin)
    obtain ⟨hevents', hslot', hmem', hother'⟩ := ih (Emitter.run feedCall calls c.fragments).1 hnodup (by
      intro d hd hin
      rcases (hmem d.index).1 hin with h | ⟨-, h⟩
      · exact hnew d (.tail _ hd) h
      · exact hfresh (h ▸ mem_map_of_mem hd))
    rw [flatMap_cons, Emitter.run_append]
    refine ⟨?_, fun d hd => ?_, fun j => ?_, fun j hj => ?_⟩
    · rw [hevents, hevents', flatMap_cons]
      rfl
    · rcases mem_cons.1 hd with rfl | hd
      · rw [hother' d.index hfresh, hlookup]
        rw [hlookup, Option.getD_some] at hslot
        rw [hslot, d.run_fragments.1]
      · exact hslot' d hd
    · rw [hmem' j, hmem j, map_cons, mem_cons, or_assoc]
      simp only [ne_eq, c.fragments_ne_nil, not_false_eq_true, true_and]
    · rw [map_cons, mem_cons, not_or] at hj
      rw [hother' j hj.2, hother j hj.1]

/-! ## The events of a stream -/

def ResponseEvent.isTool : ResponseEvent → Bool
  | .toolCallStart .. => true
  | .toolCallArgsDelta _ => true
  | .outputItemDone (.functionCall ..) => true
  | _ => false

lemma filter_textEvents {text} : (textEvents text).filter isTool = [] := by
  unfold textEvents
  split <;> rfl

variable (text : String)
lemma filter_reasoningEvents : (reasoningEvents text).filter isTool = [] := by
  unfold reasoningEvents
  split <;> rfl

lemma filter_reasoningEvents_textEvents {thought text} :
    (reasoningEvents thought ++ textEvents text).filter isTool = [] := by
  rw [filter_append, filter_reasoningEvents, filter_textEvents]
  rfl

def LeavesCalls (n : ChatChunkNormalizer) (out : ChatChunkNormalizer × List ResponseEvent) : Prop :=
  out.1.toolCalls = n.toolCalls ∧ out.2.filter ResponseEvent.isTool = []

variable (n : ChatChunkNormalizer)
lemma routeThinkTagContent_leavesCalls (text : String) : LeavesCalls n (n.routeThinkTagContent text) := by
  unfold routeThinkTagContent
  split
  · exact ⟨rfl, rfl⟩
  · split
    · exact ⟨rfl, rfl⟩
    · dsimp only
      split
      · exact ⟨rfl, filter_reasoningEvents_textEvents⟩
      · exact ⟨rfl, rfl⟩

variable (fmt : DetectedReasoningFormat)
lemma commit_leavesCalls : LeavesCalls n (n.commit fmt) := by
  cases fmt with
  | none => exact ⟨rfl, filter_textEvents⟩
  | openaiReasoningContent => exact ⟨rfl, filter_reasoningEvents_textEvents⟩
  | thinkTags =>
    unfold commit
    obtain ⟨hcalls, hevents⟩ := routeThinkTagContent_leavesCalls
      { n with detectedFormat := some .thinkTags, earlyReasoningBuffer := "", earlyContentBuffer := "" }
      n.earlyContentBuffer
    exact ⟨hcalls, hevents⟩

lemma handleThinkTagOpening_leavesCalls (c : String) : LeavesCalls n (n.handleThinkTagOpening c) := by
  unfold handleThinkTagOpening
  generalize String.ofList ((trimStart (n.earlyContentBuffer ++ c)).toList.drop 7) = rest
  obtain ⟨hcalls, hevents⟩ := routeThinkTagContent_leavesCalls { n with earlyContentBuffer := "" } rest
  exact ⟨hcalls, hevents⟩

lemma countEmptyChunk_leavesCalls : LeavesCalls n n.countEmptyChunk := by
  unfold countEmptyChunk
  dsimp only
  split
  · exact commit_leavesCalls { n with emptyChunksSeen := n.emptyChunksSeen + 1 } .none
  · exact ⟨rfl, rfl⟩

lemma bufferContent_leavesCalls (c : String) : LeavesCalls n (n.bufferContent c) := by
  unfold bufferContent
  dsimp only
  split
  · exact commit_leavesCalls { n with earlyContentBuffer := n.earlyContentBuffer ++ c } .none
  · exact ⟨rfl, rfl⟩

lemma route_leavesCalls (d : ChatChunkDelta) : LeavesCalls n (n.route fmt d) := by
  cases fmt with
  | none => exact ⟨rfl, filter_textEvents⟩
  | openaiReasoningContent => exact ⟨rfl, filter_reasoningEvents_textEvents⟩
  | thinkTags => exact routeThinkTagContent_leavesCalls n (d.content.getD "")

variable (d : ChatChunkDelta)
lemma feedContent_leavesCalls : LeavesCalls n (n.feedContent d) := by
  unfold feedContent
  split
  · exact route_leavesCalls n _ d
  · split
    · obtain ⟨hcalls, hevents⟩ := commit_leavesCalls n .openaiReasoningContent
      obtain ⟨hcalls', hevents'⟩ := route_leavesCalls (n.commit .openaiReasoningContent).1 .openaiReasoningContent d
      refine ⟨hcalls'.trans hcalls, ?_⟩
      rw [filter_append, hevents, hevents', nil_append]
    · rename_i c _ _
      split
      · obtain ⟨hcalls, hevents⟩ := handleThinkTagOpening_leavesCalls { n with detectedFormat := some .thinkTags } c
        exact ⟨hcalls, hevents⟩
      · split
        · exact bufferContent_leavesCalls n c
        · exact countEmptyChunk_leavesCalls n
    · exact countEmptyChunk_leavesCalls n

variable (tcs : List ChatChunkToolCall)
lemma run_feedToolCall_calls : ∀ n, Emitter.run feedToolCall n tcs =
    (n.withCalls (Emitter.run feedCall n.toolCalls tcs).1, (Emitter.run feedCall n.toolCalls tcs).2) := by
  induction tcs with
  | nil => exact fun n => rfl
  | cons tc tcs ih =>
    intro n
    rw [Emitter.run_cons, Emitter.run_cons, ih]
    rfl

lemma isTool_feedCall : (feedCall calls tc).2.filter isTool = (feedCall calls tc).2 := by
  rw [filter_eq_self]
  intro e he
  rcases mem_feed he with ⟨id, name, rfl⟩ | ⟨args, rfl⟩
  · rfl
  · rfl

lemma isTool_run : ∀ calls, (Emitter.run feedCall calls tcs).2.filter isTool = (Emitter.run feedCall calls tcs).2 := by
  induction tcs with
  | nil => exact fun calls => rfl
  | cons tc tcs ih =>
    intro calls
    rw [Emitter.run_cons, filter_append, isTool_feedCall, ih]

lemma feedDelta_calls : (n.feedDelta d).1.toolCalls = (Emitter.run feedCall n.toolCalls d.toolCalls).1 ∧
    (n.feedDelta d).2.filter isTool = (Emitter.run feedCall n.toolCalls d.toolCalls).2 := by
  obtain ⟨hcalls, hevents⟩ := feedContent_leavesCalls
    (n.withCalls (Emitter.run feedCall n.toolCalls d.toolCalls).1) d
  rw [feedDelta, run_feedToolCall_calls]
  refine ⟨hcalls, ?_⟩
  rw [filter_append, hevents, isTool_run, append_nil]

def fragmentsOf (deltas : List ChatChunkDelta) : List ChatChunkToolCall := deltas.flatMap ChatChunkDelta.toolCalls

lemma run_unfinished_calls (items : List WireItem) : ∀ n, Unfinished items →
    (Emitter.run feedItem n items).1.toolCalls = (Emitter.run feedCall n.toolCalls (fragmentsOf (deltasOf items))).1 ∧
      (Emitter.run feedItem n items).2.filter isTool =
        (Emitter.run feedCall n.toolCalls (fragmentsOf (deltasOf items))).2 := by
  induction items with
  | nil => exact fun n _ => ⟨rfl, rfl⟩
  | cons item items ih =>
    intro n hfinish
    cases item with
    | usage reported =>
      have hcalls : (n.recordUsage (some reported)).toolCalls = n.toolCalls := rfl
      obtain ⟨hslots, hevents⟩ := ih (n.recordUsage (some reported)) hfinish
      rw [hcalls] at hslots hevents
      exact ⟨hslots, hevents⟩
    | choice received =>
      obtain ⟨hfed, hfedEvents⟩ := feedDelta_calls n received.delta
      obtain ⟨hslots, hevents⟩ := ih (n.feedDelta received.delta).1 fun c hc => hfinish c (.tail _ hc)
      have hdeltas : fragmentsOf (deltasOf (.choice received :: items)) =
          received.delta.toolCalls ++ fragmentsOf (deltasOf items) := rfl
      rw [Emitter.run_cons, feedItem, feedChoice_of_none (hfinish received (.head _)) n, hdeltas, Emitter.run_append]
      rw [hfed] at hslots hevents
      refine ⟨hslots, ?_⟩
      rw [filter_append, hfedEvents, hevents]

/-! ## The items at the end -/

def WireCall.done (c : WireCall) : ResponseEvent := .outputItemDone (.functionCall none c.id c.name c.arguments)

lemma emitToolCallDones_calls {n : ChatChunkNormalizer} {cs : List WireCall}
    (hsorted : (cs.map index).Pairwise (· < ·)) (hslot : ∀ c ∈ cs, n.toolCalls.lookup c.index = some c.slot)
    (hmem : ∀ j, j ∈ n.toolCalls ↔ j ∈ cs.map index) : n.emitToolCallDones.2 = cs.map done := by
  have hkeys : n.toolCalls.keys.insertionSort (· ≤ ·) = cs.map index := by
    have hnodup : (cs.map index).Nodup := hsorted.imp fun h => Nat.ne_of_lt h
    have hperm : n.toolCalls.keys.Perm (cs.map index) :=
      (perm_ext_iff_of_nodup n.toolCalls.nodupKeys hnodup).2 fun j => hmem j
    exact List.Perm.eq_of_pairwise' (pairwise_insertionSort _ _) (hsorted.imp fun h => Nat.le_of_lt h)
      ((perm_insertionSort _ _).trans hperm)
  unfold emitToolCallDones
  dsimp only
  rw [hkeys, filterMap_map]
  clear hkeys hsorted hmem
  induction cs with
  | nil => rfl
  | cons c cs ih =>
    rw [map_cons, filterMap_cons_some, ih fun d hd => hslot d (.tail _ hd)]
    rw [Function.comp_apply, hslot c (.head _)]
    rfl

lemma emitCompleted_leavesCalls : LeavesCalls n n.emitCompleted := by
  unfold emitCompleted
  split <;> exact ⟨rfl, rfl⟩

lemma toolEvents {serverReasoningIncluded : Bool} {overrideFormat chunks front last} {cs : List WireCall}
    (hchoices : choicesOf chunks = front ++ [last]) (hfront : ∀ choice ∈ front, choice.finishReason = none)
    (hlast : last.finishReason = some "tool_calls")
    (hcalls : fragmentsOf ((choicesOf chunks).map ChatChunkChoice.delta) = cs.flatMap fragments)
    (hsorted : (cs.map index).Pairwise (· < ·)) :
    (streamChat serverReasoningIncluded overrideFormat chunks).filter isTool =
      cs.flatMap streamed ++ cs.map done := by
  obtain ⟨before, after, hitems, hbefore, hafter⟩ := items_split ((asChoice_items chunks).trans hchoices)
  obtain ⟨hunfinished, hdeltas⟩ := @unfinished_front _ _ last hbefore hfront
  obtain ⟨hevents, hcompleted⟩ := @run_last before _ _ _ hlast hafter (.new overrideFormat)
  obtain ⟨hslots, htool⟩ := run_unfinished_calls _ (.new overrideFormat) hunfinished
  rw [hdeltas, ← hchoices, hcalls] at hslots htool
  obtain ⟨hstreamed, hslot, hmem, -⟩ := run_calls cs ∅ (hsorted.imp fun h => Nat.ne_of_lt h)
    fun c _ => AList.notMem_empty c.index
  have hnew : (ChatChunkNormalizer.new overrideFormat).toolCalls = ∅ := rfl
  rw [hnew] at hslots htool
  generalize Emitter.run feedItem (.new overrideFormat) (before ++ [.choice last.unfinished]) = cut at *
  have hdones : cut.1.emitToolCallDones.2 = cs.map done := by
    refine emitToolCallDones_calls hsorted (fun c hc => ?_) fun j => ?_
    · rw [hslots, hslot c hc]
    · rw [hslots, hmem j]
      exact or_iff_right (AList.notMem_empty j)
  have hdonesTool : (cs.map done).filter isTool = cs.map done := by
    rw [filter_eq_self]
    intro e he
    obtain ⟨c, -, rfl⟩ := mem_map.1 he
    rfl
  have hfinish : (cut.1.feedFinishReason (some "tool_calls")).2.filter isTool = cs.map done := by
    change (cut.1.emitToolCallDones.2 ++ cut.1.emitToolCallDones.1.emitCompleted.2).filter isTool = _
    rw [filter_append, (emitCompleted_leavesCalls _).2, hdones, hdonesTool, append_nil]
  have hend := hcompleted.trans (feedFinishReason_text cut.1 "tool_calls").1
  unfold streamChat
  dsimp only
  rw [run_feed, hitems, finalize_completed hend, append_nil, filter_append, hevents, filter_append,
    htool, hstreamed, hfinish]
  cases serverReasoningIncluded <;> rfl

namespace Assembly
variable (fromStr : String → Option Json)
def SameCalls (a b : Assembly) : Prop := a.toolCalls = b.toolCalls ∧ a.pendingTool = b.pendingTool

lemma event_of_not_isTool {e} (h : e.isTool = false) (a : Assembly) : SameCalls (a.event fromStr e) a := by
  cases e with
  | toolCallStart id name => cases h
  | toolCallArgsDelta s => cases h
  | outputItemDone item =>
    cases item with
    | functionCall id callId name arguments => cases h
    | _ => exact ⟨rfl, rfl⟩
  | completed id usage => cases usage <;> exact ⟨rfl, rfl⟩
  | _ => exact ⟨rfl, rfl⟩

variable {a b : Assembly}
lemma flushPending_congr (h : SameCalls a b) : SameCalls (a.flushPending fromStr) (b.flushPending fromStr) := by
  obtain ⟨hcalls, hpending⟩ := h
  unfold flushPending
  rw [hpending]
  cases b.pendingTool with
  | none => exact ⟨hcalls, hpending⟩
  | some p => exact ⟨congrArg (· ++ _) hcalls, rfl⟩

lemma event_congr (h : SameCalls a b) (e : ResponseEvent) : SameCalls (a.event fromStr e) (b.event fromStr e) := by
  by_cases htool : e.isTool = true
  · cases e with
    | toolCallStart id name => exact ⟨(flushPending_congr fromStr h).1, rfl⟩
    | toolCallArgsDelta s => exact ⟨h.1, congrArg (Option.map _) h.2⟩
    | outputItemDone item =>
      cases item with
      | functionCall id callId name arguments => exact ⟨congrArg (· ++ _) h.1, congrArg (Option.filter _) h.2⟩
      | _ => cases htool
    | _ => cases htool
  · rw [Bool.not_eq_true] at htool
    obtain ⟨hcalls, hpending⟩ := event_of_not_isTool fromStr htool a
    obtain ⟨hcalls', hpending'⟩ := event_of_not_isTool fromStr htool b
    exact ⟨hcalls.trans (h.1.trans hcalls'.symm), hpending.trans (h.2.trans hpending'.symm)⟩

lemma foldl_isTool (events : List ResponseEvent) : ∀ a b : Assembly, SameCalls a b →
    SameCalls (events.foldl (event fromStr) a) ((events.filter isTool).foldl (event fromStr) b) := by
  induction events with
  | nil => exact fun a b h => h
  | cons e events ih =>
    intro a b h
    by_cases htool : e.isTool = true
    · rw [filter_cons_of_pos htool]
      exact ih _ _ (event_congr fromStr h e)
    · rw [filter_cons_of_neg htool]
      rw [Bool.not_eq_true] at htool
      obtain ⟨hcalls, hpending⟩ := event_of_not_isTool fromStr htool a
      exact ih _ _ ⟨hcalls.trans h.1, hpending.trans h.2⟩

def pendingUse (p : PendingTool) : ContentPart := toolUse fromStr p.id p.name p.args

lemma foldl_argsDeltas (deltas : List String) : ∀ a : Assembly,
    ((deltas.map .toolCallArgsDelta).foldl (event fromStr) a).toolCalls = a.toolCalls ∧
      ∃ args : String → String, ((deltas.map .toolCallArgsDelta).foldl (event fromStr) a).pendingTool =
        a.pendingTool.map fun p => { p with args := args p.args } := by
  induction deltas with
  | nil =>
    intro a
    refine ⟨rfl, id, ?_⟩
    cases h : a.pendingTool <;> simp [h]
  | cons s deltas ih =>
    intro a
    obtain ⟨hcalls, args, hpending⟩ := ih (a.event fromStr (.toolCallArgsDelta s))
    refine ⟨hcalls, fun x => args (x ++ s), ?_⟩
    rw [map_cons, foldl_cons, hpending]
    exact Option.map_map ..

lemma foldl_streamed (c : WireCall) (a : Assembly) : if c.announced then
      ∃ args, (c.streamed.foldl (event fromStr) a).toolCalls = a.toolCalls ++ a.pendingTool.toList.map (pendingUse fromStr) ∧
        (c.streamed.foldl (event fromStr) a).pendingTool = some ⟨c.id, c.name, args⟩
    else c.streamed.foldl (event fromStr) a = a := by
  obtain ⟨-, deltas, hstreamed⟩ := c.run_fragments
  split
  · rename_i hannounced
    rw [hstreamed, if_pos hannounced, foldl_cons]
    obtain ⟨hcalls, args, hpending⟩ := foldl_argsDeltas fromStr deltas (a.event fromStr (.toolCallStart c.id c.name))
    refine ⟨args "", hcalls.trans ?_, hpending⟩
    change (a.flushPending fromStr).toolCalls = _
    unfold flushPending
    cases h : a.pendingTool with
    | none => exact (append_nil _).symm
    | some p => rfl
  · rename_i hannounced
    rw [hstreamed, if_neg hannounced]
    rfl

variable (cs : List WireCall)
lemma foldl_streamed_calls : ∀ a : Assembly, ∃ early : List PendingTool,
    ((cs.flatMap streamed).foldl (event fromStr) a).toolCalls = a.toolCalls ++ early.map (pendingUse fromStr) ∧
      early.length + ((cs.flatMap streamed).foldl (event fromStr) a).pendingTool.toList.length =
        a.pendingTool.toList.length + cs.countP announced ∧
      (0 < a.pendingTool.toList.length + cs.countP announced →
        ((cs.flatMap streamed).foldl (event fromStr) a).pendingTool.isSome = true) ∧
      ∀ p ∈ ((cs.flatMap streamed).foldl (event fromStr) a).pendingTool,
        p ∈ a.pendingTool ∨ ∃ c ∈ cs, c.id = p.id ∧ c.name = p.name := by
  induction cs with
  | nil =>
    intro a
    refine ⟨[], (append_nil _).symm, Nat.add_comm .., fun h => ?_, fun p hp => .inl hp⟩
    cases hp : a.pendingTool with
    | none => simp [hp] at h
    | some p => simp [hp]
  | cons c cs ih =>
    intro a
    rw [flatMap_cons, foldl_append]
    obtain ⟨early, hcalls, hlength, hsome, hof⟩ := ih (c.streamed.foldl (event fromStr) a)
    have hstep := foldl_streamed fromStr c a
    by_cases hannounced : c.announced = true
    · rw [if_pos hannounced] at hstep
      obtain ⟨args, hstepCalls, hstepPending⟩ := hstep
      rw [hstepPending] at hlength hsome hof
      rw [countP_cons_of_pos hannounced]
      have hpending : 0 < (some (⟨c.id, c.name, args⟩ : PendingTool)).toList.length + cs.countP announced := by
        rw [Option.toList_some, length_singleton]
        omega
      refine ⟨a.pendingTool.toList ++ early, ?_, ?_, fun _ => hsome hpending, fun p hp => ?_⟩
      · rw [hcalls, hstepCalls, map_append, append_assoc]
      · rw [length_append, Nat.add_assoc, hlength]
        simp only [Option.toList_some, length_singleton]
        omega
      · rcases hof p hp with h | ⟨d, hd, h⟩
        · cases h
          exact .inr ⟨c, .head _, rfl, rfl⟩
        · exact .inr ⟨d, .tail _ hd, h⟩
    · rw [if_neg hannounced] at hstep
      rw [hstep] at hcalls hlength hsome hof
      rw [hstep, countP_cons_of_neg hannounced]
      refine ⟨early, hcalls, hlength, hsome, fun p hp => ?_⟩
      rcases hof p hp with h | ⟨d, hd, h⟩
      · exact .inl h
      · exact .inr ⟨d, .tail _ hd, h⟩

lemma foldl_dones : ∀ a : Assembly, ((cs.map done).foldl (event fromStr) a).toolCalls =
      a.toolCalls ++ cs.map (fun c => toolUse fromStr c.id c.name c.arguments) ∧
    ((cs.map done).foldl (event fromStr) a).pendingTool =
      a.pendingTool.filter fun p => cs.all fun c => !(p.id == c.id && p.name == c.name) := by
  induction cs with
  | nil =>
    intro a
    refine ⟨(append_nil _).symm, ?_⟩
    rw [map_nil, foldl_nil]
    cases a.pendingTool <;> rfl
  | cons c cs ih =>
    intro a
    obtain ⟨hcalls, hpending⟩ := ih (a.event fromStr c.done)
    rw [map_cons, foldl_cons]
    constructor
    · rw [hcalls, map_cons]
      exact append_assoc ..
    · rw [hpending]
      exact (Option.filter_filter ..).trans (congrArg a.pendingTool.filter (funext fun p => by
        simp [all_cons]))

end Assembly

section Response
variable (fromStr : String → Option Json) (cs : List WireCall)
lemma asToolCall_toolUse : (cs.map fun c => toolUse fromStr c.id c.name c.arguments).filterMap ContentPart.asToolCall =
      cs.map (toolCall fromStr) := by
  induction cs with
  | nil => rfl
  | cons c cs ih => exact congrArg (_ :: ·) ih

lemma length_asToolCall_pendingUse (ps : List PendingTool) :
    ((ps.map (pendingUse fromStr)).filterMap ContentPart.asToolCall).length = ps.length := by
  induction ps with
  | nil => rfl
  | cons p ps ih => exact congrArg (· + 1) ih

lemma parts_asToolCall (a : Assembly) :
    a.parts.filterMap ContentPart.asToolCall = a.toolCalls.filterMap ContentPart.asToolCall := by
  unfold parts
  rw [filterMap_append, filterMap_append]
  have hreasoning : (if a.reasoning = "" then [] else [ContentPart.thinking a.reasoning ""]).filterMap
      ContentPart.asToolCall = [] := by split <;> rfl
  have htext : (if a.text = "" then [] else [ContentPart.text a.text]).filterMap ContentPart.asToolCall = [] := by
    split <;> rfl
  rw [hreasoning, htext]
  rfl

variable (events : List ResponseEvent)
lemma foldl_fst : ∀ read : Assembly × Roz.Agent.StopReason,
    (events.foldl (fun read e => (read.1.event fromStr e, read.1.stopAt read.2 e)) read).1 =
      events.foldl (event fromStr) read.1 := by
  induction events with
  | nil => exact fun read => rfl
  | cons e events ih => exact fun read => ih _

lemma responses_toolCalls : (runStreamAndAssemble fromStr events).toolCalls =
    ((events.foldl (event fromStr) .start).flushPending fromStr).toolCalls.filterMap
      ContentPart.asToolCall ∧ (streamDone fromStr events).toolCalls =
    ((events.foldl (event fromStr) .start).flushPending fromStr).toolCalls.filterMap
          ContentPart.asToolCall := by
  refine ⟨?_, parts_asToolCall _⟩
  unfold runStreamAndAssemble Roz.Agent.CompletionResponse.toolCalls
  dsimp only
  rw [foldl_fst, parts_asToolCall]

lemma foldl_toolEvents : ∃ early : List PendingTool, early.length = cs.countP announced - 1 ∧
    Assembly.SameCalls ((cs.flatMap streamed ++ cs.map done).foldl (event fromStr) .start)
      { Assembly.start with
          toolCalls := early.map (pendingUse fromStr) ++
            cs.map fun c => toolUse fromStr c.id c.name c.arguments } := by
  obtain ⟨early, hcalls, hlength, hsome, hof⟩ := foldl_streamed_calls fromStr cs .start
  rw [foldl_append]
  generalize (cs.flatMap streamed).foldl (event fromStr) .start = streamed at *
  have hstart : Assembly.start.pendingTool = none := rfl
  rw [hstart, Option.toList_none, length_nil, Nat.zero_add] at hlength hsome
  obtain ⟨hdones, hsettled⟩ := foldl_dones fromStr cs streamed
  refine ⟨early, ?_, ?_, ?_⟩
  · cases hpending : streamed.pendingTool with
    | none =>
      rw [hpending] at hlength hsome
      by_cases hpos : 0 < cs.countP announced
      · exact absurd (hsome hpos) Bool.false_ne_true
      · rw [Option.toList_none, length_nil] at hlength
        omega
    | some p =>
      rw [hpending, Option.toList_some, length_singleton] at hlength
      omega
  · rw [hdones, hcalls]
    rfl
  · rw [hsettled]
    refine Option.filter_eq_none_iff.2 fun p hp hall => ?_
    rcases hof p hp with h | ⟨c, hc, hid, hname⟩
    · cases h
    · simpa [hid, hname] using all_eq_true.1 hall c hc

end Response

/-- If the choices of a stream carry the fragments of calls in the order of their indices and the last
one, with `tool_calls`, is the first with a finish reason, the response has each call once just if at
most one of them was announced before the end. -/
theorem toolCalls_iff (fromStr : String → Option Json) (serverReasoningIncluded : Bool)
    (overrideFormat : Option DetectedReasoningFormat) (chunks : List ChatCompletionChunk)
    (front : List ChatChunkChoice) (last : ChatChunkChoice) (cs : List WireCall)
    (hchoices : choicesOf chunks = front ++ [last]) (hfront : ∀ choice ∈ front, choice.finishReason = none)
    (hlast : last.finishReason = some "tool_calls")
    (hcalls : fragmentsOf ((choicesOf chunks).map ChatChunkChoice.delta) = cs.flatMap WireCall.fragments)
    (hsorted : (cs.map WireCall.index).Pairwise (· < ·)) :
    ((runStreamAndAssemble fromStr (streamChat serverReasoningIncluded overrideFormat chunks)).toolCalls =
        cs.map (WireCall.toolCall fromStr) ∧
      (streamDone fromStr (streamChat serverReasoningIncluded overrideFormat chunks)).toolCalls =
        cs.map (WireCall.toolCall fromStr)) ↔ cs.countP WireCall.announced ≤ 1 := by
  have htool := @toolEvents serverReasoningIncluded overrideFormat _ _ _ _ hchoices hfront hlast hcalls hsorted
  obtain ⟨early, hlength, htaken⟩ := foldl_toolEvents fromStr cs
  have hsame := foldl_isTool fromStr (streamChat serverReasoningIncluded overrideFormat chunks) .start .start
    ⟨rfl, rfl⟩
  rw [htool] at hsame
  have hflushed := (flushPending_congr fromStr ⟨hsame.1.trans htaken.1, hsame.2.trans htaken.2⟩).1
  obtain ⟨hassembled, hdone⟩ := responses_toolCalls fromStr (streamChat serverReasoningIncluded overrideFormat chunks)
  rw [hassembled, hdone, and_self, hflushed]
  change (early.map (pendingUse fromStr) ++
    cs.map fun c => toolUse fromStr c.id c.name c.arguments).filterMap ContentPart.asToolCall = _ ↔ _
  rw [filterMap_append, asToolCall_toolUse, append_left_eq_self, ← length_eq_zero_iff,
    length_asToolCall_pendingUse, hlength]
  omega

/-! ## One call and two -/

def wireCall (index : Nat) (id name arguments : String) (id_ne : id ≠ "") (name_ne : name ≠ "") : WireCall where
  index := index
  id := id
  name := name
  fragments := [⟨index, some id, some ⟨some name, some ""⟩⟩, ⟨index, none, some ⟨none, some arguments⟩⟩]
  id_ne := id_ne
  name_ne := name_ne
  of_index := by simp
  of_id := by simp
  of_name := by simp
  has_id := ⟨_, .head _, by simpa [ChatChunkToolCall.hasId] using id_ne⟩
  has_name := ⟨_, .head _, by simpa [ChatChunkToolCall.hasName] using name_ne⟩

def arm : WireCall := wireCall 0 "call_1" "arm" "\x7b\x7d" (by decide) (by decide)

def grip : WireCall := wireCall 1 "call_2" "grip" "\x7b\x7d" (by decide) (by decide)

def parseEmpty : Option Json := if text = "\x7b\x7d" then some (.object []) else none

def completion : List ChatCompletionChunk :=
  ((cs.flatMap WireCall.fragments).map fun tc => ⟨[⟨⟨none, none, none, [tc]⟩, none⟩], none⟩) ++
    [contentChunk none (some "tool_calls")]

theorem toolCalls_of_one : (runStreamAndAssemble parseEmpty (streamChat false none (completion [arm]))).toolCalls =
        [⟨"call_1", "arm", .object []⟩] ∧
      (streamDone parseEmpty (streamChat false none (completion [arm]))).toolCalls =
        [⟨"call_1", "arm", .object []⟩] := by
  have h := (toolCalls_iff parseEmpty false none (completion [arm])
    (arm.fragments.map fun tc => ⟨⟨none, none, none, [tc]⟩, none⟩) ⟨⟨none, none, none, []⟩, some "tool_calls"⟩ [arm]
    rfl (by decide) rfl rfl (by decide)).2 (by decide)
  exact h

/-- Of two calls the first is there twice. -/
theorem first_call_twice : (completion [arm, grip]).flatMap ChatCompletionChunk.choices =
        (completion [arm, grip]).dropLast.flatMap ChatCompletionChunk.choices ++
          [⟨⟨none, none, none, []⟩, some "tool_calls"⟩] ∧
      [arm, grip].map (fun c => (c.id, c.name)) = [("call_1", "arm"), ("call_2", "grip")] ∧
      ((runStreamAndAssemble parseEmpty (streamChat false none (completion [arm, grip]))).toolCalls.map ToolCall.id) =
        ["call_1", "call_1", "call_2"] ∧
      ((streamDone parseEmpty (streamChat false none (completion [arm, grip]))).toolCalls.map ToolCall.id) =
        ["call_1", "call_1", "call_2"] := by
  refine ⟨rfl, rfl, by decide, by decide⟩

end Roz.OpenAi
