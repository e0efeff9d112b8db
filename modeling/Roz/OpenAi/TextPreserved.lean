import Roz.OpenAi.ChatChunk

/-!
# Text on the chat wire

What the normalizer withholds it gives out when it commits to a format.  A finish reason ends the
completion without that, and then `finalize` gives out nothing.  For a stream without reasoning
text whose content does not begin with `<think>` (`text_preserved_iff`).
-/

namespace Roz.OpenAi
open ChatChunkNormalizer Emitter ChatChunkChoice ChatCompletionChunk String

/-! ## Beginnings of texts -/

lemma trimStart_append (a b : String) :
    trimStart (a ++ b) = if trimStart a = "" then trimStart b else trimStart a ++ b := by
  have hempty : trimStart a = "" ↔ (a.toList.dropWhile isWhitespace).isEmpty = true := by
    rw [List.isEmpty_iff, trimStart, ← toList_eq_nil_iff, toList_ofList]
  rw [trimStart, toList_append, List.dropWhile_append]
  by_cases h : (a.toList.dropWhile isWhitespace).isEmpty = true
  · rw [if_pos h, if_pos (hempty.2 h)]
    rfl
  · rw [if_neg h, if_neg (mt hempty.1 h), ofList_append, ofList_toList]
    rfl

lemma trimStart_size_le {a b} : (trimStart a).utf8ByteSize ≤ (trimStart (a ++ b)).utf8ByteSize := by
  rw [trimStart_append]
  split
  · rename_i h
    rw [h, utf8ByteSize_empty]
    exact Nat.zero_le _
  · rw [utf8ByteSize_append]
    exact Nat.le_add_right _ _

variable {n : Nat} {cs front : List Char}
lemma takeBytes_append (h : takeBytes n cs = some front) (rest : List Char) :
    takeBytes n (cs ++ rest) = some front := by
  induction cs generalizing n front with
  | nil =>
    cases n with
    | zero =>
      rw [takeBytes] at h ⊢
      exact h
    | succ n => cases h
  | cons c cs ih =>
    cases n with
    | zero => exact h
    | succ n =>
      rw [takeBytes] at h
      rw [List.cons_append, takeBytes]
      split at h
      · rename_i hc
        obtain ⟨front', hfront, rfl⟩ := Option.map_eq_some_iff.1 h
        rw [if_pos hc, ih hfront]
        rfl
      · cases h

lemma takeBytes_size (h : takeBytes n cs = some front) : n ≤ (String.ofList cs).utf8ByteSize := by
  induction cs generalizing n front with
  | nil =>
    cases n with
    | zero => exact Nat.zero_le _
    | succ n => cases h
  | cons c cs ih =>
    have hsize : (String.ofList (c :: cs)).utf8ByteSize = c.utf8Size + (String.ofList cs).utf8ByteSize := by
      rw [← List.singleton_append, ofList_append, utf8ByteSize_append]
      congr 1
      exact utf8ByteSize_singleton
    cases n with
    | zero => exact Nat.zero_le _
    | succ n =>
      rw [takeBytes] at h
      split at h
      · obtain ⟨front', hfront, rfl⟩ := Option.map_eq_some_iff.1 h
        have := ih hfront
        omega
      · cases h

lemma sliceTo_size {text front} (h : sliceTo n text = some front) : n ≤ text.utf8ByteSize := by
  obtain ⟨cs, hcs, -⟩ := Option.map_eq_some_iff.1 h
  have := takeBytes_size hcs
  rwa [ofList_toList] at this

lemma startsWithThink_append {a} (h : startsWithThink a = true) (b : String) : startsWithThink (a ++ b) = true := by
  unfold startsWithThink at h ⊢
  cases hslice : sliceTo 7 (trimStart a) with
  | none =>
    rw [hslice] at h
    cases h
  | some front =>
    rw [hslice] at h
    have hne : trimStart a ≠ "" := by
      intro hempty
      have := sliceTo_size hslice
      rw [hempty, utf8ByteSize_empty] at this
      omega
    have hslice' : sliceTo 7 (trimStart (a ++ b)) = some front := by
      obtain ⟨cs, hcs, rfl⟩ := Option.map_eq_some_iff.1 hslice
      rw [trimStart_append, if_neg hne, sliceTo, toList_append, takeBytes_append hcs]
      rfl
    rw [hslice']
    exact h

/-! ## What is given out and what was sent -/

def ResponseEvent.outputText : ResponseEvent → String
  | .outputTextDelta delta => delta
  | _ => ""

def outputText (events : List ResponseEvent) : String := String.join (events.map ResponseEvent.outputText)

lemma outputText_append (a b : List ResponseEvent) : outputText (a ++ b) = outputText a ++ outputText b := by
  rw [outputText, List.map_append, join_append]
  rfl

lemma outputText_textEvents {text} : outputText (textEvents text) = text := by
  unfold textEvents
  split
  · rename_i h
    rw [h]
    rfl
  · rw [outputText, List.map_singleton, join_cons, join_nil, append_empty]
    rfl

lemma outputText_eq_empty {events} (h : ∀ e ∈ events, e.outputText = "") : outputText events = "" := by
  induction events with
  | nil => rfl
  | cons e events ih =>
    rw [outputText, List.map_cons, join_cons, h e (.head _), empty_append]
    exact ih fun e' he' => h e' (.tail _ he')

lemma outputText_reasoningEvents (text : String) : outputText (reasoningEvents text) = "" := by
  unfold reasoningEvents
  split <;> rfl

def contentText (deltas : List ChatChunkDelta) : String := String.join (deltas.map fun d => d.content.getD "")

variable {items : List WireItem} (n : ChatChunkNormalizer) {withheld : String} (d : ChatChunkDelta)
  {seen : Nat}

lemma contentText_cons (deltas : List ChatChunkDelta) :
    contentText (d :: deltas) = d.content.getD "" ++ contentText deltas := by
  rw [contentText, List.map_cons, join_cons]
  rfl

lemma contentText_nil : contentText [] = "" := rfl

lemma contentText_singleton : contentText [d] = d.content.getD "" := by
  rw [contentText_cons, contentText_nil, append_empty]

/-- The deltas that count as empty: those without content, and those with empty content before any
content has come. -/
def emptyDeltas : (withheld : String) → List ChatChunkDelta → Nat
  | _, [] => 0
  | withheld, d :: deltas =>
    match d.content with
    | none => emptyDeltas withheld deltas + 1
    | some c => if c = "" ∧ withheld = "" then emptyDeltas withheld deltas + 1 else emptyDeltas (withheld ++ c) deltas

/-- With some content withheld and some empty deltas seen, these deltas make the normalizer commit. -/
def Commits (withheld : String) (seen : Nat) (deltas : List ChatChunkDelta) : Prop :=
  7 ≤ (trimStart (withheld ++ contentText deltas)).utf8ByteSize ∨
    autoDetectBufferCapBytes ≤ (withheld ++ contentText deltas).utf8ByteSize ∨
    autoDetectMaxEmptyChunks ≤ seen + emptyDeltas withheld deltas ∨
    ∃ d ∈ deltas, d.reasoningText ≠ none

instance (withheld : String) (seen : Nat) (deltas : List ChatChunkDelta) : Decidable (Commits withheld seen deltas) :=
  inferInstanceAs (Decidable (_ ∨ _ ∨ _ ∨ _))

lemma commits_nil (withheld : String) (seen : Nat) : Commits withheld seen [] ↔ 7 ≤ (trimStart withheld).utf8ByteSize ∨
      autoDetectBufferCapBytes ≤ withheld.utf8ByteSize ∨ autoDetectMaxEmptyChunks ≤ seen := by
  simp [Commits, contentText, emptyDeltas, append_empty]

lemma emptyDeltas_cons (withheld : String) (d : ChatChunkDelta) (deltas : List ChatChunkDelta) :
    emptyDeltas withheld (d :: deltas) =
      emptyDeltas withheld [d] + emptyDeltas (withheld ++ d.content.getD "") deltas := by
  cases hc : d.content with
  | none =>
    simp only [emptyDeltas, hc, Option.getD_none, append_empty]
    omega
  | some c =>
    simp only [emptyDeltas, hc, Option.getD_some]
    split
    · rename_i hempty
      rw [hempty.1, hempty.2, append_empty]
      omega
    · omega

lemma commits_cons (withheld : String) (seen : Nat) (d : ChatChunkDelta) (deltas : List ChatChunkDelta) :
    Commits withheld seen (d :: deltas) ↔ Commits withheld seen [d] ∨
      Commits (withheld ++ d.content.getD "") (seen + emptyDeltas withheld [d]) deltas := by
  unfold Commits
  rw [contentText_cons d deltas, ← append_assoc, contentText_singleton, emptyDeltas_cons withheld d deltas,
    ← Nat.add_assoc]
  constructor
  · rintro (h | h | h | ⟨d', hd', hr⟩)
    · exact .inr (.inl h)
    · exact .inr (.inr (.inl h))
    · exact .inr (.inr (.inr (.inl h)))
    · rcases List.mem_cons.1 hd' with rfl | hd'
      · exact .inl (.inr (.inr (.inr ⟨d', List.mem_singleton.2 rfl, hr⟩)))
      · exact .inr (.inr (.inr (.inr ⟨d', hd', hr⟩)))
  · rintro ((h | h | h | ⟨d', hd', hr⟩) | (h | h | h | ⟨d', hd', hr⟩))
    · exact .inl (h.trans trimStart_size_le)
    · refine .inr (.inl (h.trans ?_))
      rw [utf8ByteSize_append (t := contentText deltas)]
      exact Nat.le_add_right _ _
    · exact .inr (.inr (.inl (h.trans (Nat.le_add_right _ _))))
    · obtain rfl := List.mem_singleton.1 hd'
      exact .inr (.inr (.inr ⟨d', .head _, hr⟩))
    · exact .inl h
    · exact .inr (.inl h)
    · exact .inr (.inr (.inl h))
    · exact .inr (.inr (.inr ⟨d', .tail _ hd', hr⟩))

/-! ## One delta -/

structure Withholding (n : ChatChunkNormalizer) (withheld : String) (seen : Nat) : Prop where
  format : n.detectedFormat = none
  content : n.earlyContentBuffer = withheld
  reasoning : n.earlyReasoningBuffer = ""
  empty : n.emptyChunksSeen = seen

def Open (n : ChatChunkNormalizer) : Prop :=
  n.detectedFormat = some .none ∨ n.detectedFormat = some .openaiReasoningContent

lemma open_feedContent {n} (hn : Open n) (d : ChatChunkDelta) :
    Open (n.feedContent d).1 ∧ outputText (n.feedContent d).2 = d.content.getD "" := by
  rcases hn with h | h
  · rw [feedContent, h]
    exact ⟨.inl h, outputText_textEvents⟩
  · rw [feedContent, h]
    refine ⟨.inr h, ?_⟩
    change outputText (reasoningEvents _ ++ textEvents _) = _
    rw [outputText_append, outputText_reasoningEvents, outputText_textEvents, empty_append]

/-- What comes of deltas that meet a normalizer which withholds content: it commits and gives out
everything, or it goes on withholding. -/
structure Handled (withheld : String) (seen : Nat) (deltas : List ChatChunkDelta)
    (out : ChatChunkNormalizer × List ResponseEvent) : Prop where
  commits : Commits withheld seen deltas → Open out.1 ∧ outputText out.2 = withheld ++ contentText deltas
  withholds : ¬ Commits withheld seen deltas →
    Withholding out.1 (withheld ++ contentText deltas) (seen + emptyDeltas withheld deltas) ∧ outputText out.2 = ""

lemma commit_none : Open (n.commit .none).1 ∧ outputText (n.commit .none).2 = n.earlyContentBuffer :=
  ⟨.inl rfl, outputText_textEvents⟩

variable {n}
lemma countEmptyChunk_handled (hn : Withholding n withheld seen)
    (hopen : ¬ Commits withheld seen []) : Handled withheld (seen + 1) [] n.countEmptyChunk := by
  rw [commits_nil, not_or, not_or] at hopen
  have hiff : Commits withheld (seen + 1) [] ↔ autoDetectMaxEmptyChunks ≤ n.emptyChunksSeen + 1 := by
    rw [commits_nil, hn.empty]
    constructor
    · rintro (h | h | h)
      · exact absurd h hopen.1
      · exact absurd h hopen.2.1
      · exact h
    · exact fun h => .inr (.inr h)
  unfold countEmptyChunk
  constructor
  · intro hcommits
    simp only [if_pos (hiff.1 hcommits), contentText_nil, append_empty]
    obtain ⟨hopen, htext⟩ := commit_none { n with emptyChunksSeen := n.emptyChunksSeen + 1 }
    exact ⟨hopen, htext.trans hn.content⟩
  · intro hstill
    simp only [if_neg (mt hiff.2 hstill), contentText_nil, append_empty]
    exact ⟨⟨hn.format, hn.content, hn.reasoning, congrArg (· + 1) hn.empty⟩, rfl⟩

lemma rulesOutThink_iff (hthink : startsWithThink withheld = false) :
    rulesOutThink (trimStart withheld) = true ↔ 7 ≤ (trimStart withheld).utf8ByteSize := by
  unfold startsWithThink at hthink
  unfold rulesOutThink
  split
  · rename_i hempty
    rw [hempty, utf8ByteSize_empty]
    decide
  · cases hslice : sliceTo 7 (trimStart withheld) with
    | none => exact decide_eq_true_iff
    | some front =>
      rw [hslice] at hthink
      have hfront : eqIgnoreAsciiCase front "<think>" = false := hthink
      simp only [hfront, Bool.not_false, true_iff]
      exact sliceTo_size hslice

lemma shouldCommitNone_iff (hn : Withholding n withheld seen)
    (hthink : startsWithThink withheld = false) : n.shouldCommitNone = true ↔ Commits withheld seen [] := by
  rw [commits_nil, shouldCommitNone, hn.content, hn.empty, Bool.or_eq_true, Bool.or_eq_true,
    rulesOutThink_iff hthink, decide_eq_true_iff, decide_eq_true_iff]
  exact or_comm

lemma bufferContent_handled (hn : Withholding n withheld seen) {c}
    (hthink : startsWithThink (withheld ++ c) = false) : Handled (withheld ++ c) seen [] (n.bufferContent c) := by
  have hbuffered : Withholding { n with earlyContentBuffer := n.earlyContentBuffer ++ c } (withheld ++ c) seen :=
    ⟨hn.format, congrArg (· ++ c) hn.content, hn.reasoning, hn.empty⟩
  have hiff := shouldCommitNone_iff hbuffered hthink
  unfold bufferContent
  constructor
  · intro hcommits
    simp only [if_pos (hiff.2 hcommits), contentText_nil, append_empty]
    obtain ⟨hopen, htext⟩ := commit_none { n with earlyContentBuffer := n.earlyContentBuffer ++ c }
    exact ⟨hopen, htext.trans hbuffered.content⟩
  · intro hstill
    simp only [if_neg (mt hiff.1 hstill), contentText_nil, append_empty]
    exact ⟨hbuffered, rfl⟩

variable {out : ChatChunkNormalizer × List ResponseEvent}
lemma Handled.of_after {d} (hreason : d.reasoningText = none)
    (h : Handled (withheld ++ d.content.getD "") (seen + emptyDeltas withheld [d]) [] out) :
    Handled withheld seen [d] out := by
  have hiff : Commits withheld seen [d] ↔
      Commits (withheld ++ d.content.getD "") (seen + emptyDeltas withheld [d]) [] := by
    rw [commits_cons]
    constructor
    · rintro (hcommits | hcommits)
      · unfold Commits at hcommits
        rw [contentText_singleton] at hcommits
        rw [commits_nil]
        rcases hcommits with h | h | h | ⟨d', hd', hr⟩
        · exact .inl h
        · exact .inr (.inl h)
        · exact .inr (.inr h)
        · rw [List.mem_singleton.1 hd'] at hr
          exact absurd hreason hr
      · exact hcommits
    · exact .inr
  constructor
  · intro hcommits
    have hcases := h.commits (hiff.1 hcommits)
    rwa [contentText_nil, append_empty, ← contentText_singleton] at hcases
  · intro hstill
    have hcases := h.withholds (mt hiff.2 hstill)
    rwa [contentText_nil, append_empty, ← contentText_singleton] at hcases

lemma commit_openai (hn : Withholding n withheld seen) :
    outputText (n.commit .openaiReasoningContent).2 = withheld := by
  change outputText (reasoningEvents n.earlyReasoningBuffer ++ textEvents n.earlyContentBuffer) = withheld
  rw [outputText_append, outputText_reasoningEvents, outputText_textEvents, empty_append, hn.content]

lemma feedContent_handled (hn : Withholding n withheld seen) (hopen : ¬ Commits withheld seen []) {d}
    (hthink : startsWithThink (withheld ++ d.content.getD "") = false) :
    Handled withheld seen [d] (n.feedContent d) := by
  unfold feedContent
  rw [hn.format]
  cases hreason : d.reasoningText with
  | some r =>
    have hcommits : Commits withheld seen [d] :=
      .inr (.inr (.inr ⟨d, List.mem_singleton.2 rfl, by rw [hreason]; exact Option.some_ne_none r⟩))
    refine ⟨fun _ => ⟨.inr rfl, ?_⟩, fun h => absurd hcommits h⟩
    rw [outputText_append, commit_openai hn, contentText_singleton]
    change withheld ++ outputText (reasoningEvents _ ++ textEvents _) = _
    rw [outputText_append, outputText_reasoningEvents, outputText_textEvents, empty_append]
  | none =>
    refine .of_after hreason ?_
    cases hc : d.content with
    | none =>
      have hcount : emptyDeltas withheld [d] = 1 := by simp [emptyDeltas, hc]
      rw [hcount, Option.getD_none, append_empty]
      exact countEmptyChunk_handled hn hopen
    | some c =>
      rw [hc, Option.getD_some] at hthink
      have hnot : n.contentStartsWithThink c = false := by rw [contentStartsWithThink, hn.content, hthink]
      simp only [hnot, Bool.false_eq_true, if_false, Option.getD_some]
      split
      · rename_i hcontent
        have hcount : emptyDeltas withheld [d] = 0 := by
          rw [hn.content] at hcontent
          simp only [emptyDeltas, hc]
          rw [if_neg (by rw [not_and_or]; exact hcontent)]
        rw [hcount, Nat.add_zero]
        exact bufferContent_handled hn hthink
      · rename_i hcontent
        rw [not_or, not_not, not_not, hn.content] at hcontent
        have hcount : emptyDeltas withheld [d] = 1 := by simp [emptyDeltas, hc, hcontent.1, hcontent.2]
        rw [hcount, hcontent.1, append_empty]
        exact countEmptyChunk_handled hn hopen

lemma run_feedToolCall (tcs : List ChatChunkToolCall) :
    ∀ n, (∃ calls, (Emitter.run feedToolCall n tcs).1 = n.withCalls calls) ∧
      outputText (Emitter.run feedToolCall n tcs).2 = "" := by
  induction tcs with
  | nil => exact fun n => ⟨⟨n.toolCalls, rfl⟩, rfl⟩
  | cons tc tcs ih =>
    intro n
    obtain ⟨⟨calls, hcalls⟩, htext⟩ := ih (n.feedToolCall tc).1
    rw [run_cons]
    refine ⟨⟨calls, hcalls⟩, ?_⟩
    have hslot : outputText (n.feedToolCall tc).2 = "" := by
      refine outputText_eq_empty fun e he => ?_
      rcases ToolCallAccum.mem_feed he with ⟨id, name, rfl⟩ | ⟨args, rfl⟩
      · rfl
      · rfl
    rw [outputText_append, htext, hslot, append_empty]

variable (n)
lemma feedDelta_eq : ∃ calls, (n.feedDelta d).1 = ((n.withCalls calls).feedContent d).1 ∧
    outputText (n.feedDelta d).2 = outputText ((n.withCalls calls).feedContent d).2 := by
  obtain ⟨⟨calls, hcalls⟩, htext⟩ := run_feedToolCall d.toolCalls n
  refine ⟨calls, ?_, ?_⟩
  · rw [feedDelta, hcalls]
  · rw [feedDelta, hcalls, outputText_append, htext, empty_append]

lemma feedDelta_open {n} (hn : Open n) (d : ChatChunkDelta) :
    Open (n.feedDelta d).1 ∧ outputText (n.feedDelta d).2 = d.content.getD "" := by
  obtain ⟨calls, hstate, htext⟩ := feedDelta_eq n d
  rw [hstate, htext]
  exact open_feedContent (n := n.withCalls calls) hn d

lemma feedDelta_handled {n} (hn : Withholding n withheld seen) (hopen : ¬ Commits withheld seen []) {d}
    (hthink : startsWithThink (withheld ++ d.content.getD "") = false) :
    Handled withheld seen [d] (n.feedDelta d) := by
  obtain ⟨calls, hstate, htext⟩ := feedDelta_eq n d
  have hcalls : Withholding (n.withCalls calls) withheld seen := ⟨hn.format, hn.content, hn.reasoning, hn.empty⟩
  have h := feedContent_handled hcalls hopen hthink
  constructor
  · intro hcommits
    rw [hstate, htext]
    exact h.commits hcommits
  · intro hstill
    rw [hstate, htext]
    exact h.withholds hstill

/-! ## Streams -/

lemma run_open : ∀ n, Unfinished items → Open n →
    Open (Emitter.run feedItem n items).1 ∧ outputText (Emitter.run feedItem n items).2 = contentText (deltasOf items) := by
  induction items with
  | nil => exact fun n _ hn => ⟨hn, rfl⟩
  | cons item items ih =>
    intro n hfinish hn
    rw [run_cons]
    cases item with
    | usage reported => exact ih (n.recordUsage (some reported)) hfinish hn
    | choice received =>
      have hfed := feedChoice_of_none (hfinish received (.head _)) n
      obtain ⟨hopen, htext⟩ := feedDelta_open hn received.delta
      obtain ⟨hopen', htext'⟩ := ih (n.feedDelta received.delta).1 (fun c hc => hfinish c (.tail _ hc)) hopen
      rw [feedItem, hfed]
      refine ⟨hopen', ?_⟩
      rw [outputText_append, htext, htext']
      exact (contentText_cons received.delta (deltasOf items)).symm

lemma Handled.cons {withheld seen d deltas} (hfirst : ¬ Commits withheld seen [d])
    (h : Handled (withheld ++ d.content.getD "") (seen + emptyDeltas withheld [d]) deltas out) :
    Handled withheld seen (d :: deltas) out := by
  have hiff := commits_cons withheld seen d deltas
  constructor
  · intro hcommits
    rw [contentText_cons, ← append_assoc]
    exact h.commits ((hiff.1 hcommits).resolve_left hfirst)
  · intro hstill
    rw [contentText_cons, ← append_assoc, emptyDeltas_cons, ← Nat.add_assoc]
    exact h.withholds fun hlater => hstill (hiff.2 (.inr hlater))

lemma run_handled : ∀ n withheld seen, Unfinished items → Withholding n withheld seen → ¬ Commits withheld seen [] →
    startsWithThink (withheld ++ contentText (deltasOf items)) = false →
    Handled withheld seen (deltasOf items) (Emitter.run feedItem n items) := by
  induction items with
  | nil =>
    intro n withheld seen _ hn hopen _
    refine ⟨fun h => absurd h hopen, fun _ => ⟨?_, rfl⟩⟩
    change Withholding n (withheld ++ "") (seen + 0)
    rw [append_empty, Nat.add_zero]
    exact hn
  | cons item items ih =>
    intro n withheld seen hfinish hn hopen hthink
    cases item with
    | usage reported =>
      exact ih (n.recordUsage (some reported)) withheld seen hfinish ⟨hn.format, hn.content, hn.reasoning, hn.empty⟩
        hopen hthink
    | choice received =>
      have hfed := feedChoice_of_none (hfinish received (.head _)) n
      have hrest : Unfinished items := fun c hc => hfinish c (.tail _ hc)
      have hdeltas : deltasOf (.choice received :: items) = received.delta :: deltasOf items := rfl
      rw [hdeltas, contentText_cons, ← append_assoc] at hthink
      have hfront : startsWithThink (withheld ++ received.delta.content.getD "") = false := by
        by_contra hne
        rw [startsWithThink_append (by simpa using hne)] at hthink
        cases hthink
      have hdelta := feedDelta_handled hn hopen hfront
      rw [hdeltas, run_cons, feedItem, hfed]
      by_cases hfirst : Commits withheld seen [received.delta]
      · -- from here on everything is given out as it comes
        obtain ⟨hopen, htext⟩ := hdelta.commits hfirst
        obtain ⟨hopen', htext'⟩ := run_open (n.feedDelta received.delta).1 hrest hopen
        have hcommits := (commits_cons withheld seen received.delta (deltasOf items)).2 (.inl hfirst)
        refine ⟨fun _ => ⟨hopen', ?_⟩, fun h => absurd hcommits h⟩
        rw [outputText_append, htext, htext', contentText_singleton, contentText_cons, append_assoc]
      · obtain ⟨hwithholding, htext⟩ := hdelta.withholds hfirst
        rw [contentText_singleton] at hwithholding
        have hstill : ¬ Commits (withheld ++ received.delta.content.getD "")
            (seen + emptyDeltas withheld [received.delta]) [] := by
          intro h
          exact hfirst ((commits_cons withheld seen received.delta []).2 (.inr h))
        have hih := ih (n.feedDelta received.delta).1 _ _ hrest hwithholding hstill hthink
        refine .cons hfirst ⟨fun h => ?_, fun h => ?_⟩
        · rw [outputText_append, htext, empty_append]
          exact hih.commits h
        · rw [outputText_append, htext, empty_append]
          exact hih.withholds h

/-! ## The end of a stream -/

lemma emitToolCallDones_text : outputText n.emitToolCallDones.2 = "" := by
  refine outputText_eq_empty fun e he => ?_
  obtain ⟨index, -, hindex⟩ := List.mem_filterMap.1 he
  obtain ⟨acc, -, rfl⟩ := Option.map_eq_some_iff.1 hindex
  rfl

lemma emitCompleted_text : n.emitCompleted.1.completed = true ∧ outputText n.emitCompleted.2 = "" := by
  unfold emitCompleted
  split
  · rename_i h
    exact ⟨h, rfl⟩
  · exact ⟨rfl, rfl⟩

lemma feedFinishReason_text (reason : String) :
    (n.feedFinishReason (some reason)).1.completed = true ∧ outputText (n.feedFinishReason (some reason)).2 = "" := by
  rw [feedFinishReason]
  split
  · obtain ⟨hcompleted, htext⟩ := emitCompleted_text n.emitToolCallDones.1
    refine ⟨hcompleted, ?_⟩
    rw [outputText_append, emitToolCallDones_text, htext, append_empty]
  · split
    · obtain ⟨hcompleted, htext⟩ := emitCompleted_text n
      refine ⟨hcompleted, ?_⟩
      dsimp only
      rw [← List.singleton_append, outputText_append, htext, append_empty]
      rfl
    · exact emitCompleted_text n

lemma finalize_completed {n : ChatChunkNormalizer} (h : n.completed = true) : n.finalize = (n, []) := if_pos h

lemma finalize_text {n : ChatChunkNormalizer} (h : n.completed = false) :
    outputText n.finalize.2 = match n.detectedFormat with
      | none => n.earlyContentBuffer
      | some _ => "" := by
  have hdones : ∀ m : ChatChunkNormalizer,
      outputText (if m.toolCalls.keys.isEmpty then (m, []) else m.emitToolCallDones).2 = "" := by
    intro m
    split
    · rfl
    · exact emitToolCallDones_text m
  unfold finalize
  rw [if_neg (by rw [h]; exact Bool.false_ne_true)]
  dsimp only
  rw [outputText_append, outputText_append, (emitCompleted_text _).2, append_empty, hdones, append_empty]
  cases n.detectedFormat with
  | none => exact (commit_none n).2
  | some fmt => rfl

variable (text : String)
lemma routeThinkTagContent_completed : (n.routeThinkTagContent text).1.completed = n.completed := by
  unfold routeThinkTagContent
  split
  · rfl
  · split
    · rfl
    · dsimp only
      split <;> rfl

lemma countEmptyChunk_completed : n.countEmptyChunk.1.completed = n.completed := by
  unfold countEmptyChunk
  dsimp only
  split <;> rfl

lemma bufferContent_completed (c : String) : (n.bufferContent c).1.completed = n.completed := by
  unfold bufferContent
  dsimp only
  split <;> rfl

lemma route_completed (fmt : DetectedReasoningFormat) (d : ChatChunkDelta) :
    (n.route fmt d).1.completed = n.completed := by
  cases fmt with
  | none => rfl
  | openaiReasoningContent => rfl
  | thinkTags => exact routeThinkTagContent_completed n (d.content.getD "")

lemma feedContent_completed : (n.feedContent d).1.completed = n.completed := by
  unfold feedContent
  split
  · exact route_completed n _ d
  · split
    · rfl
    · rename_i c _ _
      split
      · unfold handleThinkTagOpening
        rw [routeThinkTagContent_completed]
      · split
        · exact bufferContent_completed n c
        · exact countEmptyChunk_completed n
    · exact countEmptyChunk_completed n

lemma feedDelta_completed : (n.feedDelta d).1.completed = n.completed := by
  obtain ⟨calls, hstate, -⟩ := feedDelta_eq n d
  rw [hstate, feedContent_completed]
  rfl

lemma run_completed : ∀ n, Unfinished items → (Emitter.run feedItem n items).1.completed = n.completed := by
  induction items with
  | nil => exact fun n _ => rfl
  | cons item items ih =>
    intro n hfinish
    cases item with
    | usage reported => exact ih (n.recordUsage (some reported)) hfinish
    | choice received =>
      rw [run_cons, feedItem, feedChoice_of_none (hfinish received (.head _)) n]
      exact (ih _ fun c hc => hfinish c (.tail _ hc)).trans (feedDelta_completed n received.delta)

lemma withholding_new : Withholding (.new none) "" 0 := ⟨rfl, rfl, rfl, rfl⟩

lemma not_commits_new : ¬ Commits "" 0 [] := by decide

lemma text_of_unfinished {items : List WireItem} (hfinish : Unfinished items)
    (hthink : startsWithThink (contentText (deltasOf items)) = false) :
    outputText ((Emitter.run feedItem (.new none) items).2 ++ (Emitter.run feedItem (.new none) items).1.finalize.2) =
      contentText (deltasOf items) := by
  have hthink' : startsWithThink ("" ++ contentText (deltasOf items)) = false := by rwa [empty_append]
  have hrun := run_handled (.new none) "" 0 hfinish withholding_new not_commits_new hthink'
  have hcompleted : (Emitter.run feedItem (.new none) items).1.completed = false := run_completed _ hfinish
  rw [outputText_append, finalize_text hcompleted]
  by_cases hcommits : Commits "" 0 (deltasOf items)
  · obtain ⟨hopen, htext⟩ := hrun.commits hcommits
    rw [htext, empty_append]
    rcases hopen with h | h
    · rw [h]
      exact append_empty
    · rw [h]
      exact append_empty
  · obtain ⟨hwithholding, htext⟩ := hrun.withholds hcommits
    rw [htext, hwithholding.format, empty_append]
    exact hwithholding.content.trans empty_append

def ChatChunkChoice.unfinished (choice : ChatChunkChoice) : ChatChunkChoice := { choice with finishReason := none }

variable {before after : List WireItem} {last : ChatChunkChoice} {reason : String}
lemma run_last (hlast : last.finishReason = some reason) (hafter : ∀ item ∈ after, item.asChoice = none)
    (n : ChatChunkNormalizer) :
    let cut := Emitter.run feedItem n (before ++ [.choice last.unfinished])
    (Emitter.run feedItem n (before ++ .choice last :: after)).2 =
        cut.2 ++ (cut.1.feedFinishReason (some reason)).2 ∧
      (Emitter.run feedItem n (before ++ .choice last :: after)).1.completed =
        (cut.1.feedFinishReason (some reason)).1.completed := by
  intro cut
  generalize hm : (Emitter.run feedItem n before).1 = m
  obtain ⟨hcompleted, hevents⟩ := run_usages after (m.feedChoice last).1 hafter
  have hfed : m.feedChoice last = (((m.feedDelta last.delta).1.feedFinishReason (some reason)).1,
      (m.feedDelta last.delta).2 ++ ((m.feedDelta last.delta).1.feedFinishReason (some reason)).2) := by
    rw [feedChoice, hlast]
  have hcut : cut = ((m.feedDelta last.delta).1,
      (Emitter.run feedItem n before).2 ++ (m.feedDelta last.delta).2) := by
    have hunfinished : m.feedChoice last.unfinished = m.feedDelta last.delta := feedChoice_of_none rfl m
    change Emitter.run feedItem n (before ++ [.choice last.unfinished]) = _
    rw [run_append, run_cons, hm, feedItem, hunfinished, run_nil, List.append_nil]
  rw [run_append, run_cons, hm, feedItem, hcut]
  constructor
  · rw [hevents, hfed, List.append_nil, List.append_assoc]
  · rw [hcompleted, hfed]

lemma run_finish (hlast : last.finishReason = some reason) (hafter : ∀ item ∈ after, item.asChoice = none)
    (n : ChatChunkNormalizer) : outputText (Emitter.run feedItem n (before ++ .choice last :: after)).2 =
        outputText (Emitter.run feedItem n (before ++ [.choice last.unfinished])).2 ∧
      (Emitter.run feedItem n (before ++ .choice last :: after)).1.completed = true := by
  obtain ⟨hevents, hcompleted⟩ := @run_last before _ _ _ hlast hafter n
  obtain ⟨hfinished, htext⟩ := feedFinishReason_text
    (Emitter.run feedItem n (before ++ [.choice last.unfinished])).1 reason
  rw [hevents, outputText_append, htext, append_empty]
  exact ⟨rfl, hcompleted.trans hfinished⟩

variable {front : List ChatChunkChoice}
lemma unfinished_front {before last}
    (hbefore : before.filterMap WireItem.asChoice = front) (hfront : ∀ choice ∈ front, choice.finishReason = none) :
    Unfinished (before ++ [.choice last.unfinished]) ∧
      deltasOf (before ++ [.choice last.unfinished]) = (front ++ [last]).map delta := by
  have hcut : (before ++ [WireItem.choice last.unfinished]).filterMap WireItem.asChoice = front ++ [last.unfinished] := by
    rw [List.filterMap_append, hbefore]
    rfl
  constructor
  · intro choice hchoice
    rw [hcut] at hchoice
    rcases List.mem_append.1 hchoice with h | h
    · exact hfront choice h
    · rw [List.mem_singleton.1 h]
      rfl
  · rw [deltasOf, hcut, List.map_append, List.map_append]
    rfl

lemma text_of_finished {items last reason}
    (hchoices : items.filterMap WireItem.asChoice = front ++ [last]) (hlast : last.finishReason = some reason)
    (hfront : ∀ choice ∈ front, choice.finishReason = none)
    (hthink : startsWithThink (contentText (deltasOf items)) = false) :
    outputText ((Emitter.run feedItem (.new none) items).2 ++ (Emitter.run feedItem (.new none) items).1.finalize.2) =
      if Commits "" 0 (deltasOf items) then contentText (deltasOf items) else "" := by
  obtain ⟨before, after, rfl, hbefore, hafter⟩ := items_split hchoices
  obtain ⟨hunfinished, hcut⟩ := @unfinished_front _ _ last hbefore hfront
  have hdeltas : deltasOf (before ++ .choice last :: after) = deltasOf (before ++ [.choice last.unfinished]) := by
    rw [hcut, deltasOf, hchoices]
  obtain ⟨htext, hcompleted⟩ := run_finish hlast hafter (.new none)
  rw [outputText_append, htext, finalize_completed hcompleted, hdeltas]
  rw [hdeltas] at hthink
  have hrun := run_handled (.new none) "" 0 hunfinished withholding_new
    not_commits_new (by rw [empty_append]; exact hthink)
  have hnil : outputText [] = "" := rfl
  rw [hnil, append_empty]
  split
  · rename_i hcommits
    rw [(hrun.commits hcommits).2, empty_append]
  · rename_i hstill
    exact (hrun.withholds hstill).2

/-- If nothing but the last choice of a stream has a finish reason and its content does not begin with
`<think>`, all content is given out just if no finish reason ends it, or there is no content, or the
stream made the normalizer commit. -/
theorem text_preserved_iff (serverReasoningIncluded : Bool) (chunks : List ChatCompletionChunk)
    (hfinish : ∀ choice ∈ (choicesOf chunks).dropLast, choice.finishReason = none)
    (hthink : startsWithThink (contentText ((choicesOf chunks).map ChatChunkChoice.delta)) = false) :
    outputText (streamChat serverReasoningIncluded none chunks) =
        contentText ((choicesOf chunks).map ChatChunkChoice.delta) ↔
      (∀ choice ∈ choicesOf chunks, choice.finishReason = none) ∨
        contentText ((choicesOf chunks).map ChatChunkChoice.delta) = "" ∨
        Commits "" 0 ((choicesOf chunks).map ChatChunkChoice.delta) := by
  have hchoices := asChoice_items chunks
  have hdeltas : deltasOf (chunks.flatMap items) = (choicesOf chunks).map delta := by
    rw [deltasOf, hchoices]
  have hstream : outputText (streamChat serverReasoningIncluded none chunks) =
      outputText ((Emitter.run feedItem (.new none) (chunks.flatMap items)).2 ++
        (Emitter.run feedItem (.new none) (chunks.flatMap items)).1.finalize.2) := by
    unfold streamChat
    dsimp only
    rw [run_feed, List.append_assoc, outputText_append]
    cases serverReasoningIncluded <;> exact empty_append
  rw [hstream]
  by_cases hall : ∀ choice ∈ choicesOf chunks, choice.finishReason = none
  · have hunfinished : Unfinished (chunks.flatMap items) := by
      intro choice hchoice
      rw [hchoices] at hchoice
      exact hall choice hchoice
    rw [text_of_unfinished hunfinished (by rw [hdeltas]; exact hthink), hdeltas]
    exact iff_of_true rfl (.inl hall)
  · -- the finish reason is on the last choice
    rcases List.eq_nil_or_concat (choicesOf chunks) with hnil | ⟨front, last, hconcat⟩
    · rw [hnil] at hall
      exact absurd nofun hall
    · rw [List.concat_eq_append] at hconcat
      rw [hconcat, List.dropLast_concat] at hfinish
      have hlast : ∃ reason, last.finishReason = some reason := by
        by_contra hnone
        refine hall fun choice hchoice => ?_
        rw [hconcat] at hchoice
        rcases List.mem_append.1 hchoice with h | h
        · exact hfinish choice h
        · rw [List.mem_singleton.1 h]
          exact Option.eq_none_iff_forall_ne_some.2 fun reason hreason => hnone ⟨reason, hreason⟩
      obtain ⟨reason, hreason⟩ := hlast
      rw [text_of_finished (hchoices.trans hconcat) hreason hfinish (by rw [hdeltas]; exact hthink), hdeltas]
      split
      · rename_i hcommits
        exact iff_of_true rfl (.inr (.inr hcommits))
      · rename_i hstill
        constructor
        · exact fun h => .inr (.inl h.symm)
        · rintro (h | h | h)
          · exact absurd h hall
          · exact h.symm
          · exact absurd h hstill

/-! ## Two replies -/

def contentChunk (content : Option String) (finishReason : Option String) : ChatCompletionChunk :=
  ⟨[⟨⟨content, none, none, []⟩, finishReason⟩], none⟩

def reply : List ChatCompletionChunk :=
  [contentChunk (some "") none, contentChunk (some text) none, contentChunk none (some "stop")]

theorem text_preserved_long : startsWithThink "All clear." = false ∧
    outputText (streamChat false none (reply "All clear.")) =
      contentText ((choicesOf (reply "All clear.")).map ChatChunkChoice.delta) :=
  ⟨by decide, (text_preserved_iff false (reply "All clear.") (by decide) (by decide)).2
    (.inr (.inr (by decide)))⟩

/-- A short reply is lost when a finish reason ends it; were the stream just closed, it would not be. -/
theorem short_reply_lost : (∀ choice ∈ (choicesOf (reply "Yes.")).dropLast, choice.finishReason = none) ∧
    (∀ choice ∈ choicesOf (reply "Yes."), choice.delta.reasoningText = none) ∧ startsWithThink "Yes." = false ∧
    contentText ((choicesOf (reply "Yes.")).map ChatChunkChoice.delta) = "Yes." ∧
    outputText (streamChat false none (reply "Yes.")) = "" ∧
    outputText (streamChat false none (reply "Yes.").dropLast) = "Yes." := by
  refine ⟨by decide, by decide, by decide, by decide, by decide, by decide⟩

end Roz.OpenAi
