import Roz.Agent.Loop

/-!
# The transcript that a run returns

A transcript is answered if every assistant message with tool calls is followed by a user message
with the results of exactly these calls.  The loop leaves through five exits after it has pushed a
reply, and only the one that goes on carries out the calls of the reply
(`callsAnswered_output_iff`).
-/

namespace Roz.Agent
open LoopRun ContextManager Message List

/-! ## Answered transcripts -/

/-- Every assistant message with tool calls is followed by a user message with the results of
exactly these calls. -/
def CallsAnswered : List Message → Prop
  | [] => True
  | m :: rest => (m.isCall → ∃ next ∈ rest.head?, m.shape.Answers next.shape) ∧ CallsAnswered rest

def decidableCallsAnswered : ∀ l, Decidable (CallsAnswered l)
  | [] => .isTrue trivial
  | m :: rest =>
    have := decidableCallsAnswered rest
    have : Decidable (∃ next ∈ rest.head?, m.shape.Answers next.shape) :=
      match rest with
      | [] => .isFalse fun h => by obtain ⟨_, h, -⟩ := h; cases h
      | next :: _ =>
        decidable_of_iff (toolPairing.answers m.shape next.shape)
          ⟨fun h => ⟨next, rfl, h⟩, fun h => by obtain ⟨_, h, ha⟩ := h; cases h; exact ha⟩
    inferInstanceAs (Decidable (_ ∧ _))

instance (l : List Message) : Decidable (CallsAnswered l) := decidableCallsAnswered l

variable {l l' : List Message}
lemma callsAnswered_append (h : CallsAnswered l) (h' : CallsAnswered l') : CallsAnswered (l ++ l') := by
  induction l with
  | nil => exact h'
  | cons m l ih =>
    refine ⟨fun hcall => ?_, ih h.2⟩
    obtain ⟨next, hnext, hanswers⟩ := h.1 hcall
    cases l with
    | nil => cases hnext
    | cons m' l => exact ⟨next, hnext, hanswers⟩

lemma callsAnswered_of_append (h : CallsAnswered (l ++ l')) : CallsAnswered l' := by
  induction l with
  | nil => exact h
  | cons m l ih => exact ih h.2

lemma callsAnswered_append_iff (h : CallsAnswered l) : CallsAnswered (l ++ l') ↔ CallsAnswered l' :=
  ⟨callsAnswered_of_append, callsAnswered_append h⟩

lemma callsAnswered_singleton {m} : CallsAnswered [m] ↔ ¬ m.isCall := by
  constructor
  · rintro ⟨h, -⟩ hcall
    obtain ⟨next, hnext, -⟩ := h hcall
    cases hnext
  · intro h
    exact ⟨fun hcall => absurd hcall h, trivial⟩

lemma callsAnswered_of_roles (h : ∀ m ∈ l, m.role ≠ .assistant) : CallsAnswered l := by
  induction l with
  | nil => trivial
  | cons m l ih =>
    have hm : ¬ m.isCall := not_isCall_of_role (h m (.head _))
    exact ⟨fun hcall => absurd hcall hm, ih fun m' hm' => h m' (.tail _ hm')⟩

lemma CompletionResponse.useIds_parts (reply : CompletionResponse) :
    (assistantParts reply.parts).useIds = reply.toolCalls.map ToolCall.id := by
  unfold useIds CompletionResponse.toolCalls
  rw [map_filterMap, funext ContentPart.useId_eq_map]
  rfl

lemma CompletionResponse.isCall_iff (reply : CompletionResponse) :
    (assistantParts reply.parts).isCall ↔ reply.toolCalls ≠ [] := by
  rw [isCall, hasToolUse_iff, reply.useIds_parts, ne_eq, map_eq_nil_iff]
  exact and_iff_right rfl

lemma callsAnswered_reply (reply : CompletionResponse) {results} (hrole : results.role = .user)
    (hids : results.resultIds = reply.toolCalls.map ToolCall.id) :
    CallsAnswered [.assistantParts reply.parts, results] := by
  have hresults : CallsAnswered [results] := by
    rw [callsAnswered_singleton]
    exact not_isCall_of_role (by simp [hrole])
  refine ⟨fun _ => ⟨results, rfl, hrole, ?_⟩, hresults⟩
  show results.resultIds.Perm (assistantParts reply.parts).useIds
  rw [hids, reply.useIds_parts]

/-! ## When no compaction fires -/

variable {cm : ContextManager} {messages : List Message}
lemma escalate_quiet (print : Json → String) {level threshold compact}
    (h : (cm.escalate print level threshold compact messages).2 = []) :
    (cm.escalate print level threshold compact messages).1 = messages := by
  unfold escalate at h ⊢
  split at h
  · cases h
  · rename_i hlow
    rw [if_neg hlow]

lemma compactEscalating_quiet {print model} (h : (cm.compactEscalating print (some model) messages).2 = []) :
    (cm.compactEscalating print (some model) messages).1 = messages := by
  have hlevels : (cm.structuralLevels print messages).2 = [] → (cm.structuralLevels print messages).1 = messages := by
    intro hquiet
    obtain ⟨hfirst, hsecond⟩ := append_eq_nil_iff.1 hquiet
    have hsame := escalate_quiet print hfirst
    rw [structuralLevels]
    exact (escalate_quiet print hsecond).trans hsame
  simp only [compactEscalating] at h ⊢
  split at h
  · rename_i hfull
    rw [if_pos hfull]
    cases hsummary : cm.summarize print model (cm.structuralLevels print messages).1 with
    | none =>
      rw [hsummary] at h
      exact hlevels h
    | some after =>
      rw [hsummary] at h
      exact absurd h (by simp)
  · rename_i hlow
    rw [if_neg hlow]
    exact hlevels h

namespace Turn
variable {World : Type} (t : Turn World) (s : LoopState) (c : CycleInputs World)

/-- Neither the rolling compaction nor, if the iteration comes to it, the escalating one fires. -/
def NoCompaction : Prop :=
  t.contextManager.fractionUsed t.texts.json s.messages < .fin (4 / 5) ∧
    (c.hardLimited = none → s.cycles < t.input.maxCycles → (t.escalation c (t.orient c s)).2 = [])

def reply : Option CompletionResponse :=
  match c.hardLimited with
  | some _ => none
  | none =>
    if t.input.maxCycles ≤ s.cycles then
      (c.complete (t.summaryRequest { s with messages := s.messages ++ [budgetNotice] })).toOption
    else (c.complete (t.request (t.prepare c s))).toOption

/-- A reply with tool calls comes before the cycles are used up, and its calls are carried out: it
does not end the turn, nor does it answer a response schema. -/
def ReplyCarriedOut : Prop :=
  ∀ reply ∈ t.reply s c, reply.toolCalls ≠ [] → s.cycles < t.input.maxCycles ∧ t.Dispatched reply

instance (s : LoopState) (c : CycleInputs World) : Decidable (t.NoCompaction s c) :=
  inferInstanceAs (Decidable (_ ∧ (c.hardLimited = none → s.cycles < t.input.maxCycles → _)))

instance (r : CompletionResponse) : Decidable (t.Dispatched r) :=
  inferInstanceAs (Decidable (r.stopReason ≠ .endTurn ∧ r.toolCalls ≠ [] ∧ t.respondCall r = none))

instance (s : LoopState) (c : CycleInputs World) : Decidable (t.ReplyCarriedOut s c) :=
  match h : t.reply s c with
  | none => .isTrue fun r hr => by cases h.symm.trans hr
  | some r =>
    decidable_of_iff (r.toolCalls ≠ [] → s.cycles < t.input.maxCycles ∧ t.Dispatched r)
      ⟨fun hr r' hr' => by cases h.symm.trans hr'; exact hr, fun hs => hs r h⟩

def Answered : Prop := ∃ rest, s.messages = t.systemMessages ++ rest ∧ CallsAnswered rest

variable {t} {s : LoopState} {c : CycleInputs World}
lemma messages_of_compacted (h : t.NoCompaction s c) {messages}
    (hmessages : t.compacted c s = some messages) : s.messages = messages := by
  unfold compacted maybeRunCompaction at hmessages
  rw [if_pos h.1] at hmessages
  exact Option.some.inj hmessages

lemma orient_messages (c : CycleInputs World) (s : LoopState) :
    ∃ notes, (t.orient c s).messages = s.messages ++ notes ∧ ∀ m ∈ notes, m.role ≠ .assistant := by
  have hadvance : ∃ notes, (t.advancePhase s).messages = s.messages ++ notes ∧ ∀ m ∈ notes, m.role ≠ .assistant := by
    unfold advancePhase
    split
    · refine ⟨_, rfl, fun m hm => ?_⟩
      obtain ⟨phase, -, rfl⟩ : ∃ phase, _ ∧ t.phaseNotice (s.phaseIndex + 1) phase = m := by
        simpa [phaseNotices] using hm
      exact nofun
    · exact ⟨[], by simp, nofun⟩
  obtain ⟨notes, hnotes, hroles⟩ := hadvance
  unfold orient observe
  split
  · exact ⟨notes, hnotes, hroles⟩
  · refine ⟨notes ++ [t.buildSpatialObservation c.snapshot], ?_, fun m hm => ?_⟩
    · rw [← append_assoc, ← hnotes]
      rfl
    · rcases mem_append.1 hm with hm | hm
      · exact hroles m hm
      · obtain rfl := mem_singleton.1 hm
        unfold buildSpatialObservation
        dsimp only
        split <;> exact nofun

lemma prepare_answered (hs : t.Answered s) (hquiet : (t.escalation c (t.orient c s)).2 = []) :
    t.Answered (t.prepare c s) := by
  obtain ⟨rest, hrest, hanswered⟩ := hs
  obtain ⟨notes, hnotes, hroles⟩ := t.orient_messages c s
  refine ⟨rest ++ notes, ?_, callsAnswered_append hanswered (callsAnswered_of_roles hroles)⟩
  have hsame : (t.prepare c s).messages = (t.orient c s).messages := compactEscalating_quiet hquiet
  rw [hsame, hnotes, hrest, append_assoc]

variable {s' : LoopState}
lemma callsAnswered_output (hs : t.Answered s) {tail}
    (h : s'.messages = s.messages ++ tail) : CallsAnswered (t.output s').messages ↔ CallsAnswered tail := by
  obtain ⟨rest, hrest, hanswered⟩ := hs
  have hout : (t.output s').messages = rest ++ tail := by
    unfold output
    rw [h, hrest, append_assoc, drop_left]
  rw [hout, callsAnswered_append_iff hanswered]

lemma answered_start (h : CallsAnswered t.history) : t.Answered t.start := by
  refine ⟨t.history ++ [ofUser t.userMessage], append_assoc .., callsAnswered_append h ?_⟩
  exact callsAnswered_singleton.2 (not_isCall_of_role nofun)

lemma answered_next (hs : t.Answered s) (hquiet : t.NoCompaction s c)
    (h : t.cycle s c = .next s') : t.ReplyCarriedOut s c ∧ t.Answered s' := by
  obtain ⟨messages, r, hmessages, hlimit, hmax, hreply, hdispatched, hact⟩ := cycle_next h
  obtain rfl := messages_of_compacted hquiet hmessages
  constructor
  · intro r' hr' _
    simp only [reply, hlimit, if_neg (Nat.not_le.2 hmax), hreply] at hr'
    cases hr'
    exact ⟨hmax, hdispatched⟩
  · obtain ⟨rest, hrest, hanswered⟩ := prepare_answered hs (hquiet.2 hlimit hmax)
    obtain ⟨results, hresults, hrole, hids⟩ :=
      Actor.dispatchToolCalls_eq { t.agent.actor with dispatcher := (t.prepare c s).dispatcher } t.texts.result
        (t.spatialCtx c (recordReply (t.prepare c s) r)) c.batch hdispatched.2.1
        ((t.prepare c s).messages ++ [.assistantParts r.parts])
    refine ⟨rest ++ [.assistantParts r.parts, results], ?_,
      callsAnswered_append hanswered (callsAnswered_reply r hrole hids)⟩
    rw [(act_next hact).1]
    refine hresults.trans ?_
    rw [hrest]
    simp

lemma replyCarriedOut_iff {r} (hr : t.reply s c = some r) (hnot : ¬ (s.cycles < t.input.maxCycles ∧ t.Dispatched r)) :
    t.ReplyCarriedOut s c ↔ ¬ (assistantParts r.parts).isCall := by
  rw [r.isCall_iff]
  constructor
  · intro hcarried hcalls
    exact hnot (hcarried r hr hcalls)
  · intro hno r' hr' hcalls
    obtain rfl : r = r' := Option.some.inj (hr.symm.trans hr')
    exact absurd hcalls hno

lemma callsAnswered_stop {out} (hs : t.Answered s) (hquiet : t.NoCompaction s c)
    (h : t.cycle s c = .stop ⟨s', .ok out⟩) : CallsAnswered out.messages ↔ t.ReplyCarriedOut s c := by
  obtain ⟨messages, hmessages, rfl, hcases⟩ := cycle_ok h
  obtain rfl := messages_of_compacted hquiet hmessages
  rcases hcases with ⟨hlimit, rfl⟩ | ⟨hlimit, hmax, rfl⟩ | ⟨r, hlimit, hmax, hreply, hnot, hs'⟩
  · -- at the usage limit nothing is pushed
    rw [callsAnswered_output hs (append_nil _).symm]
    refine iff_of_true trivial fun r hr => ?_
    obtain ⟨limit, hlimit⟩ := Option.ne_none_iff_exists'.1 hlimit
    simp [reply, hlimit] at hr
  · -- the summary is pushed as it is
    have hnotice : CallsAnswered [budgetNotice] := callsAnswered_singleton.2 (not_isCall_of_role nofun)
    cases hsummary : c.complete (t.summaryRequest { s with messages := s.messages ++ [budgetNotice] }) with
    | error e =>
      have htail : (t.summaryTurn c s).messages = s.messages ++ [budgetNotice] := by simp [summaryTurn, hsummary]
      rw [callsAnswered_output hs htail]
      refine iff_of_true hnotice fun r hr => ?_
      simp [reply, hlimit, if_pos hmax, hsummary, Except.toOption] at hr
    | ok r =>
      have htail : (t.summaryTurn c s).messages = s.messages ++ ([budgetNotice] ++ [.assistantParts r.parts]) := by
        simp [summaryTurn, hsummary]
      have hr : t.reply s c = some r := by simp [reply, hlimit, if_pos hmax, hsummary, Except.toOption]
      rw [replyCarriedOut_iff hr fun hcarried => absurd hcarried.1 (Nat.not_lt.2 hmax), callsAnswered_output hs htail,
        callsAnswered_append_iff hnotice, callsAnswered_singleton]
  · -- the reply ends the turn, or answers the schema
    have hr : t.reply s c = some r := by simp [reply, hlimit, if_neg (Nat.not_le.2 hmax), hreply, Except.toOption]
    rw [replyCarriedOut_iff hr fun hcarried => hnot hcarried.2,
      callsAnswered_output (prepare_answered hs (hquiet.2 hlimit hmax)) hs', callsAnswered_singleton]

end Turn

theorem callsAnswered_output_iff {World : Type} (t : Turn World) (cs : List (CycleInputs World)) (final : LoopState)
    (out : AgentOutput) (hhistory : CallsAnswered t.history) (hquiet : EachCycle t.cycle t.NoCompaction t.start cs)
    (hrun : t.runStreamingCore cs = some ⟨final, .ok out⟩) :
    CallsAnswered out.messages ↔ EachCycle t.cycle t.ReplyCarriedOut t.start cs :=
  EachCycle.result_iff t.Answered (fun _ _ _ hs hq h => Turn.answered_next hs hq h)
    (fun _ _ hs hq h => Turn.callsAnswered_stop hs hq h) cs t.start (Turn.answered_start hhistory) hquiet hrun

/-! ## A sensor that is read -/

def readSensor : ToolSchema := ⟨"read_sensor", "Read a sensor.", .null⟩

def sensorCall : ContentPart := .toolUse "toolu_1" "read_sensor" (.string "lidar")

def plainResult (r : ToolResult) : String := "\x7b\"output\":" ++ plainJson r.output ++ ",\"error\":null\x7d"

def sensorTurn (maxCycles : Nat) (responseSchema : Option Json) (phases : List PhaseSpec) : Turn Unit where
  texts := ⟨plainJson, plainResult, plainDebug⟩
  spatial := ⟨(), fun _ => "No spatial observations.", fun _ => []⟩
  agent := .new (ToolDispatcher.registerWithCategory ⟨∅, "5s"⟩ readSensor .pure) []
  input := {
    seed := ⟨["You are Roz."], [], "Read the lidar."⟩
    maxCycles := maxCycles
    maxTokens := 4096
    maxContextTokens := 200000
    mode := .react
    phases := phases
    toolChoice := none
    responseSchema := responseSchema }

def replying (parts : List ContentPart) (stopReason : StopReason) : CycleInputs Unit where
  cancelled := false
  hardLimited := none
  compactionModel := briefModel
  aux := none
  snapshot := ()
  escalationModel := briefModel
  complete := fun _ => .ok ⟨parts, stopReason, ⟨30, 20, 0, 0⟩⟩
  batch := ⟨fun _ _ => .returned ⟨.string "clear", none, none, false, none⟩, fun _ => .timedOut⟩

theorem callsAnswered_sensor : ∃ final out, (sensorTurn 5 none []).runStreamingCore
        [replying [sensorCall] .toolUse, replying [.text "The way is clear."] .endTurn] = some ⟨final, .ok out⟩ ∧
      CallsAnswered out.messages := by
  have hsome : ((sensorTurn 5 none []).completed
      [replying [sensorCall] .toolUse, replying [.text "The way is clear."] .endTurn]).isSome = true := by
    with_unfolding_all decide
  obtain ⟨⟨final, out⟩, hout⟩ := Option.isSome_iff_exists.1 hsome
  have hrun := Turn.completed_eq_some hout
  exact ⟨final, out, hrun, (callsAnswered_output_iff _ _ final out (by decide) (by with_unfolding_all decide) hrun).2
    (by with_unfolding_all decide)⟩

/-- The run returns `Ok` with a call that stays without an answer, although the history was answered
and no compaction fired. -/
def EndsUnanswered {World : Type} (t : Turn World) (cs : List (CycleInputs World)) : Prop :=
  CallsAnswered t.history ∧ EachCycle t.cycle t.NoCompaction t.start cs ∧
    ∃ final out, t.runStreamingCore cs = some ⟨final, .ok out⟩ ∧ ¬ CallsAnswered out.messages

lemma endsUnanswered_of_completed {World : Type} {t : Turn World} {cs}
    (h : CallsAnswered t.history ∧ EachCycle t.cycle t.NoCompaction t.start cs ∧
      ∃ done ∈ t.completed cs, ¬ CallsAnswered done.2.messages) : EndsUnanswered t cs := by
  obtain ⟨hhistory, hquiet, ⟨final, out⟩, hdone, hnot⟩ := h
  exact ⟨hhistory, hquiet, final, out, Turn.completed_eq_some hdone, hnot⟩

/-- A reply that ends the turn, one whose other call answers the response schema, and one when the
cycles are used up. -/
theorem call_unanswered : EndsUnanswered (sensorTurn 5 none []) [replying [sensorCall] .endTurn] ∧
    EndsUnanswered (sensorTurn 5 (some (.object [("type", .string "string")])) [])
      [replying [sensorCall, .toolUse "toolu_2" "__respond" (.string "clear")] .toolUse] ∧
    EndsUnanswered (sensorTurn 1 none []) [replying [sensorCall] .toolUse, replying [sensorCall] .toolUse] := by
  refine ⟨?_, ?_, ?_⟩
  · exact endsUnanswered_of_completed (by with_unfolding_all decide)
  · exact endsUnanswered_of_completed (by with_unfolding_all decide)
  · exact endsUnanswered_of_completed (by with_unfolding_all decide)

end Roz.Agent
