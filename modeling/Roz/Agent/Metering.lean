import Std.Data.String.ToNat
import Mathlib.Algebra.BigOperators.Group.List.Basic
import Roz.Agent.Transcript
import Roz.Lib.FirstWrite

/-!
# What the runs of the loop are billed for

`run_streaming_core` records the usage of each cycle under the key `task_id:cycle`, and the store
(`migrations/20260408026_record_usage_invoker.sql`) keeps the first record of each key.  A run counts
its cycles from 1, so a second run of the same task comes back to keys that are stored; and the call
for the summary, when the cycles are used up, is counted in `total_usage` and not recorded
(`stored_add_missed`, `billed_iff`).
-/

namespace Roz.Agent
open LoopRun FirstWrite List

/-! ## Records (`meter.rs`) -/

structure UsageRecord where
  tenantId : String
  resourceType : String
  model : Option String
  quantity : Nat
  inputTokens : Option Nat
  outputTokens : Option Nat
  cacheReadTokens : Option Nat
  cacheCreationTokens : Option Nat
  idempotencyKey : String
  deriving DecidableEq

def idempotencyKey (taskId : String) (cycles : Nat) : String := taskId ++ ":" ++ toString cycles

/-- A call of the model that was answered: that of a cycle, or that for the summary. -/
inductive ModelCall where
  | cycle (n : Nat) (usage : TokenUsage)
  | summary (usage : TokenUsage)
  deriving DecidableEq

inductive TokenKind where
  | input
  | output
  deriving DecidableEq

def TokenUsage.count (u : TokenUsage) : TokenKind → Nat
  | .input => u.inputTokens
  | .output => u.outputTokens

def UsageRecord.count (r : UsageRecord) : TokenKind → Nat
  | .input => r.inputTokens.getD 0
  | .output => r.outputTokens.getD 0

def ModelCall.usage : ModelCall → TokenUsage
  | .cycle _ usage => usage
  | .summary usage => usage

def ModelCall.count (call : ModelCall) (k : TokenKind) : Nat := call.usage.count k

def ModelCall.number : ModelCall → Option Nat
  | .cycle n _ => some n
  | .summary _ => none

namespace Turn
variable {World : Type} (t : Turn World)
def calls (s : LoopState) (c : CycleInputs World) : List ModelCall :=
  if c.cancelled then []
  else
    match t.compacted c s with
    | none => []
    | some messages =>
      let s := { s with messages := messages }
      match c.hardLimited with
      | some _ => []
      | none =>
        if t.input.maxCycles ≤ s.cycles then
          match c.complete (t.summaryRequest { s with messages := s.messages ++ [budgetNotice] }) with
          | .error _ => []
          | .ok reply => [.summary reply.usage]
        else
          match c.complete (t.request (t.prepare c s)) with
          | .error _ => []
          | .ok reply => [.cycle (s.cycles + 1) reply.usage]

end Turn

structure MeteredRun (World : Type) where
  turn : Turn World
  taskId : String
  tenantId : String
  modelName : String
  inputs : List (CycleInputs World)
  final : LoopState
  output : AgentOutput
  ok : turn.completed inputs = some (final, output)

namespace MeteredRun
variable {World : Type} (r : MeteredRun World)
def calls : List ModelCall := collect r.turn.cycle r.turn.calls r.turn.start r.inputs

def usageRecord (cycles : Nat) (usage : TokenUsage) : UsageRecord where
  tenantId := r.tenantId
  resourceType := "ai_tokens"
  model := some r.modelName
  quantity := usage.inputTokens + usage.outputTokens
  inputTokens := some usage.inputTokens
  outputTokens := some usage.outputTokens
  cacheReadTokens := some usage.cacheReadTokens
  cacheCreationTokens := some usage.cacheCreationTokens
  idempotencyKey := idempotencyKey r.taskId cycles

def recordOf : ModelCall → Option UsageRecord
  | .cycle n usage => some (r.usageRecord n usage)
  | .summary _ => none

def usageRecords : List UsageRecord := r.calls.filterMap r.recordOf

def tokens (k : TokenKind) : Nat := (r.calls.map fun call => call.count k).sum

end MeteredRun

section Runs
variable {World : Type} (runs : List (MeteredRun World))
def storedUsage : List UsageRecord :=
  runs.foldl (fun stored r => FirstWrite.insertAll UsageRecord.idempotencyKey stored r.usageRecords) []

variable (k : TokenKind)
def storedTokens (runs : List (MeteredRun World)) : Nat :=
  ((storedUsage runs).map fun record => record.count k).sum

def Billed : Prop :=
  ∀ k, storedTokens k runs = (runs.map fun r => r.output.totalUsage.count k).sum

variable (earlier : List (MeteredRun World)) (r : MeteredRun World)

/-- The call is not recorded, or an earlier run of the task came to a cycle of its number. -/
def Missed : ModelCall → Prop
  | .summary _ => True
  | .cycle n _ => ∃ r' ∈ earlier, r'.taskId = r.taskId ∧ n ≤ r'.output.cycles

instance (earlier : List (MeteredRun World)) (r : MeteredRun World) : DecidablePred (Missed earlier r)
  | .summary _ => .isTrue trivial
  | .cycle n _ => inferInstanceAs (Decidable (∃ r' ∈ earlier, r'.taskId = r.taskId ∧ n ≤ r'.output.cycles))

def missedIn : Nat :=
  ((r.calls.filter fun call => Missed earlier r call).map fun call => call.count k).sum

def missedTokens (k : TokenKind) : (earlier runs : List (MeteredRun World)) → Nat
  | _, [] => 0
  | earlier, r :: runs => missedIn k earlier r + missedTokens k (earlier ++ [r]) runs

def MissedUnused : (earlier runs : List (MeteredRun World)) → Prop
  | _, [] => True
  | earlier, r :: runs =>
    (∀ call ∈ r.calls, Missed earlier r call → call.usage.inputTokens = 0 ∧ call.usage.outputTokens = 0) ∧
      MissedUnused (earlier ++ [r]) runs

end Runs

/-! ## Keys -/

lemma colon_notMem_toString (n : Nat) : ':' ∉ (toString n).toList := by
  intro h
  have hdigit := Nat.isDigit_of_mem_toDigits (by decide) (by decide) (show ':' ∈ Nat.toDigits 10 n by simpa [Nat.repr] using h)
  revert hdigit
  decide

lemma append_sep_inj {α : Type} {sep : α} {a a' b b'} (hb : sep ∉ b) (hb' : sep ∉ b')
    (h : a ++ sep :: b = a' ++ sep :: b') : a = a' ∧ b = b' := by
  rcases append_eq_append_iff.1 h with ⟨mid, ha, hmid⟩ | ⟨mid, ha, hmid⟩
  · cases mid with
    | nil => exact ⟨by simpa using ha.symm, (List.cons.inj hmid).2⟩
    | cons x mid =>
      rw [cons_append] at hmid
      refine absurd ?_ hb
      rw [(List.cons.inj hmid).2]
      simp
  · cases mid with
    | nil => exact ⟨by simpa using ha, (List.cons.inj hmid).2.symm⟩
    | cons x mid =>
      rw [cons_append] at hmid
      refine absurd ?_ hb'
      rw [(List.cons.inj hmid).2]
      simp

lemma idempotencyKey_inj {taskId taskId'} {n n' : Nat} :
    idempotencyKey taskId n = idempotencyKey taskId' n' ↔ taskId = taskId' ∧ n = n' := by
  constructor
  · intro h
    have hlist := congrArg String.toList h
    have hcolon : ":".toList = [':'] := rfl
    simp only [idempotencyKey, String.toList_append, hcolon, append_assoc, singleton_append] at hlist
    obtain ⟨htask, hn⟩ := append_sep_inj (colon_notMem_toString n) (colon_notMem_toString n') hlist
    exact ⟨String.toList_inj.1 htask, Nat.repr_inj.1 (String.toList_inj.1 hn)⟩
  · rintro ⟨rfl, rfl⟩
    rfl

/-! ## One iteration -/

lemma TokenUsage.count_add (a b : TokenUsage) (k : TokenKind) : (a.add b).count k = u32 (a.count k + b.count k) := by
  cases k <;> rfl

/-- What an iteration adds: nothing, the call of a cycle or that for the summary. -/
inductive Metered (s s' : LoopState) : List ModelCall → Prop where
  | nothing (hcycles : s'.cycles = s.cycles) (husage : s'.totalUsage = s.totalUsage) : Metered s s' []
  | cycle {usage : TokenUsage} (hcycles : s'.cycles = s.cycles + 1) (husage : s'.totalUsage = s.totalUsage.add usage) :
      Metered s s' [.cycle (s.cycles + 1) usage]
  | summary {usage : TokenUsage} (hcycles : s'.cycles = s.cycles) (husage : s'.totalUsage = s.totalUsage.add usage) :
      Metered s s' [.summary usage]

namespace Turn
variable {World : Type} {t : Turn World}
lemma prepare_counters (c : CycleInputs World) (s : LoopState) :
    (t.prepare c s).cycles = s.cycles ∧ (t.prepare c s).totalUsage = s.totalUsage := by
  unfold prepare orient observe syncAdvancePhase advancePhase
  dsimp only
  split <;> split <;> exact ⟨rfl, rfl⟩

variable {c : CycleInputs World} {s s' : LoopState}
lemma act_counters {toolCalls}
    (h : t.act c s toolCalls = .next s') : s'.cycles = s.cycles ∧ s'.totalUsage = s.totalUsage := by
  unfold act at h
  dsimp only at h
  split at h
  · cases h
  · cases h
  · cases h
    exact ⟨rfl, rfl⟩

lemma afterReply_counters {reply}
    (h : t.afterReply c s reply = .next s' ∨ ∃ out, t.afterReply c s reply = .stop ⟨s', .ok out⟩) :
    s'.cycles = s.cycles + 1 ∧ s'.totalUsage = s.totalUsage.add reply.usage := by
  rcases h with h | ⟨out, h⟩
  · exact act_counters (afterReply_next h).2
  · unfold afterReply at h
    dsimp only at h
    split at h
    · cases h
      exact ⟨rfl, rfl⟩
    · split at h
      · cases h
        exact ⟨rfl, rfl⟩
      · exact absurd h act_not_ok

lemma cycle_metered (h : t.cycle s c = .next s' ∨ ∃ out, t.cycle s c = .stop ⟨s', .ok out⟩) : Metered s s' (t.calls s c) := by
  unfold calls
  unfold cycle at h
  by_cases hcancelled : c.cancelled = true
  · simp [hcancelled] at h
  rw [if_neg hcancelled] at h ⊢
  cases hcompacted : t.compacted c s with
  | none => simp [hcompacted] at h
  | some messages =>
    simp only [hcompacted] at h ⊢
    cases hlimited : c.hardLimited with
    | some limit =>
      simp only [hlimited] at h ⊢
      split at h
      · simp at h
      · rcases h with h | ⟨out, h⟩ <;> cases h
        exact .nothing rfl rfl
    | none =>
      simp only [hlimited] at h ⊢
      by_cases hmax : t.input.maxCycles ≤ s.cycles
      · rw [if_pos hmax] at h ⊢
        rcases h with h | ⟨out, h⟩ <;> cases h
        unfold summaryTurn
        dsimp only
        cases c.complete (t.summaryRequest { s with messages := messages ++ [budgetNotice] }) with
        | error e => exact .nothing rfl rfl
        | ok reply => exact .summary rfl rfl
      · rw [if_neg hmax] at h ⊢
        obtain ⟨hcycles, husage⟩ := prepare_counters (t := t) c { s with messages := messages }
        unfold modelTurn at h
        cases hreply : c.complete (t.request (t.prepare c { s with messages := messages })) with
        | error e => simp [hreply] at h
        | ok reply =>
          simp only [hreply] at h ⊢
          obtain ⟨hcycles', husage'⟩ := afterReply_counters h
          rw [hcycles] at hcycles'
          rw [husage] at husage'
          exact .cycle hcycles' husage'

end Turn

/-! ## One run -/

structure Counted (s : LoopState) (calls : List ModelCall) : Prop where
  numbers : calls.filterMap ModelCall.number = List.range' 1 s.cycles
  usage : ∀ k, s.totalUsage.count k = u32 (calls.map fun call => call.count k).sum

lemma Counted.step {s s' log calls} (hs : Counted s log) (h : Metered s s' calls) : Counted s' (log ++ calls) := by
  have hadd : ∀ (k : TokenKind) (call : ModelCall), (s.totalUsage.add call.usage).count k =
      u32 ((log ++ [call]).map fun call => call.count k).sum := by
    intro k call
    rw [TokenUsage.count_add, hs.usage, map_append, sum_append, map_singleton, sum_singleton]
    exact Nat.mod_add_mod _ _ _
  cases h with
  | nothing hcycles husage =>
    rw [append_nil]
    exact ⟨by rw [hcycles, hs.numbers], fun k => by rw [husage, hs.usage]⟩
  | @cycle usage hcycles husage =>
    refine ⟨?_, fun k => by rw [husage]; exact hadd k (.cycle _ usage)⟩
    rw [filterMap_append, hs.numbers, hcycles, range'_concat]
    simp [ModelCall.number, Nat.add_comm]
  | @summary usage hcycles husage =>
    refine ⟨?_, fun k => by rw [husage]; exact hadd k (.summary usage)⟩
    rw [filterMap_append, hs.numbers, hcycles]
    simp [ModelCall.number]

namespace MeteredRun
variable {World : Type} (r : MeteredRun World)
lemma counted : Counted r.final r.calls ∧ r.output = r.turn.output r.final := by
  have hstart : Counted r.turn.start [] := ⟨rfl, fun k => by cases k <;> rfl⟩
  exact collect_result (P := fun log => Counted r.final log ∧ r.output = r.turn.output r.final)
    (fun s log c s' hs h => hs.step (Turn.cycle_metered (.inl h)))
    (fun s log c hs h => ⟨hs.step (Turn.cycle_metered (.inr ⟨_, h⟩)), (Turn.cycle_ok h).choose_spec.2.1⟩)
    r.inputs r.turn.start [] hstart (Turn.completed_eq_some r.ok)

lemma totalUsage_count (k : TokenKind) : r.output.totalUsage.count k = u32 (r.tokens k) := by
  obtain ⟨hcounted, houtput⟩ := r.counted
  rw [houtput]
  exact hcounted.usage k

lemma numbers : r.calls.filterMap ModelCall.number = List.range' 1 r.output.cycles := by
  obtain ⟨hcounted, houtput⟩ := r.counted
  rw [houtput]
  exact hcounted.numbers

lemma keys : r.usageRecords.map UsageRecord.idempotencyKey =
    (List.range' 1 r.output.cycles).map (idempotencyKey r.taskId) := by
  rw [← r.numbers, usageRecords, map_filterMap, map_filterMap]
  congr 1
  funext call
  cases call <;> rfl

lemma mem_keys {key} : key ∈ r.usageRecords.map UsageRecord.idempotencyKey ↔
    ∃ n, 1 ≤ n ∧ n ≤ r.output.cycles ∧ idempotencyKey r.taskId n = key := by
  rw [r.keys, mem_map]
  constructor
  · rintro ⟨n, hn, hkey⟩
    rw [mem_range'_1] at hn
    exact ⟨n, hn.1, by omega, hkey⟩
  · rintro ⟨n, hpos, hle, hkey⟩
    exact ⟨n, mem_range'_1.2 ⟨hpos, by omega⟩, hkey⟩

lemma keys_nodup : (r.usageRecords.map UsageRecord.idempotencyKey).Nodup := by
  rw [r.keys]
  refine List.Nodup.map ?_ nodup_range'
  intro n n' h
  exact (idempotencyKey_inj.1 h).2

end MeteredRun

section Runs
variable {World : Type}
variable (k : TokenKind) (earlier runs : List (MeteredRun World)) (r : MeteredRun World)
lemma storedUsage_append : storedUsage (earlier ++ [r]) =
    insertAll UsageRecord.idempotencyKey (storedUsage earlier) r.usageRecords := by
  rw [storedUsage, foldl_append]
  rfl

lemma mem_storedKeys {runs : List (MeteredRun World)} {key} : key ∈ (storedUsage runs).map UsageRecord.idempotencyKey ↔
      ∃ r ∈ runs, ∃ n, 1 ≤ n ∧ n ≤ r.output.cycles ∧ idempotencyKey r.taskId n = key := by
  induction runs using List.reverseRecOn with
  | nil => simp [storedUsage]
  | append_singleton earlier r ih =>
    rw [storedUsage_append, mem_keys_insertAll, ih, r.mem_keys]
    simp only [mem_append, mem_singleton, or_and_right, exists_or, exists_eq_left]

lemma key_stored_iff {earlier} {r : MeteredRun World} {n usage}
    (hn : 1 ≤ n) : idempotencyKey r.taskId n ∈ (storedUsage earlier).map UsageRecord.idempotencyKey ↔
      Missed earlier r (.cycle n usage) := by
  rw [mem_storedKeys]
  constructor
  · rintro ⟨r', hr', m, -, hm, hkey⟩
    obtain ⟨htask, rfl⟩ := idempotencyKey_inj.1 hkey
    exact ⟨r', hr', htask, hm⟩
  · rintro ⟨r', hr', htask, hm⟩
    exact ⟨r', hr', n, hn, hm, by rw [htask]⟩

lemma filter_usageRecords : (r.usageRecords.filter fun record =>
      record.idempotencyKey ∉ (storedUsage earlier).map UsageRecord.idempotencyKey) =
    (r.calls.filter fun call => ¬ Missed earlier r call).filterMap r.recordOf := by
  have hpos : ∀ call ∈ r.calls, ∀ n ∈ call.number, 1 ≤ n := by
    intro call hcall n hn
    have hmem : n ∈ List.range' 1 r.output.cycles := by
      rw [← r.numbers]
      exact mem_filterMap.2 ⟨call, hcall, hn⟩
    exact (mem_range'_1.1 hmem).1
  rw [MeteredRun.usageRecords]
  generalize r.calls = calls at hpos
  induction calls with
  | nil => rfl
  | cons call calls ih =>
    obtain ⟨hcall, hcalls⟩ := forall_mem_cons.1 hpos
    cases call with
    | summary usage => rw [filterMap_cons_none rfl, filter_cons_of_neg (by simp [Missed]), ih hcalls]
    | cycle n usage =>
      have hrecord : r.recordOf (.cycle n usage) = some (r.usageRecord n usage) := rfl
      have hkey : (r.usageRecord n usage).idempotencyKey ∈ (storedUsage earlier).map UsageRecord.idempotencyKey ↔
          Missed earlier r (.cycle n usage) := key_stored_iff (hcall n rfl)
      rw [filterMap_cons_some hrecord]
      by_cases hmissed : Missed earlier r (.cycle n usage)
      · rw [filter_cons_of_neg (by simpa using hkey.2 hmissed), filter_cons_of_neg (by simpa using hmissed),
          ih hcalls]
      · rw [filter_cons_of_pos (by simpa using fun h => hmissed (hkey.1 h)),
          filter_cons_of_pos (by simpa using hmissed), filterMap_cons_some hrecord, ih hcalls]

lemma storedTokens_append :
    storedTokens k (earlier ++ [r]) + missedIn k earlier r = storedTokens k earlier + r.tokens k := by
  have hrecords : ∀ calls : List ModelCall, (∀ call ∈ calls, ¬ Missed earlier r call) →
      ((calls.filterMap r.recordOf).map fun record => record.count k) = calls.map fun call => call.count k := by
    intro calls hcalls
    induction calls with
    | nil => rfl
    | cons call calls ih =>
      obtain ⟨hcall, hrest⟩ := forall_mem_cons.1 hcalls
      cases call with
      | summary usage => exact absurd trivial hcall
      | cycle n usage =>
        have hrecord : r.recordOf (.cycle n usage) = some (r.usageRecord n usage) := rfl
        rw [filterMap_cons_some hrecord, map_cons, map_cons, ih hrest]
        cases k <;> rfl
  have hstored : storedTokens k (earlier ++ [r]) = storedTokens k earlier +
      ((r.calls.filter fun call => ¬ Missed earlier r call).map fun call => call.count k).sum := by
    rw [storedTokens, storedUsage_append, insertAll_eq_append r.keys_nodup, filter_usageRecords,
      map_append, sum_append, hrecords _ fun call hcall => by simpa using (mem_filter.1 hcall).2]
    rfl
  have hsplit := sum_map_filter_add_sum_map_filter_not (Missed earlier r) (fun call => call.count k) r.calls
  unfold missedIn MeteredRun.tokens
  omega

lemma stored_add_missed : ∀ earlier : List (MeteredRun World),
    storedTokens k (earlier ++ runs) + missedTokens k earlier runs =
      storedTokens k earlier + (runs.map fun r => r.tokens k).sum := by
  induction runs with
  | nil => simp [missedTokens]
  | cons r runs ih =>
    intro earlier
    have hrest := ih (earlier ++ [r])
    have hrun := storedTokens_append k earlier r
    rw [append_assoc, singleton_append] at hrest
    rw [missedTokens, map_cons, sum_cons]
    omega

lemma totals_add_wrapped :
    (runs.map fun r => r.output.totalUsage.count k).sum + 2 ^ 32 * (runs.map fun r => r.tokens k / 2 ^ 32).sum =
      (runs.map fun r => r.tokens k).sum := by
  induction runs with
  | nil => rfl
  | cons r runs ih =>
    have hrun : r.output.totalUsage.count k + 2 ^ 32 * (r.tokens k / 2 ^ 32) = r.tokens k := by
      rw [r.totalUsage_count]
      exact Nat.mod_add_div _ _
    simp only [map_cons, sum_cons]
    omega

lemma missedIn_eq_zero_iff {k earlier} {r : MeteredRun World} :
    missedIn k earlier r = 0 ↔ ∀ call ∈ r.calls, Missed earlier r call → call.count k = 0 := by
  unfold missedIn
  rw [List.sum_eq_zero_iff_forall_eq_nat, List.forall_mem_map]
  simp

lemma missedUnused_iff : ∀ earlier : List (MeteredRun World),
    MissedUnused earlier runs ↔ ∀ k, missedTokens k earlier runs = 0 := by
  induction runs with
  | nil => exact fun earlier => iff_of_true trivial fun _ => rfl
  | cons r runs ih =>
    intro earlier
    have hrun : (∀ call ∈ r.calls, Missed earlier r call → call.usage.inputTokens = 0 ∧ call.usage.outputTokens = 0) ↔
        ∀ k, missedIn k earlier r = 0 := by
      simp only [missedIn_eq_zero_iff]
      constructor
      · intro h k call hcall hmissed
        cases k with
        | input => exact (h call hcall hmissed).1
        | output => exact (h call hcall hmissed).2
      · intro h call hcall hmissed
        exact ⟨h .input call hcall hmissed, h .output call hcall hmissed⟩
    unfold MissedUnused
    rw [hrun, ih]
    simp only [missedTokens, Nat.add_eq_zero_iff, forall_and]

/-- What is stored is what the runs used just if the missed tokens make up for those that `total_usage`
lost in overflows; without overflows, just if no missed call used any. -/
theorem billed_iff (runs : List (MeteredRun World)) :
    (Billed runs ↔ ∀ k, missedTokens k [] runs = 2 ^ 32 * (runs.map fun r => r.tokens k / 2 ^ 32).sum) ∧
    ((∀ r ∈ runs, ∀ k, r.tokens k < 2 ^ 32) → (Billed runs ↔ MissedUnused [] runs)) := by
  have hexact : Billed runs ↔
      ∀ k, missedTokens k [] runs = 2 ^ 32 * (runs.map fun r => r.tokens k / 2 ^ 32).sum := by
    refine forall_congr' fun k => ?_
    have hstored := stored_add_missed k runs []
    have htotals := totals_add_wrapped k runs
    have hnone : storedTokens k ([] : List (MeteredRun World)) = 0 := rfl
    rw [nil_append] at hstored
    omega
  refine ⟨hexact, fun hsmall => ?_⟩
  rw [hexact, missedUnused_iff]
  refine forall_congr' fun k => ?_
  have hwrapped : (runs.map fun r => r.tokens k / 2 ^ 32).sum = 0 := by
    rw [List.sum_eq_zero_iff_forall_eq_nat]
    intro n hn
    obtain ⟨r, hr, rfl⟩ := mem_map.1 hn
    exact Nat.div_eq_of_lt (hsmall r hr k)
  rw [hwrapped, Nat.mul_zero]

end Runs

/-! ## Two turns of one session, and one that uses up its cycles -/

def reportText : List ContentPart := [.text "The lidar reads 2 m."]

def reportInputs : List (CycleInputs Unit) := [replying reportText .endTurn]

def exhaustedInputs : List (CycleInputs Unit) := [replying [sensorCall] .toolUse, replying reportText .endTurn]

lemma report_completes : ((sensorTurn 5 none []).completed reportInputs).isSome = true := by
  with_unfolding_all decide

lemma exhausted_completes : ((sensorTurn 1 none []).completed exhaustedInputs).isSome = true := by
  with_unfolding_all decide

def sessionRun (turn : Turn Unit) (inputs : List (CycleInputs Unit)) (h : (turn.completed inputs).isSome = true) :
    MeteredRun Unit where
  turn := turn
  taskId := "session-1"
  tenantId := "tenant-1"
  modelName := "claude-haiku-4-5"
  inputs := inputs
  final := ((turn.completed inputs).get h).1
  output := ((turn.completed inputs).get h).2
  ok := (Option.some_get h).symm

def reportRun : MeteredRun Unit := sessionRun _ _ report_completes

def exhaustedRun : MeteredRun Unit := sessionRun _ _ exhausted_completes

lemma reportRun_calls : reportRun.calls = [.cycle 1 ⟨30, 20, 0, 0⟩] := by with_unfolding_all decide

theorem first_turn_billed : Billed [reportRun] := by
  refine ((billed_iff [reportRun]).2 ?_).2 ⟨?_, trivial⟩
  · intro r hr k
    rw [mem_singleton.1 hr, MeteredRun.tokens, reportRun_calls]
    cases k <;> decide
  · intro call hcall hmissed
    rw [reportRun_calls, mem_singleton] at hcall
    subst hcall
    obtain ⟨r', hr', -⟩ := hmissed
    cases hr'

/-- The second turn of a session is not billed, nor is a summary: each time 30 of 60 tokens. -/
theorem turns_not_billed : ¬ Billed [reportRun, reportRun] ∧ ¬ Billed [exhaustedRun] := by
  constructor
  · intro h
    exact absurd (h .input) (by with_unfolding_all decide)
  · intro h
    exact absurd (h .input) (by with_unfolding_all decide)

end Roz.Agent
