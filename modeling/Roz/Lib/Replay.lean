import Mathlib.Data.List.Basic

/-!
# Replay of journalled programs

A program issues operations, whose results a journal records, and reads a clock, which it does
not.  `journal m s es` is what an execution with the events `es` leaves, and `reissue` runs the
program again from the journal, with other readings of the clock.

    two readings that are not the same lead to different operations →
      (the re-execution issues the recorded operations ↔
        every reading that was followed by an operation is the same)  (reissue_eq_iff)
-/

namespace Replay

/-- What a program does next. -/
inductive Act (ω : Type) where
  | op (o : ω)
  | clock
  | halt
  deriving DecidableEq

def Act.isOp {ω : Type} : Act ω → Bool
  | .op _ => true
  | _ => false

/-- A program with operations `ω`, their results `ρ`, and clock readings `τ`. -/
structure Machine (σ ω ρ τ : Type) where
  act : σ → Act ω
  resume : σ → ρ → σ
  read : σ → τ → σ

inductive Event (ρ τ : Type) where
  | result (r : ρ)
  | time (t : τ)
  deriving DecidableEq

def Event.isResult {ρ τ : Type} : Event ρ τ → Bool
  | .result _ => true
  | .time _ => false

variable {σ ω ρ τ : Type}
def readings : List (Event ρ τ) → List τ
  | [] => []
  | .result _ :: es => readings es
  | .time t :: es => t :: readings es

variable (m : Machine σ ω ρ τ)

/-- The events answer what the program does. -/
def Runs : σ → List (Event ρ τ) → Prop
  | _, [] => True
  | s, .result r :: es => (m.act s).isOp = true ∧ Runs (m.resume s r) es
  | s, .time t :: es => m.act s = .clock ∧ Runs (m.read s t) es

instance decidableRuns [DecidableEq ω] : ∀ (s : σ) (es : List (Event ρ τ)), Decidable (Runs m s es)
  | _, [] => .isTrue trivial
  | s, .result r :: es =>
    have := decidableRuns (m.resume s r) es
    inferInstanceAs (Decidable (_ ∧ _))
  | s, .time t :: es =>
    have := decidableRuns (m.read s t) es
    inferInstanceAs (Decidable (_ ∧ _))

def journal : σ → List (Event ρ τ) → List (ω × ρ)
  | _, [] => []
  | s, .result r :: es =>
    match m.act s with
    | .op o => (o, r) :: journal (m.resume s r) es
    | _ => []
  | s, .time t :: es => journal (m.read s t) es

/-- Read the clock until the program does something else. -/
def settle (s : σ) : List τ → Option (σ × List τ)
  | [] =>
    match m.act s with
    | .clock => none
    | _ => some (s, [])
  | t :: ts =>
    match m.act s with
    | .clock => settle (m.read s t) ts
    | _ => some (s, t :: ts)

/-- The operations that a re-execution issues while the journal lasts; each gets the recorded
result. -/
def reissue : List (ω × ρ) → σ → List τ → List ω
  | [], _, _ => []
  | (_, r) :: recorded, s, ts =>
    match settle m s ts with
    | none => []
    | some (s', ts') =>
      match m.act s' with
      | .op o => o :: reissue recorded (m.resume s' r) ts'
      | _ => []

/-- Every reading that was followed by an operation is the same as the one in the re-execution. -/
def SameReads (same : σ → τ → τ → Prop) : σ → List (Event ρ τ) → List τ → Prop
  | _, [], _ => True
  | s, .result r :: es, ts => SameReads same (m.resume s r) es ts
  | _, .time _ :: _, [] => False
  | s, .time t :: es, t' :: ts => (es.any Event.isResult = true → same s t t') ∧ SameReads same (m.read s t) es ts

instance decidableSameReads (same : σ → τ → τ → Prop) [∀ s t t', Decidable (same s t t')] :
    ∀ (s : σ) (es : List (Event ρ τ)) (ts : List τ), Decidable (SameReads m same s es ts)
  | _, [], _ => .isTrue trivial
  | s, .result r :: es, ts => decidableSameReads same (m.resume s r) es ts
  | _, .time _ :: _, [] => .isFalse id
  | s, .time t :: es, _ :: ts =>
    have := decidableSameReads same (m.read s t) es ts
    inferInstanceAs (Decidable (_ ∧ _))

/-- Readings that are the same lead to the same state, others to different operations. -/
structure Branches (same : σ → τ → τ → Prop) : Prop where
  same_read : ∀ s t t', m.act s = .clock → same s t t' → m.read s t' = m.read s t
  different_op : ∀ s t t', m.act s = .clock → ¬ same s t t' →
    ∃ o o', m.act (m.read s t) = .op o ∧ m.act (m.read s t') = .op o' ∧ o ≠ o'

variable {m} {s : σ} {o : ω}
lemma settle_of_op (h : m.act s = .op o) (ts : List τ) : settle m s ts = some (s, ts) := by
  cases ts with
  | nil => simp [settle, h]
  | cons t ts => simp [settle, h]

lemma reissue_of_op (h : m.act s = .op o) (recorded : List (ω × ρ)) (o' : ω) (r : ρ) (ts : List τ) :
    reissue m ((o', r) :: recorded) s ts = o :: reissue m recorded (m.resume s r) ts := by
  simp only [reissue, settle_of_op h, h]

lemma reissue_of_clock (h : m.act s = .clock) (recorded : List (ω × ρ)) (t : τ) (ts : List τ) :
    reissue m recorded s (t :: ts) = reissue m recorded (m.read s t) ts := by
  cases recorded with
  | nil => rfl
  | cons entry recorded => simp only [reissue, settle, h]

variable {es : List (Event ρ τ)}
lemma journal_of_no_result : ∀ {s : σ}, es.any Event.isResult = false → journal m s es = [] := by
  induction es with
  | nil => exact fun _ => rfl
  | cons e es ih =>
    intro s h
    cases e with
    | result r => simp [Event.isResult] at h
    | time t => exact ih (by simpa [Event.isResult] using h)

variable {same : σ → τ → τ → Prop}
lemma sameReads_of_no_result :
    ∀ {s : σ} {ts : List τ}, es.any Event.isResult = false → ts.length = (readings es).length →
      SameReads m same s es ts := by
  induction es with
  | nil => exact fun _ _ => trivial
  | cons e es ih =>
    intro s ts h hlen
    cases e with
    | result r => simp [Event.isResult] at h
    | time t =>
      have hrest : es.any Event.isResult = false := by simpa [Event.isResult] using h
      cases ts with
      | nil => simp [readings] at hlen
      | cons t' ts =>
        refine ⟨fun hsome => ?_, ih hrest (by simpa [readings] using hlen)⟩
        rw [hrest] at hsome
        cases hsome

/-- A re-execution issues the recorded operations exactly if it reads the clock as the recorded
execution did, wherever an operation followed. -/
lemma reissue_eq_iff (hm : Branches m same) (es : List (Event ρ τ)) :
    ∀ (s : σ) (ts : List τ), Runs m s es → ts.length = (readings es).length →
      (reissue m (journal m s es) s ts = (journal m s es).map Prod.fst ↔ SameReads m same s es ts) := by
  induction es with
  | nil => exact fun s ts _ _ => ⟨fun _ => trivial, fun _ => rfl⟩
  | cons e es ih =>
    intro s ts hruns hlen
    cases e with
    | result r =>
      obtain ⟨hop, hruns⟩ := hruns
      cases hact : m.act s with
      | clock => simp [hact, Act.isOp] at hop
      | halt => simp [hact, Act.isOp] at hop
      | op o =>
        have hjournal : journal m s (.result r :: es) = (o, r) :: journal m (m.resume s r) es := by
          simp only [journal, hact]
        rw [hjournal, reissue_of_op hact, List.map_cons, List.cons.injEq]
        simp only [true_and]
        exact ih (m.resume s r) ts hruns hlen
    | time t =>
      obtain ⟨hclock, hruns⟩ := hruns
      cases ts with
      | nil => simp [readings] at hlen
      | cons t' ts =>
        have hlen' : ts.length = (readings es).length := by simpa [readings] using hlen
        cases hsome : es.any Event.isResult with
        | false =>
          -- nothing was recorded after the reading
          have hnil : journal m s (.time t :: es) = [] := journal_of_no_result hsome
          rw [hnil]
          exact ⟨fun _ => sameReads_of_no_result (by simpa [Event.isResult] using hsome) hlen, fun _ => rfl⟩
        | true =>
          have hjournal : journal m s (.time t :: es) = journal m (m.read s t) es := rfl
          rw [hjournal, reissue_of_clock hclock]
          by_cases hsame : same s t t'
          · rw [hm.same_read s t t' hclock hsame, ih (m.read s t) ts hruns hlen']
            exact ⟨fun h => ⟨fun _ => hsame, h⟩, fun h => h.2⟩
          · obtain ⟨o, o', ho, ho', hne⟩ := hm.different_op s t t' hclock hsame
            refine ⟨fun heq => ?_, fun h => absurd (h.1 hsome) hsame⟩
            -- the next recorded operation is `o`, the one issued is `o'`
            cases es with
            | nil => cases hsome
            | cons e es =>
              cases e with
              | time t₂ =>
                have hclock₂ := hruns.1
                rw [ho] at hclock₂
                cases hclock₂
              | result r =>
                have hnext : journal m (m.read s t) (.result r :: es) =
                    (o, r) :: journal m (m.resume (m.read s t) r) es := by simp only [journal, ho]
                rw [hnext, reissue_of_op ho', List.map_cons] at heq
                exact absurd (List.cons.inj heq).1.symm hne

end Replay
