import Mathlib.Data.List.Basic

/-!
# Loops that run until they stop

`step s i` takes one iteration with input `i`: the loop goes on, or stops with a result.
`runLoop step s is` is the result, or `none` if the inputs end before the loop does.

`EachCycle step ok s is`: every iteration of the loop is taken in a state and with an input that
satisfy `ok`.  Two rules, for an invariant that every iteration with a next one keeps:

    what holds when the loop stops in such a state holds of its result  (EachCycle.result)
    what holds at the stop ↔ `ok` there holds of the result ↔ `ok` in every iteration
                                                                             (EachCycle.result_iff)

and one for what every iteration does  (EachCycle.imp)

`collect step emit s is` is what the iterations of the loop emit, one after the other:

    what each iteration keeps of the state and all that was emitted, and its stop makes of it,
      holds of the result and of all that was emitted  (collect_ends, collect_result)
-/

namespace LoopRun

inductive Cycle (σ ρ : Type) where
  | next (s : σ)
  | stop (r : ρ)

variable {σ ι ρ : Type}
def runLoop (step : σ → ι → Cycle σ ρ) : σ → List ι → Option ρ
  | _, [] => none
  | s, i :: is =>
    match step s i with
    | .next s' => runLoop step s' is
    | .stop r => some r

/-- Every iteration that the loop takes satisfies `ok`. -/
def EachCycle (step : σ → ι → Cycle σ ρ) (ok : σ → ι → Prop) : σ → List ι → Prop
  | _, [] => True
  | s, i :: is => ok s i ∧ ∀ s', step s i = .next s' → EachCycle step ok s' is

def decidableEachCycle (step : σ → ι → Cycle σ ρ) (ok : σ → ι → Prop) [∀ s i, Decidable (ok s i)] :
    ∀ s is, Decidable (EachCycle step ok s is)
  | _, [] => .isTrue trivial
  | s, i :: is =>
    match h : step s i with
    | .next s' =>
      have := decidableEachCycle step ok s' is
      decidable_of_iff (ok s i ∧ EachCycle step ok s' is)
        (and_congr_right fun _ => ⟨fun hs s'' h' => by cases h.symm.trans h'; exact hs, fun hs => hs s' h⟩)
    | .stop _ =>
      decidable_of_iff (ok s i) ⟨fun hs => ⟨hs, fun _ h' => by cases h.symm.trans h'⟩, And.left⟩

instance (step : σ → ι → Cycle σ ρ) (ok : σ → ι → Prop) [∀ s i, Decidable (ok s i)] (s : σ) (is : List ι) :
    Decidable (EachCycle step ok s is) :=
  decidableEachCycle step ok s is

namespace EachCycle
variable {step : σ → ι → Cycle σ ρ} {side ok : σ → ι → Prop}
lemma of_forall (step : σ → ι → Cycle σ ρ) (is : List ι) : ∀ s, (∀ i ∈ is, ∀ s, ok s i) → EachCycle step ok s is := by
  induction is with
  | nil => exact fun _ _ => trivial
  | cons i is ih =>
    intro s h
    exact ⟨h i (.head _) s, fun s' _ => ih s' fun j hj => h j (.tail _ hj)⟩

variable (Inv : σ → Prop)

/-- What follows in one iteration from the invariant and the condition holds in every one. -/
lemma imp (hnext : ∀ s i s', Inv s → side s i → step s i = .next s' → Inv s')
    (hok : ∀ s i, Inv s → side s i → ok s i) (is : List ι) :
    ∀ s, Inv s → EachCycle step side s is → EachCycle step ok s is := by
  induction is with
  | nil => exact fun _ _ _ => trivial
  | cons i is ih =>
    intro s hs hside
    refine ⟨hok s i hs hside.1, fun s' hstep => ?_⟩
    exact ih s' (hnext s i s' hs hside.1 hstep) (hside.2 s' hstep)

/-- At the stop, `P` says that `ok` holds; before it, `ok` holds anyway. -/
lemma result_iff {r P} (hnext : ∀ s i s', Inv s → side s i → step s i = .next s' → ok s i ∧ Inv s')
    (hstop : ∀ s i, Inv s → side s i → step s i = .stop r → (P ↔ ok s i)) (is : List ι) :
    ∀ s, Inv s → EachCycle step side s is → runLoop step s is = some r → (P ↔ EachCycle step ok s is) := by
  induction is with
  | nil =>
    intro s _ _ hr
    cases hr
  | cons i is ih =>
    intro s hs hside hr
    rw [runLoop] at hr
    cases hstep : step s i with
    | next s' =>
      rw [hstep] at hr
      obtain ⟨hok, hs'⟩ := hnext s i s' hs hside.1 hstep
      rw [ih s' hs' (hside.2 s' hstep) hr]
      constructor
      · intro hrest
        refine ⟨hok, fun s'' hs'' => ?_⟩
        cases hstep.symm.trans hs''
        exact hrest
      · intro hall
        exact hall.2 s' hstep
    | stop r' =>
      rw [hstep] at hr
      cases hr
      rw [hstop s i hs hside.1 hstep]
      constructor
      · intro hok
        refine ⟨hok, fun s'' hs'' => ?_⟩
        cases hstep.symm.trans hs''
      · intro hall
        exact hall.1

lemma result {r} {P : Prop} (hnext : ∀ s i s', Inv s → side s i → step s i = .next s' → Inv s')
    (hstop : ∀ s i, Inv s → side s i → step s i = .stop r → P) (is : List ι) (s : σ) (hs : Inv s)
    (hside : EachCycle step side s is) (hr : runLoop step s is = some r) : P := by
  have hiff : P ↔ EachCycle step (fun _ _ => True) s is :=
    result_iff Inv (fun s i s' hs hi h => ⟨trivial, hnext s i s' hs hi h⟩)
      (fun s i hs hi h => iff_of_true (hstop s i hs hi h) trivial) is s hs hside hr
  exact hiff.2 (of_forall step is s fun _ _ _ => trivial)

end EachCycle

section Collect
variable {ε : Type}
def collect (step : σ → ι → Cycle σ ρ) (emit : σ → ι → List ε) : σ → List ι → List ε
  | _, [] => []
  | s, i :: is =>
    emit s i ++
      match step s i with
      | .next s' => collect step emit s' is
      | .stop _ => []

variable {step : σ → ι → Cycle σ ρ} {emit : σ → ι → List ε} {Inv : σ → List ε → Prop}

/-- The loop ends with its inputs or stops. -/
lemma collect_ends {P : ρ → List ε → Prop}
    (hnext : ∀ s log i s', Inv s log → step s i = .next s' → Inv s' (log ++ emit s i))
    (hstop : ∀ s log i r, Inv s log → step s i = .stop r → P r (log ++ emit s i)) (is : List ι) :
    ∀ s log, Inv s log → (runLoop step s is = none ∧ ∃ s', Inv s' (log ++ collect step emit s is)) ∨
      ∃ r, runLoop step s is = some r ∧ P r (log ++ collect step emit s is) := by
  induction is with
  | nil =>
    intro s log hs
    refine .inl ⟨rfl, s, ?_⟩
    rwa [collect, List.append_nil]
  | cons i is ih =>
    intro s log hs
    rw [runLoop, collect, ← List.append_assoc]
    cases hstep : step s i with
    | next s' => exact ih s' _ (hnext s log i s' hs hstep)
    | stop r =>
      refine .inr ⟨r, rfl, ?_⟩
      rw [List.append_nil]
      exact hstop s log i r hs hstep

lemma collect_result {r} {P : List ε → Prop}
    (hnext : ∀ s log i s', Inv s log → step s i = .next s' → Inv s' (log ++ emit s i))
    (hstop : ∀ s log i, Inv s log → step s i = .stop r → P (log ++ emit s i)) (is : List ι) (s : σ) (log : List ε)
    (hs : Inv s log) (hr : runLoop step s is = some r) : P (log ++ collect step emit s is) := by
  have hends := collect_ends (P := fun r' log => r' = r → P log) hnext
    (fun s log i r' hs hstep heq => hstop s log i hs (heq ▸ hstep)) is s log hs
  rcases hends with ⟨hnone, -⟩ | ⟨r', hr', hP⟩
  · rw [hnone] at hr
    cases hr
  · exact hP (Option.some.inj (hr'.symm.trans hr))

end Collect
end LoopRun
