import Mathlib.Data.List.Basic

/-!
# Machines that emit

`f s a` takes one input and returns the next state and what is emitted.  `run f s as` takes a list
of inputs and concatenates the emissions.

    a run over `as ++ bs` is a run over `as` followed by one over `bs`  (run_append)
    a machine that takes each input apart runs as the one that takes the parts  (run_flatMap)

`EachStep f ok s as`: every input of the run meets `ok` in the state it finds.  `Along f P s as`: `P`
holds in every state of the run.

    each step keeps `P` just if it meets `ok` → `P` holds along a run just if each step does  (along_iff)
    what each step keeps, of the state and all that was emitted, holds at the end  (EachStep.invariant)
-/

namespace Emitter
variable {σ α ε : Type}
def run (f : σ → α → σ × List ε) : σ → List α → σ × List ε
  | s, [] => (s, [])
  | s, a :: as => ((run f (f s a).1 as).1, (f s a).2 ++ (run f (f s a).1 as).2)

variable (f : σ → α → σ × List ε)
@[simp] lemma run_nil (s : σ) : run f s [] = (s, []) := rfl

lemma run_cons (s : σ) (a : α) (as : List α) :
    run f s (a :: as) = ((run f (f s a).1 as).1, (f s a).2 ++ (run f (f s a).1 as).2) := rfl

lemma run_append (as bs : List α) :
    ∀ s, run f s (as ++ bs) = ((run f (run f s as).1 bs).1, (run f s as).2 ++ (run f (run f s as).1 bs).2) := by
  induction as with
  | nil => exact fun s => rfl
  | cons a as ih =>
    intro s
    rw [List.cons_append, run_cons, run_cons, ih]
    simp only [List.append_assoc]

/-- Inputs that stand for lists of other inputs. -/
lemma run_flatMap {β : Type} {f : σ → α → σ × List ε} {g items}
    (h : ∀ s b, g s b = run f s (items b)) (bs : List β) : ∀ s, run g s bs = run f s (bs.flatMap items) := by
  induction bs with
  | nil => exact fun s => rfl
  | cons b bs ih =>
    intro s
    rw [List.flatMap_cons, run_append, run_cons, ih, h]

/-! ## Conditions on every step -/

def EachStep (f : σ → α → σ × List ε) (ok : σ → α → Prop) : σ → List α → Prop
  | _, [] => True
  | s, a :: as => ok s a ∧ EachStep f ok (f s a).1 as

def Along (f : σ → α → σ × List ε) (P : σ → Prop) : σ → List α → Prop
  | s, [] => P s
  | s, a :: as => P s ∧ Along f P (f s a).1 as

variable {f : σ → α → σ × List ε} {ok : σ → α → Prop} {as : List α} {P : σ → Prop}
lemma Along.head {s : σ} (h : Along f P s as) : P s := by
  cases as with
  | nil => exact h
  | cons a as => exact h.1

lemma Along.last : ∀ {s}, Along f P s as → P (run f s as).1 := by
  induction as with
  | nil => exact fun h => h
  | cons a as ih => exact fun h => ih h.2

/-- `I` is kept by every step, whether or not it meets the condition. -/
lemma along_iff {I P : σ → Prop} (hI : ∀ s a, I s → I (f s a).1)
    (hstep : ∀ s a, I s → P s → (P (f s a).1 ↔ ok s a)) (as : List α) :
    ∀ s, I s → P s → (Along f P s as ↔ EachStep f ok s as) := by
  induction as with
  | nil => exact fun s _ hP => iff_of_true hP trivial
  | cons a as ih =>
    intro s hIs hP
    constructor
    · rintro ⟨-, h⟩
      exact ⟨(hstep s a hIs hP).1 h.head, (ih _ (hI s a hIs) h.head).1 h⟩
    · rintro ⟨hok, h⟩
      have hnext := (hstep s a hIs hP).2 hok
      exact ⟨hP, (ih _ (hI s a hIs) hnext).2 h⟩

/-- What follows in one step from an invariant and the condition holds of every step. -/
lemma EachStep.imp {ok'} {I : σ → Prop} (hI : ∀ s a, I s → ok s a → I (f s a).1)
    (h : ∀ s a, I s → ok s a → ok' s a) : ∀ {s}, I s → EachStep f ok s as → EachStep f ok' s as := by
  induction as with
  | nil => exact fun _ _ => trivial
  | cons a as ih => exact fun hs hok => ⟨h _ a hs hok.1, ih (hI _ a hs hok.1) hok.2⟩

lemma EachStep.append {as bs} : ∀ {s}, EachStep f ok s (as ++ bs) →
    EachStep f ok s as ∧ EachStep f ok (run f s as).1 bs := by
  induction as with
  | nil => exact fun h => ⟨trivial, h⟩
  | cons a as ih =>
    intro s h
    obtain ⟨has, hbs⟩ := ih h.2
    exact ⟨⟨h.1, has⟩, hbs⟩

lemma EachStep.invariant {I : σ → List ε → Prop}
    (hstep : ∀ s log a, I s log → ok s a → I (f s a).1 (log ++ (f s a).2)) :
    ∀ {s log}, EachStep f ok s as → I s log → I (run f s as).1 (log ++ (run f s as).2) := by
  induction as with
  | nil =>
    intro s log _ h
    rwa [run_nil, List.append_nil]
  | cons a as ih =>
    intro s log hok h
    have hnext := ih hok.2 (hstep s log a h hok.1)
    rwa [run_cons, ← List.append_assoc]

end Emitter
