import Mathlib.Data.Nat.Find
import Mathlib.Order.Monotone.Basic

/-!
# Infinite runs with time stamps

A machine `step s now i` is driven by inputs, each at an instant; `state (i + 1)` is the state from
instant `time i` on.  A run says nothing about which inputs come: fairness is `Responds ready p d`,
in a state that is `ready` an input with `p` comes within `d`.

    what each step keeps holds until a step that does not keep it  (Run.stays)
    the first input with `p` comes no later than any  (Run.exists_first)
    a target that is `n` inputs with `p` away is reached within (n + 1) · d  (Responds.countdown)
-/

namespace TimedRun

structure Run {σ ι : Type} (step : σ → Nat → ι → σ) where
  state : Nat → σ
  input : Nat → ι
  time : Nat → Nat
  next : ∀ i, state (i + 1) = step (state i) (time i) (input i)
  mono : Monotone time
  unbounded : ∀ t, ∃ i, t ≤ time i

variable {σ ι : Type} {step : σ → Nat → ι → σ} (r : Run step)

namespace Run

/-- The state after step `i` keeps `P` as long as the steps do. -/
lemma stays {P : σ → Prop} {i j} (hij : i < j) (h : P (r.state (i + 1)))
    (hstep : ∀ k, i < k → k < j → P (r.state k) → P (r.state (k + 1))) : P (r.state j) := by
  induction j, hij using Nat.le_induction with
  | base => exact h
  | succ j hij ih =>
    exact hstep j hij (Nat.lt_succ_self j) (ih fun k hik hkj => hstep k hik (Nat.lt_succ_of_lt hkj))

open Classical in
lemma exists_first {p : ι → Prop} {i j} (hij : i < j) (hp : p (r.input j)) :
    ∃ k, i < k ∧ k ≤ j ∧ p (r.input k) ∧ ∀ l, i < l → l < k → ¬ p (r.input l) := by
  have hex : ∃ k, i < k ∧ p (r.input k) := ⟨j, hij, hp⟩
  refine ⟨Nat.find hex, (Nat.find_spec hex).1, Nat.find_min' hex ⟨hij, hp⟩, (Nat.find_spec hex).2, ?_⟩
  intro l hil hlk hpl
  exact Nat.find_min hex hlk ⟨hil, hpl⟩

end Run

/-- An input with `p` comes within `d` of the instant since which the state is `ready`. -/
def Responds (ready : σ → Prop) (p : ι → Prop) (d : Nat) : Prop :=
  ∀ i, ready (r.state (i + 1)) → ∃ j, i < j ∧ p (r.input j) ∧ r.time j ≤ r.time i + d

variable {r}

/-- `away n` is kept by every step but those with `p`; each of these brings the target one closer. -/
lemma Responds.countdown {ready} {p : ι → Prop} {d} (hr : Responds r ready p d)
    {away : Nat → σ → Prop} {goal : Nat → Prop} (i₀ : Nat) (hready : ∀ n s, away n s → ready s)
    (hother : ∀ n k, i₀ < k → ¬ p (r.input k) → away n (r.state k) → away n (r.state (k + 1)))
    (hclose : ∀ n k, i₀ < k → p (r.input k) → away n (r.state k) →
      goal k ∨ ∃ m, n = m + 1 ∧ away m (r.state (k + 1))) :
    ∀ n i, i₀ ≤ i → away n (r.state (i + 1)) → ∃ j, i < j ∧ goal j ∧ r.time j ≤ r.time i + (n + 1) * d := by
  intro n
  induction n with
  | zero =>
    intro i hi haway
    obtain ⟨j, hij, hp, htime⟩ := hr i (hready 0 _ haway)
    obtain ⟨k, hik, hkj, hpk, hfirst⟩ := r.exists_first hij hp
    have hat : away 0 (r.state k) := r.stays hik haway fun l hil hlk => hother 0 l (by omega) (hfirst l hil hlk)
    rcases hclose 0 k (by omega) hpk hat with hgoal | ⟨m, hm, -⟩
    · refine ⟨k, hik, hgoal, ?_⟩
      have := r.mono hkj
      omega
    · omega
  | succ n ih =>
    intro i hi haway
    obtain ⟨j, hij, hp, htime⟩ := hr i (hready (n + 1) _ haway)
    obtain ⟨k, hik, hkj, hpk, hfirst⟩ := r.exists_first hij hp
    have hat : away (n + 1) (r.state k) :=
      r.stays hik haway fun l hil hlk => hother (n + 1) l (by omega) (hfirst l hil hlk)
    have hktime := r.mono hkj
    have hmul : (n + 1 + 1) * d = (n + 1) * d + d := by rw [Nat.add_mul, Nat.one_mul]
    rcases hclose (n + 1) k (by omega) hpk hat with hgoal | ⟨m, hm, hcloser⟩
    · exact ⟨k, hik, hgoal, by omega⟩
    · obtain rfl : m = n := by omega
      obtain ⟨l, hkl, hgoal, hltime⟩ := ih k (by omega) hcloser
      exact ⟨l, by omega, hgoal, by omega⟩

end TimedRun
