import Roz.Agent.Safety
import Mathlib.Data.List.Induction
import Mathlib.Algebra.Order.Group.Int

/-!
# The rate guard (`roz-agent/src/safety/guards/rate.rs`)

The history is what was allowed within the window (`Tracks`), so no closed interval of the window's
length has more than that (`allowed_window`).  How the reason writes the window is a parameter.
-/

namespace Roz.Agent
open List

/-- Instants and the window are nanoseconds, instants since the clock's origin. -/
structure RateGuard where
  maxCalls : Nat
  window : Nat
  history : List Nat

namespace RateGuard

def new (maxCalls window : Nat) : RateGuard := ⟨maxCalls, window, []⟩

/-- The history without what is older than the window, if the window does not reach beyond the origin. -/
def recent (g : RateGuard) (now : Nat) : List Nat :=
  if g.window ≤ now then g.history.dropWhile (· < now - g.window) else g.history

variable (seconds : Nat → String)
def check (g : RateGuard) (now : Nat) : SafetyVerdict × RateGuard :=
  let history := g.recent now
  if g.maxCalls ≤ history.length then
    (.block ("rate limit exceeded: " ++ toString history.length ++ " calls in " ++
        seconds g.window ++ "s window (max " ++ toString g.maxCalls ++ ")"),
      { g with history })
  else (.allow, { g with history := history ++ [now] })

/-- The guard after checks at the given instants, and the instants at which it allowed a call. -/
def checks (g : RateGuard) (instants : List Nat) : RateGuard × List Nat :=
  instants.foldl (fun (g, allowed) now =>
    match g.check seconds now with
    | (.allow, g) => (g, allowed ++ [now])
    | (_, g) => (g, allowed)) (g, [])

def inInterval (a : ℤ) (length u : Nat) : Bool := decide (a ≤ u ∧ (u : ℤ) ≤ a + length)

/-- The history is what was allowed within the window before the last check. -/
structure Tracks (maxCalls window : Nat) (g : RateGuard) (allowed : List Nat) (last : Nat) : Prop where
  maxCalls_eq : g.maxCalls = maxCalls
  window_eq : g.window = window
  history_eq : g.history = allowed.filter (last ≤ · + window)
  sorted : allowed.Pairwise (· ≤ ·)
  le_last : ∀ u ∈ allowed, u ≤ last
  bounded : ∀ a, allowed.countP (inInterval a window) ≤ maxCalls

variable {maxCalls window : Nat} {g : RateGuard} {allowed : List Nat} {last : Nat}
lemma dropWhile_eq_filter (cutoff : Nat) {l : List Nat} (h : l.Pairwise (· ≤ ·)) :
    l.dropWhile (· < cutoff) = l.filter (cutoff ≤ ·) := by
  induction l with
  | nil => rfl
  | cons u l ih =>
    rw [pairwise_cons] at h
    by_cases hu : u < cutoff
    · rw [dropWhile_cons_of_pos (by simpa using hu), filter_cons_of_neg (by simpa using hu), ih h.2]
    · rw [dropWhile_cons_of_neg (by simpa using hu)]
      refine (filter_eq_self.2 fun v hv => ?_).symm
      rcases mem_cons.1 hv with rfl | hmem
      · simpa using hu
      · have := h.1 v hmem
        simp only [decide_eq_true_eq]
        omega

variable {now : Nat}
lemma Tracks.recent_eq (h : Tracks maxCalls window g allowed last) (hnow : last ≤ now) :
    g.recent now = allowed.filter (now ≤ · + window) := by
  unfold recent
  rw [h.window_eq, h.history_eq]
  by_cases hw : window ≤ now
  · rw [if_pos hw, dropWhile_eq_filter _ (h.sorted.filter _), filter_filter]
    refine filter_congr fun u _ => ?_
    rw [← Bool.decide_and]
    refine decide_eq_decide.2 ?_
    omega
  · rw [if_neg hw]
    refine filter_congr fun u _ => decide_eq_decide.2 ?_
    omega

lemma Tracks.refuse (h : Tracks maxCalls window g allowed last) (hnow : last ≤ now) :
    Tracks maxCalls window { g with history := g.recent now } allowed now :=
  { h with
    history_eq := h.recent_eq hnow
    le_last := fun u hu => (h.le_last u hu).trans hnow }

lemma Tracks.allow (h : Tracks maxCalls window g allowed last) (hnow : last ≤ now)
    (hroom : (g.recent now).length < maxCalls) :
    Tracks maxCalls window { g with history := g.recent now ++ [now] } (allowed ++ [now]) now where
  maxCalls_eq := h.maxCalls_eq
  window_eq := h.window_eq
  history_eq := by
    rw [h.recent_eq hnow, filter_append]
    simp
  sorted := by
    rw [pairwise_append]
    refine ⟨h.sorted, pairwise_singleton _ _, fun u hu v hv => ?_⟩
    rw [mem_singleton.1 hv]
    exact (h.le_last u hu).trans hnow
  le_last u hu := by
    rcases mem_append.1 hu with hu | hu
    · exact (h.le_last u hu).trans hnow
    · exact (mem_singleton.1 hu).le
  bounded a := by
    rw [countP_append, countP_singleton]
    by_cases hin : inInterval a window now = true
    · -- whatever else lies in the interval lies in the window before `now`
      have hle : allowed.countP (inInterval a window) ≤ allowed.countP (now ≤ · + window) := by
        refine countP_mono_left fun u _ hu => ?_
        simp only [inInterval, decide_eq_true_eq] at hin hu ⊢
        omega
      rw [h.recent_eq hnow, ← countP_eq_length_filter] at hroom
      rw [if_pos hin]
      omega
    · rw [if_neg hin]
      exact h.bounded a

lemma tracks_checks (seconds : Nat → String) (maxCalls window : Nat) {instants}
    (hsorted : instants.Pairwise (· ≤ ·)) : ∃ last, (∀ now, (∀ u ∈ instants, u ≤ now) → last ≤ now) ∧
      Tracks maxCalls window ((new maxCalls window).checks seconds instants).1
        ((new maxCalls window).checks seconds instants).2 last := by
  induction instants using List.reverseRecOn with
  | nil => exact ⟨0, fun _ _ => Nat.zero_le _, rfl, rfl, rfl, .nil, nofun, fun _ => Nat.zero_le _⟩
  | append_singleton instants now ih =>
    rw [pairwise_append] at hsorted
    obtain ⟨last, hlast, htracks⟩ := ih hsorted.1
    have hnow : last ≤ now := hlast now fun u hu => hsorted.2.2 u hu now (mem_singleton_self now)
    refine ⟨now, fun later hlater => hlater now (by simp), ?_⟩
    unfold checks at htracks ⊢
    rw [foldl_concat]
    generalize instants.foldl _ _ = state at htracks ⊢
    obtain ⟨g, allowed⟩ := state
    dsimp only [check] at htracks ⊢
    by_cases hfull : g.maxCalls ≤ (g.recent now).length
    · rw [if_pos hfull]
      exact htracks.refuse hnow
    · rw [if_neg hfull]
      exact htracks.allow hnow (by rw [← htracks.maxCalls_eq]; omega)

/-- No closed interval of the window's length has more than `maxCalls` allowed checks, and a check is
blocked only if the window before it has just as many. -/
theorem allowed_window (seconds : Nat → String) (maxCalls window : Nat) (instants : List Nat)
    (hsorted : instants.Pairwise (· ≤ ·)) :
    (∀ a, ((new maxCalls window).checks seconds instants).2.countP (inInterval a window) ≤ maxCalls) ∧
    ∀ before now after, instants = before ++ now :: after →
      (((new maxCalls window).checks seconds before).1.check seconds now).1 ≠ .allow →
      ((new maxCalls window).checks seconds before).2.countP (inInterval (now - window) window) = maxCalls := by
  constructor
  · obtain ⟨last, -, htracks⟩ := tracks_checks seconds maxCalls window hsorted
    exact htracks.bounded
  · rintro before now after rfl hblocked
    rw [pairwise_append] at hsorted
    obtain ⟨last, hlast, htracks⟩ := tracks_checks seconds maxCalls window hsorted.1
    have hnow : last ≤ now := hlast now fun u hu => hsorted.2.2 u hu now (mem_cons_self ..)
    refine le_antisymm (htracks.bounded _) ?_
    have hfull : maxCalls ≤ (((new maxCalls window).checks seconds before).1.recent now).length := by
      by_contra hroom
      refine hblocked ?_
      rw [check, if_neg (by rwa [htracks.maxCalls_eq])]
    rw [htracks.recent_eq hnow, ← countP_eq_length_filter] at hfull
    refine hfull.trans (countP_mono_left fun u hu hin => ?_)
    have := htracks.le_last u hu
    simp only [inInterval, decide_eq_true_eq] at hin ⊢
    omega

theorem allowed_window_burst : ((new 2 5).checks toString [0, 0, 3, 9]).2 = [0, 0, 9] ∧
      ∀ a, ((new 2 5).checks toString [0, 0, 3, 9]).2.countP (inInterval a 5) ≤ 2 :=
  ⟨by decide, (allowed_window toString 2 5 [0, 0, 3, 9] (by decide)).1⟩

end RateGuard
end Roz.Agent
