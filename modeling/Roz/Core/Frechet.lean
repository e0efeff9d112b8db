import Roz.Core.Dtw
import Mathlib.Data.Finset.Max

/-!
# Discrete Fréchet distance (`sim2real/frechet.rs`)

What a cell of the matrix holds is at most `r` iff some coupling up to it stays within `r`
(`ca_le_iff`), so the last cell is the shortest leash (`discreteFrechet_isLeast`).
-/

namespace Roz.Core.Frechet
open List
open Dtw.Series (Advance)
variable {α β D : Type} [LinearOrder D] (dist : Nat → Nat → D)
def firstRow : Nat → D
  | 0 => dist 0 0
  | j + 1 => max (firstRow j) (dist 0 (j + 1))

def nextRow (i : Nat) (above : Nat → D) : Nat → D
  | 0 => max (above 0) (dist i 0)
  | j + 1 => max (min (min (above (j + 1)) (nextRow i above j)) (above j)) (dist i (j + 1))

def ca : Nat → Nat → D
  | 0 => firstRow dist
  | i + 1 => nextRow dist (i + 1) (ca i)

variable (distance : α → β → D)
def between (x : α) (p : List α) (y : β) (q : List β) (i j : Nat) : D :=
  distance ((x :: p).getD i x) ((y :: q).getD j y)

def discreteFrechet : List α → List β → Option D
  | x :: p, y :: q => some (ca (between distance x p y q) p.length q.length)
  | _, _ => none

/-- A monotone path from the first pair to `(i, j)`. -/
inductive Coupling : Nat → Nat → List (Nat × Nat) → Prop
  | start : Coupling 0 0 [(0, 0)]
  | step {i j i' j' : Nat} {path : List (Nat × Nat)} (h : Coupling i j path) (hadvance : Advance (i, j) (i', j')) :
    Coupling i' j' (path ++ [(i', j')])

lemma Coupling.mem {i j path} (h : Coupling i j path) : (i, j) ∈ path := by cases h <;> simp

/-! ## The matrix -/

lemma advance_induction {P : Nat → Nat → Prop} (h : ∀ i j, (∀ {i' j'}, Advance (i', j') (i, j) → P i' j') → P i j) :
    ∀ i j, P i j := by
  intro i j
  induction hn : i + j using Nat.strong_induction_on generalizing i j with
  | h n ih => exact h i j fun hadvance => ih _ (by unfold Advance at hadvance; grind) _ _ rfl

variable {dist} {r : D}
lemma ca_step {i j} : ca dist i j ≤ r ↔
    dist i j ≤ r ∧ (i = 0 ∧ j = 0 ∨ ∃ i' j', Advance (i', j') (i, j) ∧ ca dist i' j' ≤ r) := by
  cases i with
  | zero =>
    cases j with
    | zero => simp [ca, firstRow]
    | succ j => simp [ca, firstRow, Advance, and_comm]
  | succ i =>
    cases j with
    | zero => simp [ca, nextRow, Advance, and_comm]
    | succ j =>
      have hcell : ca dist (i + 1) (j + 1) =
          max (min (min (ca dist i (j + 1)) (ca dist (i + 1) j)) (ca dist i j)) (dist (i + 1) (j + 1)) := rfl
      simp only [hcell, sup_le_iff, inf_le_iff, Advance]
      grind

lemma ca_le_iff {i j} : ca dist i j ≤ r ↔ ∃ path, Coupling i j path ∧ ∀ c ∈ path, dist c.1 c.2 ≤ r := by
  constructor
  · intro h
    induction i, j using advance_induction with
    | h i j ih =>
      obtain ⟨hdist, ⟨rfl, rfl⟩ | ⟨i', j', hadvance, hprev⟩⟩ := ca_step.1 h
      · exact ⟨_, .start, by simpa using hdist⟩
      · obtain ⟨path, hpath, hle⟩ := ih hadvance hprev
        exact ⟨_, hpath.step hadvance, forall_mem_append.2 ⟨hle, by simpa using hdist⟩⟩
  · rintro ⟨path, hpath, hle⟩
    induction hpath with
    | start => exact ca_step.2 ⟨hle (0, 0) (.head _), .inl ⟨rfl, rfl⟩⟩
    | step h hadvance ih =>
      obtain ⟨hfront, hlast⟩ := forall_mem_append.1 hle
      exact ca_step.2 ⟨hlast _ (.head _), .inr ⟨_, _, hadvance, ih hfront⟩⟩

lemma ca_swap : ∀ i j, ca dist i j ≤ r → ca (fun i j => dist j i) j i ≤ r := by
  refine advance_induction fun i j ih h => ?_
  obtain ⟨hdist, ⟨rfl, rfl⟩ | ⟨i', j', hadvance, hprev⟩⟩ := ca_step.1 h
  · exact ca_step.2 ⟨hdist, .inl ⟨rfl, rfl⟩⟩
  · exact ca_step.2 ⟨hdist, .inr ⟨j', i', by unfold Advance at *; grind, ih hadvance hprev⟩⟩

/-- A row that is read again adds nothing: its cells hold what the cells above them hold. -/
lemma ca_stretch {f : Nat → Nat} (hzero : f 0 = 0) (hf : ∀ i, f (i + 1) = f i ∨ f (i + 1) = f i + 1) :
    ∀ i j, ca (fun i j => dist (f i) j) i j ≤ r ↔ ca dist (f i) j ≤ r := by
  refine advance_induction fun i j ih => ⟨fun h => ?_, fun h => ?_⟩
  · obtain ⟨hdist, ⟨rfl, rfl⟩ | ⟨i', j', hadvance, hprev⟩⟩ := ca_step.1 h
    · exact ca_step.2 ⟨hdist, .inl ⟨hzero, rfl⟩⟩
    · have hprev := (ih hadvance).1 hprev
      -- a step between two copies of a point is no step of the shorter curve
      by_cases hsame : f i' = f i ∧ j' = j
      · rwa [hsame.1, hsame.2] at hprev
      · exact ca_step.2 ⟨hdist, .inr ⟨_, _, by unfold Advance at *; grind, hprev⟩⟩
  · obtain ⟨hdist, hcases⟩ := ca_step.1 h
    have hprev {i' j' : Nat} (hadvance : Advance (i', j') (i, j)) (hle : ca dist (f i') j' ≤ r) :
        ca (fun i j => dist (f i) j) i j ≤ r :=
      ca_step.2 ⟨hdist, .inr ⟨i', j', hadvance, (ih hadvance).2 hle⟩⟩
    cases i with
    | zero =>
      rw [hzero] at hcases
      rcases hcases with ⟨-, rfl⟩ | ⟨i', j', hadvance, hle⟩
      · exact ca_step.2 ⟨hdist, .inl ⟨rfl, rfl⟩⟩
      · rcases hadvance with h | h | h <;> cases h
        exact hprev (.inr (.inl rfl)) (by rwa [hzero])
    | succ i =>
      rcases hf i with hsame | hnext
      · exact hprev (.inl rfl) (hsame ▸ h)
      · rw [hnext] at hcases
        rcases hcases with ⟨h, -⟩ | ⟨i', j', h | h | h, hle⟩ <;> cases h
        · exact hprev (.inl rfl) hle
        · exact hprev (.inr (.inl rfl)) (hnext ▸ hle)
        · exact hprev (.inr (.inr rfl)) hle

/-! ## Curves -/

variable {distance}
lemma discreteFrechet_swap (p : List α) (q : List β) :
    discreteFrechet distance p q = discreteFrechet (fun y x => distance x y) q p := by
  cases p with
  | nil => cases q <;> rfl
  | cons x p =>
    cases q with
    | nil => rfl
    | cons y q => exact congrArg some (eq_of_forall_ge_iff fun r => ⟨ca_swap _ _, ca_swap _ _⟩)

/-- The index that a point had before the one at `k` was repeated. -/
def unrepeat (k i : Nat) : Nat := if i ≤ k then i else i - 1

lemma discreteFrechet_repeat (pre post : List α) (x : α) (q : List β) :
    discreteFrechet distance (pre ++ x :: x :: post) q = discreteFrechet distance (pre ++ x :: post) q := by
  have hget (a : α) (i : Nat) :
      (pre ++ x :: x :: post).getD i a = (pre ++ x :: post).getD (unrepeat pre.length i) a := by
    unfold unrepeat
    grind
  cases q with
  | nil => cases pre <;> rfl
  | cons y q =>
    have hstretch {first : α} {left right : List α} (hlast : unrepeat pre.length left.length = right.length)
        (hsame : ∀ i, (first :: left).getD i first = (first :: right).getD (unrepeat pre.length i) first) :
        discreteFrechet distance (first :: left) (y :: q) = discreteFrechet distance (first :: right) (y :: q) := by
      have hdist : between distance first left y q =
          fun i j => between distance first right y q (unrepeat pre.length i) j :=
        funext₂ fun i j => congrArg (distance · _) (hsame i)
      refine congrArg some (eq_of_forall_ge_iff fun r => ?_)
      rw [hdist, ca_stretch (f := unrepeat pre.length) (by simp [unrepeat]) (by unfold unrepeat; grind), hlast]
    cases pre with
    | nil => exact hstretch rfl (hget x)
    | cons first pre => exact hstretch (by simp [unrepeat]) (hget first)

/-- The last cell is the shortest leash; neither the order of the curves matters nor how often a point is
repeated. -/
theorem discreteFrechet_isLeast {α D : Type} [LinearOrder D] (distance : α → α → D) :
    (∀ x p y q, ∃ leash, discreteFrechet distance (x :: p) (y :: q) = some leash ∧
      IsLeast {m | ∃ path, Coupling p.length q.length path ∧
        IsGreatest {d | ∃ c ∈ path, d = between distance x p y q c.1 c.2} m} leash) ∧
    ((∀ x y, distance x y = distance y x) → ∀ p q, discreteFrechet distance p q = discreteFrechet distance q p) ∧
    ∀ pre x post q,
      discreteFrechet distance (pre ++ x :: x :: post) q = discreteFrechet distance (pre ++ x :: post) q ∧
      discreteFrechet distance q (pre ++ x :: x :: post) = discreteFrechet distance q (pre ++ x :: post) := by
  refine ⟨fun x p y q => ⟨_, rfl, ?_, ?_⟩, fun hsymm p q => ?_, fun pre x post q => ⟨?_, ?_⟩⟩
  · obtain ⟨path, hpath, hle⟩ := ca_le_iff.1 (le_refl (ca (between distance x p y q) p.length q.length))
    obtain ⟨c, hc, hmax⟩ := path.toFinset.exists_max_image (fun c => between distance x p y q c.1 c.2)
      ⟨_, mem_toFinset.2 hpath.mem⟩
    simp only [mem_toFinset] at hc hmax
    refine ⟨path, hpath, ⟨c, hc, ?_⟩, ?_⟩
    · exact (ca_le_iff.2 ⟨path, hpath, hmax⟩).antisymm (hle c hc)
    · rintro d ⟨c', hc', rfl⟩
      exact hle c' hc'
  · rintro m ⟨path, hpath, -, hupper⟩
    exact ca_le_iff.2 ⟨path, hpath, fun c hc => hupper ⟨c, hc, rfl⟩⟩
  · rw [discreteFrechet_swap, show (fun y x => distance x y) = distance from funext₂ fun y x => hsymm x y]
  · exact discreteFrechet_repeat pre post x q
  · rw [discreteFrechet_swap, discreteFrechet_repeat, ← discreteFrechet_swap]

end Roz.Core.Frechet
