import Mathlib.Data.List.Induction

/-!
# Nested brackets

Words over brackets of several kinds.  A word is nested if it consists of pairs, one inside the
other or one after the other.  `Leaves ks w` says that the brackets of the kinds `ks` are left
open at the end of `w`, innermost first, and all others are matched.

A stack of the open kinds decides it:

    run [] w = some ks ↔ Leaves ks w  (run_eq_some_iff)
    run [] w = none ↔ some closing bracket does not match the innermost open one  (run_eq_none_iff)
-/

namespace Nesting

inductive Bracket (κ : Type) where
  | opening (k : κ)
  | closing (k : κ)
  deriving DecidableEq

variable {κ : Type}
inductive Nested : List (Bracket κ) → Prop
  | nil : Nested []
  | wrap {k : κ} {a b : List (Bracket κ)} : Nested a → Nested b → Nested (.opening k :: a ++ .closing k :: b)

inductive Leaves : List κ → List (Bracket κ) → Prop
  | nested {w : List (Bracket κ)} : Nested w → Leaves [] w
  | opens {k : κ} {ks : List κ} {a w : List (Bracket κ)} :
      Leaves ks a → Nested w → Leaves (k :: ks) (a ++ .opening k :: w)

/-- Some closing bracket does not match the innermost open one. -/
def Mismatched (w : List (Bracket κ)) : Prop :=
  ∃ before k after ks, w = before ++ .closing k :: after ∧ Leaves ks before ∧ ks.head? ≠ some k

lemma Nested.append {a b : List (Bracket κ)} (ha : Nested a) (hb : Nested b) : Nested (a ++ b) := by
  induction ha with
  | nil => exact hb
  | wrap hinner _ _ ih =>
    rw [List.append_assoc, List.cons_append]
    exact .wrap hinner ih

variable {w : List (Bracket κ)}
lemma leaves_nil_iff : Leaves [] w ↔ Nested w := by
  constructor
  · rintro ⟨h⟩
    exact h
  · exact .nested

lemma Leaves.append {ks : List κ} {a w} (ha : Leaves ks a) (hw : Nested w) : Leaves ks (a ++ w) := by
  cases ha with
  | nested ha => exact .nested (ha.append hw)
  | opens ha hb =>
    rw [List.append_assoc, List.cons_append]
    exact .opens ha (hb.append hw)

lemma Leaves.opening {ks w} (h : Leaves ks w) (k : κ) : Leaves (k :: ks) (w ++ [.opening k]) := .opens h .nil

lemma Leaves.closing {k : κ} {ks w} (h : Leaves (k :: ks) w) : Leaves ks (w ++ [.closing k]) := by
  cases h with
  | @opens _ _ a inner ha hinner =>
    have hpair : Nested (.opening k :: inner ++ [.closing k]) := .wrap hinner .nil
    rw [List.append_assoc]
    exact ha.append hpair

lemma Leaves.close {ks} (h : Leaves ks w) : Nested (w ++ ks.map .closing) := by
  induction ks generalizing w with
  | nil =>
    rw [List.map_nil, List.append_nil]
    exact leaves_nil_iff.1 h
  | cons k ks ih =>
    rw [List.map_cons, List.append_cons]
    exact ih h.closing

section Stack
variable [DecidableEq κ] (stack : List κ)
def step : Bracket κ → Option (List κ)
  | .opening k => some (k :: stack)
  | .closing k => if stack.head? = some k then some stack.tail else none

def run : List κ → List (Bracket κ) → Option (List κ)
  | stack, [] => some stack
  | stack, b :: w => (step stack b).bind (run · w)

lemma run_cons (b : Bracket κ) (w : List (Bracket κ)) : run stack (b :: w) = (step stack b).bind (run · w) := rfl

lemma run_append (a w : List (Bracket κ)) : run stack (a ++ w) = (run stack a).bind (run · w) := by
  induction a generalizing stack with
  | nil => rfl
  | cons b a ih =>
    rw [List.cons_append, run_cons, run_cons]
    cases step stack b with
    | none => rfl
    | some stack' => exact ih stack'

lemma run_concat (w : List (Bracket κ)) (b : Bracket κ) : run stack (w ++ [b]) = (run stack w).bind (step · b) := by
  rw [run_append]
  congr 1
  funext s
  rw [run_cons]
  cases step s b with
  | none => rfl
  | some s' => rfl

variable {w : List (Bracket κ)}
lemma run_nested (h : Nested w) (stack : List κ) : run stack w = some stack := by
  induction h generalizing stack with
  | nil => rfl
  | @wrap k a b _ _ iha ihb =>
    have hopen : step stack (.opening k) = some (k :: stack) := rfl
    have hclose : step (k :: stack) (.closing k) = some stack := if_pos rfl
    rw [List.cons_append, run_cons, hopen, Option.bind_some, run_append, iha, Option.bind_some, run_cons, hclose,
      Option.bind_some, ihb]

lemma run_of_leaves {ks} (h : Leaves ks w) : run [] w = some ks := by
  induction h with
  | nested h => exact run_nested h []
  | opens _ hw ih => rw [run_append, ih, Option.bind_some, run_cons, step, Option.bind_some, run_nested hw]

/-- What the stack says of a prefix: it is open there, or a bracket before did not match. -/
lemma leaves_or_mismatched (w : List (Bracket κ)) :
    (∃ ks, Leaves ks w ∧ run [] w = some ks) ∨ (Mismatched w ∧ run [] w = none) := by
  induction w using List.reverseRecOn with
  | nil => exact .inl ⟨[], .nested .nil, rfl⟩
  | append_singleton w b ih =>
    rw [run_concat]
    rcases ih with ⟨ks, hks, hrun⟩ | ⟨⟨before, k, after, ks, rfl, hks, hne⟩, hrun⟩
    · rw [hrun, Option.bind_some]
      cases b with
      | opening k => exact .inl ⟨k :: ks, hks.opening k, rfl⟩
      | closing k =>
        rw [step]
        split
        · rename_i hhead
          obtain ⟨rest, rfl⟩ := List.head?_eq_some_iff.1 hhead
          exact .inl ⟨rest, hks.closing, rfl⟩
        · rename_i hhead
          exact .inr ⟨⟨w, k, [], ks, rfl, hks, hhead⟩, rfl⟩
    · refine .inr ⟨⟨before, k, after ++ [b], ks, ?_, hks, hne⟩, by rw [hrun, Option.bind_none]⟩
      rw [List.append_assoc, List.cons_append]

lemma run_eq_some_iff {ks} : run [] w = some ks ↔ Leaves ks w := by
  refine ⟨fun h => ?_, run_of_leaves⟩
  rcases leaves_or_mismatched w with ⟨ks', hleaves, hrun⟩ | ⟨-, hrun⟩
  · rw [h] at hrun
    cases hrun
    exact hleaves
  · rw [h] at hrun
    cases hrun

lemma run_eq_none_iff : run [] w = none ↔ Mismatched w := by
  constructor
  · intro h
    rcases leaves_or_mismatched w with ⟨ks, -, hrun⟩ | ⟨hmis, -⟩
    · rw [h] at hrun
      cases hrun
    · exact hmis
  · rintro ⟨before, k, after, ks, rfl, hks, hne⟩
    rw [run_append, run_of_leaves hks, Option.bind_some, run_cons, step, if_neg hne, Option.bind_none]

end Stack
end Nesting
