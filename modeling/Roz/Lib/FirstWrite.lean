import Mathlib.Data.List.Nodup

/-!
# Stores that keep the first row of each key

`insert key stored a` adds the row `a` unless its key is stored (an insert that does nothing on a
conflict).  `insertAll key stored as` inserts the rows one after the other.

    the keys that are stored are those of all rows that came  (mem_keys_insertAll)
    of rows with different keys, those are added whose key was not stored  (insertAll_eq_append)
-/

namespace FirstWrite
variable {α κ : Type} [DecidableEq κ] (key : α → κ)
def insert (stored : List α) (a : α) : List α := if key a ∈ stored.map key then stored else stored ++ [a]

def insertAll (stored as : List α) : List α := as.foldl (insert key) stored

variable {key}
lemma mem_keys_insert {stored a k} : k ∈ (insert key stored a).map key ↔ k ∈ stored.map key ∨ k = key a := by
  unfold insert
  split
  · rename_i hmem
    constructor
    · exact Or.inl
    · rintro (h | rfl)
      · exact h
      · exact hmem
  · rw [List.map_append, List.mem_append, List.map_singleton, List.mem_singleton]

lemma mem_keys_insertAll {as k} :
    ∀ {stored : List α}, k ∈ (insertAll key stored as).map key ↔ k ∈ stored.map key ∨ k ∈ as.map key := by
  induction as with
  | nil => simp [insertAll]
  | cons a as ih =>
    intro stored
    have hrest : k ∈ (insertAll key (insert key stored a) as).map key ↔ _ := ih
    rw [mem_keys_insert, or_assoc] at hrest
    rw [List.map_cons, List.mem_cons]
    exact hrest

lemma insertAll_eq_append {as} : ∀ {stored : List α}, (as.map key).Nodup →
    insertAll key stored as = stored ++ as.filter fun a => key a ∉ stored.map key := by
  induction as with
  | nil => simp [insertAll]
  | cons a as ih =>
    intro stored hnodup
    rw [List.map_cons, List.nodup_cons] at hnodup
    have hrest : insertAll key stored (a :: as) = insertAll key (insert key stored a) as := rfl
    rw [hrest, ih hnodup.2]
    -- what comes after `a` has other keys, so that the insertion of `a` refuses none of it
    have hsame : (as.filter fun b => key b ∉ (insert key stored a).map key) =
        as.filter fun b => key b ∉ stored.map key := by
      apply List.filter_congr
      intro b hb
      have hne : key b ≠ key a := fun h => hnodup.1 (h ▸ List.mem_map_of_mem hb)
      simp [mem_keys_insert, hne]
    rw [hsame, List.filter_cons]
    unfold insert
    by_cases hmem : key a ∈ stored.map key
    · rw [if_pos hmem, if_neg (by simpa using hmem)]
    · rw [if_neg hmem, if_pos (by simpa using hmem), List.append_assoc, List.singleton_append]

end FirstWrite
