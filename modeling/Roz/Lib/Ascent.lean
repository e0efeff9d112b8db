import Mathlib.Data.List.Nodup
import Mathlib.Data.List.Infix

/-!
# Climbing a partial parent map

`up a` is `none` for an element that is not in the structure, `some none` for one without a
parent, and `some (some b)` for one with parent `b`.  `Climb up a path` says that following the
parents from `a` ends, and along which path.

    Climb up a path → Climb up a path' → path = path'  (Climb.unique)
    Climb up a path → path.Nodup  (Climb.nodup)
    loops that climb  (Climb.collect, Climb.accumulate)
    a climb that avoids x is a climb after x is given another parent  (Climb.update)
-/

namespace Ascent
open List
variable {α : Type}

/-- From `a`, following the parents, the elements of `path` are passed, and the last of them has
no parent. -/
inductive Climb (up : α → Option (Option α)) : α → List α → Prop
  | top {a : α} (h : up a = some none) : Climb up a [a]
  | step {a b : α} {path : List α} (h : up a = some (some b)) (rest : Climb up b path) : Climb up a (a :: path)

namespace Climb
variable {up : α → Option (Option α)} {a b x : α} {path path' : List α}
lemma head_mem (h : Climb up a path) : a ∈ path := by
  cases h with
  | top => exact .head _
  | step => exact .head _

lemma unique (h : Climb up a path) (h' : Climb up a path') : path = path' := by
  induction h generalizing path' with
  | top htop =>
    cases h' with
    | top => rfl
    | step hstep => rw [htop] at hstep; cases hstep
  | step hstep _ ih =>
    cases h' with
    | top htop => rw [htop] at hstep; cases hstep
    | step hstep' rest' =>
      rw [hstep] at hstep'
      cases hstep'
      rw [ih rest']

lemma of_mem (h : Climb up a path) (hx : x ∈ path) : ∃ post, Climb up x post ∧ post <:+ path := by
  induction h with
  | top htop =>
    obtain rfl := mem_singleton.1 hx
    exact ⟨_, .top htop, suffix_refl _⟩
  | step hstep rest ih =>
    rcases mem_cons.1 hx with rfl | hx
    · exact ⟨_, .step hstep rest, suffix_refl _⟩
    · obtain ⟨post, hpost, hsuffix⟩ := ih hx
      exact ⟨post, hpost, hsuffix.trans (suffix_cons _ _)⟩

/-- The parent's climb does not come back: it would be as long as the whole. -/
lemma not_mem_of_step (h : up a = some (some b)) (rest : Climb up b path) : a ∉ path := by
  intro ha
  obtain ⟨post, hpost, hsuffix⟩ := rest.of_mem ha
  have hlen := hsuffix.length_le
  rw [← (Climb.step h rest).unique hpost, length_cons] at hlen
  omega

variable (h : Climb up a path)
include h

lemma nodup : path.Nodup := by
  induction h with
  | top => exact nodup_singleton _
  | step hstep rest ih => exact nodup_cons.2 ⟨not_mem_of_step hstep rest, ih⟩

lemma up_isSome (hx : x ∈ path) : (up x).isSome := by
  obtain ⟨post, hpost, -⟩ := h.of_mem hx
  cases hpost with
  | top htop => simp [htop]
  | step hstep => simp [hstep]

lemma ne_nil : path ≠ [] := ne_nil_of_mem h.head_mem

lemma getLast_up : ∀ r, path.getLast? = some r → up r = some none := by
  induction h with
  | top htop =>
    intro r hr
    simp only [getLast?_singleton, Option.some.injEq] at hr
    exact hr ▸ htop
  | step hstep rest ih =>
    intro r hr
    rw [getLast?_cons_of_ne_nil rest.ne_nil] at hr
    exact ih r hr

lemma getLast?_of_mem (hx : x ∈ path) (hpost : Climb up x path') : path'.getLast? = path.getLast? := by
  obtain ⟨post, hpost', pre, rfl⟩ := h.of_mem hx
  rw [hpost.unique hpost', getLast?_append_of_ne_nil _ hpost'.ne_nil]

lemma getLast?_of_meet (h' : Climb up b path') (hx : x ∈ path) (hx' : x ∈ path') : path.getLast? = path'.getLast? := by
  obtain ⟨post, hpost, -⟩ := h.of_mem hx
  rw [← h.getLast?_of_mem hx hpost, ← h'.getLast?_of_mem hx' hpost]

/-- The end of a climb is on its path and has no parent. -/
lemma exists_getLast? : ∃ r ∈ path, path.getLast? = some r ∧ up r = some none := by
  obtain ⟨r, hr⟩ := Option.isSome_iff_exists.1 (getLast?_isSome.2 h.ne_nil)
  exact ⟨r, mem_of_getLast? hr, hr, h.getLast_up r hr⟩

lemma self_mem_takeWhile [DecidableEq α] (hab : a ≠ b) : a ∈ path.takeWhile (· ≠ b) := by
  cases h with
  | top => simp [hab]
  | step => simp [hab]

/-- Every other element is below the end. -/
lemma mem_takeWhile_of_getLast? [DecidableEq α] (hb : path.getLast? = some b)
    (hx : x ∈ path) (hxb : x ≠ b) : x ∈ path.takeWhile (· ≠ b) := by
  obtain ⟨pre, rfl⟩ := getLast?_eq_some_iff.1 hb
  have hpre : ∀ y ∈ pre, y ≠ b := by
    rintro y hy rfl
    exact (nodup_append.1 h.nodup).2.2 y hy y (.head _) rfl
  rw [takeWhile_append_of_pos (by simpa using hpre)]
  exact mem_append_left _ ((mem_append.1 hx).resolve_right (by simpa using hxb))

lemma parent_of_mem_takeWhile [DecidableEq α] (hb : b ∈ path)
    (hx : x ∈ path.takeWhile (· ≠ b)) : ∃ p, up x = some (some p) := by
  induction h with
  | top =>
    obtain rfl := mem_singleton.1 hb
    simp at hx
  | @step a c path hstep _ ih =>
    by_cases hab : a = b
    · simp [hab] at hx
    · rw [takeWhile_cons_of_pos (by simpa using hab)] at hx
      rcases mem_cons.1 hx with rfl | hx
      · exact ⟨c, hstep⟩
      · exact ih ((mem_cons.1 hb).resolve_left (Ne.symm hab)) hx

/-- A loop that collects what it visits on the way up returns the path. -/
lemma collect {β} (loop : Nat → α → List α → List α → β) (done : List α → β)
    (htop : ∀ n a visited chain, up a = some none → a ∉ visited → loop (n + 1) a visited chain = done (chain ++ [a]))
    (hstep : ∀ n a b visited chain, up a = some (some b) → a ∉ visited →
      loop (n + 1) a visited chain = loop n b (a :: visited) (chain ++ [a])) :
    ∀ fuel visited chain, path.length ≤ fuel → (∀ x ∈ path, x ∉ visited) →
      loop fuel a visited chain = done (chain ++ path) := by
  induction h with
  | top h =>
    intro fuel visited chain hfuel hnew
    obtain ⟨fuel, rfl⟩ := Nat.exists_eq_add_of_le' hfuel
    exact htop _ _ _ _ h (hnew _ (.head _))
  | @step a b path h rest ih =>
    intro fuel visited chain hfuel hnew
    cases fuel with
    | zero => simp at hfuel
    | succ fuel =>
      rw [hstep _ _ _ _ _ h (hnew a (.head _)), ih fuel _ _ (by simpa using hfuel), append_assoc]
      · rfl
      · intro x hx hmem
        rcases mem_cons.1 hmem with rfl | hmem
        · exact not_mem_of_step h rest hx
        · exact hnew x (.tail _ hx) hmem

/-- A loop that stops at `x` has folded the path below it. -/
lemma accumulate [DecidableEq α] {β γ} (loop : Nat → α → γ → β) (done : γ → β) (f : γ → α → γ)
    (hstop : ∀ n r, loop n x r = done r)
    (hstep : ∀ n a b r, a ≠ x → up a = some (some b) → loop (n + 1) a r = loop n b (f r a)) (hx : x ∈ path) :
    ∀ fuel r, (path.takeWhile (· ≠ x)).length ≤ fuel →
      loop fuel a r = done ((path.takeWhile (· ≠ x)).foldl f r) := by
  induction h with
  | top =>
    intro fuel r _
    obtain rfl := mem_singleton.1 hx
    simp [hstop]
  | @step a b path h rest ih =>
    intro fuel r hfuel
    by_cases heq : a = x
    · simp [heq, hstop]
    rw [takeWhile_cons_of_pos (by simpa using heq)] at hfuel ⊢
    cases fuel with
    | zero => simp at hfuel
    | succ fuel =>
      rw [hstep _ _ _ _ heq h, foldl_cons]
      exact ih ((mem_cons.1 hx).resolve_left (Ne.symm heq)) fuel _ (by simpa using hfuel)

/-- The climbs that avoid `x` do not depend on its parent. -/
lemma update [DecidableEq α] (hx : x ∉ path) (v : Option (Option α)) : Climb (Function.update up x v) a path := by
  induction h with
  | top htop =>
    have hne : _ ≠ x := fun heq => hx (heq ▸ .head _)
    exact .top (by rw [Function.update_of_ne hne]; exact htop)
  | step hstep _ ih =>
    have hne : _ ≠ x := fun heq => hx (heq ▸ .head _)
    exact .step (by rw [Function.update_of_ne hne]; exact hstep) (ih fun hmem => hx (.tail _ hmem))

/-- If `x` climbs after it is given another parent, so does everything that climbs before, to
the same end or that of `x`. -/
lemma update_of_climb [DecidableEq α] {v px} (hpx : Climb (Function.update up x v) x px) :
    ∃ q, Climb (Function.update up x v) a q ∧ (q.getLast? = path.getLast? ∨ q.getLast? = px.getLast?) := by
  induction h with
  | @top a htop =>
    by_cases hax : a = x
    · subst hax
      exact ⟨px, hpx, .inr rfl⟩
    · exact ⟨[a], .top (by rw [Function.update_of_ne hax]; exact htop), .inl rfl⟩
  | @step a b path hstep rest ih =>
    by_cases hax : a = x
    · subst hax
      exact ⟨px, hpx, .inr rfl⟩
    · obtain ⟨q, hq, hlast⟩ := ih
      refine ⟨a :: q, .step (by rw [Function.update_of_ne hax]; exact hstep) hq, ?_⟩
      rw [getLast?_cons_of_ne_nil hq.ne_nil, getLast?_cons_of_ne_nil rest.ne_nil]
      exact hlast

end Climb
end Ascent
