import Mathlib.Data.List.Induction

/-!
# Runs of a step function that may panic

`step s i` consumes one input: the machine goes on (`next`), or its thread dies
in the state it had reached (`panicked`).  `runFrom step s is` feeds a list of
inputs, stopping at the first panic.

`EveryStep step s0 ok is`: along the run of `is` from `s0`, every step is taken
in a state and with an input that satisfy `ok`.  The rules:

    (∀ s i s', Inv s → ok s i → step s i = next s' → Inv s') → Inv s0 →
      EveryStep step s0 ok is → runFrom step s0 is = next s → Inv s  (EveryStep.invariant)

    each step appends only entries it accounts for →
      every entry of a run's log is accounted for by the step that appended it  (runFrom_log)

`EveryStep` is decidable when `ok` is, so a concrete run can be checked.
-/

namespace StepRun
open List

inductive Flow (σ : Type) where
  | next (s : σ)
  | panicked (s : σ)
  deriving DecidableEq

variable {σ ι : Type}
def Flow.state : Flow σ → σ
  | .next s => s
  | .panicked s => s

instance (f : Flow σ) (p : σ → Prop) [DecidablePred p] : Decidable (∀ s, f = .next s → p s) :=
  match f with
  | .next s => decidable_of_iff (p s) (by simp)
  | .panicked s => .isTrue nofun

def runFrom (step : σ → ι → Flow σ) : σ → List ι → Flow σ
  | s, [] => .next s
  | s, i :: is =>
    match step s i with
    | .next s' => runFrom step s' is
    | .panicked s' => .panicked s'

variable (step : σ → ι → Flow σ)

/-- Every step of the run of `is` from `s0` satisfies `ok`. -/
def EveryStep (s0 : σ) (ok : σ → ι → Prop) (is : List ι) : Prop :=
  ∀ pre i post s, is = pre ++ i :: post → runFrom step s0 pre = .next s → ok s i

lemma runFrom_snoc (is : List ι) (i : ι) : ∀ s0 s', runFrom step s0 (is ++ [i]) = .next s' ↔
    ∃ s, runFrom step s0 is = .next s ∧ step s i = .next s' := by
  induction is with
  | nil =>
    intro s0 s'
    simp only [nil_append, runFrom, Flow.next.injEq, exists_eq_left']
    cases step s0 i <;> simp
  | cons j is ih =>
    intro s0 s'
    simp only [cons_append, runFrom]
    cases step s0 j with
    | next s1 => exact ih s1 s'
    | panicked s1 => simp

variable {α : Type} {step : σ → ι → Flow σ} {s0 : σ} {ok : σ → ι → Prop}
lemma EveryStep.of_append {is pre post} (h : EveryStep step s0 ok is) (he : is = pre ++ post) :
    EveryStep step s0 ok pre :=
  fun p i q s hp => h p i (q ++ post) s (by rw [he, hp]; simp)

variable {is : List ι}
lemma EveryStep.init {i : ι} (h : EveryStep step s0 ok (is ++ [i])) : EveryStep step s0 ok is := h.of_append rfl

/-- Every step satisfies `ok` if each does whenever those before it do. -/
lemma everyStep_of_step (step : σ → ι → Flow σ) (s0 : σ)
    (h : ∀ pre i post s, is = pre ++ i :: post → runFrom step s0 pre = .next s → EveryStep step s0 ok pre → ok s i) :
    EveryStep step s0 ok is := by
  induction is using List.reverseRecOn with
  | nil =>
    intro pre i post s he _
    cases pre <;> cases he
  | append_singleton is j ih =>
    have his : EveryStep step s0 ok is :=
      ih fun pre i post s he => h pre i (post ++ [j]) s (by rw [he]; simp)
    intro pre i post s he hr
    refine h pre i post s he hr ?_
    rcases eq_nil_or_concat post with rfl | ⟨post, k, rfl⟩
    · obtain ⟨rfl, -⟩ := append_inj' he rfl
      exact his
    · have : is = pre ++ i :: post := by
        have he' : is ++ [j] = (pre ++ i :: post) ++ [k] := by rw [he]; simp
        exact (append_inj' he' rfl).1
      exact his.of_append this

variable (Inv : σ → Prop)

/-- What every permitted step preserves, every permitted run preserves. -/
lemma EveryStep.invariant (hstep : ∀ s i s', Inv s → ok s i → step s i = .next s' → Inv s')
    (h0 : Inv s0) (is : List ι) (hok : EveryStep step s0 ok is) (s : σ) (hr : runFrom step s0 is = .next s) :
    Inv s := by
  induction is using List.reverseRecOn generalizing s with
  | nil =>
    simp only [runFrom, Flow.next.injEq] at hr
    exact hr ▸ h0
  | append_singleton is i ih =>
    obtain ⟨s1, h1, h2⟩ := (runFrom_snoc step is i s0 s).1 hr
    exact hstep s1 i s (ih hok.init s1 h1) (hok is i [] s1 rfl h1) h2

lemma everyStep_nil (step : σ → ι → Flow σ) (s0 : σ) (ok : σ → ι → Prop) : EveryStep step s0 ok [] := by
  intro pre i post s he _
  cases pre <;> cases he

lemma everyStep_cons (step : σ → ι → Flow σ) (s0 : σ) (ok : σ → ι → Prop) (i : ι) (is : List ι) :
    EveryStep step s0 ok (i :: is) ↔ ok s0 i ∧ ∀ s1, step s0 i = .next s1 → EveryStep step s1 ok is := by
  constructor
  · intro h
    refine ⟨h [] i is s0 rfl rfl, fun s1 h1 pre j post s he hr => ?_⟩
    refine h (i :: pre) j post s (by rw [he]; rfl) ?_
    simp only [runFrom, h1]
    exact hr
  · rintro ⟨h0, h1⟩ pre j post s he hr
    cases pre with
    | nil =>
      obtain ⟨rfl, -⟩ := List.cons.inj he
      obtain rfl : s0 = s := Flow.next.inj hr
      exact h0
    | cons i' pre =>
      obtain ⟨rfl, htl⟩ := List.cons.inj he
      simp only [runFrom] at hr
      cases hs : step s0 i with
      | next s1 => rw [hs] at hr; exact h1 s1 hs pre j post s htl hr
      | panicked s1 => rw [hs] at hr; cases hr

/-- What holds of every step of a run holds of every step of its second part. -/
lemma EveryStep.of_append_right {pre post s1} :
    ∀ {s0 : σ}, EveryStep step s0 ok (pre ++ post) → runFrom step s0 pre = .next s1 → EveryStep step s1 ok post := by
  induction pre with
  | nil =>
    intro s0 h hpre
    obtain rfl : s0 = s1 := Flow.next.inj hpre
    exact h
  | cons i pre ih =>
    intro s0 h hpre
    simp only [runFrom] at hpre
    cases hs : step s0 i with
    | next s' =>
      rw [hs] at hpre
      exact ih (((everyStep_cons step s0 ok i (pre ++ post)).1 h).2 s' hs) hpre
    | panicked s' =>
      rw [hs] at hpre
      cases hpre

instance decidableEveryStep (step : σ → ι → Flow σ) (ok : σ → ι → Prop)
    [∀ s i, Decidable (ok s i)] : ∀ (s0 : σ) (is : List ι), Decidable (EveryStep step s0 ok is)
  | s0, [] => .isTrue (everyStep_nil step s0 ok)
  | s0, i :: is =>
    match h : step s0 i with
    | .next s1 =>
      have := decidableEveryStep step ok s1 is
      decidable_of_iff (ok s0 i ∧ EveryStep step s1 ok is) (by rw [everyStep_cons]; simp [h])
    | .panicked s1 => decidable_of_iff (ok s0 i) (by rw [everyStep_cons]; simp [h])

lemma runFrom_total (f : σ → ι → σ) (is : List ι) :
    ∀ s0, runFrom (fun s i => .next (f s i)) s0 is = .next (is.foldl f s0) := by
  induction is with
  | nil => intro s0; rfl
  | cons i is ih => intro s0; exact ih (f s0 i)

lemma run_invariant (hstep : ∀ s i s', Inv s → step s i = .next s' → Inv s') (h0 : Inv s0)
    (s : σ) (hr : runFrom step s0 is = .next s) : Inv s := by
  have hall : EveryStep step s0 (fun _ _ => True) is := fun _ _ _ _ _ _ => trivial
  exact hall.invariant Inv (fun s i s' h _ => hstep s i s' h) h0 is s hr

/-! ## Logs -/

lemma runFrom_append_singleton (step : σ → ι → Flow σ) (is : List ι) (i : ι) : ∀ s0, runFrom step s0 (is ++ [i]) =
      match runFrom step s0 is with
      | .next s => step s i
      | .panicked s => .panicked s := by
  induction is with
  | nil =>
    intro s0
    simp only [nil_append, runFrom]
    cases step s0 i <;> rfl
  | cons j is ih =>
    intro s0
    simp only [cons_append, runFrom]
    cases step s0 j with
    | next s1 => exact ih s1
    | panicked s1 => rfl

lemma getElem?_snoc {l} {a b : α} {k} (h : (l ++ [a])[k]? = some b) : l[k]? = some b ∨ k = l.length ∧ b = a := by
  rw [getElem?_append] at h
  by_cases hk : k < l.length
  · rw [if_pos hk] at h
    exact .inl h
  · rw [if_neg hk, getElem?_singleton] at h
    by_cases hlast : k - l.length = 0
    · rw [if_pos hlast] at h
      exact .inr ⟨by omega, (Option.some.inj h).symm⟩
    · rw [if_neg hlast] at h
      cases h

lemma getElem?_set_some {l : List α} {a b j k} (h : (l.set k a)[j]? = some b) :
    j = k ∧ b = a ∨ j ≠ k ∧ l[j]? = some b := by
  rw [getElem?_set] at h
  by_cases hjk : k = j
  · rw [if_pos hjk] at h
    by_cases hlt : k < l.length
    · rw [if_pos hlt] at h
      exact .inl ⟨hjk.symm, (Option.some.inj h).symm⟩
    · rw [if_neg hlt] at h
      cases h
  · rw [if_neg hjk] at h
    exact .inr ⟨fun heq => hjk heq.symm, h⟩

/-- `l'` is `l` followed by entries that satisfy `P`. -/
def Extends {α : Type} (P : α → Prop) (l l' : List α) : Prop :=
  ∃ new, l' = l ++ new ∧ ∀ x ∈ new, P x

variable {P : α → Prop}
lemma Extends.refl (l : List α) : Extends P l l :=
  ⟨[], (append_nil l).symm, by simp⟩

lemma Extends.trans {l l' l''} (h : Extends P l l') (h' : Extends P l' l'') : Extends P l l'' := by
  obtain ⟨new, rfl, hnew⟩ := h
  obtain ⟨new', rfl, hnew'⟩ := h'
  refine ⟨new ++ new', append_assoc _ _ _, fun x hx => ?_⟩
  exact (mem_append.1 hx).elim (hnew x) (hnew' x)

/-- If every step only appends entries that it accounts for, then every entry of the log of
a run was appended by one of its steps, which accounts for it. -/
lemma runFrom_log (log : σ → List α) (P : σ → ι → α → Prop)
    (hstep : ∀ s i, Extends (P s i) (log s) (log (step s i).state)) (h0 : log s0 = []) (is : List ι) (k : Nat)
    (x : α) (hx : (log (runFrom step s0 is).state)[k]? = some x) :
    ∃ pre i post s, is = pre ++ i :: post ∧ runFrom step s0 pre = .next s ∧
      (log s).length ≤ k ∧ k < (log (step s i).state).length ∧ P s i x := by
  induction is using List.reverseRecOn with
  | nil => simp [runFrom, Flow.state, h0] at hx
  | append_singleton is i ih =>
    -- an entry of the log before the last step was there already
    have hold (h : (log (runFrom step s0 is).state)[k]? = some x) :
        ∃ pre j post s, is ++ [i] = pre ++ j :: post ∧ runFrom step s0 pre = .next s ∧
          (log s).length ≤ k ∧ k < (log (step s j).state).length ∧ P s j x := by
      obtain ⟨pre, j, post, s, he, hr, hk⟩ := ih h
      exact ⟨pre, j, post ++ [i], s, by rw [he]; simp, hr, hk⟩
    rw [runFrom_append_singleton] at hx
    cases hrun : runFrom step s0 is with
    | panicked s => rw [hrun] at hx hold; exact hold hx
    | next s =>
      rw [hrun] at hx hold
      obtain ⟨new, hlog, hnew⟩ := hstep s i
      simp only [hlog] at hx
      by_cases hk : k < (log s).length
      · rw [getElem?_append_left hk] at hx
        exact hold hx
      · refine ⟨is, i, [], s, rfl, hrun, Nat.le_of_not_lt hk, ?_, hnew x ?_⟩
        · rw [hlog]
          exact (List.getElem?_eq_some_iff.1 hx).1
        · rw [getElem?_append_right (Nat.le_of_not_lt hk)] at hx
          exact mem_of_getElem? hx

end StepRun
