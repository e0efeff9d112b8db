import Mathlib.Data.List.Basic

/-!
# Lists of requests and answers

In a list some entries open a request, and the next entry has to answer it; every other entry is
plain.  `Paired R l` says that `l` is such a list.  It may be cut wherever no request is left
open, and pieces may be put together:

    Paired (l ++ l') → l does not end in a request → Paired l ∧ Paired l'  (of_append)
    Paired (l ++ mid ++ t) → (Paired (l ++ s :: t) ↔ neither l nor mid ends in a request)
                                                                                  (splice_iff)
-/

namespace Pairing

/-- What opens a request, what is no answer, and what answers what. -/
structure Rules (α : Type) where
  opens : α → Prop
  plain : α → Prop
  answers : α → α → Prop
  not_opens_of_answers : ∀ {a b}, answers a b → ¬ opens b
  not_plain_of_answers : ∀ {a b}, opens a → answers a b → ¬ plain b

inductive Paired {α : Type} (R : Rules α) : List α → Prop
  | nil : Paired R []
  | single {a : α} {l : List α} (h : ¬ R.opens a) (hp : R.plain a) (hl : Paired R l) : Paired R (a :: l)
  | pair {a b : α} {l : List α} (h : R.opens a) (hp : R.plain a) (hb : R.answers a b) (hl : Paired R l) :
      Paired R (a :: b :: l)

variable {α : Type} {R : Rules α} {l l' : List α} {a b s : α}
lemma Paired.plain_head (h : Paired R (a :: l)) : R.plain a := by
  cases h with
  | single _ hp _ => exact hp
  | pair _ hp _ _ => exact hp

lemma Paired.tail (h : Paired R (a :: l)) (ha : ¬ R.opens a) : Paired R l := by
  cases h with
  | single _ _ hl => exact hl
  | pair ho _ _ _ => exact absurd ho ha

lemma Paired.tail_pair (h : Paired R (a :: b :: l)) (ha : R.opens a) : R.answers a b ∧ Paired R l := by
  cases h with
  | single ho _ _ => exact absurd ha ho
  | pair _ _ hb hl => exact ⟨hb, hl⟩

lemma paired_cons_iff (ha : ¬ R.opens a) (hp : R.plain a) : Paired R (a :: l) ↔ Paired R l :=
  ⟨fun h => h.tail ha, fun h => .single ha hp h⟩

instance decidablePaired (R : Rules α) [DecidablePred R.opens] [DecidablePred R.plain]
    [∀ a b, Decidable (R.answers a b)] : ∀ l : List α, Decidable (Paired R l)
  | [] => .isTrue .nil
  | [a] =>
    if h : ¬ R.opens a ∧ R.plain a then .isTrue (.single h.1 h.2 .nil)
    else .isFalse fun hp => h (by cases hp with | single ho hp _ => exact ⟨ho, hp⟩)
  | a :: b :: l =>
    if ha : R.opens a then
      match decidablePaired R l with
      | .isTrue hl =>
        if h : R.plain a ∧ R.answers a b then .isTrue (.pair ha h.1 h.2 hl)
        else .isFalse fun hp => h ⟨hp.plain_head, (hp.tail_pair ha).1⟩
      | .isFalse hl => .isFalse fun hp => hl (hp.tail_pair ha).2
    else
      match decidablePaired R (b :: l) with
      | .isTrue hl =>
        if h : R.plain a then .isTrue (.single ha h hl) else .isFalse fun hp => h hp.plain_head
      | .isFalse hl => .isFalse fun hp => hl (hp.tail ha)

/-! ## Cutting and joining -/

lemma Paired.append (h : Paired R l) (h' : Paired R l') : Paired R (l ++ l') := by
  induction h with
  | nil => exact h'
  | single ho hp _ ih => exact .single ho hp ih
  | pair ho hp hb _ ih => exact .pair ho hp hb ih

/-- The list does not end in a request. -/
def Closed (R : Rules α) (l : List α) : Prop := ∀ a ∈ l.getLast?, ¬ R.opens a

lemma closed_nil : Closed R ([] : List α) := by
  intro a ha
  cases ha

lemma closed_cons_cons : Closed R (a :: b :: l) ↔ Closed R (b :: l) := by simp [Closed, List.getLast?_cons_cons]

lemma Paired.closed (h : Paired R l) : Closed R l := by
  induction h with
  | nil => exact closed_nil
  | @single a l ho _ _ ih =>
    cases l with
    | nil =>
      intro x hx
      obtain rfl : a = x := by simpa using hx
      exact ho
    | cons b l => exact closed_cons_cons.2 ih
  | @pair a b l _ _ hb _ ih =>
    rw [closed_cons_cons]
    cases l with
    | nil =>
      intro x hx
      obtain rfl : b = x := by simpa using hx
      exact R.not_opens_of_answers hb
    | cons c l => exact closed_cons_cons.2 ih

/-- Where a paired list is cut, the part before is paired if it leaves no request open, and
otherwise the part after starts with the answer. -/
lemma Paired.cut (h : Paired R (l ++ l')) : (Closed R l ∧ Paired R l ∧ Paired R l') ∨
    ∃ a b t, a ∈ l.getLast? ∧ R.opens a ∧ l' = b :: t ∧ R.answers a b ∧ Paired R t := by
  generalize hw : l ++ l' = w at h
  induction h generalizing l with
  | nil =>
    obtain ⟨rfl, rfl⟩ := List.append_eq_nil_iff.1 hw
    exact .inl ⟨closed_nil, .nil, .nil⟩
  | @single a w ho hp hw' ih =>
    cases l with
    | nil =>
      obtain rfl : l' = a :: w := hw
      exact .inl ⟨closed_nil, .nil, .single ho hp hw'⟩
    | cons x l =>
      obtain ⟨rfl, hl⟩ := List.cons.inj hw
      rcases ih hl with ⟨hc, h1, h2⟩ | ⟨a, b, t, ha, hrest⟩
      · exact .inl ⟨(Paired.single ho hp h1).closed, .single ho hp h1, h2⟩
      · refine .inr ⟨a, b, t, ?_, hrest⟩
        cases l with
        | nil => cases ha
        | cons y l => exact ha
  | @pair a b w ho hp hb hw' ih =>
    match l, hw with
    | [], hw =>
      obtain rfl : l' = a :: b :: w := hw
      exact .inl ⟨closed_nil, .nil, .pair ho hp hb hw'⟩
    | [x], hw =>
      obtain ⟨rfl, rfl⟩ := List.cons.inj hw
      exact .inr ⟨x, b, w, rfl, ho, rfl, hb, hw'⟩
    | x :: y :: l, hw =>
      have heq : x = a ∧ y = b ∧ l ++ l' = w := by simpa using hw
      obtain ⟨rfl, rfl, hl⟩ := heq
      rcases ih hl with ⟨hc, h1, h2⟩ | ⟨a, b, t, ha, hrest⟩
      · exact .inl ⟨(Paired.pair ho hp hb h1).closed, .pair ho hp hb h1, h2⟩
      · refine .inr ⟨a, b, t, ?_, hrest⟩
        cases l with
        | nil => cases ha
        | cons z l => exact ha

lemma Paired.of_append (h : Paired R (l ++ l')) (hc : Closed R l) : Paired R l ∧ Paired R l' := by
  rcases h.cut with ⟨_, h1, h2⟩ | ⟨a, b, t, ha, ho, _⟩
  · exact ⟨h1, h2⟩
  · exact absurd ho (hc a ha)

/-- The part after an open request starts with what is not plain, so it is not paired. -/
lemma Paired.orphan (h : Paired R (l ++ l')) (hc : ¬ Closed R l) : ∃ b t, l' = b :: t ∧ ¬ R.plain b ∧ Paired R t := by
  rcases h.cut with ⟨hc', _⟩ | ⟨a, b, t, _, ho, hl, hb, ht⟩
  · exact absurd hc' hc
  · exact ⟨b, t, hl, R.not_plain_of_answers ho hb, ht⟩

lemma Paired.closed_iff (h : Paired R (l ++ l')) : Paired R l' ↔ Closed R l := by
  constructor
  · intro h'
    by_contra hc
    obtain ⟨b, t, rfl, hb, -⟩ := h.orphan hc
    exact hb h'.plain_head
  · exact fun hc => (h.of_append hc).2

lemma Closed.of_append (hl' : l' ≠ []) : Closed R (l ++ l') ↔ Closed R l' := by
  unfold Closed
  rw [List.getLast?_append_of_ne_nil l hl']

/-- One plain entry in place of a middle part: no request may be open before either cut. -/
lemma Paired.splice_iff {mid t} (h : Paired R (l ++ (mid ++ t))) (hmid : mid ≠ [])
    (hs : ¬ R.opens s) (hp : R.plain s) : Paired R (l ++ s :: t) ↔ Closed R l ∧ Closed R mid := by
  have hmidt : Paired R t ↔ Closed R mid := by
    have h' : Paired R ((l ++ mid) ++ t) := by rwa [List.append_assoc]
    rw [h'.closed_iff, Closed.of_append hmid]
  constructor
  · intro hpaired
    have hl : Closed R l := by
      by_contra hl
      obtain ⟨b, rest, heq, hb, -⟩ := hpaired.orphan hl
      obtain ⟨rfl, -⟩ := List.cons.inj heq
      exact hb hp
    exact ⟨hl, hmidt.1 ((hpaired.of_append hl).2.tail hs)⟩
  · rintro ⟨hl, hm⟩
    exact (h.of_append hl).1.append (.single hs hp (hmidt.2 hm))

/-! ## Dropping a first part -/

/-- The cut after the first `k` entries does not part a request from what is not plain. -/
def CleanCut (R : Rules α) (l : List α) (k : Nat) : Prop :=
  ∀ a ∈ (l.take k).getLast?, R.opens a → ∀ b ∈ (l.drop k).head?, R.plain b

lemma Paired.drop {l} (h : Paired R l) {k} (hk : CleanCut R l k) : Paired R (l.drop k) := by
  rw [← List.take_append_drop k l] at h
  rcases h.cut with ⟨_, _, h2⟩ | ⟨a, b, t, ha, ho, hl, hb, _⟩
  · exact h2
  · exact absurd (hk a ha ho b (by rw [hl]; rfl)) (R.not_plain_of_answers ho hb)

/-- A clean cut of a list is clean in a part of it that the cut goes through. -/
lemma CleanCut.of_append {k} (h : CleanCut R (l ++ l') (l.length + k)) : CleanCut R l' k := by
  intro a ha ho b hb
  refine h a ?_ ho b ?_
  · rw [List.take_length_add_append]
    cases hl : l'.take k with
    | nil =>
      rw [hl] at ha
      cases ha
    | cons x xs =>
      rw [hl] at ha
      rwa [List.getLast?_append_of_ne_nil _ (List.cons_ne_nil x xs)]
  · rwa [List.drop_length_add_append]

/-- After the splice, a first part that ends in a clean cut is dropped.  What is left is paired
if and only if the drop takes in the open ends. -/
lemma Paired.splice_drop_iff {c mid t} (h : Paired R (c :: (mid ++ t))) (hmid : mid ≠ [])
    (hs : ¬ R.opens s) (hp : R.plain s) {k} (hk : CleanCut R (c :: s :: t) k) :
    Paired R ((c :: s :: t).drop k) ↔ (R.opens c → 1 ≤ k) ∧ (¬ Closed R mid → 3 ≤ k) := by
  have hc : Closed R [c] ↔ ¬ R.opens c := by simp [Closed]
  have hmidt : Paired R t ↔ Closed R mid := by
    have h' : Paired R ((c :: mid) ++ t) := h
    rw [h'.closed_iff, ← Closed.of_append hmid (R := R) (l := [c])]
    rfl
  match k, hk with
  | 0, _ =>
    have hsplice : Paired R ([c] ++ s :: t) ↔ _ := Paired.splice_iff (l := [c]) h hmid hs hp
    simpa [hc] using hsplice
  | 1, _ => simpa [hmidt] using paired_cons_iff (l := t) hs hp
  | 2, _ => simpa using hmidt
  | k + 3, hcut =>
    simp only [List.drop_succ_cons, Nat.le_add_left, implies_true, and_self, iff_true]
    by_cases hm : Closed R mid
    · have htail : CleanCut R t (k + 1) :=
        CleanCut.of_append (l := [c, s]) (by rwa [show [c, s].length + (k + 1) = k + 3 by simp; omega])
      exact (hmidt.2 hm).drop htail
    · have h' : Paired R ((c :: mid) ++ t) := h
      have hopen : ¬ Closed R (c :: mid) := fun hcl => hm ((Closed.of_append hmid (l := [c])).1 hcl)
      obtain ⟨b, rest, rfl, _, hrest⟩ := h'.orphan hopen
      rcases Nat.eq_zero_or_pos k with rfl | hpos
      · exact hrest
      · have htail : CleanCut R rest k :=
          CleanCut.of_append (l := [c, s, b]) (by rwa [show [c, s, b].length + k = k + 3 by simp; omega])
        exact hrest.drop htail

end Pairing
