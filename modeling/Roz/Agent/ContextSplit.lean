import Roz.Agent.Context

/-!
# The split of a history (`split_preserving_pairs`)

The walk goes back from the end, a pair of call and results at a time or a message at a time, as
long as the budget allows it.  In a history where calls and results are adjacent it ends with the
longest end that fits and divides no pair (`splitPreservingPairs_longest`).
-/

namespace Roz.Agent
open Pairing List
namespace ContextManager
variable (print : Json → String) (messages : List Message)
def tokens : Nat := (messages.map (Message.estimatedTokens print)).sum

/-- A call is followed by a user message with results, and only there are results. -/
def adjacentPairing : Rules Message where
  opens := Message.isCall
  plain := fun m => m.hasToolResults = false
  answers := fun _ r => r.role = .user ∧ r.hasToolResults = true
  not_opens_of_answers := fun h => Message.not_isCall_of_role (by simp [h.1])
  not_plain_of_answers := fun _ h => by simp [h.2]

instance : DecidablePred adjacentPairing.opens := fun m => inferInstanceAs (Decidable m.isCall)

instance : DecidablePred adjacentPairing.plain := fun m => inferInstanceAs (Decidable (m.hasToolResults = false))

instance (m r : Message) : Decidable (adjacentPairing.answers m r) :=
  inferInstanceAs (Decidable (r.role = .user ∧ r.hasToolResults = true))

/-- A split of the messages whose second part fits the budget, with no call at the end of the first
part and its results in the second. -/
structure Fits (messages : List Message) (recentBudget : Nat) (old recent : List Message) : Prop where
  append : old ++ recent = messages
  tokens_le : tokens print recent ≤ recentBudget
  undivided : ∀ a ∈ old.getLast?, a.isCall → ∀ b ∈ recent.head?, b.hasToolResults = false

/-- The sums that the walk forms are no `u32` overflow: those of an end that fits and up to two
messages before it. -/
def NoOverflow (recentBudget : Nat) : Prop :=
  ∀ k, tokens print (messages.drop k) ≤ recentBudget → tokens print (messages.drop (k - 2)) < 2 ^ 32

variable {print}
lemma tokens_nil : tokens print [] = 0 := rfl

lemma tokens_cons (m : Message) (l : List Message) : tokens print (m :: l) = m.estimatedTokens print + tokens print l := by
  simp [tokens]

lemma tokens_append (l l' : List Message) : tokens print (l ++ l') = tokens print l + tokens print l' := by
  simp [tokens]

lemma tokens_reverse (l : List Message) : tokens print l.reverse = tokens print l := by
  simp [tokens, sum_reverse]

lemma u32_of_lt {n} (h : n < 2 ^ 32) : u32 n = n := Nat.mod_eq_of_lt h

variable {messages : List Message}
lemma noOverflow_of_tokens_lt (h : tokens print messages < 2 ^ 32) (recentBudget : Nat) :
    NoOverflow print messages recentBudget := by
  intro k _
  have hsum : tokens print messages = tokens print (messages.take (k - 2)) + tokens print (messages.drop (k - 2)) := by
    rw [← tokens_append, take_append_drop]
  omega

lemma noCallAnswers_of_adjacent (h : Paired adjacentPairing messages) : NoCallAnswers messages := by
  induction h with
  | nil => exact nofun
  | single _ hp _ ih => exact forall_mem_cons.2 ⟨fun _ => hp, ih⟩
  | pair _ hp hb _ ih =>
    have hanswer := adjacentPairing.not_opens_of_answers hb
    exact forall_mem_cons.2 ⟨fun _ => hp, forall_mem_cons.2 ⟨fun hc => absurd hc hanswer, ih⟩⟩

/-! ## The walk -/

variable {recentBudget : Nat} {m : Message} {before recent out : List Message}
def WalkFits (print : Json → String) (recentBudget : Nat) (before recent : List Message) : Prop :=
  ∀ taken rest, before = taken ++ rest → tokens print taken + tokens print recent ≤ recentBudget →
    tokens print taken + tokens print (rest.take 2) + tokens print recent < 2 ^ 32

lemma WalkFits.cons (h : WalkFits print recentBudget (m :: before) recent) :
    WalkFits print recentBudget before (m :: recent) := by
  intro taken rest hbefore hle
  have hsum := h (m :: taken) rest (by rw [hbefore, cons_append])
  rw [tokens_cons] at hsum hle ⊢
  have := hsum (by omega)
  omega

lemma WalkFits.add_one (h : WalkFits print recentBudget (m :: before) recent)
    (hle : tokens print recent ≤ recentBudget) :
    u32 (tokens print recent + m.estimatedTokens print) = tokens print (m :: recent) := by
  have hsum := h [] (m :: before) rfl (by rwa [tokens_nil, Nat.zero_add])
  simp only [take_succ_cons, tokens_cons, tokens_nil] at hsum ⊢
  rw [u32_of_lt (by omega), Nat.add_comm]

variable {r c : Message}
lemma WalkFits.add_two (h : WalkFits print recentBudget (r :: c :: before) recent)
    (hle : tokens print recent ≤ recentBudget) :
    u32 (tokens print recent + u32 (r.estimatedTokens print + c.estimatedTokens print)) =
      tokens print (c :: r :: recent) := by
  have hsum := h [] (r :: c :: before) rfl (by rwa [tokens_nil, Nat.zero_add])
  simp only [take_succ_cons, tokens_cons, tokens_nil] at hsum ⊢
  have hpair : u32 (r.estimatedTokens print + c.estimatedTokens print) = _ := u32_of_lt (by omega)
  rw [hpair, u32_of_lt (by omega)]
  omega

/-- The cut between what is left, last message first, and what is taken divides no pair. -/
def Undivided (rest recent : List Message) : Prop :=
  ∀ a ∈ rest.head?, a.isCall → ∀ b ∈ recent.head?, b.hasToolResults = false

/-- `out` goes back beyond `recent` and fits the budget, and nothing longer does that divides no pair. -/
structure Longest (print : Json → String) (recentBudget : Nat) (before recent out : List Message) : Prop where
  length_le : recent.length ≤ out.length
  fits : tokens print out ≤ recentBudget
  longest : ∀ taken rest, before = taken ++ rest → tokens print taken + tokens print recent ≤ recentBudget →
    Undivided rest (taken.reverse ++ recent) → taken.length + recent.length ≤ out.length

lemma longest_nil (h : tokens print recent ≤ recentBudget) : Longest print recentBudget [] recent recent := by
  refine ⟨Nat.le_refl _, h, ?_⟩
  intro taken rest hbefore _ _
  obtain ⟨rfl, rfl⟩ := append_eq_nil_iff.1 hbefore.symm
  simp

lemma longest_stop (h : tokens print recent ≤ recentBudget) (hnext : recentBudget < tokens print (m :: recent)) :
    Longest print recentBudget (m :: before) recent recent := by
  refine ⟨Nat.le_refl _, h, ?_⟩
  intro taken rest hbefore hfits _
  cases taken with
  | nil => simp
  | cons a taken =>
    obtain ⟨rfl, -⟩ := List.cons.inj hbefore
    rw [tokens_cons] at hfits hnext
    omega

lemma longest_stop_pair (hpair : r.hasToolResults ∧ c.isCall)
    (h : tokens print recent ≤ recentBudget) (hnext : recentBudget < tokens print (c :: r :: recent)) :
    Longest print recentBudget (r :: c :: before) recent recent := by
  refine ⟨Nat.le_refl _, h, ?_⟩
  intro taken rest hbefore hfits hcut
  match taken, hbefore with
  | [], _ => simp
  | [a], hbefore =>
    -- this cut divides the pair
    obtain ⟨rfl, rfl⟩ := List.cons.inj hbefore
    have hplain := hcut c rfl hpair.2 r rfl
    rw [hpair.1] at hplain
    cases hplain
  | a :: b :: taken, hbefore =>
    obtain ⟨rfl, htail⟩ := List.cons.inj hbefore
    obtain ⟨rfl, -⟩ := List.cons.inj htail
    rw [tokens_cons, tokens_cons] at hfits hnext
    omega

lemma Longest.take (h : Longest print recentBudget before (m :: recent) out) :
    Longest print recentBudget (m :: before) recent out := by
  have hlen : recent.length ≤ out.length := Nat.le_of_succ_le h.length_le
  refine ⟨hlen, h.fits, ?_⟩
  intro taken rest hbefore hfits hcut
  cases taken with
  | nil => simpa using hlen
  | cons a taken =>
    obtain ⟨rfl, htail⟩ := List.cons.inj hbefore
    rw [tokens_cons] at hfits
    have hnext := h.longest taken rest htail (by rw [tokens_cons]; omega) (by simpa using hcut)
    simp only [length_cons] at hnext ⊢
    omega

lemma splitBack_longest {recentBudget before n recent}
    (hn : n = tokens print recent) (hle : tokens print recent ≤ recentBudget)
    (hover : WalkFits print recentBudget before recent) :
    Longest print recentBudget before recent (splitBack print recentBudget before n recent).2 := by
  fun_induction splitBack print recentBudget before n recent with
  | case1 n recent => exact longest_nil hle
  | case2 msg n recent hlt =>
    rw [hn, hover.add_one hle] at hlt
    exact longest_stop hle hlt
  | case3 msg n recent hlt =>
    rw [hn, hover.add_one hle, Nat.not_lt] at hlt
    exact (longest_nil hlt).take
  | case4 msg prev earlier n recent hpair pairTokens hlt =>
    subst hn
    exact longest_stop_pair hpair hle (hover.add_two hle ▸ hlt)
  | case5 msg prev earlier n recent hpair pairTokens hlt ih =>
    subst hn
    have hsum : u32 (tokens print recent + pairTokens) = tokens print (prev :: msg :: recent) := hover.add_two hle
    rw [hsum, Nat.not_lt] at hlt
    exact (ih hsum hlt hover.cons.cons).take.take
  | case6 msg prev earlier n recent hpair hlt =>
    rw [hn, hover.add_one hle] at hlt
    exact longest_stop hle hlt
  | case7 msg prev earlier n recent hpair hlt ih =>
    subst hn
    have hsum := hover.add_one hle
    rw [hsum, Nat.not_lt] at hlt
    exact (ih hsum hlt hover.cons).take

lemma walkFits_of_noOverflow {messages}
    (h : NoOverflow print messages recentBudget) : WalkFits print recentBudget messages.reverse [] := by
  intro taken rest hmessages hle
  have heq : messages = rest.reverse ++ taken.reverse := by rw [← reverse_append, ← hmessages, reverse_reverse]
  subst heq
  have hsplit : rest.reverse = (rest.drop 2).reverse ++ (rest.take 2).reverse := by
    rw [← reverse_append, take_append_drop]
  have hlt := h rest.reverse.length (by rw [drop_left, tokens_reverse]; exact hle)
  have hk : rest.reverse.length - 2 = (rest.drop 2).reverse.length := by simp
  rw [hk, hsplit, append_assoc, drop_left, tokens_append, tokens_reverse, tokens_reverse] at hlt
  rw [tokens_nil]
  omega

theorem splitPreservingPairs_longest (messages : List Message) (recentBudget : Nat)
    (hpaired : Paired adjacentPairing messages) (hover : NoOverflow print messages recentBudget) :
    Fits print messages recentBudget (splitPreservingPairs print messages recentBudget).1
        (splitPreservingPairs print messages recentBudget).2 ∧
      ∀ old recent, Fits print messages recentBudget old recent →
        recent.length ≤ (splitPreservingPairs print messages recentBudget).2.length := by
  obtain ⟨-, hfit, hlongest⟩ := splitBack_longest rfl (Nat.zero_le _)
    (walkFits_of_noOverflow hover)
  obtain ⟨happend, hcut⟩ := splitPreservingPairs_spec print messages recentBudget (noCallAnswers_of_adjacent hpaired)
  refine ⟨⟨happend.symm, hfit, hcut⟩, ?_⟩
  intro old recent h
  have hlen := hlongest recent.reverse old.reverse (by rw [← reverse_append, h.append])
    (by rw [tokens_reverse, tokens_nil]; exact h.tokens_le)
    (by
      intro a ha hcall b hb
      rw [head?_reverse] at ha
      rw [reverse_reverse, append_nil] at hb
      exact h.undivided a ha hcall b hb)
  rwa [length_reverse, length_nil, Nat.add_zero] at hlen

def shortHistory : List Message :=
  [.ofUser "go", .assistantParts [.toolUse "1" "t" .null], .toolResults [("1", "t", "ok", false)]]

theorem splitPreservingPairs_longest_short :
    Fits (fun _ => "") shortHistory 2 (shortHistory.take 1) (shortHistory.drop 1) ∧
      ∀ old recent, Fits (fun _ => "") shortHistory 2 old recent → recent.length ≤ 2 :=
  splitPreservingPairs_longest shortHistory 2 (by decide) (noOverflow_of_tokens_lt (by decide) 2)

end ContextManager
end Roz.Agent
