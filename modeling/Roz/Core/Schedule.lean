import Mathlib.Order.Bounds.Basic
import Mathlib.Tactic.Ring

/-!
# Schedules and catch-up (`roz-core/src/schedule.rs`)

Instants are nanoseconds.  The cron library is a parameter: `after t k` is the `k`-th item of the
iterator that `Schedule::after(t)` returns.  A fire's local time is a view of its instant and is
left out.  `none` is a loop over the iterator that does not end.

Polling a schedule, with the next fire of each call given to the following one, serves every
fire from the start cursor on exactly once (`served_polls`).

A single poll goes back a second too far where its start is no whole second (runAll_window_iff).
-/

namespace Roz.Core
open List

def second : Int := 1000000000

def maxCatchUpWindow : Int := 7 * 24 * 3600 * second

inductive CatchUpPolicy where
  | skipMissed
  | runLatest
  | runAll
  deriving DecidableEq, Repr

structure CatchUpResolution where
  dueRuns : List Int
  nextFireAtUtc : Option Int
  windowTruncated : Bool
  deriving DecidableEq, Repr

section Definition

-- the iterator of `Schedule::after`
variable (after : Int → Nat → Option Int)
def nextFireAfter (afterUtc : Int) : Option Int := after afterUtc 0

def collectUntil (items : Nat → Option Int) (endInclusive : Int) : (fuel k : Nat) → Option (List Int)
  | 0, _ => none
  | fuel + 1, k =>
    match items k with
    | none => some []
    | some fire =>
      if fire ≤ endInclusive then (collectUntil items endInclusive fuel (k + 1)).map (fire :: ·)
      else some []

def occurrencesBetween (startInclusive endInclusive : Int) : Option (List Int) :=
  if endInclusive < startInclusive then some []
  else
    let cursor := startInclusive - second
    collectUntil (after cursor) endInclusive ((endInclusive - cursor).toNat + 1) 0

def resolveCatchUp (nextFireAtUtc : Option Int) (nowUtc : Int) (policy : CatchUpPolicy) : Option CatchUpResolution :=
  match nextFireAtUtc with
  | none => some ⟨[], nextFireAfter after nowUtc, false⟩
  | some next =>
    if nowUtc < next then some ⟨[], some next, false⟩
    else
      let windowStart := nowUtc - maxCatchUpWindow
      let dueStart := if next < windowStart then windowStart else next
      match occurrencesBetween after dueStart nowUtc with
      | none => none
      | some dueRuns =>
        let dueRuns :=
          match policy with
          | .skipMissed => []
          | .runLatest => dueRuns.reverse.take 1
          | .runAll => dueRuns
        let nextCursor := dueRuns.getLast?.getD nowUtc
        some ⟨dueRuns, nextFireAfter after nextCursor, decide (next < windowStart)⟩

/-- Poll at each instant in turn, from the next fire that the call before returned. -/
def polls (policy : CatchUpPolicy) : (cursor : Option Int) → (nows : List Int) → Option (List CatchUpResolution)
  | _, [] => some []
  | cursor, now :: nows =>
    match resolveCatchUp after cursor now policy with
    | none => none
    | some r => (polls policy r.nextFireAtUtc nows).map (r :: ·)

end Definition

/-! ## The cron library -/

/-- The iterators enumerate exactly the fires strictly later than their start, in increasing
order; fires are whole seconds. -/
structure Enumerates (after : Int → Nat → Option Int) (fires : Set Int) : Prop where
  increasing : ∀ t j k a b, j < k → after t j = some a → after t k = some b → a < b
  ends : ∀ t j k, j ≤ k → after t j = none → after t k = none
  exactly : ∀ t x, (∃ k, after t k = some x) ↔ x ∈ fires ∧ t < x
  wholeSeconds : ∀ x ∈ fires, second ∣ x

/-- The part of it that the catch-up window needs: nothing is said of the fires themselves. -/
structure EnumeratesAfter (after : Int → Nat → Option Int) (fires : Set Int) : Prop where
  increasing : ∀ t j k a b, j < k → after t j = some a → after t k = some b → a < b
  ends : ∀ t j k, j ≤ k → after t j = none → after t k = none
  exactly : ∀ t x, (∃ k, after t k = some x) ↔ x ∈ fires ∧ t < x

lemma Enumerates.enumeratesAfter {after fires} (h : Enumerates after fires) :
    EnumeratesAfter after fires := ⟨h.increasing, h.ends, h.exactly⟩

def IsFirst (s : Set Int) : Option Int → Prop
  | none => ∀ x, x ∉ s
  | some x => IsLeast s x

section Cron
variable {after : Int → Nat → Option Int} {fires : Set Int}
lemma collectUntil_spec (h : EnumeratesAfter after fires) {t endAt} :
    ∀ fuel k, (∀ a, after t k = some a → (endAt + 1 - a).toNat < fuel) → 0 < fuel →
      ∃ l, collectUntil (after t) endAt fuel k = some l ∧ l.Pairwise (· < ·) ∧
        ∀ x, x ∈ l ↔ (∃ j, k ≤ j ∧ after t j = some x) ∧ x ≤ endAt := by
  intro fuel
  induction fuel with
  | zero => exact fun k _ hpos => absurd hpos (Nat.lt_irrefl 0)
  | succ fuel ih =>
    intro k hfuel _
    rw [collectUntil]
    cases hk : after t k with
    | none =>
      refine ⟨[], rfl, .nil, fun x => ⟨nofun, ?_⟩⟩
      rintro ⟨⟨j, hkj, hj⟩, -⟩
      rw [h.ends t k j hkj hk] at hj
      cases hj
    | some fire =>
      dsimp only
      by_cases hle : fire ≤ endAt
      · rw [if_pos hle]
        have hlt := hfuel fire hk
        have hnext : ∀ a, after t (k + 1) = some a → (endAt + 1 - a).toNat < fuel := by
          intro a ha
          have := h.increasing t k (k + 1) fire a (Nat.lt_succ_self k) hk ha
          omega
        obtain ⟨l, hl, hsorted, hmem⟩ := ih (k + 1) hnext (by omega)
        refine ⟨fire :: l, by rw [hl]; rfl, ?_, fun x => ?_⟩
        · refine pairwise_cons.2 ⟨fun x hx => ?_, hsorted⟩
          obtain ⟨⟨j, hj, hx⟩, -⟩ := (hmem x).1 hx
          exact h.increasing t k j fire x hj hk hx
        · rw [mem_cons, hmem x]
          constructor
          · rintro (rfl | ⟨⟨j, hj, hx⟩, hxle⟩)
            · exact ⟨⟨k, Nat.le_refl k, hk⟩, hle⟩
            · exact ⟨⟨j, by omega, hx⟩, hxle⟩
          · rintro ⟨⟨j, hj, hx⟩, hxle⟩
            rcases Nat.eq_or_lt_of_le hj with rfl | hlt
            · exact .inl (Option.some.inj (hx.symm.trans hk))
            · exact .inr ⟨⟨j, hlt, hx⟩, hxle⟩
      · rw [if_neg hle]
        refine ⟨[], rfl, .nil, fun x => ⟨nofun, ?_⟩⟩
        rintro ⟨⟨j, hkj, hj⟩, hxle⟩
        rcases Nat.eq_or_lt_of_le hkj with rfl | hlt
        · rw [hk] at hj
          cases hj
          exact absurd hxle hle
        · have := h.increasing t k j fire x hlt hk hj
          omega

lemma occurrencesBetween_mem (h : EnumeratesAfter after fires) {start endAt} (hle : start ≤ endAt) :
    ∃ l, occurrencesBetween after start endAt = some l ∧ l.Pairwise (· < ·) ∧
      ∀ x, x ∈ l ↔ (x ∈ fires ∧ start - second < x) ∧ x ≤ endAt := by
  have hpos : ∀ a, after (start - second) 0 = some a →
      (endAt + 1 - a).toNat < (endAt - (start - second)).toNat + 1 := by
    intro a ha
    have := ((h.exactly _ a).1 ⟨0, ha⟩).2
    omega
  obtain ⟨l, hl, hsorted, hmem⟩ := collectUntil_spec h _ 0 hpos (Nat.succ_pos _)
  refine ⟨l, by rw [occurrencesBetween, if_neg (by omega)]; exact hl, hsorted, fun x => ?_⟩
  have hitems : (∃ j, 0 ≤ j ∧ after (start - second) j = some x) ↔ x ∈ fires ∧ start - second < x := by
    rw [← h.exactly]
    simp
  rw [hmem x, hitems]

lemma second_before_iff {x start} (hx : second ∣ x) (hstart : second ∣ start) : start - second < x ↔ start ≤ x := by
  obtain ⟨m, hm⟩ := hx
  obtain ⟨n, hn⟩ := hstart
  unfold second at *
  omega

variable (h : Enumerates after fires)
include h

lemma occurrencesBetween_spec (start endAt : Int) (hstart : start ∈ fires)
    (hle : start ≤ endAt) : ∃ l, occurrencesBetween after start endAt = some l ∧ l.Pairwise (· < ·) ∧
      ∀ x, x ∈ l ↔ x ∈ fires ∧ start ≤ x ∧ x ≤ endAt := by
  obtain ⟨l, hl, hsorted, hmem⟩ := occurrencesBetween_mem h.enumeratesAfter hle
  refine ⟨l, hl, hsorted, fun x => ?_⟩
  rw [hmem x, and_assoc]
  refine and_congr_right fun hx => ?_
  rw [second_before_iff (h.wholeSeconds x hx) (h.wholeSeconds start hstart)]

lemma nextFireAfter_isFirst (t : Int) : IsFirst {x | x ∈ fires ∧ t < x} (nextFireAfter after t) := by
  unfold nextFireAfter
  cases h0 : after t 0 with
  | none =>
    intro x hx
    obtain ⟨k, hk⟩ := (h.exactly t x).2 hx
    rw [h.ends t 0 k (Nat.zero_le k) h0] at hk
    cases hk
  | some a =>
    refine ⟨(h.exactly t a).1 ⟨0, h0⟩, fun x hx => ?_⟩
    obtain ⟨k, hk⟩ := (h.exactly t x).2 hx
    rcases Nat.eq_zero_or_pos k with rfl | hpos
    · exact Int.le_of_eq (Option.some.inj (h0.symm.trans hk))
    · exact Int.le_of_lt (h.increasing t 0 k a x hpos h0 hk)

/-- What a call returns, from any cursor: the due runs are fires in order, up to now and from at
most a second before the cursor on, and the next fire comes after them. -/
structure Forward (fires : Set Int) (cursor : Option Int) (now : Int) (r : CatchUpResolution) : Prop where
  sorted : r.dueRuns.Pairwise (· < ·)
  due : ∀ d ∈ r.dueRuns, d ∈ fires ∧ d ≤ now ∧ ∃ c, cursor = some c ∧ c - second < d
  next : ∀ n ∈ r.nextFireAtUtc, r.dueRuns = [] ∧ cursor = some n ∨
    n ∈ fires ∧ (∀ d ∈ r.dueRuns, d < n) ∧ (r.dueRuns = [] → now < n)

lemma nextFireAfter_mem {t n} (hn : nextFireAfter after t = some n) : n ∈ fires ∧ t < n := (h.exactly t n).1 ⟨0, hn⟩

lemma resolveCatchUp_forward {cursor now policy r}
    (hr : resolveCatchUp after cursor now policy = some r) : Forward fires cursor now r := by
  unfold resolveCatchUp at hr
  cases cursor with
  | none =>
    cases hr
    refine ⟨.nil, forall_mem_nil _, fun n hn => .inr ?_⟩
    obtain ⟨hf, hlt⟩ := nextFireAfter_mem h hn
    exact ⟨hf, forall_mem_nil _, fun _ => hlt⟩
  | some c =>
    dsimp only at hr
    by_cases hlate : now < c
    · rw [if_pos hlate] at hr
      cases hr
      exact ⟨.nil, forall_mem_nil _, fun n hn => .inl ⟨rfl, hn⟩⟩
    · rw [if_neg hlate] at hr
      have hstart : c ≤ (if c < now - maxCatchUpWindow then now - maxCatchUpWindow else c) ∧
          (if c < now - maxCatchUpWindow then now - maxCatchUpWindow else c) ≤ now := by
        unfold maxCatchUpWindow second
        split <;> omega
      obtain ⟨l, hl, hsorted, hmem⟩ := occurrencesBetween_mem h.enumeratesAfter hstart.2
      rw [hl] at hr
      dsimp only at hr
      -- whatever the policy keeps of the occurrences is a sublist of them
      have hkept : ∀ due : List Int, due.Sublist l →
          Forward fires (some c) now ⟨due, nextFireAfter after (due.getLast?.getD now),
            decide (c < now - maxCatchUpWindow)⟩ := by
        intro due hsub
        have hdue : due.Pairwise (· < ·) := hsorted.sublist hsub
        refine ⟨hdue, fun d hd => ?_, fun n hn => .inr ?_⟩
        · obtain ⟨⟨hf, hlt⟩, hle⟩ := (hmem d).1 (hsub.subset hd)
          exact ⟨hf, hle, c, rfl, by omega⟩
        · obtain ⟨hf, hlt⟩ := nextFireAfter_mem h hn
          refine ⟨hf, fun d hd => ?_, fun hnil => ?_⟩
          · obtain ⟨last, hlast⟩ := Option.isSome_iff_exists.1 (getLast?_isSome.2 (ne_nil_of_mem hd))
            rw [hlast, Option.getD_some] at hlt
            obtain ⟨init, rfl⟩ := getLast?_eq_some_iff.1 hlast
            rcases mem_append.1 hd with hd | hd
            · have := (pairwise_append.1 hdue).2.2 d hd last (.head _)
              omega
            · rw [mem_singleton.1 hd]
              exact hlt
          · obtain rfl : due = [] := hnil
            exact hlt
      cases policy with
      | skipMissed =>
        cases hr
        exact hkept [] (nil_sublist l)
      | runLatest =>
        cases hr
        refine hkept _ ?_
        rw [take_reverse]
        rcases eq_nil_or_concat l with rfl | ⟨init, last, rfl⟩
        · exact nil_sublist _
        · simp
      | runAll =>
        cases hr
        exact hkept l (List.Sublist.refl l)

end Cron

/-! ## One poll -/

/-- The fires from `start` on that are later than the last poll, if there was one. -/
def pending (fires : Set Int) (start : Int) (seen : Option Int) : Set Int :=
  {x | x ∈ fires ∧ start ≤ x ∧ ∀ p ∈ seen, p < x}

/-- What a poll at `now` has to return as due, of the fires that are pending. -/
def DueRuns (policy : CatchUpPolicy) (s : Set Int) (now : Int) (due : List Int) : Prop :=
  match policy with
  | .skipMissed => due = []
  | .runLatest => (due = [] ∧ ∀ x ∈ s, now < x) ∨ ∃ x, due = [x] ∧ IsGreatest {x | x ∈ s ∧ x ≤ now} x
  | .runAll => due.Pairwise (· < ·) ∧ ∀ x, x ∈ due ↔ x ∈ s ∧ x ≤ now

/-- A poll serves what is pending, and returns the first fire that is pending after it. -/
structure Served (policy : CatchUpPolicy) (fires : Set Int) (start : Int) (seen : Option Int) (now : Int)
    (r : CatchUpResolution) : Prop where
  due : DueRuns policy (pending fires start seen) now r.dueRuns
  next : IsFirst (pending fires start (some now)) r.nextFireAtUtc
  whole : r.windowTruncated = false

section Poll
variable {after : Int → Nat → Option Int} {fires : Set Int} {start : Int} {s : Set Int} {now : Int}
lemma dueRuns_of_late (policy : CatchUpPolicy) (h : ∀ x ∈ s, now < x) : DueRuns policy s now [] := by
  cases policy with
  | skipMissed => rfl
  | runLatest => exact .inl ⟨rfl, h⟩
  | runAll =>
    refine ⟨.nil, fun x => ⟨nofun, fun hx => ?_⟩⟩
    have := h x hx.1
    omega

lemma isFirst_after_last (h : Enumerates after fires) {now last} (hstart : start ≤ now) (hle : last ≤ now)
    (hgreatest : ∀ x ∈ fires, x ≤ now → x ≤ last) :
    IsFirst (pending fires start (some now)) (nextFireAfter after last) := by
  have hsame : pending fires start (some now) = {x | x ∈ fires ∧ last < x} := by
    ext x
    simp only [pending, Option.mem_def, Option.some.injEq, forall_eq', Set.mem_ofPred_eq]
    constructor
    · rintro ⟨hx, -, hlt⟩
      exact ⟨hx, by omega⟩
    · rintro ⟨hx, hlt⟩
      have hnow : now < x := by
        by_contra hle'
        have := hgreatest x hx (by omega)
        omega
      exact ⟨hx, by omega, hnow⟩
  rw [hsame]
  exact nextFireAfter_isFirst h last

lemma pending_mono {seen now x} (hseen : ∀ p ∈ seen, p ≤ now)
    (hx : x ∈ pending fires start (some now)) : x ∈ pending fires start seen := by
  obtain ⟨hf, hs, hlt⟩ := hx
  refine ⟨hf, hs, fun p hp => ?_⟩
  have h1 := hseen p hp
  have h2 := hlt now rfl
  omega

lemma dueRuns_of_fires (h : Enumerates after fires) (policy : CatchUpPolicy) {now c : Int}
    {l : List Int} (hsorted : l.Pairwise (· < ·)) (hmem : ∀ x, x ∈ l ↔ x ∈ s ∧ x ≤ now) (hc : c ∈ l)
    (hs : ∀ x, x ∈ s ↔ x ∈ fires ∧ c ≤ x) (hstart : start ≤ c) :
    let due :=
      match policy with
      | .skipMissed => []
      | .runLatest => l.reverse.take 1
      | .runAll => l
    DueRuns policy s now due ∧
      IsFirst (pending fires start (some now)) (nextFireAfter after (due.getLast?.getD now)) := by
  have hcnow : c ≤ now := ((hmem c).1 hc).2
  obtain ⟨last, hlast⟩ := Option.isSome_iff_exists.1 (getLast?_isSome.2 (ne_nil_of_mem hc))
  have hlastmem := (hmem last).1 (mem_of_getLast? hlast)
  -- the list is sorted, so its last element is the greatest
  have hmax : ∀ x ∈ l, x ≤ last := by
    intro x hx
    obtain ⟨init, rfl⟩ := getLast?_eq_some_iff.1 hlast
    rcases mem_append.1 hx with hx | hx
    · exact Int.le_of_lt ((pairwise_append.1 hsorted).2.2 x hx last (.head _))
    · rw [mem_singleton.1 hx]
  have hgreatest : ∀ x ∈ fires, x ≤ now → x ≤ last := by
    intro x hx hxnow
    by_cases hcx : c ≤ x
    · exact hmax x ((hmem x).2 ⟨(hs x).2 ⟨hx, hcx⟩, hxnow⟩)
    · have := hmax c hc
      omega
  have hstart : start ≤ now := by omega
  have hnext := isFirst_after_last h hstart hlastmem.2 hgreatest
  cases policy with
  | skipMissed =>
    refine ⟨rfl, ?_⟩
    exact isFirst_after_last h hstart (Int.le_refl now) fun x _ hx => hx
  | runLatest =>
    have htake : l.reverse.take 1 = [last] := by
      obtain ⟨init, rfl⟩ := getLast?_eq_some_iff.1 hlast
      simp
    dsimp only
    rw [htake]
    refine ⟨.inr ⟨last, rfl, hlastmem, fun x hx => hmax x ((hmem x).2 hx)⟩, hnext⟩
  | runAll =>
    dsimp only
    rw [hlast]
    exact ⟨⟨hsorted, hmem⟩, hnext⟩

lemma resolveCatchUp_served (h : Enumerates after fires) (hstart : start ∈ fires) (policy : CatchUpPolicy)
    {seen cursor} (hseen : ∀ p ∈ seen, p ≤ now)
    (hcursor : IsFirst (pending fires start seen) cursor) (hwindow : ∀ c ∈ cursor, now - maxCatchUpWindow ≤ c) :
    ∃ r, resolveCatchUp after cursor now policy = some r ∧ Served policy fires start seen now r := by
  cases cursor with
  | none =>
    -- everything from the start on has been seen, the start itself included
    have hpast : start ≤ now := by
      by_contra hlt
      refine hcursor start ⟨hstart, Int.le_refl _, fun p hp => ?_⟩
      have := hseen p hp
      omega
    refine ⟨_, rfl, dueRuns_of_late policy fun x hx => absurd hx (hcursor x), ?_, rfl⟩
    exact isFirst_after_last h hpast (Int.le_refl now) fun x _ hx => hx
  | some c =>
    obtain ⟨⟨hcf, hcs, hcp⟩, hleast⟩ := hcursor
    unfold resolveCatchUp
    by_cases hlt : now < c
    · refine ⟨_, if_pos hlt, dueRuns_of_late policy fun x hx => ?_, ⟨⟨hcf, hcs, ?_⟩, fun x hx => ?_⟩, rfl⟩
      · have := hleast hx
        omega
      · simpa using hlt
      · exact hleast (pending_mono hseen hx)
    · have hin : ¬ c < now - maxCatchUpWindow := by
        have := hwindow c rfl
        omega
      obtain ⟨l, hl, hsorted, hmem⟩ := occurrencesBetween_spec h c now hcf (by omega)
      have hs : ∀ x, x ∈ pending fires start seen ↔ x ∈ fires ∧ c ≤ x := by
        intro x
        refine ⟨fun hx => ⟨hx.1, hleast hx⟩, fun ⟨hx, hcx⟩ => ⟨hx, by omega, fun p hp => ?_⟩⟩
        have := hcp p hp
        omega
      have hmem' : ∀ x, x ∈ l ↔ x ∈ pending fires start seen ∧ x ≤ now := by
        intro x
        rw [hmem x, hs x, and_assoc]
      have hc : c ∈ l := (hmem c).2 ⟨hcf, Int.le_refl c, by omega⟩
      obtain ⟨hdue, hnext⟩ := dueRuns_of_fires h policy hsorted hmem' hc hs hcs
      simp only [if_neg hlt, if_neg hin, hl]
      exact ⟨_, rfl, hdue, hnext, decide_eq_false hin⟩

end Poll

/-! ## A sequence of polls -/

def ServedAll (policy : CatchUpPolicy) (fires : Set Int) (start : Int) : (seen : Option Int) → List Int →
    List CatchUpResolution → Prop
  | _, [], [] => True
  | seen, now :: nows, r :: rs => Served policy fires start seen now r ∧ ServedAll policy fires start (some now) nows rs
  | _, _, _ => False

/-- Each poll comes at most the catch-up window after the fire it starts from. -/
def WithinWindow (after : Int → Nat → Option Int) (policy : CatchUpPolicy) : (cursor : Option Int) → List Int → Prop
  | _, [] => True
  | cursor, now :: nows =>
    (∀ c ∈ cursor, now - maxCatchUpWindow ≤ c) ∧
      match resolveCatchUp after cursor now policy with
      | none => True
      | some r => WithinWindow after policy r.nextFireAtUtc nows

instance decidableWithinWindow (after : Int → Nat → Option Int) (policy : CatchUpPolicy) :
    ∀ cursor nows, Decidable (WithinWindow after policy cursor nows)
  | _, [] => .isTrue trivial
  | cursor, now :: nows => by
    unfold WithinWindow
    exact match resolveCatchUp after cursor now policy with
      | none => inferInstance
      | some r =>
        have := decidableWithinWindow after policy r.nextFireAtUtc nows
        inferInstance

section Polls
variable {after : Int → Nat → Option Int} {fires : Set Int} {start : Int}
lemma polls_served (h : Enumerates after fires) (hstart : start ∈ fires) {policy nows} :
    ∀ seen cursor, nows.Pairwise (· ≤ ·) → (∀ p ∈ seen, ∀ now ∈ nows, p ≤ now) →
      IsFirst (pending fires start seen) cursor → WithinWindow after policy cursor nows →
      ∃ rs, polls after policy cursor nows = some rs ∧ ServedAll policy fires start seen nows rs := by
  induction nows with
  | nil => exact fun seen cursor _ _ _ _ => ⟨[], rfl, trivial⟩
  | cons now nows ih =>
    intro seen cursor hsorted hseen hcursor hwindow
    obtain ⟨hnow, hsorted⟩ := pairwise_cons.1 hsorted
    obtain ⟨r, hr, hserved⟩ := resolveCatchUp_served h hstart policy
      (fun p hp => hseen p hp now (.head _)) hcursor hwindow.1
    have hrest := hwindow.2
    simp only [hr] at hrest
    obtain ⟨rs, hrs, hall⟩ := ih (some now) r.nextFireAtUtc hsorted (by simpa using hnow) hserved.next hrest
    refine ⟨r :: rs, ?_, hserved, hall⟩
    simp only [polls, hr, hrs, Option.map_some]

lemma runAll_flatMap (nows : List Int) : ∀ seen rs, nows.Pairwise (· ≤ ·) → (∀ p ∈ seen, ∀ now ∈ nows, p ≤ now) →
    ServedAll .runAll fires start seen nows rs → (rs.flatMap CatchUpResolution.dueRuns).Pairwise (· < ·) ∧
      ∀ x, x ∈ rs.flatMap CatchUpResolution.dueRuns ↔ x ∈ pending fires start seen ∧ ∃ now ∈ nows, x ≤ now := by
  induction nows with
  | nil =>
    intro seen rs _ _ hall
    cases rs with
    | nil => simp
    | cons r rs => exact hall.elim
  | cons now nows ih =>
    intro seen rs hsorted hseen hall
    cases rs with
    | nil => exact hall.elim
    | cons r rs =>
      obtain ⟨hserved, hall⟩ := hall
      obtain ⟨hnow, hsorted⟩ := pairwise_cons.1 hsorted
      obtain ⟨hfirst, hfirstmem⟩ := hserved.due
      obtain ⟨hrest, hrestmem⟩ := ih (some now) rs hsorted (by simpa using hnow) hall
      rw [flatMap_cons]
      refine ⟨pairwise_append.2 ⟨hfirst, hrest, fun x hx y hy => ?_⟩, fun x => ?_⟩
      · have hxnow := ((hfirstmem x).1 hx).2
        have hynow := ((hrestmem y).1 hy).1.2.2 now rfl
        omega
      · rw [mem_append, hfirstmem x, hrestmem x]
        constructor
        · rintro (⟨hx, hle⟩ | ⟨hx, later, hlater, hle⟩)
          · exact ⟨hx, now, .head _, hle⟩
          · exact ⟨pending_mono (fun p hp => hseen p hp now (.head _)) hx, later, .tail _ hlater, hle⟩
        · rintro ⟨hx, later, hlater, hle⟩
          by_cases hxnow : x ≤ now
          · exact .inl ⟨hx, hxnow⟩
          · rcases mem_cons.1 hlater with rfl | hlater
            · exact absurd hle hxnow
            · exact .inr ⟨⟨hx.1, hx.2.1, by simpa using hxnow⟩, later, hlater, hle⟩

end Polls

theorem served_polls {after : Int → Nat → Option Int} {fires : Set Int} (h : Enumerates after fires) (start : Int)
    (hstart : start ∈ fires) (policy : CatchUpPolicy) (nows : List Int) (hsorted : nows.Pairwise (· ≤ ·))
    (hwindow : WithinWindow after policy (some start) nows) :
    ∃ rs, polls after policy (some start) nows = some rs ∧ ServedAll policy fires start none nows rs ∧
      (policy = .runAll → (rs.flatMap CatchUpResolution.dueRuns).Pairwise (· < ·) ∧
        ∀ x, x ∈ rs.flatMap CatchUpResolution.dueRuns ↔ x ∈ fires ∧ start ≤ x ∧ ∃ now ∈ nows, x ≤ now) := by
  have hfirst : IsFirst (pending fires start none) (some start) :=
    ⟨⟨hstart, Int.le_refl _, nofun⟩, fun x hx => hx.2.1⟩
  obtain ⟨rs, hrs, hall⟩ := polls_served h hstart none (some start) hsorted
    nofun hfirst hwindow
  refine ⟨rs, hrs, hall, fun hpolicy => ?_⟩
  subst hpolicy
  obtain ⟨hpair, hmem⟩ := runAll_flatMap nows none rs hsorted nofun hall
  refine ⟨hpair, fun x => ?_⟩
  rw [hmem x]
  simp [pending, and_assoc]

/-! ## The catch-up window -/

/-- The start of the window of a poll at `now` from the stored fire `next`. -/
def windowStart (next now : Int) : Int := max next (now - maxCatchUpWindow)

/-- The due runs under `runAll`: every fire of the closed window is among them, and nothing else just if
no fire lies in the open second before the window. -/
theorem runAll_window_iff {after : Int → Nat → Option Int} {fires : Set Int} (h : EnumeratesAfter after fires)
    (next now : Int) (hle : next ≤ now) : ∃ r, resolveCatchUp after (some next) now .runAll = some r ∧
      (r.windowTruncated = true ↔ next < now - maxCatchUpWindow) ∧
      (∀ f ∈ fires, windowStart next now ≤ f → f ≤ now → f ∈ r.dueRuns) ∧
      ((∀ f ∈ r.dueRuns, windowStart next now ≤ f ∧ f ≤ now) ↔
        ∀ f ∈ fires, windowStart next now - second < f → windowStart next now ≤ f) := by
  have hstart : (if next < now - maxCatchUpWindow then now - maxCatchUpWindow else next) = windowStart next now := by
    unfold windowStart
    split <;> omega
  have hnow : windowStart next now ≤ now := by
    unfold windowStart maxCatchUpWindow second
    omega
  obtain ⟨l, hl, -, hmem⟩ := occurrencesBetween_mem h hnow
  unfold resolveCatchUp
  simp only [if_neg (show ¬ now < next by omega), hstart, hl]
  refine ⟨_, rfl, by simp, fun f hf hlow hhigh => ?_, ?_⟩
  · rw [hmem f]
    have : 0 < second := by decide
    exact ⟨⟨hf, by omega⟩, hhigh⟩
  · constructor
    · intro hdue f hf hlt
      by_contra hbefore
      exact hbefore (hdue f ((hmem f).2 ⟨⟨hf, hlt⟩, by omega⟩)).1
    · intro hnone f hf
      obtain ⟨⟨hfire, hlt⟩, hend⟩ := (hmem f).1 hf
      exact ⟨hnone f hfire hlt, hend⟩

/-! ## An hourly schedule -/

def hour : Int := 3600 * second

def hourly (t : Int) (k : Nat) : Option Int := some ((t / hour + 1 + k) * hour)

lemma hourly_enumerates : Enumerates hourly {x | hour ∣ x} where
  increasing := by
    intro t j k a b hjk ha hb
    simp only [hourly, hour, second, Option.some.injEq] at ha hb
    omega
  ends := nofun
  exactly := by
    intro t x
    simp only [hourly, Option.some.injEq, hour, second, Set.mem_ofPred_eq]
    constructor
    · rintro ⟨k, hk⟩
      exact ⟨⟨_, by rw [← hk, Int.mul_comm]⟩, by omega⟩
    · rintro ⟨⟨m, hm⟩, hlt⟩
      exact ⟨(m - t / (3600 * 1000000000) - 1).toNat, by omega⟩
  wholeSeconds := by
    rintro x ⟨m, hm⟩
    exact ⟨3600 * m, by rw [hm, hour]; ring⟩

theorem served_hourly : polls hourly .runAll (some 0) [1800 * second, 3 * hour + 600 * second] =
      some [⟨[0], some hour, false⟩, ⟨[hour, 2 * hour, 3 * hour], some (4 * hour), false⟩] ∧
    ∃ rs, polls hourly .runAll (some 0) [1800 * second, 3 * hour + 600 * second] = some rs ∧
      ServedAll .runAll {x | hour ∣ x} 0 none [1800 * second, 3 * hour + 600 * second] rs := by
  refine ⟨by decide, ?_⟩
  obtain ⟨rs, hrs, hall, -⟩ := served_polls hourly_enumerates 0 ⟨0, rfl⟩ .runAll
    [1800 * second, 3 * hour + 600 * second] (by decide) (by decide)
  exact ⟨rs, hrs, hall⟩

/-- Half a second past seven days after the stored fire: the window begins after it, and it is returned
all the same. -/
theorem fire_before_window_due :
    ¬ ∀ (after : Int → Nat → Option Int) (fires : Set Int), EnumeratesAfter after fires → ∀ next now, next ≤ now →
      ∀ r, resolveCatchUp after (some next) now .runAll = some r →
        ∀ f ∈ r.dueRuns, windowStart next now ≤ f ∧ f ≤ now := by
  intro h
  have hdue : ((resolveCatchUp hourly (some 0) (maxCatchUpWindow + 500000000) .runAll).map
      fun r => decide (0 ∈ r.dueRuns)) = some true := by decide +kernel
  obtain ⟨r, hr, hmem⟩ := Option.map_eq_some_iff.1 hdue
  have hwindow := (h hourly _ hourly_enumerates.enumeratesAfter 0 (maxCatchUpWindow + 500000000)
    (by decide) r hr 0 (of_decide_eq_true hmem)).1
  revert hwindow
  decide

theorem runAll_window_hourly : ∃ r, resolveCatchUp hourly (some hour) (3 * hour) .runAll = some r ∧
      ∀ f ∈ r.dueRuns, windowStart hour (3 * hour) ≤ f ∧ f ≤ 3 * hour := by
  obtain ⟨r, hr, -, -, hiff⟩ := runAll_window_iff hourly_enumerates.enumeratesAfter hour (3 * hour) (by decide)
  refine ⟨r, hr, hiff.2 fun f hf hlt => ?_⟩
  obtain ⟨m, rfl⟩ := hf
  have hstart : windowStart hour (3 * hour) = hour := by decide
  rw [hstart] at hlt ⊢
  unfold hour second at *
  omega

/-- A poll before the start cursor returns the cursor, though there is an earlier fire after the
poll. -/
theorem cursor_kept_over_earlier_fire : Enumerates hourly {x | hour ∣ x} ∧ 10 * hour ∈ {x | hour ∣ x} ∧
    WithinWindow hourly .runAll (some (10 * hour)) [8 * hour + 1800 * second] ∧
    polls hourly .runAll (some (10 * hour)) [8 * hour + 1800 * second] = some [⟨[], some (10 * hour), false⟩] ∧
    ¬ IsLeast {x | hour ∣ x ∧ 8 * hour + 1800 * second < x} (10 * hour) := by
  refine ⟨hourly_enumerates, ⟨10, Int.mul_comm _ _⟩, by decide, by decide, fun h => ?_⟩
  have hle := h.2 (show 9 * hour ∈ _ from ⟨⟨9, Int.mul_comm _ _⟩, by decide⟩)
  exact absurd hle (by decide)

end Roz.Core
