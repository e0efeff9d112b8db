import Mathlib.Algebra.Order.Field.Rat

/-!
# Bitrate tiers (`roz-worker/src/camera/adaptive.rs`)

A tier is left only for one that the score has asked for all through the stability period, and is left
in time for a worse one if the score asks for one tier only (`tier_hysteresis`).  A score that goes on
to a still worse tier starts the period again (`downgrade_late`).
-/

namespace Roz.Worker.Camera

structure RtcpFeedback where
  (fractionLost jitterMs rttMs : ℚ)

structure AdaptiveBitrateController where
  currentTier : Nat
  ewmaScore : ℚ
  pendingTier : Option Nat
  pendingSince : ℚ

namespace AdaptiveBitrateController

def new (now : ℚ) : AdaptiveBitrateController := ⟨1, 3 / 5, none, now⟩

def computeScore (feedback : RtcpFeedback) : ℚ :=
  let loss := max 0 (min feedback.fractionLost 1)
  let cost := 1 / 5 * min (feedback.rttMs / 500) 1 + (1 / 2 * loss + 3 / 10 * min (feedback.jitterMs / 200) 1)
  max 0 (min (1 - cost) 1)

def scoreToTier (score : ℚ) : Nat := if 4 / 5 < score then 0 else if 2 / 5 < score then 1 else 2

variable (c : AdaptiveBitrateController) (feedback : RtcpFeedback) (now : ℚ)
def nextScore : ℚ := 7 / 10 * c.ewmaScore + 3 / 10 * computeScore feedback

def desiredTier : Nat := scoreToTier (c.nextScore feedback)

def stability (desired : Nat) : ℚ := if desired < c.currentTier then 5 else 1

def onRtcpFeedback : AdaptiveBitrateController :=
  let desired := c.desiredTier feedback
  let c := { c with ewmaScore := c.nextScore feedback }
  if desired = c.currentTier then { c with pendingTier := none }
  else if c.pendingTier = some desired then
    if c.stability desired ≤ now - c.pendingSince then { c with currentTier := desired, pendingTier := none } else c
  else { c with pendingTier := some desired, pendingSince := now }

end AdaptiveBitrateController

structure Trace where
  start : ℚ
  feedback : Nat → RtcpFeedback
  time : Nat → ℚ
  mono : Monotone time

namespace Trace
open AdaptiveBitrateController
variable (r : Trace)
def state : Nat → AdaptiveBitrateController
  | 0 => .new r.start
  | i + 1 => (state i).onRtcpFeedback (r.feedback i) (r.time i)

/-- The tier before feedback `i`. -/
abbrev tier (i : Nat) : Nat := (r.state i).currentTier

/-- The tier of the smoothed score at feedback `i`. -/
def mapped (i : Nat) : Nat := (r.state i).desiredTier (r.feedback i)

lemma step_cases (i : Nat) : let s := r.state i; let s' := r.state (i + 1); let d := r.mapped i
    (d = s.currentTier ∧ s'.currentTier = s.currentTier ∧ s'.pendingTier = none) ∨
    (s.pendingTier = some d ∧ s.stability d ≤ r.time i - s.pendingSince ∧ s'.currentTier = d ∧ s'.pendingTier = none) ∨
    (s'.currentTier = s.currentTier ∧ s'.pendingTier = some d ∧
      (s.pendingTier = some d ∧ s'.pendingSince = s.pendingSince ∧ r.time i - s.pendingSince < s.stability d ∨
        s.pendingTier ≠ some d ∧ s'.pendingSince = r.time i)) := by
  rw [state, onRtcpFeedback, mapped]
  grind [stability]

variable {r} {i : Nat}

/-- The pending tier has been asked for since `pendingSince`. -/
lemma pending_since {p} (hp : (r.state i).pendingTier = some p) :
    ∃ j < i, (r.state i).pendingSince = r.time j ∧ ∀ k, j ≤ k → k < i → r.mapped k = p := by
  induction i with
  | zero => cases hp
  | succ i ih =>
    obtain ⟨-, -, hnone⟩ | ⟨-, -, -, hnone⟩ | ⟨-, hsome, ⟨hpending, hsince, -⟩ | ⟨-, hsince⟩⟩ := step_cases r i
    · cases hnone.symm.trans hp
    · cases hnone.symm.trans hp
    · obtain rfl := Option.some.inj (hsome.symm.trans hp)
      obtain ⟨j, hj, htime, hall⟩ := ih hpending
      exact ⟨j, by omega, hsince.trans htime, by grind⟩
    · obtain rfl := Option.some.inj (hsome.symm.trans hp)
      exact ⟨i, by omega, hsince, by grind⟩

/-- While one worse tier is asked for, it is pending from the first feedback on, until it is entered. -/
lemma pending_or_entered {d k} (hworse : r.tier i < d) (hk : i + 1 ≤ k) :
    (∀ m, i ≤ m → m < k → r.mapped m = d) → r.tier k = d ∨
      (r.tier k = r.tier i ∧ (r.state k).pendingTier = some d ∧ (r.state k).pendingSince ≤ r.time i) := by
  induction k, hk using Nat.le_induction with
  | base =>
    intro hall
    have hd := hall i le_rfl (Nat.lt_succ_self i)
    have hstep := step_cases r i
    have hsince : (r.state i).pendingTier = some d → (r.state i).pendingSince ≤ r.time i := fun hpending => by
      obtain ⟨j, hj, htime, -⟩ := pending_since hpending
      exact htime.trans_le (r.mono hj.le)
    grind
  | succ k hk ih =>
    intro hall
    have hd := hall k (by omega) (Nat.lt_succ_self k)
    have hstep := step_cases r k
    have hbefore := ih fun m him hm => hall m him (by omega)
    grind

end Trace
open AdaptiveBitrateController Trace

/-- The tier changes only after its stability period; it becomes worse within a second if all feedbacks
of that second ask for one worse tier. -/
theorem tier_hysteresis (r : Trace) :
    (∀ i, r.tier (i + 1) ≠ r.tier i → ∃ j ≤ i, (if r.tier (i + 1) < r.tier i then 5 else 1) ≤ r.time i - r.time j ∧
      ∀ k, j ≤ k → k ≤ i → r.mapped k = r.tier (i + 1)) ∧
    ∀ i j d, i ≤ j → r.time j = r.time i + 1 → (∀ k, i ≤ k → k ≤ j → r.mapped k = d) → r.tier i < d →
      r.tier i < r.tier (j + 1) := by
  refine ⟨fun i hchange => ?_, fun i j d hij htime hall hworse => ?_⟩
  · obtain ⟨-, htier, -⟩ | ⟨hpending, hlong, htier, -⟩ | ⟨htier, -⟩ := step_cases r i
    · exact absurd htier hchange
    · obtain ⟨j, hj, hsince, hall⟩ := pending_since hpending
      rw [hsince, ← htier] at hlong
      exact ⟨j, hj.le, hlong, by grind⟩
    · exact absurd htier hchange
  · have hne : i ≠ j := fun h => by simp [h] at htime
    have hbefore := pending_or_entered hworse (by omega : i < j) fun k hik hk => hall k hik hk.le
    have hstep := step_cases r j
    have hshort : r.tier j = r.tier i → (r.state j).stability d = 1 := fun h =>
      if_neg (show ¬ d < r.tier j by omega)
    rw [hall j hij le_rfl] at hstep
    grind

/-- Good feedback until the best tier is entered, and then none that arrives. -/
def dropped : Trace where
  start := 0
  feedback i := if i < 3 then ⟨0, 0, 0⟩ else ⟨1, 200, 500⟩
  time
    | 0 => 0
    | 1 => 1
    | 2 => 6
    | 3 => 7
    | 4 | 5 => 15 / 2
    | 6 => 8
    | _ => 9
  mono := monotone_nat_of_le_succ fun
    | 0 | 1 | 2 | 3 | 4 | 5 | 6 => by decide +kernel
    | _ + 7 => le_rfl

/-- For a second the score asks for worse tiers than the best one, first the second and then the third. -/
theorem downgrade_late : dropped.time 6 = dropped.time 3 + 1 ∧ dropped.tier 3 = 0 ∧
    [3, 4, 5, 6].map dropped.mapped = [1, 1, 2, 2] ∧ dropped.tier 7 = 0 := by
  decide +kernel

end Roz.Worker.Camera
