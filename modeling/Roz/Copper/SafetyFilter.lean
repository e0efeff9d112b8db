import Roz.Core.Safety
import Mathlib.Tactic.FieldSimp
import Mathlib.Tactic.Ring

/-!
# The hot-path safety filter (`roz-copper/src/safety_filter.rs`)

`filter` runs after every controller tick: per channel it rejects non-finite
commands, clamps the velocity, limits the acceleration against the previous
output, and stops at position limits; a force or torque beyond its limit zeroes
the whole command.  A call returns `none` where `f64::clamp` would panic, which
takes a negative or NaN limit.

For nonnegative limits no run of calls panics, and every output is bounded
(`run_outputs_bounded`).
-/

namespace Roz.Copper
open Roz.Core ExactFloat F64 JointSafetyLimits List

def positionLimitMargin : ℚ := 1 / 20

structure FilterResult where
  commands : List F64
  interventions : List SafetyIntervention
  estop : Bool
  deriving DecidableEq

/-- The tick period is checked when the filter is built, and only outputs that passed
the clamps are remembered, so a filter carries the proofs that its period is positive
and its history finite. -/
structure HotPathSafetyFilter where
  jointLimits : List JointSafetyLimits
  forceLimits : Option ForceSafetyLimits
  previousCommands : List F64
  tickPeriodS : ℚ
  tickPeriod_pos : 0 < tickPeriodS
  history_finite : ∀ x ∈ previousCommands, x.isFinite = true
  deriving DecidableEq

/-- Forces and torques of a force/torque sensor, as `(fx, fy, fz, tx, ty, tz)`. -/
structure Wrench where
  fx : F64
  fy : F64
  fz : F64
  tx : F64
  ty : F64
  tz : F64
  deriving DecidableEq

structure TickPeriodError where
  period : F64
  deriving DecidableEq

def TickPeriodError.text (display : F64 → String) (e : TickPeriodError) : String :=
  "tick period must be positive and finite, got " ++ display e.period

def validateTickPeriod : F64 → Except TickPeriodError { q : ℚ // 0 < q }
  | .fin q => if h : 0 < q then .ok ⟨q, h⟩ else .error ⟨.fin q⟩
  | x => .error ⟨x⟩

/-! ## One channel -/

variable (l : JointSafetyLimits)
def velocityStage (cmd : F64) : Option (F64 × List SafetyIntervention) :=
  match l.clampVelocity cmd with
  | none => none
  | some clampedVel =>
    if .fin epsilon < (clampedVel.sub cmd).abs then
      some (clampedVel, [⟨l.jointName, cmd, clampedVel, .velocityClamp, .velocity cmd l.maxVelocity⟩])
    else some (cmd, [])

def accelerationStage (tickPeriodS : ℚ) (prev : Option F64) (v : F64) : Option (F64 × List SafetyIntervention) :=
  match prev with
  | none => some (v, [])
  | some prev =>
    let accel := (v.sub prev).div (.fin tickPeriodS)
    match l.clampAcceleration accel with
    | none => none
    | some clampedAccel =>
      if .fin epsilon < (clampedAccel.sub accel).abs then
        let newCmd := clampedAccel.mulAdd (.fin tickPeriodS) prev
        some (newCmd, [⟨l.jointName, v, newCmd, .accelerationLimit, .acceleration accel l.maxAcceleration⟩])
      else some (v, [])

def positionStage (pos : Option F64) (v : F64) : F64 × List SafetyIntervention :=
  match pos with
  | none => (v, [])
  | some pos =>
    if (pos ≤ l.positionMin.add (.fin positionLimitMargin) ∧ v < .fin 0) ∨
        (l.positionMax.sub (.fin positionLimitMargin) ≤ pos ∧ .fin 0 < v) then
      (.fin 0, [⟨l.jointName, v, .fin 0, .positionLimit, .position pos l.positionMin l.positionMax⟩])
    else (v, [])

def filterChannel (tickPeriodS : ℚ) (prev pos : Option F64) (cmd : F64) : Option (F64 × List SafetyIntervention) :=
  if cmd.isNan || cmd.isInfinite then
    some (.fin 0, [⟨l.jointName, if cmd.isNan then .fin 0 else cmd, .fin 0, .nanReject, .nonFinite⟩])
  else
    match velocityStage l cmd with
    | none => none
    | some (v, byVelocity) =>
      match accelerationStage l tickPeriodS prev v with
      | none => none
      | some (v', byAcceleration) =>
        let (v'', byPosition) := positionStage l pos v'
        some (v'', byVelocity ++ byAcceleration ++ byPosition)

/-! ## Bounds on one channel -/

/-- The value respects the joint's velocity limit, up to the tolerance of the clamp. -/
def WithinVelocity (q : ℚ) : Prop :=
  .fin |q| ≤ l.maxVelocity.add (.fin epsilon)

/-- The step from `p` to `q` respects the joint's acceleration limit, up to the
tolerance of the clamp. -/
def WithinAcceleration (tickPeriodS p q : ℚ) : Prop :=
  .fin |q - p| ≤ (l.maxAcceleration.add (.fin epsilon)).mul (.fin tickPeriodS)

def ChannelStop (name : String) (ivs : List SafetyIntervention) : Prop :=
  ∃ iv ∈ ivs, iv.channel = name ∧ (iv.kind = .nanReject ∨ iv.kind = .positionLimit)

lemma ChannelStop.mono {name ivs ivs'} (h : ChannelStop name ivs) (hsub : ivs ⊆ ivs') : ChannelStop name ivs' := by
  obtain ⟨iv, hm, hk⟩ := h
  exact ⟨iv, hsub hm, hk⟩

variable (l : JointSafetyLimits)
lemma withinVelocity_zero (hv : .fin 0 ≤ l.maxVelocity) : WithinVelocity l 0 :=
  fin_le_add hv (by rw [abs_zero, zero_add]; exact epsilon_pos.le)

lemma velocityStage_spec (hv : .fin 0 ≤ l.maxVelocity) (c : ℚ) :
    ∃ v ivs, velocityStage l (.fin c) = some (.fin v, ivs) ∧ WithinVelocity l v := by
  obtain ⟨c', hc, hbound, -, -, -⟩ := clamp_symm hv c
  unfold velocityStage clampVelocity
  simp only [hc, sub_fin, abs_fin, fin_lt_fin]
  split
  · exact ⟨c', _, rfl, fin_le_add hbound (by have := epsilon_pos; linarith)⟩
  · next hclose =>
    refine ⟨c, _, rfl, fin_le_add hbound ?_⟩
    have h1 : |c| ≤ |c'| + |c' - c| := by
      have := abs_sub_abs_le_abs_sub c c'
      rw [abs_sub_comm c c'] at this
      linarith
    linarith

lemma accelerationStage_spec (ha : .fin 0 ≤ l.maxAcceleration) (t : ℚ) (ht : 0 < t) (p v : ℚ) :
    ∃ r ivs, accelerationStage l t (some (.fin p)) (.fin v) = some (.fin r, ivs) ∧
      (min p v ≤ r ∧ r ≤ max p v) ∧ WithinAcceleration l t p r := by
  obtain ⟨c', hc, hbound, hpos, hneg, -⟩ := clamp_symm ha ((v - p) / t)
  have hstep : (v - p) / t * t = v - p := div_mul_cancel₀ _ ht.ne'
  unfold accelerationStage clampAcceleration
  simp only [sub_fin, div_fin _ _ ht.ne', hc, abs_fin, fin_lt_fin, mulAdd_fin]
  split
  · refine ⟨c' * t + p, _, rfl, ?_, ?_⟩
    · -- `c'` lies between 0 and the requested acceleration
      rcases le_total 0 ((v - p) / t) with hs | hs
      · obtain ⟨h0, h1⟩ := hpos hs
        have h2 := mul_le_mul_of_nonneg_right h1 ht.le
        have h3 := mul_nonneg h0 ht.le
        exact ⟨min_le_iff.2 (Or.inl (by linarith)), le_max_iff.2 (Or.inr (by linarith))⟩
      · obtain ⟨h1, h0⟩ := hneg hs
        have h2 := mul_le_mul_of_nonneg_right h1 ht.le
        have h3 := mul_nonpos_of_nonpos_of_nonneg h0 ht.le
        exact ⟨min_le_iff.2 (Or.inr (by linarith)), le_max_iff.2 (Or.inl (by linarith))⟩
    · unfold WithinAcceleration
      rw [add_sub_cancel_right, abs_mul, abs_of_pos ht]
      exact fin_mul_le_mul (fin_le_add hbound (by have := epsilon_pos; linarith)) ht
  · next hclose =>
    refine ⟨v, _, rfl, ⟨min_le_right _ _, le_max_right _ _⟩, ?_⟩
    unfold WithinAcceleration
    rw [← hstep, abs_mul, abs_of_pos ht]
    refine fin_mul_le_mul (fin_le_add hbound ?_) ht
    have := abs_sub_abs_le_abs_sub ((v - p) / t) c'
    rw [abs_sub_comm] at this
    linarith

lemma WithinVelocity.between {p v r} (hp : WithinVelocity l p) (hv : WithinVelocity l v)
    (h : min p v ≤ r ∧ r ≤ max p v) : WithinVelocity l r := by
  have habs : |r| ≤ max |p| |v| := by
    rcases le_total p v with hpv | hpv
    · rw [min_eq_left hpv, max_eq_right hpv] at h
      exact abs_le_max_abs_abs h.1 h.2
    · rw [min_eq_right hpv, max_eq_left hpv] at h
      rw [max_comm]
      exact abs_le_max_abs_abs h.1 h.2
  rcases le_max_iff.1 habs with h | h
  · exact fin_le_trans h hp
  · exact fin_le_trans h hv

lemma finite_of_not_special {x : F64} (h : ¬ (x.isNan || x.isInfinite) = true) : ∃ c, x = .fin c := by
  cases x with
  | fin c => exact ⟨c, rfl⟩
  | inf n => exact absurd rfl h
  | nan => exact absurd rfl h

lemma positionStage_cases (pos : Option F64) (v : F64) : positionStage l pos v = (v, []) ∨
    ∃ ivs, positionStage l pos v = (.fin 0, ivs) ∧ ChannelStop l.jointName ivs := by
  unfold positionStage
  cases pos with
  | none => exact Or.inl rfl
  | some pos =>
    simp only
    split
    · exact Or.inr ⟨_, rfl, _, mem_singleton.mpr rfl, rfl, Or.inr rfl⟩
    · exact Or.inl rfl

variable {ivs : List SafetyIntervention} {x : F64}

/-- Whatever the limits: what a stage returns from finite values is finite, because a
clamp that returns at all has a nonnegative limit. -/
lemma velocityStage_finite (c : ℚ) (h : velocityStage l (.fin c) = some (x, ivs)) : ∃ v, x = .fin v := by
  have hv : .fin 0 ≤ l.maxVelocity := by
    unfold velocityStage clampVelocity at h
    split at h
    · cases h
    · next r hc => exact clamp_symm_nonneg hc
  obtain ⟨v, ivs', hv', -⟩ := velocityStage_spec l hv c
  rw [hv'] at h
  exact ⟨v, (Prod.mk.inj (Option.some.inj h)).1.symm⟩

variable {t : ℚ} {prev : Option F64}
lemma accelerationStage_finite (ht : 0 < t) (hprev : ∀ x, prev = some x → x.isFinite = true) {v : ℚ}
    (h : accelerationStage l t prev (.fin v) = some (x, ivs)) : ∃ r, x = .fin r := by
  cases prev with
  | none => exact ⟨v, (Prod.mk.inj (Option.some.inj h)).1.symm⟩
  | some y =>
    obtain ⟨p, rfl⟩ := (isFinite_iff y).1 (hprev y rfl)
    have ha : .fin 0 ≤ l.maxAcceleration := by
      unfold accelerationStage clampAcceleration at h
      simp only at h
      split at h
      · cases h
      · next r hc => exact clamp_symm_nonneg hc
    obtain ⟨r, ivs', hr, -⟩ := accelerationStage_spec l ha t ht p v
    rw [hr] at h
    exact ⟨r, (Prod.mk.inj (Option.some.inj h)).1.symm⟩

lemma filterChannel_finite (ht : 0 < t) {prev pos}
    (hprev : ∀ x, prev = some x → x.isFinite = true) (cmd x : F64) (ivs : List SafetyIntervention)
    (h : filterChannel l t prev pos cmd = some (x, ivs)) : x.isFinite = true := by
  unfold filterChannel at h
  split at h
  · cases h
    rfl
  · next hfin =>
    obtain ⟨c, rfl⟩ := finite_of_not_special hfin
    split at h
    · cases h
    · next v ivs1 hvel =>
      obtain ⟨v, rfl⟩ := velocityStage_finite l c hvel
      split at h
      · cases h
      · next r ivs2 hacc =>
        obtain ⟨r, rfl⟩ := accelerationStage_finite l ht hprev hacc
        rcases positionStage_cases l pos (.fin r) with hpos | ⟨ivs3, hpos, -⟩
        · rw [hpos] at h
          cases h
          rfl
        · rw [hpos] at h
          cases h
          rfl

/-- What a channel produces stays in any `P` that has zero, the history, what the velocity stage makes of the
command, and whatever lies between two of its values. -/
lemma filterChannel_spec {P : ℚ → Prop} (hzero : P 0)
    (hbetween : ∀ p v r, P p → P v → min p v ≤ r ∧ r ≤ max p v → P r) (ha : .fin 0 ≤ l.maxAcceleration)
    (ht : 0 < t) (pos : Option F64) (hprev : ∀ x, prev = some x → ∃ p, x = .fin p ∧ P p) {cmd : F64}
    (hvelocity : ∀ c, cmd = .fin c → ∃ v ivs, velocityStage l cmd = some (.fin v, ivs) ∧ P v) :
    ∃ q ivs, filterChannel l t prev pos cmd = some (.fin q, ivs) ∧ P q ∧
      ∀ p, prev = some (.fin p) → (q = 0 ∧ ChannelStop l.jointName ivs) ∨ WithinAcceleration l t p q := by
  unfold filterChannel
  split
  · exact ⟨0, _, rfl, hzero, fun p _ => Or.inl ⟨rfl, _, mem_singleton.mpr rfl, rfl, Or.inl rfl⟩⟩
  · next hfin =>
    obtain ⟨c, rfl⟩ := finite_of_not_special hfin
    obtain ⟨v, ivs1, hvel, hv⟩ := hvelocity c rfl
    -- the value before the position check
    have hacc : ∃ r ivs2, accelerationStage l t prev (.fin v) = some (.fin r, ivs2) ∧
        P r ∧ ∀ p, prev = some (.fin p) → WithinAcceleration l t p r := by
      cases prev with
      | none => exact ⟨v, [], rfl, hv, fun p hp => by cases hp⟩
      | some x =>
        obtain ⟨p, rfl, hp⟩ := hprev x rfl
        obtain ⟨r, ivs2, hr, hpr, hwa⟩ := accelerationStage_spec l ha t ht p v
        refine ⟨r, ivs2, hr, hbetween p v r hp hv hpr, fun p' hp' => ?_⟩
        obtain rfl : p = p' := F64.fin.inj (Option.some.inj hp')
        exact hwa
    obtain ⟨r, ivs2, hr, hrP, hra⟩ := hacc
    simp only [hvel, hr]
    rcases positionStage_cases l pos (.fin r) with hpos | ⟨ivs3, hpos, hstop⟩
    · rw [hpos]
      exact ⟨r, _, rfl, hrP, fun p hp => Or.inr (hra p hp)⟩
    · rw [hpos]
      exact ⟨0, _, rfl, hzero, fun p _ => Or.inl ⟨rfl, hstop.mono (subset_append_right _ _)⟩⟩

/-! ## The filter -/

/-- Stage 5: the interventions of the force/torque check; any of them is an e-stop. -/
def forceStage (sqrt : F64 → F64) (forceLimits : Option ForceSafetyLimits) (wrench : Option Wrench) :
    List SafetyIntervention :=
  match forceLimits, wrench with
  | some fl, some w =>
    let forceMag := sqrt (w.fz.mulAdd w.fz (w.fx.mulAdd w.fx (w.fy.mul w.fy)))
    let torqueMag := sqrt (w.tz.mulAdd w.tz (w.tx.mulAdd w.tx (w.ty.mul w.ty)))
    (if fl.maxContactForceN < forceMag then
      [⟨"force_torque", forceMag, .fin 0, .forceLimit, .contactForce forceMag fl.maxContactForceN⟩]
    else []) ++
    (if fl.maxContactTorqueNm < torqueMag then
      [⟨"force_torque", torqueMag, .fin 0, .torqueLimit, .contactTorque torqueMag fl.maxContactTorqueNm⟩]
    else [])
  | _, _ => []

namespace HotPathSafetyFilter

lemma emptyHistory_finite : ∀ x ∈ ([] : List F64), x.isFinite = true := forall_mem_nil _

def new (jointLimits : List JointSafetyLimits) (forceLimits : Option ForceSafetyLimits)
    (tickPeriodS : F64) : Except TickPeriodError HotPathSafetyFilter :=
  match validateTickPeriod tickPeriodS with
  | .error e => .error e
  | .ok q => .ok ⟨jointLimits, forceLimits, [], q.1, q.2, emptyHistory_finite⟩

def channelOutput (f : HotPathSafetyFilter) (currentPositions : Option (List F64)) (i : Nat) (cmd : F64) :
    Option (F64 × List SafetyIntervention) :=
  match f.jointLimits[i]? with
  | some l =>
    filterChannel l f.tickPeriodS f.previousCommands[i]? (currentPositions.bind (·[i]?)) cmd
  | none =>
    some (.fin 0, [⟨"channel_" ++ toString i, cmd, .fin 0, .unconfiguredJoint, .unconfigured i⟩])

def filterChannels (f : HotPathSafetyFilter) (currentPositions : Option (List F64)) :
    Nat → List F64 → Option (List F64 × List SafetyIntervention)
  | _, [] => some ([], [])
  | i, cmd :: cmds =>
    match f.channelOutput currentPositions i cmd with
    | none => none
    | some (out, ivs) =>
      match f.filterChannels currentPositions (i + 1) cmds with
      | none => none
      | some (outs, ivs') => some (out :: outs, ivs ++ ivs')

variable (sqrt : F64 → F64) (f : HotPathSafetyFilter) (commands : List F64)
  (positions : Option (List F64)) (wrench : Option Wrench) (r : FilterResult)
  (f' : HotPathSafetyFilter)

lemma channelOutput_finite {i cmd x} (h : f.channelOutput positions i cmd = some (x, ivs)) : x.isFinite = true := by
  unfold channelOutput at h
  split at h
  · exact filterChannel_finite _ f.tickPeriod_pos
      (fun y hy => f.history_finite y (mem_of_getElem? hy)) _ _ _ h
  · cases h
    rfl

variable {cmds : List F64} (outs : List F64)
lemma filterChannels_getElem? :
    ∀ i outs ivs, f.filterChannels positions i cmds = some (outs, ivs) → outs.length = cmds.length ∧
      ∀ (k : Nat) cmd, cmds[k]? = some cmd →
        ∃ x ivs', f.channelOutput positions (i + k) cmd = some (x, ivs') ∧ outs[k]? = some x := by
  induction cmds with
  | nil =>
    intro i outs ivs h
    cases h
    exact ⟨rfl, fun k cmd hk => by simp at hk⟩
  | cons cmd cmds ih =>
    intro i outs ivs h
    unfold filterChannels at h
    split at h
    · cases h
    · next x ivs1 hx =>
      split at h
      · cases h
      · next outs' ivs2 hrest =>
        cases h
        obtain ⟨hlen, hget⟩ := ih (i + 1) outs' ivs2 hrest
        refine ⟨by rw [length_cons, length_cons, hlen], fun k cmd' hk => ?_⟩
        cases k with
        | zero =>
          obtain rfl : cmd = cmd' := Option.some.inj hk
          exact ⟨x, ivs1, hx, rfl⟩
        | succ k =>
          obtain ⟨y, ivs3, hy, hout⟩ := hget k cmd' hk
          exact ⟨y, ivs3, by rw [← hy, show i + (k + 1) = i + 1 + k by omega], hout⟩

lemma filterChannels_finite {i outs}
    (h : f.filterChannels positions i cmds = some (outs, ivs)) : ∀ x ∈ outs, x.isFinite = true := by
  intro x hmem
  obtain ⟨hlen, hget⟩ := f.filterChannels_getElem? positions i outs ivs h
  obtain ⟨k, hk, rfl⟩ := mem_iff_getElem.1 hmem
  obtain ⟨y, ivs', hy, hout⟩ := hget k _ (getElem?_eq_getElem (hlen ▸ hk))
  rw [getElem?_eq_getElem hk] at hout
  cases hout
  exact f.channelOutput_finite positions hy

lemma filterChannels_congr {positions' cmds} :
    ∀ i, (∀ k, i ≤ k → k < i + cmds.length → positions.bind (·[k]?) = positions'.bind (·[k]?)) →
      f.filterChannels positions i cmds = f.filterChannels positions' i cmds := by
  induction cmds with
  | nil => exact fun i _ => rfl
  | cons cmd cmds ih =>
    intro i h
    have hchannel : f.channelOutput positions i cmd = f.channelOutput positions' i cmd := by
      unfold channelOutput
      rw [h i le_rfl (by rw [length_cons]; omega)]
    have hrest := ih (i + 1) fun k h1 h2 => h k (by omega) (by rw [length_cons]; omega)
    unfold filterChannels
    rw [hchannel, hrest]

lemma zeros_finite : ∀ x ∈ outs.map (fun _ => F64.fin 0), x.isFinite = true := by
  intro x hx
  obtain ⟨-, -, rfl⟩ := mem_map.mp hx
  rfl

/-- The end of a call, after the channel loop: an e-stop zeroes the outputs, and they
become the history. -/
def finish (sqrt : F64 → F64) (f : HotPathSafetyFilter) (outs : List F64)
    (hfin : ∀ x ∈ outs, x.isFinite = true) (ivs : List SafetyIntervention) (wrench : Option Wrench) :
    FilterResult × HotPathSafetyFilter :=
  if (forceStage sqrt f.forceLimits wrench).isEmpty then
    (⟨outs, ivs, false⟩, { f with previousCommands := outs, history_finite := hfin })
  else
    (⟨outs.map fun _ => .fin 0, ivs ++ forceStage sqrt f.forceLimits wrench, true⟩,
      { f with previousCommands := outs.map fun _ => .fin 0, history_finite := zeros_finite outs })

def filter (sqrt : F64 → F64) (f : HotPathSafetyFilter) (commands : List F64)
    (currentPositions : Option (List F64)) (wrench : Option Wrench) :
    Option (FilterResult × HotPathSafetyFilter) :=
  match h : f.filterChannels currentPositions 0 commands with
  | none => none
  | some (outs, ivs) =>
    some (f.finish sqrt outs (f.filterChannels_finite currentPositions h) ivs wrench)

lemma filter_of_panic (h : f.filterChannels positions 0 commands = none) :
    f.filter sqrt commands positions wrench = none := by
  unfold filter
  split
  · rfl
  · next outs ivs h' => rw [h] at h'; cases h'

lemma filter_of_channels (houts : f.filterChannels positions 0 commands = some (outs, ivs)) :
    ∃ hfin, f.filter sqrt commands positions wrench = some (f.finish sqrt outs hfin ivs wrench) := by
  refine ⟨f.filterChannels_finite positions houts, ?_⟩
  unfold filter
  split
  · next h => rw [h] at houts; cases houts
  · next outs' ivs' h =>
    cases h.symm.trans houts
    rfl

lemma filter_congr (positions' : Option (List F64)) (wrench : Option Wrench)
    (h : ∀ k < commands.length, positions.bind (·[k]?) = positions'.bind (·[k]?)) :
    f.filter sqrt commands positions wrench = f.filter sqrt commands positions' wrench := by
  have hloop := f.filterChannels_congr positions 0
    fun k _ hk => h k (by rwa [Nat.zero_add] at hk)
  cases hc : f.filterChannels positions 0 commands with
  | none => rw [f.filter_of_panic sqrt commands positions wrench hc,
      f.filter_of_panic sqrt commands positions' wrench (hloop ▸ hc)]
  | some r =>
    obtain ⟨outs, ivs⟩ := r
    obtain ⟨_, h1⟩ := f.filter_of_channels sqrt commands positions wrench outs hc
    obtain ⟨_, h2⟩ := f.filter_of_channels sqrt commands positions' wrench outs (hloop ▸ hc)
    rw [h1, h2]

def reset (f : HotPathSafetyFilter) : HotPathSafetyFilter :=
  { f with previousCommands := [], history_finite := emptyHistory_finite }

variable {sqrt f commands positions wrench r f'} (h : f.filter sqrt commands positions wrench = some (r, f'))
include h

lemma filter_cases :
    (f'.previousCommands = r.commands ∧ f'.jointLimits = f.jointLimits ∧ f'.tickPeriodS = f.tickPeriodS) ∧
    ∃ outs ivs, f.filterChannels positions 0 commands = some (outs, ivs) ∧
      (((forceStage sqrt f.forceLimits wrench).isEmpty = true ∧ r = ⟨outs, ivs, false⟩) ∨
        ((forceStage sqrt f.forceLimits wrench).isEmpty = false ∧
          r = ⟨outs.map fun _ => .fin 0, ivs ++ forceStage sqrt f.forceLimits wrench, true⟩)) := by
  unfold filter at h
  split at h
  · cases h
  · next outs ivs hloop =>
    unfold finish at h
    split at h
    · next hempty =>
      cases h
      exact ⟨⟨rfl, rfl, rfl⟩, outs, ivs, hloop, Or.inl ⟨hempty, rfl⟩⟩
    · next hempty =>
      cases h
      exact ⟨⟨rfl, rfl, rfl⟩, outs, ivs, hloop, Or.inr ⟨eq_false_of_ne_true hempty, rfl⟩⟩

lemma filter_running (he : r.estop = false) :
    ∃ ivs, f.filterChannels positions 0 commands = some (r.commands, ivs) := by
  obtain ⟨-, outs, ivs, hloop, ⟨-, rfl⟩ | ⟨-, rfl⟩⟩ := filter_cases h
  · exact ⟨ivs, hloop⟩
  · cases he

lemma filter_stopped (he : r.estop = true) : ∀ x ∈ r.commands, x = .fin 0 := by
  obtain ⟨-, outs, ivs, hloop, ⟨-, rfl⟩ | ⟨-, rfl⟩⟩ := filter_cases h
  · cases he
  · intro x hx
    obtain ⟨-, -, rfl⟩ := mem_map.1 hx
    rfl

lemma filter_estop : r.estop = !(forceStage sqrt f.forceLimits wrench).isEmpty := by
  obtain ⟨-, outs, ivs, hloop, ⟨hempty, rfl⟩ | ⟨hempty, rfl⟩⟩ := filter_cases h
  · rw [hempty]
    rfl
  · rw [hempty]
    rfl

lemma filter_remembers :
    f'.previousCommands = r.commands ∧ f'.jointLimits = f.jointLimits ∧ f'.tickPeriodS = f.tickPeriodS :=
  (filter_cases h).1

lemma filter_finite : ∀ x ∈ r.commands, x.isFinite = true :=
  (filter_remembers h).1 ▸ f'.history_finite

end HotPathSafetyFilter

/-! ## Bounds on one call -/

variable (limits : List JointSafetyLimits)
def NonnegLimits : Prop :=
  ∀ l ∈ limits, .fin 0 ≤ l.maxVelocity ∧ .fin 0 ≤ l.maxAcceleration

/-- Every value is finite, zero on channels without limits and within the velocity
limit on the others. -/
def Bounded (outs : List F64) : Prop :=
  ∀ (i : Nat) x, outs[i]? = some x → ∃ q, x = .fin q ∧ (limits[i]? = none → q = 0) ∧
    ∀ l, limits[i]? = some l → WithinVelocity l q

lemma bounded_nil : Bounded limits [] := by
  intro i x h
  simp at h

/-- A recorded reason for a zero on channel `name`: its own stop, or an e-stop. -/
def StopRecorded (r : FilterResult) (name : String) : Prop :=
  ChannelStop name r.interventions ∨
  (r.estop = true ∧ ∃ iv ∈ r.interventions, iv.kind = .forceLimit ∨ iv.kind = .torqueLimit)

/-- Against the output before, every channel with limits is stopped or within its
acceleration limit. -/
def RateBounded (tickPeriodS : ℚ) (prev : List F64) (r : FilterResult) : Prop :=
  ∀ (i : Nat) l p q, limits[i]? = some l → prev[i]? = some (.fin p) → r.commands[i]? = some (.fin q) →
    (q = 0 ∧ StopRecorded r l.jointName) ∨ WithinAcceleration l tickPeriodS p q

namespace HotPathSafetyFilter
variable (f : HotPathSafetyFilter)
lemma channelOutput_spec (hlim : NonnegLimits f.jointLimits)
    (hprev : Bounded f.jointLimits f.previousCommands) (positions : Option (List F64)) (i : Nat) (cmd : F64) :
    ∃ q ivs, f.channelOutput positions i cmd = some (.fin q, ivs) ∧ (f.jointLimits[i]? = none → q = 0) ∧
      ∀ l, f.jointLimits[i]? = some l → WithinVelocity l q ∧ ∀ p, f.previousCommands[i]? = some (.fin p) →
          (q = 0 ∧ ChannelStop l.jointName ivs) ∨ WithinAcceleration l f.tickPeriodS p q := by
  unfold channelOutput
  cases hl : f.jointLimits[i]? with
  | none => exact ⟨0, _, rfl, fun _ => rfl, fun l h => by cases h⟩
  | some l =>
    obtain ⟨hv, ha⟩ := hlim l (mem_of_getElem? hl)
    have hprev' : ∀ x, f.previousCommands[i]? = some x → ∃ p, x = .fin p ∧ WithinVelocity l p := by
      intro x hx
      obtain ⟨p, rfl, -, hp⟩ := hprev i x hx
      exact ⟨p, rfl, hp l hl⟩
    obtain ⟨q, ivs, hq, hvel, hacc⟩ := filterChannel_spec l (withinVelocity_zero l hv) (fun _ _ _ => .between l) ha
      f.tickPeriod_pos (positions.bind (·[i]?)) hprev' fun c hc => hc ▸ velocityStage_spec l hv c
    refine ⟨q, ivs, hq, fun h => (by cases h), fun l' h => ?_⟩
    obtain rfl : l = l' := Option.some.inj h
    exact ⟨hvel, hacc⟩

lemma filterChannels_spec (hlim : NonnegLimits f.jointLimits)
    (hprev : Bounded f.jointLimits f.previousCommands) (positions : Option (List F64)) (cmds : List F64) :
    ∀ i, ∃ outs ivs, f.filterChannels positions i cmds = some (outs, ivs) ∧ outs.length = cmds.length ∧
      ∀ (k : Nat) x, outs[k]? = some x → ∃ q, x = .fin q ∧ (f.jointLimits[i + k]? = none → q = 0) ∧
        ∀ l, f.jointLimits[i + k]? = some l → WithinVelocity l q ∧ ∀ p, f.previousCommands[i + k]? = some (.fin p) →
            (q = 0 ∧ ChannelStop l.jointName ivs) ∨ WithinAcceleration l f.tickPeriodS p q := by
  induction cmds with
  | nil => exact fun i => ⟨[], [], rfl, rfl, fun k x h => by simp at h⟩
  | cons cmd cmds ih =>
    intro i
    obtain ⟨q, ivs, hq, hzero, hlimits⟩ := f.channelOutput_spec hlim hprev positions i cmd
    obtain ⟨outs, ivs', houts, hlen, hrest⟩ := ih (i + 1)
    refine ⟨.fin q :: outs, ivs ++ ivs', by simp only [filterChannels, hq, houts], by simp [hlen], ?_⟩
    intro k x hx
    cases k with
    | zero =>
      obtain rfl : F64.fin q = x := Option.some.inj hx
      refine ⟨q, rfl, hzero, fun l hl => ⟨(hlimits l hl).1, fun p hp => ?_⟩⟩
      rcases (hlimits l hl).2 p hp with ⟨h0, hs⟩ | h
      · exact Or.inl ⟨h0, hs.mono (subset_append_left _ _)⟩
      · exact Or.inr h
    | succ k =>
      rw [getElem?_cons_succ] at hx
      obtain ⟨q', rfl, hz', hl'⟩ := hrest k x hx
      rw [show i + (k + 1) = i + 1 + k by omega]
      refine ⟨q', rfl, hz', fun l hl => ⟨(hl' l hl).1, fun p hp => ?_⟩⟩
      rcases (hl' l hl).2 p hp with ⟨h0, hs⟩ | h
      · exact Or.inl ⟨h0, hs.mono (subset_append_right _ _)⟩
      · exact Or.inr h

variable (sqrt : F64 → F64)
lemma forceStage_kind {fl w iv} (h : iv ∈ forceStage sqrt fl w) : iv.kind = .forceLimit ∨ iv.kind = .torqueLimit := by
  unfold forceStage at h
  split at h
  · rcases mem_append.mp h with h | h
    · split at h
      · rw [mem_singleton.mp h]; exact Or.inl rfl
      · cases h
    · split at h
      · rw [mem_singleton.mp h]; exact Or.inr rfl
      · cases h
  · cases h

/-- One call with nonnegative limits and a bounded history: it does not panic, its output
is bounded and within the acceleration limits. -/
lemma filter_spec (f : HotPathSafetyFilter) (hlim : NonnegLimits f.jointLimits)
    (hprev : Bounded f.jointLimits f.previousCommands) (commands : List F64)
    (positions : Option (List F64)) (wrench : Option Wrench) :
    ∃ r f', f.filter sqrt commands positions wrench = some (r, f') ∧
      r.commands.length = commands.length ∧ Bounded f.jointLimits r.commands ∧
      RateBounded f.jointLimits f.tickPeriodS f.previousCommands r := by
  obtain ⟨outs, ivs, houts, hlen, hch⟩ := f.filterChannels_spec hlim hprev positions commands 0
  simp only [Nat.zero_add] at hch
  obtain ⟨hfin, hfilter⟩ := f.filter_of_channels sqrt commands positions wrench outs houts
  cases hforce : forceStage sqrt f.forceLimits wrench with
  | nil =>
    have hend : f.finish sqrt outs hfin ivs wrench =
        (⟨outs, ivs, false⟩, { f with previousCommands := outs, history_finite := hfin }) := by
      simp [finish, hforce]
    refine ⟨_, _, hfilter.trans (congrArg some hend), hlen, fun i x hx => ?_, fun i l p q hl hp hq => ?_⟩
    · obtain ⟨q, rfl, hz, hl⟩ := hch i x hx
      exact ⟨q, rfl, hz, fun l h => (hl l h).1⟩
    · obtain ⟨q', he, -, hl'⟩ := hch i _ hq
      obtain rfl : q = q' := F64.fin.inj he
      rcases (hl' l hl).2 p hp with ⟨h0, hs⟩ | h
      · exact Or.inl ⟨h0, Or.inl hs⟩
      · exact Or.inr h
  | cons iv rest =>
    have hkind := forceStage_kind sqrt (by rw [hforce]; exact mem_cons_self)
    have hend : f.finish sqrt outs hfin ivs wrench =
        (⟨outs.map fun _ => .fin 0, ivs ++ iv :: rest, true⟩,
          { f with previousCommands := outs.map fun _ => .fin 0, history_finite := zeros_finite outs }) := by
      simp [finish, hforce]
    -- an e-stop: every channel is zeroed
    have hzeros : ∀ (i : Nat) x, (outs.map fun _ => F64.fin 0)[i]? = some x → x = .fin 0 := by
      intro i x hx
      rw [getElem?_map] at hx
      cases ho : outs[i]? with
      | none => rw [ho] at hx; cases hx
      | some y => rw [ho] at hx; exact (Option.some.inj hx).symm
    refine ⟨_, _, hfilter.trans (congrArg some hend), by simpa using hlen, fun i x hx => ?_,
      fun i l p q hl hp hq => ?_⟩
    · refine ⟨0, hzeros i x hx, fun _ => rfl, fun l hl => ?_⟩
      exact withinVelocity_zero l (hlim l (mem_of_getElem? hl)).1
    · refine Or.inl ⟨F64.fin.inj (hzeros i _ hq), Or.inr ⟨rfl, iv, ?_, hkind⟩⟩
      exact mem_append_right _ mem_cons_self

end HotPathSafetyFilter

/-! ## Runs of calls -/

inductive FilterCall where
  | filter (commands : List F64) (positions : Option (List F64)) (wrench : Option Wrench)
  | reset
  deriving DecidableEq

/-- The results of a sequence of calls (`none` for a reset) and the filter after it. -/
def HotPathSafetyFilter.run (sqrt : F64 → F64) (f : HotPathSafetyFilter) :
    List FilterCall → Option (List (Option FilterResult) × HotPathSafetyFilter)
  | [] => some ([], f)
  | .reset :: calls =>
    match f.reset.run sqrt calls with
    | none => none
    | some (outs, f') => some (none :: outs, f')
  | .filter commands positions wrench :: calls =>
    match f.filter sqrt commands positions wrench with
    | none => none
    | some (r, f1) =>
      match f1.run sqrt calls with
      | none => none
      | some (outs, f') => some (some r :: outs, f')

/-- Call by call: the output has the input's length, it is bounded, and it is rate
bounded against the output `prev` of the call before, if there was one since the
last reset. -/
def TraceBounded (limits : List JointSafetyLimits) (tickPeriodS : ℚ) :
    Option (List F64) → List FilterCall → List (Option FilterResult) → Prop
  | _, [], [] => True
  | prev, .filter commands _ _ :: calls, some r :: outs =>
    r.commands.length = commands.length ∧ Bounded limits r.commands ∧
    (∀ p, prev = some p → RateBounded limits tickPeriodS p r) ∧
    TraceBounded limits tickPeriodS (some r.commands) calls outs
  | _, .reset :: calls, none :: outs => TraceBounded limits tickPeriodS none calls outs
  | _, _, _ => False

lemma HotPathSafetyFilter.run_traceBounded (sqrt : F64 → F64) {limits t} (hlim : NonnegLimits limits)
    (calls : List FilterCall) :
    ∀ (f : HotPathSafetyFilter) (prev : Option (List F64)), f.jointLimits = limits → f.tickPeriodS = t →
      f.previousCommands = prev.getD [] → Bounded limits f.previousCommands →
      ∃ outs f', f.run sqrt calls = some (outs, f') ∧ TraceBounded limits t prev calls outs := by
  induction calls with
  | nil => exact fun f prev _ _ _ _ => ⟨[], f, rfl, trivial⟩
  | cons call calls ih =>
    rintro f prev rfl rfl hprev hb
    cases call with
    | reset =>
      obtain ⟨outs, f', hrun, htrace⟩ := ih f.reset none rfl rfl rfl (bounded_nil _)
      exact ⟨none :: outs, f', by simp only [run, hrun], htrace⟩
    | filter commands positions wrench =>
      obtain ⟨r, f1, hr, hlen, hbr, hrate⟩ := f.filter_spec sqrt hlim hb commands positions wrench
      obtain ⟨hrem, hl1, ht1⟩ := filter_remembers hr
      obtain ⟨outs, f', hrun, htrace⟩ := ih f1 (some r.commands) hl1 ht1 hrem (hrem ▸ hbr)
      refine ⟨some r :: outs, f', by simp only [run, hr, hrun], hlen, hbr, fun p hp => ?_, htrace⟩
      rw [hp, Option.getD_some] at hprev
      exact hprev ▸ hrate

theorem run_outputs_bounded (sqrt : F64 → F64) (limits : List JointSafetyLimits)
    (forceLimits : Option ForceSafetyLimits) (t : ℚ) (hlim : NonnegLimits limits) (ht : 0 < t)
    (calls : List FilterCall) : ∃ f outs f', HotPathSafetyFilter.new limits forceLimits (.fin t) = .ok f ∧
      f.run sqrt calls = some (outs, f') ∧ TraceBounded limits t none calls outs := by
  have hnew : HotPathSafetyFilter.new limits forceLimits (.fin t) = 
      .ok ⟨limits, forceLimits, [], t, ht, by simp⟩ := by
    simp [HotPathSafetyFilter.new, validateTickPeriod, ht]
  obtain ⟨outs, f', hrun, htrace⟩ := HotPathSafetyFilter.run_traceBounded sqrt hlim calls
    ⟨limits, forceLimits, [], t, ht, by simp⟩ none rfl rfl rfl (bounded_nil _)
  exact ⟨_, outs, f', hnew, hrun, htrace⟩

def sampleJoint : JointSafetyLimits := ⟨"joint0", .fin 1, .fin 2, .fin (-3), .fin 3, none⟩

def jumpCalls : List FilterCall :=
  [.filter [.fin 0] none none, .filter [.fin 5] none none, .reset, .filter [.nan] none none]

theorem run_outputs_bounded_jump : ∃ f outs f', HotPathSafetyFilter.new [sampleJoint] none (.fin (1 / 100)) = .ok f ∧
      f.run id jumpCalls = some (outs, f') ∧ TraceBounded [sampleJoint] (1 / 100) none jumpCalls outs := by
  refine run_outputs_bounded id [sampleJoint] none (1 / 100) ?_ (by norm_num) jumpCalls
  unfold NonnegLimits
  decide

end Roz.Copper
