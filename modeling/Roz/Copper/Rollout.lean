import Roz.Core.Controller
import Roz.Core.Control

/-!
# Staged rollout (`deployment_manager.rs`, stage helpers of `controller.rs`)

The rollout policy, the comparison of a candidate's command with the active one,
and the envelope that a canary's command is bounded to (`boundCanaryCommand_within`).
-/

namespace Roz.Copper
open Roz.Core ExactFloat F64

/-! ## Policy -/

inductive PolicySource where
  | runtimeBlueprint
  | explicitOverride
  | executionOnly
  | compatibilityFallback
  deriving DecidableEq, Repr

structure DeploymentManager where
  policySource : PolicySource
  requireShadow : Bool
  requireCanary : Bool
  rawShadowTicksRequired : Nat
  rawCanaryTicksRequired : Nat
  maxStageNormalizedCommandDeltaBps : Nat
  canaryMaxCommandDeltaBps : Nat
  maxBoundedCanaryTicks : Nat
  deriving DecidableEq, Repr

namespace DeploymentManager
variable (dm : DeploymentManager)
def allowsRollout : Bool :=
  match dm.policySource with
  | .compatibilityFallback | .executionOnly => false
  | .runtimeBlueprint | .explicitOverride => true

/-- The next promotion target; `VerifiedOnly` never goes directly to `Active`. -/
def nextTarget (current : DeploymentState) : Option DeploymentState :=
  if !dm.allowsRollout then none
  else
    match current with
    | .verifiedOnly => if dm.requireShadow then some .shadow else some .canary
    | .shadow => if dm.requireCanary then some .canary else some .active
    | .canary => some .active
    | .active | .rolledBack | .rejected => none

def shadowTicksRequired : Nat :=
  if dm.rawShadowTicksRequired = 0 then 1 else dm.rawShadowTicksRequired

def canaryTicksRequired : Nat :=
  if dm.rawCanaryTicksRequired = 0 then 1 else dm.rawCanaryTicksRequired

def maxStageNormalizedCommandDelta : F64 :=
  .fin (dm.maxStageNormalizedCommandDeltaBps / 10000)

def canaryMaxCommandDelta : F64 :=
  .fin (dm.canaryMaxCommandDeltaBps / 10000)

end DeploymentManager

/-! ## Comparing a candidate with the active controller -/

structure StageCommandComparison where
  maxAbsDelta : F64
  maxNormalizedDelta : F64
  deriving DecidableEq

/-- The largest deltas over the channels, absolute and relative to the spans. -/
def compareDeltas : StageCommandComparison → List ((F64 × F64) × F64) → StageCommandComparison
  | acc, [] => acc
  | acc, ((left, right), span) :: rest =>
    let absDelta := (left.sub right).abs
    compareDeltas ⟨acc.maxAbsDelta.max absDelta, acc.maxNormalizedDelta.max (absDelta.div span)⟩ rest

def compareStageCommands (active candidate : Option CommandFrame) (commandLimitSpans : List F64) :
    Except String (Option StageCommandComparison) :=
  match active, candidate with
  | none, none => .ok none
  | some _, none => .error "candidate produced no command while active controller produced output"
  | none, some _ => .error "candidate produced command while active controller produced no output"
  | some active, some candidate =>
    if active.values.length ≠ candidate.values.length then
      .error ("candidate command width mismatch: active=" ++ toString active.values.length ++
        " candidate=" ++ toString candidate.values.length)
    else if commandLimitSpans.length < active.values.length then
      .error ("candidate manifest width mismatch: compared=" ++ toString active.values.length ++
        " spans=" ++ toString commandLimitSpans.length)
    else if active.values.isEmpty then .ok none
    else
      .ok (some (compareDeltas ⟨.fin 0, .fin 0⟩
        ((active.values.zip candidate.values).zip commandLimitSpans)))

/-! ## The canary envelope -/

/-- One channel of the envelope; `none` is a panic of `f64::clamp`. -/
def boundChannel (maxNormalizedDelta : F64) (activeValue candidateValue span : F64) : Option F64 :=
  let allowedDelta := (span.mul maxNormalizedDelta).abs
  match F64.clamp allowedDelta.neg allowedDelta (candidateValue.sub activeValue) with
  | none => none
  | some boundedDelta => some (activeValue.add boundedDelta)

def boundChannels (maxNormalizedDelta : F64) : List ((F64 × F64) × F64) → Option (List F64)
  | [] => some []
  | ((a, c), span) :: rest =>
    match boundChannel maxNormalizedDelta a c span, boundChannels maxNormalizedDelta rest with
    | some v, some vs => some (v :: vs)
    | _, _ => none

/-- `none` is a panic, `error` the refusal of mismatched widths. -/
def boundCanaryCommand (active : Option CommandFrame) (candidate : CommandFrame)
    (commandLimitSpans : List F64) (maxNormalizedDelta : F64) : Option (Except String CommandFrame) :=
  match active with
  | none => some (.ok candidate)
  | some active =>
    if active.values.length ≠ candidate.values.length then
      some (.error ("candidate command width mismatch during canary actuation: active=" ++
        toString active.values.length ++ " candidate=" ++ toString candidate.values.length))
    else if commandLimitSpans.length < active.values.length then
      some (.error ("candidate manifest width mismatch during canary actuation: compared=" ++
        toString active.values.length ++ " spans=" ++ toString commandLimitSpans.length))
    else
      match boundChannels (maxNormalizedDelta.max (.fin 0))
          ((active.values.zip candidate.values).zip commandLimitSpans) with
      | none => none
      | some values => some (.ok ⟨values⟩)

/-- Channel by channel, `out` differs from `active` by at most what is allowed for the
channel's span. -/
def WithinEnvelope (allowed : F64 → F64) (active spans out : List F64) : Prop :=
  out.length = active.length ∧
  ∀ (i : Nat) a o, active[i]? = some a → out[i]? = some o → ∃ p q span, a = .fin p ∧ o = .fin q ∧
    spans[i]? = some span ∧ .fin |q - p| ≤ allowed span

def allowedDelta (delta span : F64) : F64 := (span.mul delta).abs

lemma boundChannel_within {delta a c span o} (h : boundChannel delta (.fin a) (.fin c) span = some o) :
    ∃ q, o = .fin q ∧ .fin |q - a| ≤ allowedDelta delta span := by
  unfold boundChannel at h
  simp only [sub_fin] at h
  split at h
  · cases h
  · next d hd =>
    obtain ⟨d', hclamp, hbound, -⟩ := clamp_symm (clamp_symm_nonneg hd) (c - a)
    obtain rfl : F64.fin d' = d := Option.some.inj (hclamp.symm.trans hd)
    obtain rfl := Option.some.inj h
    exact ⟨a + d', rfl, by rw [add_sub_cancel_left]; exact hbound⟩

lemma boundChannels_within (delta : F64) : ∀ (active candidate spans out : List F64), active.length = candidate.length →
      active.length ≤ spans.length → (∀ x ∈ active, x.isFinite = true) → (∀ x ∈ candidate, x.isFinite = true) →
      boundChannels delta ((active.zip candidate).zip spans) = some out →
      WithinEnvelope (allowedDelta delta) active spans out := by
  intro active
  induction active with
  | nil =>
    intro candidate spans out _ _ _ _ h
    obtain rfl : [] = out := by simpa [boundChannels] using h
    exact ⟨rfl, fun i a o ha => by simp at ha⟩
  | cons a active ih =>
    intro candidate spans out hlen hspans hact hcand h
    cases candidate with
    | nil => simp at hlen
    | cons c candidate =>
      cases spans with
      | nil => simp at hspans
      | cons span spans =>
        simp only [List.length_cons, Nat.add_right_cancel_iff, Nat.add_le_add_iff_right] at hlen hspans
        obtain ⟨p, rfl⟩ := (isFinite_iff a).1 (hact a List.mem_cons_self)
        obtain ⟨r, rfl⟩ := (isFinite_iff c).1 (hcand c List.mem_cons_self)
        simp only [List.zip_cons_cons, boundChannels] at h
        split at h
        · next v vs hv hvs =>
          obtain rfl := Option.some.inj h
          obtain ⟨q, rfl, hq⟩ := boundChannel_within hv
          obtain ⟨hl, hch⟩ := ih candidate spans vs hlen hspans
            (fun x hx => hact x (List.mem_cons_of_mem _ hx))
            (fun x hx => hcand x (List.mem_cons_of_mem _ hx)) hvs
          refine ⟨by simp [hl], fun i a' o ha ho => ?_⟩
          cases i with
          | zero =>
            obtain rfl := Option.some.inj ha
            obtain rfl := Option.some.inj ho
            exact ⟨p, q, span, rfl, rfl, rfl, hq⟩
          | succ i => exact hch i a' o ha ho
        · cases h

lemma max_zero_of_nonneg (delta : F64) (h : .fin 0 ≤ delta) : delta.max (.fin 0) = delta := by
  rcases nonneg_cases h with ⟨q, hq, rfl⟩ | rfl
  · simp [F64.max, isNan, not_lt.2 hq]
  · rfl

lemma boundCanaryCommand_within {active candidate f spans delta}
    (hd : .fin 0 ≤ delta) (hact : ∀ x ∈ active.values, x.isFinite = true)
    (hcand : ∀ x ∈ candidate.values, x.isFinite = true)
    (h : boundCanaryCommand (some active) candidate spans delta = some (.ok f)) :
    WithinEnvelope (allowedDelta delta) active.values spans f.values := by
  unfold boundCanaryCommand at h
  simp only [max_zero_of_nonneg delta hd] at h
  split at h
  · cases h
  · next hlen =>
    split at h
    · cases h
    · next hspans =>
      split at h
      · cases h
      · next values hv =>
        obtain rfl : CommandFrame.mk values = f := by simpa using h
        exact boundChannels_within delta _ _ _ _ (not_not.1 hlen) (not_lt.1 hspans) hact hcand hv

end Roz.Copper
