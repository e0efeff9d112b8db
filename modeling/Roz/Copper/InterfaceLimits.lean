import Roz.Copper.TickStops

/-!
# Live frames and the limits of a channel's interface (`safety_filter.rs`, `controller.rs`)

What a command value means depends on the interface of its channel: a velocity, a
position or a torque.  `clamp_frame_with_control_manifest` clamps each channel to the
limits of its own interface.  The filter on the live path treats every channel as a
velocity: it clamps to the velocity limit, with a tolerance, and knows positions only
as readings that stop a motion.

A frame of the live path respects the interfaces as long as no command needs more
than that: each is within the limits of its interface already, or so far beyond the
velocity limit that it is clamped, to a velocity limit within the limits of the
interface (`liveFrames_respect_interfaces`).
-/

namespace Roz.Copper
open Roz.Core ExactFloat F64 HostContext HotPathSafetyFilter LoadedController List

/-! ## The limits by interface -/

def fallbackControlLimits : CommandInterfaceType → F64 × F64
  | .jointPosition => (.fin (-(tau / 2)), .fin (tau / 2))
  | .jointTorque => (.fin (-100), .fin 100)
  | .gripperPosition => (.fin (-1 / 10), .fin (1 / 10))
  | .gripperForce => (.fin (-50), .fin 50)
  | .jointVelocity | .forceTorqueSensor | .imuSensor => (.fin (-1), .fin 1)

variable (interfaceType : CommandInterfaceType)

/-- The limits that `frame_command_profiles_from_control_manifest` gives to an actuator channel. -/
def frameCommandLimits (limits : Option JointSafetyLimits) : F64 × F64 :=
  match interfaceType with
  | .jointVelocity =>
    match limits with
    | some l => (l.maxVelocity.abs.neg, l.maxVelocity.abs)
    | none => fallbackControlLimits interfaceType
  | .jointPosition | .gripperPosition =>
    match limits with
    | some l => (l.positionMin, l.positionMax)
    | none => fallbackControlLimits interfaceType
  | .jointTorque | .gripperForce =>
    match limits.bind JointSafetyLimits.maxTorque with
    | some t => (t.abs.neg, t.abs)
    | none => fallbackControlLimits interfaceType
  | .forceTorqueSensor | .imuSensor => fallbackControlLimits interfaceType

def interfaceLimits (l : JointSafetyLimits) : Option (F64 × F64) :=
  match interfaceType with
  | .jointVelocity => some (l.maxVelocity.neg, l.maxVelocity)
  | .jointPosition | .gripperPosition => some (l.positionMin, l.positionMax)
  | .jointTorque | .gripperForce => l.maxTorque.map fun t => (t.neg, t)
  | .forceTorqueSensor | .imuSensor => none

structure SaneLimits (l : JointSafetyLimits) : Prop where
  position : l.positionMin ≤ l.positionMax
  velocity : .fin 0 ≤ l.maxVelocity
  acceleration : .fin 0 ≤ l.maxAcceleration
  torque : ∀ t, l.maxTorque = some t → .fin 0 ≤ t

def Within (channels : List ControlChannelDef) (limits : List JointSafetyLimits) (xs : List F64) : Prop :=
  ∀ (i : Nat) ch l x, channels[i]? = some ch → limits[i]? = some l → xs[i]? = some x →
    ∀ lo hi, interfaceLimits ch.interfaceType l = some (lo, hi) → lo ≤ x ∧ x ≤ hi

/-! ## One channel -/

variable (l : JointSafetyLimits)

/-- The velocity clamp leaves the command within `lo` and `hi`: it is there already, or it is clamped to
a velocity limit that is. -/
def CommandFits (lo hi x : F64) : Prop :=
  ∀ q, x = .fin q →
    (lo ≤ .fin q ∧ .fin q ≤ hi) ∨
    (l.maxVelocity.add (.fin epsilon) < .fin q ∧ l.maxVelocity ≤ hi) ∨
    (.fin q < (l.maxVelocity.add (.fin epsilon)).neg ∧ lo ≤ l.maxVelocity.neg)

lemma velocityStage_within (hv : .fin 0 ≤ l.maxVelocity) (lo hi : F64)
    (h0 : lo ≤ .fin 0 ∧ .fin 0 ≤ hi) (c : ℚ) (hfit : CommandFits l lo hi (.fin c)) :
    ∃ v ivs, velocityStage l (.fin c) = some (.fin v, ivs) ∧ lo ≤ .fin v ∧ .fin v ≤ hi := by
  obtain ⟨c', hc, hbound, hpos, hneg, -⟩ := clamp_symm hv c
  have hbetween : min 0 c ≤ c' ∧ c' ≤ max 0 c := by
    rcases le_total 0 c with h | h
    · exact ⟨min_le_iff.2 (Or.inl (hpos h).1), le_max_iff.2 (Or.inr (hpos h).2)⟩
    · exact ⟨min_le_iff.2 (Or.inr (hneg h).1), le_max_iff.2 (Or.inl (hneg h).2)⟩
  unfold velocityStage JointSafetyLimits.clampVelocity
  simp only [hc, sub_fin, abs_fin, fin_lt_fin]
  rcases hfit c rfl with hin | hfar
  · split
    · exact ⟨c', _, rfl, between_of_between hbetween h0 hin⟩
    · exact ⟨c, _, rfl, hin⟩
  · -- beyond the tolerance: the limit is finite and the command is clamped
    rcases nonneg_cases hv with ⟨m, hm, hmv⟩ | hmv
    · rw [hmv] at hbound hfar
      simp only [add_fin, neg_fin, fin_lt_fin, fin_le_fin] at hbound hfar
      obtain ⟨hlow, hhigh⟩ := abs_le.1 hbound
      have heps := epsilon_pos
      rcases hfar with ⟨hbeyond, hhi⟩ | ⟨hbeyond, hlo⟩
      · have hclamped : epsilon < |c' - c| := by
          rw [abs_sub_comm]
          exact lt_of_lt_of_le (by linarith) (le_abs_self _)
        rw [if_pos hclamped]
        exact ⟨c', _, rfl, le_fin_trans h0.1 (hpos (by linarith)).1, fin_le_trans hhigh hhi⟩
      · have hclamped : epsilon < |c' - c| := lt_of_lt_of_le (by linarith) (le_abs_self _)
        rw [if_pos hclamped]
        exact ⟨c', _, rfl, le_fin_trans hlo hlow, fin_le_trans (hneg (by linarith)).2 h0.2⟩
    · rw [hmv] at hfar
      rcases hfar with ⟨h, -⟩ | ⟨h, -⟩ <;> cases h

/-! ## One call of the filter -/

/-- Zero, to which a channel is stopped, is within the limits of every interface. -/
def ZeroAllowed (channels : List ControlChannelDef) (limits : List JointSafetyLimits) : Prop :=
  ∀ (i : Nat) ch l, channels[i]? = some ch → limits[i]? = some l →
    ∀ lo hi, interfaceLimits ch.interfaceType l = some (lo, hi) → lo ≤ .fin 0 ∧ .fin 0 ≤ hi

def CommandsFit (channels : List ControlChannelDef) (limits : List JointSafetyLimits) (xs : List F64) : Prop :=
  ∀ (i : Nat) ch l x, channels[i]? = some ch → limits[i]? = some l → xs[i]? = some x →
    ∀ lo hi, interfaceLimits ch.interfaceType l = some (lo, hi) → CommandFits l lo hi x

lemma within_of_zeros (channels : List ControlChannelDef) {limits}
    (hzero : ZeroAllowed channels limits) {xs} (h : ∀ x ∈ xs, x = .fin 0) : Within channels limits xs := by
  intro i ch l x hch hl hx lo hi hlim
  rw [h x (mem_of_getElem? hx)]
  exact hzero i ch l hch hl lo hi hlim

variable (sqrt : F64 → F64) {load : PreparedController}
lemma HotPathSafetyFilter.filter_within (f : HotPathSafetyFilter) (channels : List ControlChannelDef)
    (hsane : ∀ l ∈ f.jointLimits, SaneLimits l) (hzero : ZeroAllowed channels f.jointLimits)
    (hprev : Within channels f.jointLimits f.previousCommands) {commands}
    (hfit : CommandsFit channels f.jointLimits commands) {positions} (wrench : Option Wrench)
    (r : FilterResult) {f'} (h : f.filter sqrt commands positions wrench = some (r, f')) :
    Within channels f.jointLimits r.commands := by
  cases he : r.estop with
  | true => exact within_of_zeros channels hzero (filter_stopped h he)
  | false =>
    obtain ⟨ivs, hloop⟩ := filter_running h he
    obtain ⟨hlen, hget⟩ := f.filterChannels_getElem? positions 0 _ ivs hloop
    intro i ch l x hch hl hx lo hi hlim
    have hlt : i < commands.length := hlen ▸ (List.getElem?_eq_some_iff.1 hx).1
    have hcmd : commands[i]? = some commands[i] := getElem?_eq_getElem hlt
    obtain ⟨y, ivs', hy, hout⟩ := hget i _ hcmd
    obtain rfl : x = y := Option.some.inj (hx.symm.trans hout)
    have hs := hsane l (mem_of_getElem? hl)
    have hzero := hzero i ch l hch hl lo hi hlim
    have hprev : ∀ p, f.previousCommands[i]? = some p → ∃ q, p = .fin q ∧ lo ≤ .fin q ∧ .fin q ≤ hi := by
      intro p hp
      obtain ⟨q, rfl⟩ := (isFinite_iff p).1 (f.history_finite p (mem_of_getElem? hp))
      exact ⟨q, rfl, hprev i ch l _ hch hl hp lo hi hlim⟩
    obtain ⟨z, ivs'', hz, hwithin, -⟩ := filterChannel_spec l hzero (fun p v r hp hv h => between_of_between h hp hv)
      hs.acceleration f.tickPeriod_pos (positions.bind (·[i]?)) hprev fun c hc =>
        hc ▸ velocityStage_within l hs.velocity lo hi hzero c (hc ▸ hfit i ch l _ hch hl hcmd lo hi hlim)
    rw [Nat.zero_add] at hy
    unfold channelOutput at hy
    rw [hl] at hy
    simp only [hz, Option.some.injEq, Prod.mk.injEq] at hy
    rw [← hy.1]
    exact hwithin

/-! ## One tick -/

lemma length_writeValues (slots : List F64) : ∀ vs, (writeValues slots vs).length = slots.length := by
  induction slots with
  | nil => intro vs; cases vs <;> rfl
  | cons s slots ih =>
    intro vs
    cases vs with
    | nil => rfl
    | cons v vs => simp [writeValues, ih]

lemma writeValues_getElem? {slots} : ∀ vs (i : Nat) x, (writeValues slots vs)[i]? = some x →
    vs[i]? = some x ∨ (vs[i]? = none ∧ slots[i]? = some x) := by
  induction slots with
  | nil => intro vs i x h; cases vs <;> simp [writeValues] at h
  | cons s slots ih =>
    intro vs i x h
    cases vs with
    | nil => exact Or.inr ⟨by simp, h⟩
    | cons v vs =>
      cases i with
      | zero => exact Or.inl h
      | succ i => exact ih vs i x h

lemma tickController_state {c c' wrench guest r} (h : tickController sqrt c wrench guest = some (r, c')) :
    c'.host.defaults = c.host.defaults ∧ c'.host.commandValues.length = c.host.commandValues.length ∧
    ((c'.hotPathFilter = c.hotPathFilter ∧ r.command = none) ∨
      ∃ o fr, guest = .output o ∧ c.filterOutput sqrt wrench o = some (fr, c'.hotPathFilter) ∧
        ∀ frame, r.command = some frame → frame = ⟨fr.commands⟩) := by
  have hhost : ∀ o, (c.host.resetCommands.recordTickOutput o).defaults = c.host.defaults ∧
      (c.host.resetCommands.recordTickOutput o).commandValues.length = c.host.commandValues.length := by
    intro o
    unfold HostContext.recordTickOutput HostContext.resetCommands
    simp only
    split <;> exact ⟨rfl, by simp only [length_writeValues]⟩
  cases guest with
  | trap message =>
    cases h
    exact ⟨rfl, length_writeValues _ _, Or.inl ⟨rfl, rfl⟩⟩
  | output o =>
    rw [tickController_output] at h
    split at h
    · cases h
      exact ⟨(hhost o).1, (hhost o).2, Or.inl ⟨rfl, rfl⟩⟩
    · obtain ⟨⟨fr, f'⟩, hf, heq⟩ := Option.map_eq_some_iff.1 h
      cases heq
      refine ⟨(hhost o).1, (hhost o).2, Or.inr ⟨o, fr, rfl, hf, fun frame hframe => ?_⟩⟩
      unfold verdict at hframe
      split at hframe
      · cases hframe
      · split at hframe
        · cases hframe
        · exact (Option.some.inj hframe).symm

variable {c : LoadedController}
lemma tickController_isSome {wrench guest} (h : ∀ o, guest = .output o → (c.filterOutput sqrt wrench o).isSome = true) :
    ∃ r c', tickController sqrt c wrench guest = some (r, c') := by
  cases guest with
  | trap message => exact ⟨_, _, rfl⟩
  | output o =>
    obtain ⟨fr, hfr⟩ := Option.isSome_iff_exists.1 (h o rfl)
    rw [tickController_output, hfr]
    split
    · exact ⟨_, _, rfl⟩
    · exact ⟨_, _, rfl⟩

/-! ## Runs of ticks -/

structure SensedTick where
  positions : List F64
  velocities : List F64
  wrench : Option Wrench
  guest : GuestOutcome

def sensedRun (sqrt : F64 → F64) : LoadedController → List SensedTick →
    Option (List ControllerTickResult × LoadedController)
  | c, [] => some ([], c)
  | c, t :: ts =>
    match tickController sqrt (c.injectSensorState t.positions t.velocities) t.wrench t.guest with
    | none => none
    | some (r, c') =>
      match sensedRun sqrt c' ts with
      | none => none
      | some (rs, c'') => some (r :: rs, c'')

namespace PreparedController

def channels (load : PreparedController) : List ControlChannelDef := load.manifest.channels

def limits (load : PreparedController) : List JointSafetyLimits :=
  jointLimitsFromRuntime load.manifest load.runtime

def Sane (load : PreparedController) : Prop := ∀ joint ∈ load.runtime.joints, SaneLimits joint.limits

end PreparedController

lemma saneLimits_fallback (channel : ControlChannelDef) : SaneLimits (fallbackJointLimits channel) := by
  obtain ⟨name, interfaceType⟩ := channel
  have hhalf : 0 ≤ fallbackLimitSpan interfaceType / 2 := by cases interfaceType <;> norm_num [fallbackLimitSpan, tau]
  refine ⟨?_, (fin_le_fin _ _).2 hhalf, rfl, fun t ht => ?_⟩
  · exact (fin_le_fin _ _).2 (by simp only; linarith)
  · cases interfaceType with
    | jointTorque | gripperForce =>
      obtain rfl := Option.some.inj ht
      exact (fin_le_fin _ _).2 hhalf
    | jointVelocity | jointPosition | gripperPosition | forceTorqueSensor | imuSensor => cases ht

lemma PreparedController.Sane.limits {load : PreparedController} (h : load.Sane) : ∀ l ∈ load.limits, SaneLimits l := by
  intro l hl
  obtain ⟨i, hi, rfl⟩ := mem_mapIdx.1 hl
  unfold runtimeJointLimitsForChannel
  split
  · next joint hjoint =>
    obtain ⟨b, -, hb⟩ := Option.bind_eq_some_iff.1 hjoint
    obtain ⟨hp, hv, ha, ht⟩ := h joint (mem_of_find?_eq_some hb)
    exact ⟨hp, hv, ha, ht⟩
  · exact saneLimits_fallback _

structure LiveInv (load : PreparedController) (c : LoadedController) : Prop where
  limits : c.hotPathFilter.jointLimits = load.limits
  bounded : Bounded load.limits c.hotPathFilter.previousCommands
  within : Within load.channels load.limits c.hotPathFilter.previousCommands
  defaults : ∀ x ∈ c.host.defaults, x = .fin 0
  slots : c.host.commandValues.length = c.host.defaults.length

lemma liveInv_fromPrepared (load : PreparedController) : LiveInv load (.fromPrepared load) where
  limits := rfl
  bounded := bounded_nil _
  within := by
    intro i ch l x _ _ hx
    simp [fromPrepared] at hx
  defaults := by
    intro x hx
    obtain ⟨-, -, rfl⟩ := mem_map.1 hx
    rfl
  slots := rfl

lemma LiveInv.rawCommand {load} (h : LiveInv load c)
    (o : TickOutput) (i : Nat) (x : F64) (hx : (c.rawCommand o)[i]? = some x) :
    o.commandValues[i]? = some x ∨ x = .fin 0 := by
  have hraw : c.rawCommand o =
      writeValues (writeValues c.host.commandValues c.host.defaults) o.commandValues := by
    unfold LoadedController.rawCommand HostContext.recordTickOutput HostContext.resetCommands
    simp only
    split <;> rfl
  rw [hraw] at hx
  rcases writeValues_getElem? _ i x hx with hout | ⟨-, hslot⟩
  · exact Or.inl hout
  · rcases writeValues_getElem? _ i x hslot with hdefault | ⟨hnone, hold⟩
    · exact Or.inr (h.defaults x (mem_of_getElem? hdefault))
    · have h1 := (List.getElem?_eq_some_iff.1 hold).1
      have h2 := getElem?_eq_none_iff.1 hnone
      have h3 := h.slots
      omega

lemma LiveInv.injectSensorState {load} (h : LiveInv load c)
    (positions velocities : List F64) : LiveInv load (c.injectSensorState positions velocities) :=
  ⟨h.limits, h.bounded, h.within, h.defaults, h.slots⟩

def SensedTick.Fits (load : PreparedController) (t : SensedTick) : Prop :=
  ∀ o, t.guest = .output o → CommandsFit load.channels load.limits o.commandValues

lemma LiveInv.commandsFit (h : LiveInv load c) (hzero : ZeroAllowed load.channels load.limits) (o : TickOutput)
    (hfit : CommandsFit load.channels load.limits o.commandValues) :
    CommandsFit load.channels load.limits (c.rawCommand o) := by
  intro i ch l x hch hl hx lo hi hlim
  rcases h.rawCommand o i x hx with hout | rfl
  · exact hfit i ch l x hch hl hout lo hi hlim
  · intro q hq
    obtain rfl : 0 = q := F64.fin.inj hq
    exact Or.inl (hzero i ch l hch hl lo hi hlim)

lemma LiveInv.tick (h : LiveInv load c) (hsane : load.Sane)
    (hzero : ZeroAllowed load.channels load.limits) (wrench : Option Wrench) (guest : GuestOutcome)
    (hfit : ∀ o, guest = .output o → CommandsFit load.channels load.limits o.commandValues) :
    ∃ r c', tickController sqrt c wrench guest = some (r, c') ∧ LiveInv load c' ∧
      ∀ frame, r.command = some frame → Within load.channels load.limits frame.values := by
  have hlim := hsane.limits
  rw [← h.limits] at hlim
  have hspec : ∀ o, ∃ fr f', c.filterOutput sqrt wrench o = some (fr, f') ∧
      Bounded c.hotPathFilter.jointLimits fr.commands := by
    intro o
    obtain ⟨fr, f', hf, -, hb, -⟩ := c.hotPathFilter.filter_spec sqrt
      (fun l hl => ⟨(hlim l hl).velocity, (hlim l hl).acceleration⟩) (h.limits ▸ h.bounded) (c.rawCommand o) _ wrench
    exact ⟨fr, f', hf, hb⟩
  obtain ⟨r, c', hr⟩ := tickController_isSome sqrt fun o _ => by
    obtain ⟨fr, f', hf, -⟩ := hspec o
    rw [hf]
    rfl
  refine ⟨r, c', hr, ?_⟩
  obtain ⟨hdefaults, hslots, hstate⟩ := tickController_state sqrt hr
  have hhost : (∀ x ∈ c'.host.defaults, x = .fin 0) ∧
      c'.host.commandValues.length = c'.host.defaults.length := by
    rw [hdefaults, hslots]
    exact ⟨h.defaults, h.slots⟩
  rcases hstate with ⟨hsame, hnone⟩ | ⟨o, fr, hguest, hf, hframe⟩
  · refine ⟨⟨by rw [hsame, h.limits], by rw [hsame]; exact h.bounded, by rw [hsame]; exact h.within,
      hhost.1, hhost.2⟩, fun frame hc => ?_⟩
    rw [hnone] at hc
    cases hc
  · obtain ⟨fr', f', hf', hb⟩ := hspec o
    cases hf.symm.trans hf'
    obtain ⟨hprev, hjoint, -⟩ := filter_remembers hf
    have hwithin : Within load.channels load.limits fr.commands := by
      have hraw := h.commandsFit hzero o (hfit o hguest)
      rw [← h.limits] at hraw hzero ⊢
      exact c.hotPathFilter.filter_within sqrt load.channels hlim hzero (h.limits ▸ h.within) hraw wrench fr hf
    refine ⟨⟨by rw [hjoint, h.limits], by rw [hprev, ← h.limits]; exact hb, by rw [hprev]; exact hwithin,
      hhost.1, hhost.2⟩, fun frame hc => ?_⟩
    rw [hframe frame hc]
    exact hwithin

lemma LiveInv.run (hsane : load.Sane) (hzero : ZeroAllowed load.channels load.limits) (ticks : List SensedTick) :
    ∀ c, LiveInv load c → (∀ t ∈ ticks, t.Fits load) → ∃ rs c', sensedRun sqrt c ticks = some (rs, c') ∧
        ∀ r ∈ rs, ∀ frame, r.command = some frame → Within load.channels load.limits frame.values := by
  induction ticks with
  | nil => exact fun c _ _ => ⟨[], c, rfl, nofun⟩
  | cons t ts ih =>
    intro c h hfit
    obtain ⟨r, c', hr, h', hframe⟩ := (h.injectSensorState t.positions t.velocities).tick sqrt hsane hzero
      t.wrench t.guest (hfit t mem_cons_self)
    obtain ⟨rs, c'', hrs, hframes⟩ := ih c' h' fun u hu => hfit u (mem_cons_of_mem _ hu)
    refine ⟨r :: rs, c'', by simp only [sensedRun, hr, hrs], fun r' hr' => ?_⟩
    rcases mem_cons.1 hr' with rfl | hr'
    · exact hframe
    · exact hframes r' hr'

theorem liveFrames_respect_interfaces (sqrt : F64 → F64) (load : PreparedController) (hsane : load.Sane)
    (hzero : ZeroAllowed load.channels load.limits) (ticks : List SensedTick) (hfit : ∀ t ∈ ticks, t.Fits load) :
    ∃ rs c, sensedRun sqrt (.fromPrepared load) ticks = some (rs, c) ∧
      ∀ r ∈ rs, ∀ frame, r.command = some frame → Within load.channels load.limits frame.values :=
  LiveInv.run sqrt hsane hzero ticks _ (liveInv_fromPrepared load) hfit

def elbowController : PreparedController where
  artifact := ⟨"arm", "arm", 1, 1, none, ⟨"ctrl", "wit", "model", "calib", "manifest", .live, "cc", none⟩, "wit", none⟩
  manifest := ⟨[⟨"elbow/position", .jointPosition⟩], [⟨"elbow", 0⟩]⟩
  runtime := ⟨[⟨"elbow", ⟨"elbow", .fin 2, .fin 10, .fin (-1 / 2), .fin (1 / 2), none⟩⟩], none⟩

def commandTick (q : ℚ) : SensedTick := ⟨[], [], none, .output ⟨[.fin q], false, none⟩⟩

lemma elbowController_sane : elbowController.Sane := by
  intro joint hj
  obtain rfl : joint = ⟨"elbow", ⟨"elbow", .fin 2, .fin 10, .fin (-1 / 2), .fin (1 / 2), none⟩⟩ :=
    mem_singleton.1 hj
  exact ⟨by norm_num, by norm_num, by norm_num, nofun⟩

lemma elbowController_limits {i ch l lo hi}
    (hch : elbowController.channels[i]? = some ch) (hl : elbowController.limits[i]? = some l)
    (h : interfaceLimits ch.interfaceType l = some (lo, hi)) : i = 0 ∧ lo = .fin (-1 / 2) ∧ hi = .fin (1 / 2) := by
  cases i with
  | zero =>
    obtain rfl : ⟨"elbow/position", .jointPosition⟩ = ch := Option.some.inj hch
    have hlim : elbowController.limits[0]? =
      some ⟨"elbow/position", .fin 2, .fin 10, .fin (-1 / 2), .fin (1 / 2), none⟩ := by with_unfolding_all decide
    rw [hlim] at hl
    obtain rfl := Option.some.inj hl
    cases h
    exact ⟨rfl, rfl, rfl⟩
  | succ i => cases hch

/-- A position command of 1.5 rad passes the velocity limit of 2 rad/s and is sent. -/
theorem position_command_beyond_limits_sent :
    ¬ ∀ (sqrt : F64 → F64) (load : PreparedController), load.Sane → ∀ ticks rs c,
      sensedRun sqrt (.fromPrepared load) ticks = some (rs, c) →
        ∀ r ∈ rs, ∀ frame, r.command = some frame → Within load.channels load.limits frame.values := by
  intro h
  have hrun : (sensedRun id (.fromPrepared elbowController) [commandTick (3 / 2)]).map Prod.fst =
      some [.sends ⟨[.fin (3 / 2)]⟩] := by with_unfolding_all decide
  obtain ⟨⟨rs, c⟩, hrs, rfl⟩ := Option.map_eq_some_iff.1 hrun
  have hwithin := h id elbowController elbowController_sane _ _ c hrs _ mem_cons_self _ rfl
    0 ⟨"elbow/position", .jointPosition⟩ ⟨"elbow/position", .fin 2, .fin 10, .fin (-1 / 2), .fin (1 / 2), none⟩
    (.fin (3 / 2)) rfl (by with_unfolding_all decide) rfl (.fin (-1 / 2)) (.fin (1 / 2)) rfl
  revert hwithin
  with_unfolding_all decide

theorem liveFrames_respect_interfaces_of_elbow :
    ∃ rs c, sensedRun id (.fromPrepared elbowController) [commandTick (1 / 4)] = some (rs, c) ∧
      ∀ r ∈ rs, ∀ frame, r.command = some frame →
        Within elbowController.channels elbowController.limits frame.values := by
  refine liveFrames_respect_interfaces id elbowController elbowController_sane ?_ _ ?_
  · intro i ch l hch hl lo hi hlim
    obtain ⟨-, rfl, rfl⟩ := elbowController_limits hch hl hlim
    norm_num
  · intro t ht o ho i ch l x hch hl hx lo hi hlim q hq
    obtain rfl := mem_singleton.1 ht
    obtain rfl : ⟨[.fin (1 / 4)], false, none⟩ = o := GuestOutcome.output.inj ho
    obtain ⟨rfl, rfl, rfl⟩ := elbowController_limits hch hl hlim
    obtain rfl : .fin (1 / 4) = x := Option.some.inj hx
    obtain rfl : 1 / 4 = q := F64.fin.inj hq
    exact Or.inl (by norm_num)

end Roz.Copper
