import Roz.Copper.Tick

/-!
# The two kinds of WASM task (`wasm.rs`, `wit_host.rs`)

A task is a component, whose `process` returns its output, or a legacy core module,
which hands its output over as JSON through `tick::set_output` and may request an
e-stop through `safety::request_estop`.  `tickWithContract` is the tick of a
component; `tickCore` is that of a core module.  How `serde_json` reads a
`TickOutput` is a parameter.

A component's output is recorded before the e-stop flag is tested, a core module's
after it (`tickCore_failed_iff`).
-/

namespace Roz.Copper
open Roz.Core ExactFloat F64

/-! ## The host functions of a core module -/

structure CoreStore where
  ctx : HostContext
  tickOutputJson : List UInt8
  rejectionCount : Nat
  deriving DecidableEq

/-- The calls of the guest that change the store.  `set_output` is given the exported memory, if there
is one. -/
inductive HostCall where
  | setOutput (memory : Option (List UInt8)) (ptr len : Int)
  | requestEstop
  deriving DecidableEq

/-- `memory.read`: `none` out of bounds, which a negative pointer is as well. -/
def readMemory (memory : List UInt8) (ptr len : Int) : Option (List UInt8) :=
  if 0 ≤ ptr ∧ ptr + len ≤ memory.length then some ((memory.drop ptr.toNat).take len.toNat) else none

namespace CoreStore
variable (s : CoreStore)
def setOutput (memory : Option (List UInt8)) (ptr len : Int) : CoreStore :=
  if len ≤ 0 then s
  else
    match memory.bind (readMemory · ptr len) with
    | some buf => { s with tickOutputJson := buf }
    | none => s

def requestEstop : CoreStore :=
  { s with ctx := { s.ctx with estopRequested := true, estopReason := some "wasm module requested e-stop" } }

def hostCall : HostCall → CoreStore
  | .setOutput memory ptr len => s.setOutput memory ptr len
  | .requestEstop => s.requestEstop

def resetCommands (s : CoreStore) : CoreStore := { s with ctx := s.ctx.resetCommands, tickOutputJson := [] }

/-- Parse the output that the guest wrote; `none` if it wrote none or the JSON is invalid. -/
def takeTickOutput (fromSlice : List UInt8 → Option TickOutput) (s : CoreStore) : Option TickOutput × CoreStore :=
  if s.tickOutputJson.isEmpty then (none, s)
  else
    match fromSlice s.tickOutputJson with
    | some output => (some output, { s with ctx := s.ctx.recordTickOutput output })
    | none => (none, { s with rejectionCount := s.rejectionCount + 1 })

end CoreStore

/-- What a core module does when its `process` is called: its host calls in order, and the message of
the trap that ended it, if one did. -/
structure CoreProcess where
  calls : List HostCall
  trap : Option String
  deriving DecidableEq

variable (fromSlice : List UInt8 → Option TickOutput) (s : CoreStore) (p : CoreProcess)
def CoreProcess.run (s : CoreStore) : CoreStore :=
  p.calls.foldl CoreStore.hostCall s.resetCommands

def tickCore : Except String (Option TickOutput) × CoreStore :=
  let s := p.run s
  match p.trap with
  | some message => (.error message, s)
  | none =>
    if s.ctx.estopRequested then (.error "e-stop requested by WASM module", s)
    else
      let (output, s) := s.takeTickOutput fromSlice
      (.ok output, s)

/-! ## What a tick returns -/

def Failed {α σ : Type} (r : Except String α × σ) : Prop := ∃ message, r.1 = .error message

def CoreProcess.RequestsEstop : Prop := .requestEstop ∈ p.calls

variable (o : TickOutput)

/-- The guest hands over `o`: the bytes of its last `set_output` are JSON of `o`. -/
def CoreProcess.Outputs : Prop :=
  (p.run s).tickOutputJson ≠ [] ∧ fromSlice (p.run s).tickOutputJson = some o

def CoreProcess.asComponent : GuestOutcome :=
  match p.trap with
  | some message => .trap message
  | none => .output o

open CoreStore

lemma setOutput_ctx (memory : Option (List UInt8)) (ptr len : Int) : (s.setOutput memory ptr len).ctx = s.ctx := by
  unfold setOutput
  split
  · rfl
  · split <;> rfl

lemma hostCall_estopRequested (call : HostCall) :
    (s.hostCall call).ctx.estopRequested = true ↔ s.ctx.estopRequested = true ∨ call = .requestEstop := by
  cases call with
  | setOutput memory ptr len =>
    simp only [hostCall, setOutput_ctx]
    constructor
    · exact Or.inl
    · rintro (h | h)
      · exact h
      · cases h
  | requestEstop => exact ⟨fun _ => Or.inr rfl, fun _ => rfl⟩

lemma foldl_hostCall_estopRequested (calls : List HostCall) :
    ∀ s : CoreStore, (calls.foldl hostCall s).ctx.estopRequested = true ↔
      s.ctx.estopRequested = true ∨ .requestEstop ∈ calls := by
  induction calls with
  | nil => simp
  | cons call calls ih =>
    intro s
    rw [List.foldl_cons, ih, hostCall_estopRequested, List.mem_cons, or_assoc, @eq_comm _ call]

lemma run_estopRequested (s : CoreStore) :
    (p.run s).ctx.estopRequested = true ↔ s.ctx.estopRequested = true ∨ p.RequestsEstop :=
  foldl_hostCall_estopRequested p.calls s.resetCommands

lemma tickCore_failed_iff :
    Failed (tickCore fromSlice s p) ↔ s.ctx.estopRequested = true ∨ p.RequestsEstop ∨ p.trap.isSome = true := by
  rw [← or_assoc, ← run_estopRequested]
  unfold tickCore Failed
  cases p.trap with
  | some message => simp
  | none =>
    simp only [Option.isSome_none, Bool.false_eq_true, or_false]
    split
    · next h => simp [h]
    · next h => simp [h]

lemma tickWithContract_failed_iff (ctx : HostContext) (guest : GuestOutcome) : Failed (tickWithContract ctx guest) ↔
      match guest with
      | .trap _ => True
      | .output o => ctx.estopRequested = true ∨ o.estop = true := by
  unfold tickWithContract Failed
  cases guest with
  | trap message => simp
  | output o =>
    simp only [HostContext.recordTickOutput_estopRequested, HostContext.resetCommands, Bool.or_eq_true]
    split
    · next h => simp [h]
    · next h => simp [h]

/-! ## The e-stop in an output -/

lemma tickCore_of_not_failed (ho : p.Outputs fromSlice s o) (hok : ¬ Failed (tickCore fromSlice s p)) :
    (tickCore fromSlice s p).1 = .ok (some o) ∧ (tickCore fromSlice s p).2.ctx.estopRequested = o.estop := by
  obtain ⟨hne, hparse⟩ := ho
  rw [tickCore_failed_iff, ← or_assoc, ← run_estopRequested, not_or] at hok
  obtain ⟨hflag, htrap⟩ := hok
  rw [Option.not_isSome_iff_eq_none] at htrap
  have htake : (p.run s).takeTickOutput fromSlice =
      (some o, { p.run s with ctx := (p.run s).ctx.recordTickOutput o }) := by
    unfold takeTickOutput
    rw [if_neg (by simpa using hne), hparse]
  unfold tickCore
  simp only [htrap, if_neg hflag, htake]
  refine ⟨trivial, ?_⟩
  rw [HostContext.recordTickOutput_estopRequested, eq_false_of_ne_true hflag, Bool.false_or]

/-- A component honours the e-stop of an output in the tick that returns it.  A core module does so only
if the tick ends in an error anyway, and this is where the two kinds come apart; else the e-stop waits
for the next tick. -/
theorem output_estop_verdicts (fromSlice : List UInt8 → Option TickOutput) (s : CoreStore) (p : CoreProcess)
    (o : TickOutput) (ho : p.Outputs fromSlice s o) : (Failed (tickWithContract s.ctx (p.asComponent o)) ↔
      o.estop = true ∨ s.ctx.estopRequested = true ∨ p.trap.isSome = true) ∧ ((Failed (tickCore fromSlice s p) ↔
        o.estop = true ∨ p.RequestsEstop ∨ s.ctx.estopRequested = true ∨ p.trap.isSome = true) ↔
      (o.estop = true → p.RequestsEstop ∨ s.ctx.estopRequested = true ∨ p.trap.isSome = true)) ∧ (¬ p.RequestsEstop →
      ((Failed (tickCore fromSlice s p) ↔ Failed (tickWithContract s.ctx (p.asComponent o))) ↔
        (o.estop = true → s.ctx.estopRequested = true ∨ p.trap.isSome = true))) ∧ (¬ Failed (tickCore fromSlice s p) →
      (tickCore fromSlice s p).1 = .ok (some o) ∧ (tickCore fromSlice s p).2.ctx.estopRequested = o.estop) := by
  have hcomponent : Failed (tickWithContract s.ctx (p.asComponent o)) ↔
      o.estop = true ∨ s.ctx.estopRequested = true ∨ p.trap.isSome = true := by
    rw [tickWithContract_failed_iff]
    unfold CoreProcess.asComponent
    cases p.trap with
    | some message => simp
    | none => simp [or_comm]
  refine ⟨hcomponent, ?_, ?_, tickCore_of_not_failed fromSlice s p o ho⟩
  · rw [tickCore_failed_iff, or_left_comm]
    exact iff_or_self
  · intro hrequest
    rw [hcomponent, tickCore_failed_iff, or_iff_right hrequest]
    exact iff_or_self

def stopJson : List UInt8 :=
  "\x7b\"command_values\":[],\"estop\":true,\"estop_reason\":null,\"metrics\":[]\x7d".toUTF8.toList

def calmStore : CoreStore := ⟨⟨[], [], [], false, none⟩, [], 0⟩

def readStop (json : List UInt8) : Option TickOutput := if json = stopJson then some ⟨[], true, none⟩ else none

def stopProcess : CoreProcess := ⟨[.setOutput (some stopJson) 0 stopJson.length], none⟩

lemma readMemory_all (memory : List UInt8) : readMemory memory 0 memory.length = some memory := by simp [readMemory]

lemma stopProcess_outputs : stopProcess.Outputs readStop calmStore ⟨[], true, none⟩ := by
  have hne : stopJson ≠ [] := by with_unfolding_all decide
  have hlen : ¬ (stopJson.length : Int) ≤ 0 := by
    have := List.length_pos_iff.2 hne
    omega
  have hrun : (stopProcess.run calmStore).tickOutputJson = stopJson := by
    simp only [CoreProcess.run, stopProcess, List.foldl_cons, List.foldl_nil, hostCall, setOutput,
      if_neg hlen, Option.bind_some, readMemory_all]
  unfold CoreProcess.Outputs
  rw [hrun]
  exact ⟨hne, if_pos rfl⟩

lemma not_failed_stopProcess : ¬ Failed (tickCore readStop calmStore stopProcess) := by
  rw [tickCore_failed_iff]
  simp [calmStore, stopProcess, CoreProcess.RequestsEstop]

/-- A core module whose output demands an e-stop: the tick succeeds, where the component's fails. -/
theorem core_output_estop_passes :
    ¬ ∀ (fromSlice : List UInt8 → Option TickOutput) (s : CoreStore) (p : CoreProcess) (o : TickOutput),
      p.Outputs fromSlice s o → (Failed (tickCore fromSlice s p) ↔
          o.estop = true ∨ p.RequestsEstop ∨ s.ctx.estopRequested = true ∨ p.trap.isSome = true) := by
  intro h
  exact not_failed_stopProcess
    ((h readStop calmStore stopProcess ⟨[], true, none⟩ stopProcess_outputs).2 (Or.inl rfl))

theorem output_estop_verdicts_of_stopProcess : ¬ (Failed (tickCore readStop calmStore stopProcess) ↔
      Failed (tickWithContract calmStore.ctx (stopProcess.asComponent ⟨[], true, none⟩))) := by
  have hrequest : ¬ stopProcess.RequestsEstop := by simp [stopProcess, CoreProcess.RequestsEstop]
  rw [(output_estop_verdicts readStop calmStore stopProcess ⟨[], true, none⟩ stopProcess_outputs).2.2.1 hrequest]
  decide

end Roz.Copper
