import Roz.Agent.SessionSnapshot

/-!
# What a paused session still does

A session that is paused, completed or failed starts no turn again, whatever is called on it.  But
the operations that end a turn or a session, and the start of one, set the activity without a look at
the pause, and two ways to fail a session do not look whether it has ended
(`safe_pause_holds`).

`StepFacts` is what is needed of each operation; the run follows from it by `Emitter.EachStep.invariant`.
-/

namespace Roz.Agent
open Roz.Core Emitter SessionRuntime List

/-- An activity that is announced is one in which the robot should be safe. -/
def SessionEvent.isSafe : SessionEvent → Bool
  | .activityChanged state .. => state.robotShouldBeSafe
  | _ => true

def SessionEvent.isEnd : SessionEvent → Bool
  | .sessionCompleted .. => true
  | .sessionFailed _ => true
  | _ => false

namespace SessionRuntime
variable {World : Type}
def Effect.isEnd : Effect → Bool
  | .emits event => event.isEnd
  | .executes _ => false

def ends (effects : List Effect) : Nat := effects.countP Effect.isEnd

lemma ends_append (a b : List Effect) : ends (a ++ b) = ends a + ends b := countP_append

def isOpen (r : SessionRuntime World) : Bool := !r.state.completed && r.state.failure.isNone

section Operations
variable (assemble : SessionState World → TurnInput → List String → List SystemBlock) (print : Json → String)
def Op.isTurn : Op World → Bool
  | .beginTurn .. => true
  | .runTurn .. => true
  | .runTurnStreaming .. => true
  | _ => false

variable (r : SessionRuntime World)
def turnSucceeds : Op World → Bool
  | .beginTurn input blocks => (r.beginTurn assemble input blocks).2.2.isOk
  | .runTurn input id executor => (r.runTurn assemble input id executor).2.2.isOk
  | .runTurnStreaming input id executor => (r.runTurnStreaming assemble input id executor).2.2.isOk
  | _ => false

def Refused (op : Op World) : Prop :=
  r.turnSucceeds assemble op = false ∧ ∀ prepared, .executes prepared ∉ (r.step assemble print op).2

/-- Before and after the operation the activity is a safe one, and so is every one it announces. -/
structure StaysSafe (r : SessionRuntime World) (op : Op World) : Prop where
  paused : (r.step assemble print op).1.isPaused = true
  before : r.state.activity.robotShouldBeSafe = true
  after : (r.step assemble print op).1.state.activity.robotShouldBeSafe = true
  events : ∀ event, .emits event ∈ (r.step assemble print op).2 → event.isSafe = true

/-- In a paused session nothing makes it idle or announces an unsafe activity; in one that has ended
nothing fails it; and no end is announced by hand. -/
def Guarded : Op World → Prop
  | .emit event => event.isEnd = false ∧ (r.isPaused = true → event.isSafe = true)
  | .emitActivityChanged state .. => r.isPaused = true → state.robotShouldBeSafe = true
  | .startSession => r.isPaused = true → r.isOpen = true → r.state.started = true
  | .completeActiveTurn _ => r.isPaused = false
  | .completeActiveTurnWithHistory .. => r.isPaused = false
  | .cancelActiveTurn _ => r.isPaused = false
  | .failActiveTurn _ => r.isOpen = true
  | .finishActiveTurn (.failed _) => r.isOpen = true
  | .finishActiveTurn _ => r.isPaused = false
  | .completeSession _ => r.isPaused = true → r.isOpen = false
  | .handleFailure failure => (recoveryActionFor failure r.recoveryConfig).terminal = true → r.isOpen = true
  | _ => True

end Operations

/-! ## Turns that cannot start -/

variable (r : SessionRuntime World)
lemma ensureOpen_eq_ok : r.ensureOpen = .ok () ↔ r.isOpen = true := by
  unfold ensureOpen isOpen
  cases r.state.completed <;> cases r.state.failure <;> simp

lemma ensureTurnCanStart_eq_ok : r.ensureTurnCanStart = .ok () ↔ r.isOpen = true ∧ r.isPaused = false := by
  unfold ensureTurnCanStart isOpen
  cases r.state.completed <;> cases r.state.failure <;> cases r.isPaused <;> simp

section Turns
variable (assemble : SessionState World → TurnInput → List String → List SystemBlock) (print : Json → String)
lemma refused {r : SessionRuntime World} {op} (hturn : op.isTurn = true)
    (h : r.isPaused = true ∨ r.isOpen = false) : r.Refused assemble print op := by
  have hcannot : r.ensureTurnCanStart ≠ .ok () := by
    rw [Ne, ensureTurnCanStart_eq_ok]
    rintro ⟨hopen, hpaused⟩
    rcases h with h | h
    · rw [hpaused] at h
      cases h
    · rw [hopen] at h
      cases h
  cases op with
  | beginTurn input blocks =>
    rcases beginTurn_cases assemble r input blocks with ⟨e, -, hbegin⟩ | ⟨_, _, _, hcan, -⟩
    · refine ⟨?_, fun prepared hmem => ?_⟩
      · rw [turnSucceeds, hbegin]
        rfl
      · rw [step, hbegin] at hmem
        cases hmem
    · exact absurd hcan hcannot
  | runTurn input id executor =>
    rcases runTurn_cases r assemble input id executor with ⟨e, -, -, hrun⟩ | ⟨_, _, _, hcan, -⟩
    · refine ⟨?_, fun prepared hmem => ?_⟩
      · rw [turnSucceeds, hrun]
        rfl
      · rw [step, hrun] at hmem
        cases hmem
    · exact absurd hcan hcannot
  | runTurnStreaming input id executor =>
    rcases runTurnStreaming_cases r assemble input id executor with ⟨e, -, -, hrun⟩ | ⟨_, _, _, hcan, -⟩
    · refine ⟨?_, fun prepared hmem => ?_⟩
      · rw [turnSucceeds, hrun]
        rfl
      · rw [step, hrun] at hmem
        cases hmem
    · exact absurd hcan hcannot
  | _ => cases hturn

end Turns

/-! ## Each operation -/

/-- What the pause, the end and the activity of a session need of an operation. -/
structure StepFacts (r r' : SessionRuntime World) (effects : List Effect) : Prop where
  paused : r.isPaused = true → r'.isPaused = true
  activity : (r.isPaused = true → r.state.activity.robotShouldBeSafe = true) → r'.isPaused = true →
    r'.state.activity.robotShouldBeSafe = true
  events : r.isPaused = true → ∀ event, .emits event ∈ effects → event.isSafe = true
  ended : r.isOpen = false → r'.isOpen = false ∧ ends effects = 0
  ends : r.isOpen = true → ends effects ≤ if r'.isOpen then 0 else 1

def Quiet (r : SessionRuntime World) (events : List SessionEvent) : Prop :=
  ∀ event ∈ events, event.isEnd = false ∧ (r.isPaused = true → event.isSafe = true)

variable {r r' : SessionRuntime World} {events : List SessionEvent}
lemma ends_emits (h : ∀ event ∈ events, event.isEnd = false) : ends (events.map .emits) = 0 := by
  unfold ends
  rw [countP_map, countP_eq_zero]
  intro event hmem
  rw [Function.comp_apply, Effect.isEnd, h event hmem]
  exact Bool.false_ne_true

lemma StepFacts.neutral (events : List SessionEvent) (hpaused : r'.isPaused = r.isPaused)
    (hopen : r'.isOpen = r.isOpen) (hactivity : r'.state.activity = r.state.activity) (hquiet : r.Quiet events) :
    StepFacts r r' (events.map .emits) where
  paused h := hpaused.trans h
  activity hsafe h := by
    rw [hactivity]
    exact hsafe (hpaused ▸ h)
  events h event hmem := by
    obtain ⟨e, he, heq⟩ := mem_map.1 hmem
    cases heq
    exact (hquiet event he).2 h
  ended h := ⟨hopen.trans h, ends_emits fun event hmem => (hquiet event hmem).1⟩
  ends _ := by
    rw [ends_emits fun event hmem => (hquiet event hmem).1]
    exact Nat.zero_le _

lemma StepFacts.refl (r : SessionRuntime World) : StepFacts r r [] :=
  .neutral [] rfl rfl rfl (forall_mem_nil _)

lemma StepFacts.unpaused (hr : r.isPaused = false) (hr' : r'.isPaused = false) (hopen : r'.isOpen = r.isOpen)
    (hends : ∀ event ∈ events, event.isEnd = false) : StepFacts r r' (events.map .emits) where
  paused h := absurd (hr.symm.trans h) Bool.false_ne_true
  activity _ h := absurd (hr'.symm.trans h) Bool.false_ne_true
  events h := absurd (hr.symm.trans h) Bool.false_ne_true
  ended h := ⟨hopen.trans h, ends_emits hends⟩
  ends _ := by
    rw [ends_emits hends]
    exact Nat.zero_le _

lemma endActiveTurn_facts (h : r.isPaused = false) (reason : String) :
    StepFacts r (r.endActiveTurn reason).1 ((r.endActiveTurn reason).2.map .emits) := by
  exact .unpaused h h rfl (forall_mem_singleton.2 rfl)

lemma failActiveTurn_facts (h : r.isOpen = true) (failure : RuntimeFailureKind) :
    StepFacts r (r.failActiveTurn failure).1 ((r.failActiveTurn failure).2.map .emits) where
  paused h := h
  activity _ _ := rfl
  events _ event hmem := by
    cases mem_singleton.1 hmem
    rfl
  ended hended := absurd (hended.symm.trans h) Bool.false_ne_true
  ends _ := by
    have hclosed : (r.failActiveTurn failure).1.isOpen = false := by simp [isOpen, failActiveTurn]
    rw [hclosed]
    exact le_rfl

lemma startSession_facts (h : r.isPaused = true → r.isOpen = true → r.state.started = true) :
    StepFacts r r.startSession.1 (r.startSession.2.1.map .emits) := by
  unfold startSession
  cases hopen : r.ensureOpen with
  | error e => exact .refl r
  | ok u =>
    have hisOpen := (ensureOpen_eq_ok r).1 hopen
    dsimp only
    unfold ensureStarted
    split
    · exact .refl r
    · rename_i hstarted
      have hpaused : r.isPaused = false := by
        by_contra hne
        exact hstarted (h (Bool.not_eq_false _ ▸ hne) hisOpen)
      exact .unpaused hpaused hpaused rfl (forall_mem_singleton.2 rfl)

lemma completeSession_facts (h : r.isPaused = true → r.isOpen = false) (summary : String) :
    StepFacts r (r.completeSession summary).1 ((r.completeSession summary).2.1.map .emits) := by
  unfold completeSession
  cases hopen : r.ensureOpen with
  | error e => exact .refl r
  | ok u =>
    have hisOpen := (ensureOpen_eq_ok r).1 hopen
    have hpaused : r.isPaused = false := by
      by_contra hne
      exact absurd (hisOpen.symm.trans (h (Bool.not_eq_false _ ▸ hne))) Bool.noConfusion
    refine ⟨fun h => ?_, fun _ h => ?_, fun h => ?_, fun h => ?_, fun _ => le_rfl⟩
    · exact absurd (hpaused.symm.trans h) Bool.false_ne_true
    · exact absurd (hpaused.symm.trans h) Bool.false_ne_true
    · exact absurd (hpaused.symm.trans h) Bool.false_ne_true
    · exact absurd (h.symm.trans hisOpen) Bool.false_ne_true

lemma failSession_facts (r : SessionRuntime World) (failure : RuntimeFailureKind) :
    StepFacts r (r.failSession failure).1 ((r.failSession failure).2.1.map .emits) := by
  unfold failSession
  cases hopen : r.ensureOpen with
  | error e => exact .refl r
  | ok u => exact failActiveTurn_facts ((ensureOpen_eq_ok r).1 hopen) failure

/-! ## Failures -/

lemma handleFailure_ends (r : SessionRuntime World) (failure : RuntimeFailureKind) :
    (r.handleFailure failure).1.isOpen = (r.isOpen && !(recoveryActionFor failure r.recoveryConfig).terminal) ∧
      ends ((r.handleFailure failure).2.1.map .emits) =
        (if (recoveryActionFor failure r.recoveryConfig).terminal then 1 else 0) ∧
      ∀ event ∈ (r.handleFailure failure).2.1, event.isSafe = true := by
  unfold handleFailure enterSafePause
  dsimp only
  cases (recoveryActionFor failure r.recoveryConfig).terminal <;>
    cases (recoveryActionFor failure r.recoveryConfig).safePause <;>
      simp [isOpen, ends, Effect.isEnd, SessionEvent.isEnd, SessionEvent.isSafe]

lemma handleFailure_paused (r : SessionRuntime World) (failure : RuntimeFailureKind) :
    ((r.handleFailure failure).1.isPaused = true ∧ (r.handleFailure failure).1.state.activity = .pausedSafe) ∨
      (r.handleFailure failure).1 = r := by
  by_cases h : r.pausesOn failure = true
  · left
    obtain ⟨hpaused, hactivity, -⟩ := handleFailure_of_pausesOn h
    exact ⟨hpaused, hactivity⟩
  · right
    rw [handleFailure_of_not_pausesOn (Bool.not_eq_true _ ▸ h)]

lemma handleFailure_facts {failure}
    (h : (recoveryActionFor failure r.recoveryConfig).terminal = true → r.isOpen = true) :
    StepFacts r (r.handleFailure failure).1 ((r.handleFailure failure).2.1.map .emits) := by
  obtain ⟨hopen, hends, hsafe⟩ := r.handleFailure_ends failure
  have hpaused := r.handleFailure_paused failure
  refine ⟨fun hr => ?_, fun hactivity hr' => ?_, fun _ event hmem => ?_, fun hended => ?_, fun hr => ?_⟩
  · rcases hpaused with ⟨hp, -⟩ | heq
    · exact hp
    · rw [heq]
      exact hr
  · rcases hpaused with ⟨-, ha⟩ | heq
    · rw [ha]
      rfl
    · rw [heq] at hr' ⊢
      exact hactivity hr'
  · obtain ⟨e, he, heq⟩ := mem_map.1 hmem
    cases heq
    exact hsafe event he
  · cases hterminal : (recoveryActionFor failure r.recoveryConfig).terminal with
    | true => exact absurd ((h hterminal).symm.trans hended) Bool.noConfusion
    | false =>
      rw [hopen, hends, hended, hterminal]
      exact ⟨rfl, rfl⟩
  · rw [hopen, hends, hr]
    cases (recoveryActionFor failure r.recoveryConfig).terminal <;> exact le_rfl

/-! ## Turns that run -/

structure TurnClosed (r : SessionRuntime World) (events : List SessionEvent) : Prop where
  activity : r.isPaused = true → r.state.activity.robotShouldBeSafe = true
  ends : SessionRuntime.ends (events.map .emits) ≤ if r.isOpen then 0 else 1

lemma handleFailure_closed (hpaused : r.isPaused = false) (hopen : r.isOpen = true) (failure : RuntimeFailureKind) :
    TurnClosed (r.handleFailure failure).1 (r.handleFailure failure).2.1 := by
  obtain ⟨hopen', hends, -⟩ := r.handleFailure_ends failure
  constructor
  · intro hp
    rcases r.handleFailure_paused failure with ⟨-, ha⟩ | heq
    · rw [ha]
      rfl
    · rw [heq, hpaused] at hp
      cases hp
  · rw [hends, hopen', hopen]
    cases (recoveryActionFor failure r.recoveryConfig).terminal <;> exact le_rfl

lemma handleTurnFailure_closed (hpaused : r.isPaused = false) (hopen : r.isOpen = true) (failure : RuntimeFailureKind) :
    TurnClosed (r.handleTurnFailure failure).1 (r.handleTurnFailure failure).2.1 := by
  by_cases h : r.pausesOn failure = true
  · -- what `handle_failure` has done is the end of the turn
    have hclosed := handleFailure_closed hpaused hopen failure
    have haction : (r.handleFailure failure).2.2.safePause = true := by
      unfold handleFailure
      dsimp only
      split <;> exact h
    unfold handleTurnFailure
    dsimp only
    rw [haction, if_pos rfl]
    split <;> exact ⟨hclosed.activity, hclosed.ends⟩
  · have hpause : (recoveryActionFor failure r.recoveryConfig).safePause = false := Bool.not_eq_true _ ▸ h
    unfold handleTurnFailure
    rw [handleFailure_of_not_pausesOn hpause]
    dsimp only
    rw [not_terminal_of_not_pausesOn hpause, hpause, if_neg Bool.false_ne_true, if_neg Bool.false_ne_true]
    constructor
    · intro hp
      exact absurd (hpaused.symm.trans hp) Bool.false_ne_true
    · exact Nat.zero_le _

lemma finishTurn_closed (hpaused : r.isPaused = false) (prepared : PreparedTurn) (messageId : String)
    (output : TurnOutput) :
    TurnClosed (r.finishTurn prepared messageId output).1 (r.finishTurn prepared messageId output).2 where
  activity h := absurd (hpaused.symm.trans h) Bool.false_ne_true
  ends := Nat.zero_le _

variable {before after : List SessionEvent}
lemma TurnClosed.append (hbefore : ∀ event ∈ before, event.isEnd = false)
    (h : TurnClosed r after) : TurnClosed r (before ++ after) where
  activity := h.activity
  ends := by
    rw [map_append, ends_append, ends_emits hbefore, Nat.zero_add]
    exact h.ends

variable {prepared : PreparedTurn}
lemma StepFacts.of_turnClosed
    (hpaused : r.isPaused = false) (hopen : r.isOpen = true) (hbefore : ∀ event ∈ before, event.isEnd = false)
    (h : TurnClosed r' after) : StepFacts r r' (before.map .emits ++ .executes prepared :: after.map .emits) where
  paused hp := absurd (hpaused.symm.trans hp) Bool.false_ne_true
  activity _ := h.activity
  events hp := absurd (hpaused.symm.trans hp) Bool.false_ne_true
  ended hended := absurd (hended.symm.trans hopen) Bool.false_ne_true
  ends _ := by
    rw [ends_append, ends_emits hbefore, Nat.zero_add]
    exact h.ends

lemma ensureStarted_life (r : SessionRuntime World) :
    r.ensureStarted.1.isPaused = r.isPaused ∧ r.ensureStarted.1.isOpen = r.isOpen ∧
      ∀ event ∈ r.ensureStarted.2, event.isEnd = false := by
  unfold ensureStarted
  split
  · exact ⟨rfl, rfl, forall_mem_nil _⟩
  · exact ⟨rfl, rfl, forall_mem_singleton.2 rfl⟩

lemma syncCognitionMode_life (r : SessionRuntime World) (mode : CognitionMode) :
    (r.syncCognitionMode mode).1.isPaused = r.isPaused ∧ (r.syncCognitionMode mode).1.isOpen = r.isOpen ∧
      (r.syncCognitionMode mode).1.state.activity = r.state.activity := by
  unfold syncCognitionMode
  split <;> exact ⟨rfl, rfl, rfl⟩

lemma syncPromptSurface_life (r : SessionRuntime World) (text : String) (schemas : List PromptToolSchema)
    (context : List String) : (r.syncPromptSurface text schemas context).1.isPaused = r.isPaused ∧
      (r.syncPromptSurface text schemas context).1.isOpen = r.isOpen ∧
      (r.syncPromptSurface text schemas context).1.state.activity = r.state.activity := by
  unfold syncPromptSurface
  split <;> exact ⟨rfl, rfl, rfl⟩

lemma beginTurn_life {assemble begun input blocks}
    (h : r.beginTurn assemble input blocks = (begun, events, .ok prepared)) :
    (r.isPaused = false ∧ r.isOpen = true) ∧ (begun.isPaused = false ∧ begun.isOpen = true) ∧
      ∀ event ∈ events, event.isEnd = false := by
  unfold beginTurn at h
  cases hcan : r.ensureTurnCanStart with
  | error e =>
    rw [hcan] at h
    cases h
  | ok u =>
    obtain ⟨hopen, hpaused⟩ := (ensureTurnCanStart_eq_ok r).1 hcan
    obtain ⟨hstartedPaused, hstartedOpen, hstarted⟩ := r.ensureStarted_life
    obtain ⟨hmodePaused, hmodeOpen, -⟩ := r.ensureStarted.1.syncCognitionMode_life input.cognitionMode
    rw [hcan] at h
    cases h
    refine ⟨⟨hpaused, hopen⟩, ⟨?_, ?_⟩, forall_mem_append.2 ⟨hstarted, ?_⟩⟩
    · exact hmodePaused.trans (hstartedPaused.trans hpaused)
    · exact hmodeOpen.trans (hstartedOpen.trans hopen)
    · exact forall_mem_cons.2 ⟨rfl, forall_mem_singleton.2 rfl⟩

lemma stream_life (messageId : String) (items : List StreamItem) : ∀ r : SessionRuntime World,
    (Emitter.run (streamItem messageId) r items).1.isPaused = r.isPaused ∧
      (Emitter.run (streamItem messageId) r items).1.isOpen = r.isOpen ∧
      ∀ event ∈ (Emitter.run (streamItem messageId) r items).2, event.isEnd = false := by
  have hitem (r : SessionRuntime World) (item : StreamItem) :
      (streamItem messageId r item).1.isPaused = r.isPaused ∧ (streamItem messageId r item).1.isOpen = r.isOpen ∧
        ∀ event ∈ (streamItem messageId r item).2, event.isEnd = false := by
    cases item with
    | chunk received => cases received <;> simp [streamItem, emitStreamChunk, SessionEvent.isEnd]
    | presence signal => cases signal <;> exact ⟨rfl, rfl, forall_mem_singleton.2 rfl⟩
    | toolCall call => exact ⟨rfl, rfl, forall_mem_singleton.2 rfl⟩
  induction items with
  | nil => exact fun r => ⟨rfl, rfl, forall_mem_nil _⟩
  | cons item items ih =>
    intro r
    obtain ⟨hpaused, hopen, hevents⟩ := hitem r item
    obtain ⟨hpaused', hopen', hevents'⟩ := ih (streamItem messageId r item).1
    rw [run_cons]
    exact ⟨hpaused'.trans hpaused, hopen'.trans hopen, forall_mem_append.2 ⟨hevents, hevents'⟩⟩

lemma endStream_closed (hpaused : r.isPaused = false) (hopen : r.isOpen = true) (prepared : PreparedTurn)
    (messageId : String) (answer : Except TurnError TurnOutput) :
    TurnClosed (r.endStream prepared messageId answer).1 (r.endStream prepared messageId answer).2.1 := by
  cases answer with
  | ok output => exact finishTurn_closed hpaused prepared messageId output
  | error error =>
    rw [endStream]
    split
    · exact ⟨fun h => absurd (hpaused.symm.trans h) Bool.false_ne_true, Nat.zero_le _⟩
    · refine TurnClosed.append (fun event hmem => ?_) (handleTurnFailure_closed hpaused hopen error.kind)
      split at hmem
      · obtain ⟨code, -, rfl⟩ := mem_map.1 hmem
        rfl
      · cases hmem

section Runs
variable {assemble : SessionState World → TurnInput → List String → List SystemBlock} {print : Json → String}
variable (r : SessionRuntime World) (input : TurnInput)
lemma beginTurn_facts (blocks : List String) :
    StepFacts r (r.beginTurn assemble input blocks).1 ((r.beginTurn assemble input blocks).2.1.map .emits) := by
  rcases beginTurn_cases assemble r input blocks with ⟨e, -, hbegin⟩ | ⟨begun, events, prepared, -, hbegin, -⟩
  · rw [hbegin]
    exact .refl r
  · obtain ⟨⟨hpaused, hopen⟩, ⟨hpaused', hopen'⟩, hends⟩ := beginTurn_life hbegin
    rw [hbegin]
    exact .unpaused hpaused hpaused' (hopen'.trans hopen.symm) hends

variable (messageId : String)
lemma runTurn_facts (executor : TurnExecutor) :
    StepFacts r (r.runTurn assemble input messageId executor).1 (r.runTurn assemble input messageId executor).2.1 := by
  rcases runTurn_cases r assemble input messageId executor with
    ⟨e, -, -, hrun⟩ | ⟨begun, events, prepared, -, hbegin, -⟩
  · rw [hrun]
    exact .refl r
  · obtain ⟨⟨hpaused, hopen⟩, ⟨hpaused', hopen'⟩, hends⟩ := beginTurn_life hbegin
    rw [runTurn, hbegin]
    dsimp only
    cases executor prepared with
    | error error => exact .of_turnClosed hpaused hopen hends (handleTurnFailure_closed hpaused' hopen' error.kind)
    | ok output =>
      refine .of_turnClosed hpaused hopen hends (TurnClosed.append (fun event hmem => ?_)
        (finishTurn_closed hpaused' prepared messageId output))
      split at hmem
      · cases hmem
      · rw [mem_singleton.1 hmem]
        rfl

lemma runTurnStreaming_facts (executor : StreamingTurnExecutor) :
    StepFacts r (r.runTurnStreaming assemble input messageId executor).1
      (r.runTurnStreaming assemble input messageId executor).2.1 := by
  rcases runTurnStreaming_cases r assemble input messageId executor with
    ⟨e, -, -, hrun⟩ | ⟨begun, events, prepared, -, hbegin, -⟩
  · rw [hrun]
    exact .refl r
  · obtain ⟨⟨hpaused, hopen⟩, ⟨hpaused', hopen'⟩, hends⟩ := beginTurn_life hbegin
    obtain ⟨hstreamPaused, hstreamOpen, hstream⟩ := stream_life messageId (executor prepared).1 begun
    rw [runTurnStreaming, hbegin]
    dsimp only
    exact .of_turnClosed hpaused hopen hends (TurnClosed.append hstream
      (endStream_closed (hstreamPaused.trans hpaused') (hstreamOpen.trans hopen') prepared messageId _))

lemma step_facts {r op} (h : r.Guarded op) : StepFacts r (r.step assemble print op).1 (r.step assemble print op).2 := by
  have hnone {r : SessionRuntime World} : r.Quiet [] := forall_mem_nil _
  cases op with
  | emit event => exact .neutral [event] rfl rfl rfl (forall_mem_singleton.2 h)
  | emitActivityChanged state reason unblockEvent =>
    exact .neutral [activityChanged state reason unblockEvent] rfl rfl rfl (forall_mem_singleton.2 ⟨rfl, h⟩)
  | recordContextCompaction level affected before after =>
    exact .neutral [.contextCompacted level affected before after] rfl rfl rfl
      (forall_mem_singleton.2 ⟨rfl, fun _ => rfl⟩)
  | compactContext max =>
    refine .neutral ((r.compactContext print max).2) rfl rfl rfl fun e hmem => ?_
    obtain ⟨c, -, rfl⟩ := mem_map.1 hmem
    exact ⟨rfl, fun _ => rfl⟩
  | syncCognitionMode mode =>
    obtain ⟨hpaused, hopen, hactivity⟩ := r.syncCognitionMode_life mode
    exact .neutral [] hpaused hopen hactivity hnone
  | syncPromptSurface text schemas context =>
    obtain ⟨hpaused, hopen, hactivity⟩ := r.syncPromptSurface_life text schemas context
    exact .neutral [] hpaused hopen hactivity hnone
  | syncPromptState mode text schemas context =>
    obtain ⟨hpaused, hopen, hactivity⟩ := r.syncCognitionMode_life mode
    obtain ⟨hpaused', hopen', hactivity'⟩ := (r.syncCognitionMode mode).1.syncPromptSurface_life text schemas context
    exact .neutral [] (hpaused'.trans hpaused) (hopen'.trans hopen) (hactivity'.trans hactivity) hnone
  | syncPermissions permissions =>
    refine .neutral [] ?_ ?_ ?_ hnone <;> simp only [step, syncPermissions] <;> split <;> rfl
  | syncTrustPosture trust =>
    refine .neutral [] ?_ ?_ ?_ hnone <;> simp only [step, syncTrustPosture] <;> split <;> rfl
  | syncTelemetryFreshness freshness =>
    refine .neutral [] ?_ ?_ ?_ hnone <;> simp only [step, syncTelemetryFreshness] <;> split <;> rfl
  | syncWorldStateWithNote worldState note => exact .neutral [] rfl rfl rfl hnone
  | stageSystemContext context => cases context <;> exact .neutral [] rfl rfl rfl hnone
  | takeTurnCustomContext inline => cases inline <;> exact .neutral [] rfl rfl rfl hnone
  | startSession => exact startSession_facts h
  | beginTurn input blocks => exact beginTurn_facts r input blocks
  | completeActiveTurn reason => exact endActiveTurn_facts h reason
  | completeActiveTurnWithHistory messages reason =>
    obtain ⟨hp, ha, he, hd, hn⟩ := endActiveTurn_facts (r := { r with state.messages := messages }) h reason
    exact ⟨hp, ha, he, hd, hn⟩
  | cancelActiveTurn reason => exact endActiveTurn_facts h reason
  | failActiveTurn failure => exact failActiveTurn_facts h failure
  | finishActiveTurn outcome =>
    cases outcome with
    | completed messages reason =>
      obtain ⟨hp, ha, he, hd, hn⟩ := endActiveTurn_facts (r := { r with state.messages := messages }) h reason
      exact ⟨hp, ha, he, hd, hn⟩
    | cancelled reason => exact endActiveTurn_facts h reason
    | failed failure => exact failActiveTurn_facts h failure
  | runTurn input messageId executor => exact runTurn_facts r input messageId executor
  | runTurnStreaming input messageId executor => exact runTurnStreaming_facts r input messageId executor
  | completeSession summary => exact completeSession_facts h summary
  | failSession failure => exact failSession_facts r failure
  | handleFailure failure => exact handleFailure_facts h
  | handOver given => exact .neutral [] rfl rfl rfl hnone

/-! ## Sessions -/

/-- A paused session is in a safe activity, and the end is announced at most once, when the session
has ended. -/
structure Sound (r : SessionRuntime World) (log : List Effect) : Prop where
  activity : r.isPaused = true → r.state.activity.robotShouldBeSafe = true
  ends : SessionRuntime.ends log ≤ if r.isOpen then 0 else 1

lemma Sound.step {r log op} (h : Sound r log)
    (hguarded : r.Guarded op) : Sound (r.step assemble print op).1 (log ++ (r.step assemble print op).2) := by
  have hfacts : StepFacts r (r.step assemble print op).1 (r.step assemble print op).2 := step_facts hguarded
  refine ⟨hfacts.activity h.activity, ?_⟩
  have hends := h.ends
  rw [ends_append]
  cases hopen : r.isOpen with
  | true =>
    have hstep := hfacts.ends hopen
    rw [hopen, if_pos rfl] at hends
    omega
  | false =>
    obtain ⟨hopen', hnone⟩ := hfacts.ended hopen
    rw [hopen, if_neg Bool.false_ne_true] at hends
    rw [hopen', if_neg Bool.false_ne_true, hnone]
    exact hends

lemma sound_run {config ops} (h : Emitter.EachStep (SessionRuntime.step assemble print) Guarded (.new config) ops) :
    Sound (Emitter.run (SessionRuntime.step assemble print) (.new config) ops).1
      (Emitter.run (SessionRuntime.step assemble print) (.new config) ops).2 := by
  have hnew : Sound (.new config : SessionRuntime World) [] := ⟨fun h => absurd h Bool.false_ne_true, le_rfl⟩
  exact Emitter.EachStep.invariant (fun r log op hr hguarded => hr.step hguarded) h hnew

end Runs

structure Holds (assemble : SessionState World → TurnInput → List String → List SystemBlock) (print : Json → String)
    (r : SessionRuntime World) (op : Op World) : Prop where
  refused : r.isPaused = true ∨ r.isOpen = false → op.isTurn = true → r.Refused assemble print op
  safe : r.isPaused = true → r.StaysSafe assemble print op
  ended : r.isOpen = false → (r.step assemble print op).1.isOpen = false

theorem safe_pause_holds (assemble : SessionState World → TurnInput → List String → List SystemBlock)
    (print : Json → String) (config : SessionConfig) (ops : List (Op World))
    (h : Emitter.EachStep (step assemble print) Guarded (.new config) ops) : (∀ pre op post, ops = pre ++ op :: post →
      Holds assemble print (Emitter.run (step assemble print) (.new config) pre).1 op) ∧
    ends (Emitter.run (step assemble print) (.new config) ops).2 ≤ 1 := by
  refine ⟨fun pre op post heq => ?_, ?_⟩
  · subst heq
    obtain ⟨hpre, hguarded, -⟩ := h.append
    have hsound := sound_run hpre
    have hfacts := @step_facts _ assemble print _ _ hguarded
    refine ⟨fun hstopped hturn => refused assemble print hturn hstopped, fun hpaused => ?_, fun hended => ?_⟩
    · exact ⟨hfacts.paused hpaused, hsound.activity hpaused,
        hfacts.activity hsound.activity (hfacts.paused hpaused), hfacts.events hpaused⟩
    · exact (hfacts.ended hended).1
  · have hends := (sound_run h).ends
    split at hends <;> omega

/-! ## Sessions that are paused -/

def noPrompt (_ : SessionState Unit) (_ : TurnInput) (_ : List String) : List SystemBlock := []

def noPrint (_ : Json) : String := ""

def go : TurnInput := ⟨"go", .react, [], []⟩

def stopped : List (Op Unit) := [.startSession, .handleFailure .safetyBlocked]

theorem stopped_holds :
    Holds noPrompt noPrint (Emitter.run (step noPrompt noPrint) (.new .plain) stopped).1 (.beginTurn go []) ∧
      (Emitter.run (step noPrompt noPrint) (.new .plain) stopped).1.isPaused = true := by
  have hguarded : Emitter.EachStep (step noPrompt noPrint) Guarded (.new .plain) (stopped ++ [.beginTurn go []]) :=
    ⟨fun h => absurd h Bool.false_ne_true, fun h => absurd h Bool.false_ne_true, trivial, trivial⟩
  exact ⟨(safe_pause_holds noPrompt noPrint .plain _ hguarded).1 stopped (.beginTurn go []) [] rfl, rfl⟩

def stoppedTurn : List (Op Unit) := [.beginTurn go [], .handleFailure .safetyBlocked, .completeActiveTurn "done"]

def abortedLate : List (Op Unit) := [.completeSession "done", .handleFailure .operatorAbort]

/-- The paused session is idle and says that the robot need not be safe; the completed one fails too. -/
theorem pause_lost : ((Emitter.run (step noPrompt noPrint) (.new .plain) stoppedTurn).1.isPaused = true ∧
      (Emitter.run (step noPrompt noPrint) (.new .plain) stoppedTurn).1.state.activity = .idle ∧
      (Emitter.run (step noPrompt noPrint) (.new .plain) stoppedTurn).2.getLast? =
        some (.emits (.activityChanged .idle "done" false none))) ∧
    (Emitter.run (step noPrompt noPrint) (.new .plain) abortedLate).2 = [.emits (.sessionCompleted "done" ⟨0, 0⟩),
        .emits (.safePauseEntered "operator_abort"
          (.paused "operator_abort" .operatorAbort ⟨false, false, false, "Operator's word is final"⟩)),
        .emits (.sessionFailed .operatorAbort)] := by
  refine ⟨⟨?_, ?_, ?_⟩, ?_⟩ <;> rfl

end SessionRuntime
end Roz.Agent
