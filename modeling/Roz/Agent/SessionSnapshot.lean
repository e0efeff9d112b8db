import Roz.Agent.SessionRuntime

/-!
# Does the snapshot tell the truth?

The runtime keeps a pause, a failure and a turn index of its own, and copies of them in the snapshot.
Nothing ever writes the copy of the pause, and a turn that fails does not write the copy of
the index (`truthful_iff`).

`Books` are the six values concerned.  Each operation is first described by what it does to them.
-/

namespace Roz.Agent
open Roz.Core Emitter
namespace SessionRuntime
variable {World : Type}
structure Books where
  pause : SafePauseState
  failure : Option RuntimeFailureKind
  turn : Nat
  shownPause : SafePauseState
  shownFailure : Option RuntimeFailureKind
  shownTurn : Nat

def books (r : SessionRuntime World) : Books where
  pause := r.state.safePause
  failure := r.state.failure
  turn := r.state.turnIndex
  shownPause := r.state.snapshot.safePauseState
  shownFailure := r.state.snapshot.lastFailure
  shownTurn := r.state.snapshot.turnIndex

/-! ## What operations do to the books -/

variable (r : SessionRuntime World) {failure : RuntimeFailureKind}
lemma syncCognitionMode_books (mode : CognitionMode) : (r.syncCognitionMode mode).1.books = r.books := by
  unfold syncCognitionMode
  split <;> rfl

lemma syncPromptSurface_books (text : String) (schemas : List PromptToolSchema) (context : List String) :
    (r.syncPromptSurface text schemas context).1.books = r.books := by
  unfold syncPromptSurface
  split <;> rfl

lemma syncPermissions_books (permissions : List SessionPermissionRule) :
    (r.syncPermissions permissions).1.books = r.books := by
  unfold syncPermissions
  split <;> rfl

lemma syncTrustPosture_books (trust : TrustPosture) : (r.syncTrustPosture trust).1.books = r.books := by
  unfold syncTrustPosture
  split <;> rfl

lemma syncTelemetryFreshness_books (freshness : FreshnessState) :
    (r.syncTelemetryFreshness freshness).1.books = r.books := by
  unfold syncTelemetryFreshness
  split <;> rfl

lemma stageSystemContext_books (context : Option String) : (r.stageSystemContext context).books = r.books := by
  cases context <;> rfl

lemma takeTurnCustomContext_books (inline : Option String) : (r.takeTurnCustomContext inline).1.books = r.books := by
  cases inline <;> rfl

lemma ensureStarted_books : r.ensureStarted.1.books = r.books := by
  unfold ensureStarted
  split <;> rfl

lemma startSession_books : r.startSession.1.books = r.books := by
  unfold startSession
  split
  · rfl
  · exact ensureStarted_books r

def pausesOn (r : SessionRuntime World) (failure : RuntimeFailureKind) : Bool :=
  (recoveryActionFor failure r.recoveryConfig).safePause

lemma pausesOn_eq (r' : SessionRuntime World) (failure : RuntimeFailureKind) :
    r.pausesOn failure = r'.pausesOn failure := by cases failure <;> rfl

lemma not_terminal_of_not_pausesOn {r : SessionRuntime World} (h : r.pausesOn failure = false) :
    (recoveryActionFor failure r.recoveryConfig).terminal = false := by
  by_contra hne
  rw [Bool.not_eq_false] at hne
  rw [pausesOn, safePause_of_terminal hne] at h
  cases h

lemma handleFailure_of_not_pausesOn {r : SessionRuntime World} (h : r.pausesOn failure = false) :
    r.handleFailure failure = (r, [], recoveryActionFor failure r.recoveryConfig) := by
  have hpause : (recoveryActionFor failure r.recoveryConfig).safePause = false := h
  simp [handleFailure, not_terminal_of_not_pausesOn h, hpause]

lemma handleFailure_of_pausesOn {r : SessionRuntime World} (h : r.pausesOn failure = true) :
    (r.handleFailure failure).1.isPaused = true ∧ (r.handleFailure failure).1.state.activity = .pausedSafe ∧
      (r.handleFailure failure).1.books.shownPause = r.books.shownPause := by
  have hpause : (recoveryActionFor failure r.recoveryConfig).safePause = true := h
  unfold handleFailure
  dsimp only
  rw [if_pos hpause]
  split <;> exact ⟨rfl, rfl, rfl⟩

lemma handleTurnFailure_of_not_pausesOn {r : SessionRuntime World} (h : r.pausesOn failure = false) :
    (r.handleTurnFailure failure).1.books = { r.books with shownTurn := r.books.turn } := by
  have hpause : (recoveryActionFor failure r.recoveryConfig).safePause = false := h
  unfold handleTurnFailure
  rw [handleFailure_of_not_pausesOn h]
  dsimp only
  rw [not_terminal_of_not_pausesOn h, hpause]
  rfl

lemma handleTurnFailure_of_pausesOn {r : SessionRuntime World} (h : r.pausesOn failure = true) :
    (r.handleTurnFailure failure).1.isPaused = true ∧
      (r.handleTurnFailure failure).1.books.shownPause = r.books.shownPause := by
  obtain ⟨hpaused, -, hshown⟩ := handleFailure_of_pausesOn h
  unfold handleTurnFailure
  dsimp only
  split
  · split <;> exact ⟨hpaused, hshown⟩
  · split <;> exact ⟨hpaused, hshown⟩

lemma emitPresenceSignal_books (signal : PresenceSignal) : (r.emitPresenceSignal signal).1.books = r.books := by
  cases signal <;> rfl

lemma stream_books (messageId : String) (items : List StreamItem) : ∀ r : SessionRuntime World,
    (Emitter.run (streamItem messageId) r items).1.books = r.books := by
  induction items with
  | nil => exact fun r => rfl
  | cons item items ih =>
    intro r
    rw [run_cons, ih]
    cases item with
    | chunk received => rfl
    | presence signal => exact emitPresenceSignal_books r signal
    | toolCall call => rfl

lemma beginTurn_cases (assemble : SessionState World → TurnInput → List String → List SystemBlock)
    (r : SessionRuntime World) (input : TurnInput) (blocks : List String) :
    (∃ e, r.ensureTurnCanStart = .error e ∧ r.beginTurn assemble input blocks = (r, [], .error e)) ∨
      ∃ begun events prepared, r.ensureTurnCanStart = .ok () ∧
        r.beginTurn assemble input blocks = (begun, events, .ok prepared) ∧
        begun.books = { r.books with turn := u32 (r.books.turn + 1) } := by
  unfold beginTurn
  cases hcan : r.ensureTurnCanStart with
  | error e => exact .inl ⟨e, rfl, rfl⟩
  | ok u =>
    have hbooks : ((r.ensureStarted.1.syncCognitionMode input.cognitionMode).1).books = r.books :=
      (syncCognitionMode_books _ _).trans (ensureStarted_books r)
    refine .inr ⟨_, _, _, rfl, rfl, ?_⟩
    rw [← hbooks]
    rfl

/-- How a turn ends: the books are brought up to date, or its failure is handled. -/
inductive TurnEnded (begun : SessionRuntime World) (failure : Option RuntimeFailureKind) : SessionRuntime World → Prop
  | updated {r : SessionRuntime World} (hnone : failure = none)
      (hbooks : r.books = { begun.books with shownTurn := begun.books.turn }) : TurnEnded begun failure r
  | failed {s : SessionRuntime World} {kind : RuntimeFailureKind} (hsome : failure = some kind)
      (hbooks : s.books = begun.books) : TurnEnded begun failure (s.handleTurnFailure kind).1

lemma TurnEnded.shownPause {begun r : SessionRuntime World} {failure}
    (h : TurnEnded begun failure r) : r.books.shownPause = begun.books.shownPause := by
  cases h with
  | updated hnone hbooks => rw [hbooks]
  | @failed s kind hsome hbooks =>
    by_cases hpauses : s.pausesOn kind = true
    · rw [(handleTurnFailure_of_pausesOn hpauses).2, hbooks]
    · rw [handleTurnFailure_of_not_pausesOn (Bool.not_eq_true _ ▸ hpauses), hbooks]

def handledFailure : Except TurnError TurnOutput → Option RuntimeFailureKind
  | .ok _ => none
  | .error error => some error.kind

def handledStreamFailure : Except TurnError TurnOutput → Option RuntimeFailureKind
  | .ok _ => none
  | .error error => if error.kind = .operatorAbort then none else some error.kind

variable (assemble : SessionState World → TurnInput → List String → List SystemBlock)

/-- A turn that cannot start leaves everything alone; one that can begins, and ends with the failure that its
executor brings. -/
def RanTurn {α : Type} (input : TurnInput) (failureOf : PreparedTurn → Option RuntimeFailureKind)
    (out : SessionRuntime World × List Effect × Except SessionRuntimeError α) : Prop :=
  (∃ e, r.ensureTurnCanStart = .error e ∧ r.beginTurn assemble input input.volatileBlocks = (r, [], .error e) ∧
      out = (r, [], .error e)) ∨
    ∃ begun events prepared, r.ensureTurnCanStart = .ok () ∧
      r.beginTurn assemble input input.volatileBlocks = (begun, events, .ok prepared) ∧
      begun.books = { r.books with turn := u32 (r.books.turn + 1) } ∧ TurnEnded begun (failureOf prepared) out.1

variable (input : TurnInput)
lemma runTurn_cases (messageId : String) (executor : TurnExecutor) :
    r.RanTurn assemble input (fun prepared => handledFailure (executor prepared))
      (r.runTurn assemble input messageId executor) := by
  rcases beginTurn_cases assemble r input input.volatileBlocks with ⟨e, hcan, hbegin⟩ | ⟨begun, events, prepared, hcan, hbegin, hbooks⟩
  · refine .inl ⟨e, hcan, hbegin, ?_⟩
    rw [runTurn, hbegin]
    rfl
  · refine .inr ⟨begun, events, prepared, hcan, hbegin, hbooks, ?_⟩
    rw [runTurn, hbegin]
    dsimp only
    cases executor prepared with
    | error error => exact .failed rfl rfl
    | ok output => exact .updated rfl rfl

lemma runTurnStreaming_cases (messageId : String) (executor : StreamingTurnExecutor) :
    r.RanTurn assemble input (fun prepared => handledStreamFailure (executor prepared).2)
      (r.runTurnStreaming assemble input messageId executor) := by
  rcases beginTurn_cases assemble r input input.volatileBlocks with ⟨e, hcan, hbegin⟩ | ⟨begun, events, prepared, hcan, hbegin, hbooks⟩
  · refine .inl ⟨e, hcan, hbegin, ?_⟩
    rw [runTurnStreaming, hbegin]
    rfl
  · refine .inr ⟨begun, events, prepared, hcan, hbegin, hbooks, ?_⟩
    have hstream := stream_books messageId (executor prepared).1 begun
    rw [runTurnStreaming, hbegin]
    dsimp only
    generalize (Emitter.run (streamItem messageId) begun (executor prepared).1).1 = streamed at hstream
    cases (executor prepared).2 with
    | ok output => exact .updated rfl (by rw [← hstream]; rfl)
    | error error =>
      rw [endStream, handledStreamFailure]
      split
      · exact .updated rfl (by rw [← hstream]; rfl)
      · exact .failed rfl hstream

end SessionRuntime

/-! ## The snapshot of a session -/

open SessionRuntime
section Snapshot
variable {World : Type}
structure Session (World : Type) where
  runtime : SessionRuntime World
  turnActive : Bool

namespace Session

def new (config : SessionConfig) : Session World := ⟨.new config, false⟩

variable (assemble : SessionState World → TurnInput → List String → List SystemBlock) (print : Json → String)
  (x : Session World)

def turnActiveAfter : Op World → Bool
  | .beginTurn .. => x.runtime.ensureTurnCanStart.isOk || x.turnActive
  | .runTurn .. => !x.runtime.ensureTurnCanStart.isOk && x.turnActive
  | .runTurnStreaming .. => !x.runtime.ensureTurnCanStart.isOk && x.turnActive
  | .completeActiveTurn _ => false
  | .completeActiveTurnWithHistory .. => false
  | .cancelActiveTurn _ => false
  | .failActiveTurn _ => false
  | .finishActiveTurn _ => false
  | .completeSession _ => !x.runtime.ensureOpen.isOk && x.turnActive
  | .failSession _ => !x.runtime.ensureOpen.isOk && x.turnActive
  | _ => x.turnActive

def step (x : Session World) (op : Op World) : Session World × List Effect :=
  (⟨(x.runtime.step assemble print op).1, x.turnActiveAfter op⟩, (x.runtime.step assemble print op).2)

structure Truthful (x : Session World) : Prop where
  pause : x.runtime.state.snapshot.safePauseState = x.runtime.state.safePause
  failure : x.runtime.state.failure.isSome = true → x.runtime.state.snapshot.lastFailure.isSome = true
  turn : x.turnActive = false → x.runtime.state.snapshot.turnIndex = x.runtime.state.turnIndex
  physical : x.runtime.isPaused = true → x.runtime.state.snapshot.canExecutePhysical = false

def ShowsTurn : Prop := x.runtime.state.snapshot.turnIndex = x.runtime.state.turnIndex

/-- No failure pauses the session, and no turn fails that the snapshot does not have. -/
def Keeps : Op World → Prop
  | .handleFailure failure => x.runtime.pausesOn failure = false
  | .runTurn input _ executor => ∀ prepared,
      (x.runtime.beginTurn assemble input input.volatileBlocks).2.2 = .ok prepared →
      ∀ kind ∈ handledFailure (executor prepared), x.runtime.pausesOn kind = false
  | .runTurnStreaming input _ executor => ∀ prepared,
      (x.runtime.beginTurn assemble input input.volatileBlocks).2.2 = .ok prepared →
      ∀ kind ∈ handledStreamFailure (executor prepared).2, x.runtime.pausesOn kind = false
  | .failActiveTurn _ => x.ShowsTurn
  | .finishActiveTurn (.failed _) => x.ShowsTurn
  | .failSession _ => x.runtime.ensureOpen = .ok () → x.ShowsTurn
  | _ => True

/-! ## Each operation -/

def Agree (b : Books) (turnActive : Bool) : Prop :=
  b.shownPause = b.pause ∧ (b.failure.isSome = true → b.shownFailure.isSome = true) ∧
    (turnActive = false → b.shownTurn = b.turn)

variable (x : Session World) (input : TurnInput)
lemma truthful_iff_agree : x.Truthful ↔ Agree x.runtime.books x.turnActive := by
  constructor
  · exact fun h => ⟨h.pause, h.failure, h.turn⟩
  · rintro ⟨hpause, hfailure, hturn⟩
    refine ⟨hpause, hfailure, hturn, fun hpaused => ?_⟩
    have hshown : x.runtime.state.snapshot.safePauseState.isPaused = true := by
      change x.runtime.state.snapshot.safePauseState = x.runtime.state.safePause at hpause
      rw [hpause]
      exact hpaused
    simp [SessionSnapshot.canExecutePhysical, hshown]

lemma not_agree_of_paused {r : SessionRuntime World} (hpaused : r.isPaused = true)
    (hshown : r.books.shownPause = .running) (turnActive : Bool) : ¬ Agree r.books turnActive := by
  rintro ⟨hpause, -⟩
  have : SafePauseState.running = r.state.safePause := hshown.symm.trans hpause
  rw [SessionRuntime.isPaused, ← this] at hpaused
  cases hpaused

lemma agree_of_turnEnded {begun r : SessionRuntime World} {failure active active'}
    (h : TurnEnded begun failure r) (hshown : begun.books.shownPause = .running) (hagree : Agree begun.books active) :
    Agree r.books active' ↔ ∀ kind ∈ failure, begun.pausesOn kind = false := by
  obtain ⟨hpause, hfailure, -⟩ := hagree
  cases h with
  | updated hnone hbooks =>
    subst hnone
    rw [hbooks]
    refine iff_of_true ⟨hpause, hfailure, fun _ => rfl⟩ fun kind hkind => ?_
    cases hkind
  | @failed s kind hsome hbooks =>
    subst hsome
    have hpauses : s.pausesOn kind = begun.pausesOn kind := pausesOn_eq s begun kind
    by_cases h : begun.pausesOn kind = true
    · rw [← hpauses] at h
      obtain ⟨hpaused, hshown'⟩ := handleTurnFailure_of_pausesOn h
      refine iff_of_false (not_agree_of_paused hpaused ?_ active') fun hall => ?_
      · rw [hshown', hbooks, hshown]
      · rw [hpauses, hall kind rfl] at h
        cases h
    · rw [Bool.not_eq_true] at h
      rw [handleTurnFailure_of_not_pausesOn (hpauses.trans h), hbooks]
      refine iff_of_true ⟨hpause, hfailure, fun _ => rfl⟩ fun k hk => ?_
      cases hk
      exact h

inductive Move (x y : Session World) (keeps : Prop) : Prop
  | same (hbooks : y.runtime.books = x.runtime.books) (hactive : y.turnActive = x.turnActive) (hkeeps : keeps)
  | begun (hbooks : y.runtime.books = { x.runtime.books with turn := u32 (x.runtime.books.turn + 1) })
      (hactive : y.turnActive = true) (hkeeps : keeps)
  | ended (hbooks : y.runtime.books = { x.runtime.books with shownTurn := x.runtime.books.turn }) (hkeeps : keeps)
  | failed (failure : RuntimeFailureKind)
      (hbooks : y.runtime.books = { x.runtime.books with failure := some failure, shownFailure := some failure })
      (hactive : y.turnActive = false) (hkeeps : keeps ↔ x.ShowsTurn)
  | ran (begun : SessionRuntime World) (failure : Option RuntimeFailureKind)
      (hbegun : begun.books = { x.runtime.books with turn := u32 (x.runtime.books.turn + 1) })
      (hended : TurnEnded begun failure y.runtime)
      (hkeeps : keeps ↔ ∀ kind ∈ failure, x.runtime.pausesOn kind = false)
  | paused (hpaused : y.runtime.isPaused = true) (hshown : y.runtime.books.shownPause = x.runtime.books.shownPause)
      (hkeeps : ¬ keeps)

variable {assemble print}
lemma beginTurn_move (blocks : List String) : Move x (x.step assemble print (.beginTurn input blocks)).1 True := by
  have hruntime : (x.step assemble print (.beginTurn input blocks)).1.runtime =
      (x.runtime.beginTurn assemble input blocks).1 := rfl
  have hactive : (x.step assemble print (.beginTurn input blocks)).1.turnActive =
      (x.runtime.ensureTurnCanStart.isOk || x.turnActive) := rfl
  rcases beginTurn_cases assemble x.runtime input blocks with
    ⟨e, hcan, hbegin⟩ | ⟨begun, events, prepared, hcan, hbegin, hbooks⟩
  · rw [hbegin] at hruntime
    rw [hcan] at hactive
    exact .same (congrArg books hruntime) hactive trivial
  · rw [hbegin] at hruntime
    rw [hcan] at hactive
    exact .begun ((congrArg books hruntime).trans hbooks) hactive trivial

lemma run_move {α : Type} {x y : Session World} {input : TurnInput}
    {failureOf : PreparedTurn → Option RuntimeFailureKind}
    {out : SessionRuntime World × List Effect × Except SessionRuntimeError α}
    (h : x.runtime.RanTurn assemble input failureOf out) (hruntime : y.runtime = out.1)
    (hactive : y.turnActive = (!x.runtime.ensureTurnCanStart.isOk && x.turnActive)) :
    Move x y (∀ prepared, (x.runtime.beginTurn assemble input input.volatileBlocks).2.2 = .ok prepared →
      ∀ kind ∈ failureOf prepared, x.runtime.pausesOn kind = false) := by
  rcases h with ⟨e, hcan, hbegin, rfl⟩ | ⟨begun, events, prepared, hcan, hbegin, hbooks, hended⟩
  · rw [hcan] at hactive
    refine .same (congrArg books hruntime) hactive fun prepared hok => ?_
    rw [hbegin] at hok
    cases hok
  · refine .ran begun (failureOf prepared) hbooks (hruntime ▸ hended) ?_
    rw [hbegin]
    constructor
    · exact fun hkeeps => hkeeps prepared rfl
    · intro hall prepared' hok
      cases hok
      exact hall

lemma completeSession_move (summary : String) : Move x (x.step assemble print (.completeSession summary)).1 True := by
  have hruntime : (x.step assemble print (.completeSession summary)).1.runtime =
      (x.runtime.completeSession summary).1 := rfl
  have hactive : (x.step assemble print (.completeSession summary)).1.turnActive =
      (!x.runtime.ensureOpen.isOk && x.turnActive) := rfl
  rw [completeSession] at hruntime
  cases hopen : x.runtime.ensureOpen with
  | error e =>
    rw [hopen] at hruntime hactive
    exact .same (congrArg books hruntime) hactive trivial
  | ok u =>
    rw [hopen] at hruntime
    exact .ended (congrArg books hruntime) trivial

variable (failure : RuntimeFailureKind)
lemma failSession_move :
    Move x (x.step assemble print (.failSession failure)).1 (x.Keeps assemble (.failSession failure)) := by
  have hruntime : (x.step assemble print (.failSession failure)).1.runtime = (x.runtime.failSession failure).1 := rfl
  have hactive : (x.step assemble print (.failSession failure)).1.turnActive =
      (!x.runtime.ensureOpen.isOk && x.turnActive) := rfl
  rw [failSession] at hruntime
  cases hopen : x.runtime.ensureOpen with
  | error e =>
    rw [hopen] at hruntime hactive
    refine .same (congrArg books hruntime) hactive fun hok => ?_
    rw [hopen] at hok
    cases hok
  | ok u =>
    rw [hopen] at hruntime hactive
    refine .failed failure (congrArg books hruntime) hactive ?_
    rw [Keeps, hopen]
    exact forall_prop_of_true rfl

lemma handleFailure_move :
    Move x (x.step assemble print (.handleFailure failure)).1 (x.Keeps assemble (.handleFailure failure)) := by
  by_cases hpauses : x.runtime.pausesOn failure = true
  · obtain ⟨hpaused, -, hshown⟩ := handleFailure_of_pausesOn hpauses
    refine .paused hpaused hshown ?_
    rw [Keeps, hpauses]
    exact Bool.noConfusion
  · rw [Bool.not_eq_true] at hpauses
    refine .same ?_ rfl hpauses
    change (x.runtime.handleFailure failure).1.books = _
    rw [handleFailure_of_not_pausesOn hpauses]

lemma step_move (op : Op World) : Move x (x.step assemble print op).1 (x.Keeps assemble op) := by
  cases op with
  | emit event => exact .same rfl rfl trivial
  | emitActivityChanged state reason unblockEvent => exact .same rfl rfl trivial
  | recordContextCompaction level affected before after => exact .same rfl rfl trivial
  | compactContext max => exact .same rfl rfl trivial
  | syncCognitionMode mode => exact .same (syncCognitionMode_books ..) rfl trivial
  | syncPromptSurface text schemas context => exact .same (syncPromptSurface_books ..) rfl trivial
  | syncPromptState mode text schemas context => exact .same ((syncPromptSurface_books ..).trans (syncCognitionMode_books ..)) rfl trivial
  | syncPermissions permissions => exact .same (syncPermissions_books ..) rfl trivial
  | syncTrustPosture trust => exact .same (syncTrustPosture_books ..) rfl trivial
  | syncTelemetryFreshness freshness => exact .same (syncTelemetryFreshness_books ..) rfl trivial
  | syncWorldStateWithNote worldState note => exact .same rfl rfl trivial
  | stageSystemContext context => exact .same (stageSystemContext_books ..) rfl trivial
  | takeTurnCustomContext inline => exact .same (takeTurnCustomContext_books ..) rfl trivial
  | startSession => exact .same (startSession_books _) rfl trivial
  | handOver given => exact .same rfl rfl trivial
  | beginTurn input blocks => exact beginTurn_move x input blocks
  | completeActiveTurn reason => exact .ended rfl trivial
  | completeActiveTurnWithHistory messages reason => exact .ended rfl trivial
  | cancelActiveTurn reason => exact .ended rfl trivial
  | failActiveTurn failure => exact .failed failure rfl rfl Iff.rfl
  | finishActiveTurn outcome =>
    cases outcome with
    | completed messages reason => exact .ended rfl trivial
    | cancelled reason => exact .ended rfl trivial
    | failed failure => exact .failed failure rfl rfl Iff.rfl
  | runTurn input messageId executor => exact run_move (runTurn_cases x.runtime assemble input messageId executor) rfl rfl
  | runTurnStreaming input messageId executor =>
    exact run_move (runTurnStreaming_cases x.runtime assemble input messageId executor) rfl rfl
  | completeSession summary => exact completeSession_move x summary
  | failSession failure => exact failSession_move x failure
  | handleFailure failure => exact handleFailure_move x failure

/-! ## Runs -/

lemma Move.shownPause {x y : Session World} {keeps} (h : Move x y keeps) :
    y.runtime.books.shownPause = x.runtime.books.shownPause := by
  cases h with
  | same hbooks hactive hkeeps => rw [hbooks]
  | begun hbooks hactive hkeeps => rw [hbooks]
  | ended hbooks hkeeps => rw [hbooks]
  | failed failure hbooks hactive hkeeps => rw [hbooks]
  | ran begun failure hbegun hended hkeeps => rw [hended.shownPause, hbegun]
  | paused hpaused hshown hkeeps => exact hshown

lemma Move.truthful {x y : Session World} {keeps} (h : Move x y keeps)
    (hrunning : x.runtime.books.shownPause = .running) (hx : x.Truthful) : y.Truthful ↔ keeps := by
  rw [truthful_iff_agree] at hx ⊢
  obtain ⟨hpause, hfailure, hturn⟩ := hx
  cases h with
  | same hbooks hactive hkeeps =>
    rw [hbooks, hactive]
    exact iff_of_true ⟨hpause, hfailure, hturn⟩ hkeeps
  | begun hbooks hactive hkeeps =>
    rw [hbooks, hactive]
    exact iff_of_true ⟨hpause, hfailure, nofun⟩ hkeeps
  | ended hbooks hkeeps =>
    rw [hbooks]
    exact iff_of_true ⟨hpause, hfailure, fun _ => rfl⟩ hkeeps
  | failed failure hbooks hactive hkeeps =>
    rw [hbooks, hactive, hkeeps]
    constructor
    · exact fun hy => hy.2.2 rfl
    · exact fun hshows => ⟨hpause, fun _ => rfl, fun _ => hshows⟩
  | ran begun failure hbegun hended hkeeps =>
    have hagree : Agree begun.books true := by
      rw [hbegun]
      exact ⟨hpause, hfailure, nofun⟩
    rw [agree_of_turnEnded hended (by rw [hbegun]; exact hrunning) hagree, hkeeps]
    exact forall₂_congr fun kind _ => by rw [pausesOn_eq begun x.runtime kind]
  | paused hpaused hshown hkeeps =>
    exact iff_of_false (not_agree_of_paused hpaused (hshown.trans hrunning) _) hkeeps

end Session

theorem truthful_iff (assemble : SessionState World → TurnInput → List String → List SystemBlock)
    (print : Json → String) (config : SessionConfig) (ops : List (Op World)) :
    Emitter.Along (Session.step assemble print) Session.Truthful (.new config) ops ↔
      Emitter.EachStep (Session.step assemble print) (Session.Keeps assemble) (.new config) ops := by
  refine along_iff (I := fun x : Session World => x.runtime.books.shownPause = .running)
    (fun x op hI => ?_) (fun x op hI hx => ?_) ops (.new config) rfl ?_
  · exact (Session.step_move x op).shownPause.trans hI
  · exact (Session.step_move x op).truthful hI hx
  · rw [Session.truthful_iff_agree]
    exact ⟨rfl, fun h => absurd h Bool.false_ne_true, fun _ => rfl⟩

end Snapshot

/-! ## Sessions whose snapshot is wrong -/

def SessionConfig.plain : SessionConfig := ⟨"s", .local, .react, "", "unknown", none, [], [], [], []⟩

def Session.after (ops : List (Op Unit)) : Session Unit :=
  (Emitter.run (Session.step (fun _ _ _ => []) fun _ => "") (.new .plain) ops).1

def observing : List (Op Unit) := [.syncTelemetryFreshness .fresh, .syncWorldStateWithNote (some ()) none]

def failedTurn : List (Op Unit) := [.beginTurn ⟨"go", .react, [], []⟩ [], .failSession .modelError]

/-- After a safety stop the session is paused and its snapshot says it can move; after an abort outside
a turn the snapshot has no failure; after a turn that failed it is one turn behind. -/
theorem snapshot_not_truthful :
    ((Session.after (observing ++ [.handleFailure .safetyBlocked])).runtime.isPaused = true ∧
      (Session.after (observing ++ [.handleFailure .safetyBlocked])).runtime.state.snapshot.safePauseState = .running ∧
      (Session.after (observing ++ [.handleFailure .safetyBlocked])).runtime.state.snapshot.canExecutePhysical = true) ∧
    ((Session.after [.handleFailure .operatorAbort]).runtime.state.failure = some .operatorAbort ∧
      (Session.after [.handleFailure .operatorAbort]).runtime.state.snapshot.lastFailure = none) ∧
    ((Session.after failedTurn).turnActive = false ∧ (Session.after failedTurn).runtime.state.turnIndex = 1 ∧
      (Session.after failedTurn).runtime.state.snapshot.turnIndex = 0) := by
  refine ⟨⟨?_, ?_, ?_⟩, ⟨?_, ?_⟩, ?_, ?_, ?_⟩ <;> rfl

end Roz.Agent
