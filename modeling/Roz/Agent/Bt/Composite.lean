import Roz.Agent.Bt.Sound
import Mathlib.Data.List.Forall2

/-!
# Soundness of sequence, fallback and parallel nodes

A sequence or a fallback has at most one running child, the one at its index.  A
parallel node that completes leaves the children that returned Running as they are,
so it is sound only if it cannot complete then (`sound_sequence`, `sound_parallel`).
-/

namespace Roz.Agent.Bt
open BtNode
variable {β : Type}

/-! ## Lists of children -/

def ReachAll : (ns : List (BtNode β)) → Controls ns → ExecutorsAll ns → Prop
  | [], _, _ => True
  | n :: ns, (c, cs), (e, es) => n.Reach c e ∧ ReachAll ns cs es

def QuiescentAll : (ns : List (BtNode β)) → Controls ns → ExecutorsAll ns → Prop
  | [], _, _ => True
  | n :: ns, (c, cs), (e, es) => n.Quiescent c e ∧ QuiescentAll ns cs es

lemma reachAll_built (ns : List (BtNode β)) : ReachAll ns (freshAll ns) (createdAll ns) := by
  induction ns with
  | nil => trivial
  | cons n ns ih => exact ⟨.built, ih⟩

lemma quiescentAll_iff {ns : List (BtNode β)} {cs es} :
    QuiescentAll ns cs es ↔ ∀ a ∈ actionsAll ns cs es, a.isRunning = false := by
  induction ns with
  | nil => simp [QuiescentAll, actionsAll]
  | cons n ns ih =>
    obtain ⟨c, cs⟩ := cs
    obtain ⟨e, es⟩ := es
    simp only [QuiescentAll, actionsAll, List.mem_append, or_imp, forall_and, ih, Quiescent]

section Children
variable {ns : List (BtNode β)} {ts : List TreeNode}
lemma quiescentAll_built (h : List.Forall₂ Sound ns ts) : QuiescentAll ns (freshAll ns) (createdAll ns) := by
  induction h with
  | nil => trivial
  | cons hn _ ih => exact ⟨hn.built, ih⟩

lemma quiescentAll_of_idle (h : List.Forall₂ Sound ns ts) (hno : anyHoldsAction ts = false) :
    ∀ cs es, ReachAll ns cs es → QuiescentAll ns cs es := by
  induction h with
  | nil => exact fun _ _ _ => trivial
  | cons hn _ ih =>
    intro ⟨c, cs⟩ ⟨e, es⟩ ⟨hr, hrs⟩
    simp only [anyHoldsAction, Bool.or_eq_false_iff] at hno
    exact ⟨hn.idle hno.1 c e hr, ih hno.2 cs es hrs⟩

lemma consistentAll (h : List.Forall₂ Sound ns ts) :
    ∀ cs es, ReachAll ns cs es → ∀ a ∈ actionsAll ns cs es, a.Consistent := by
  induction h with
  | nil => exact nofun
  | cons hn _ ih =>
    intro ⟨c, cs⟩ ⟨e, es⟩ ⟨hr, hrs⟩ a ha
    exact (List.mem_append.1 ha).elim (hn.consistent c e hr a) (ih cs es hrs a)

/-! ## Sequence and fallback -/

/-- Between ticks of a chain that is at index `start`: the children before it may return
`goOn`, and no child other than the one at the index is running. -/
def ReadyAt (goOn : BtStatus) : (ns : List (BtNode β)) → List TreeNode → (start : Nat) → Controls ns →
    ExecutorsAll ns → Prop
  | _ :: ns, _ :: _, 0, (_, cs), (_, es) => QuiescentAll ns cs es
  | n :: ns, t :: ts, start + 1, (c, cs), (e, es) =>
    n.Quiescent c e ∧ may t goOn = true ∧ ReadyAt goOn ns ts start cs es
  | _, _, _, _, _ => True

variable (goOn : BtStatus)
def ChainAt (ns : List (BtNode β)) (ts : List TreeNode) (index : Option Nat)
    (cs : Controls ns) (es : ExecutorsAll ns) : Prop :=
  match index with
  | none => QuiescentAll ns cs es
  | some i => ReadyAt goOn ns ts i cs es

structure ChainReturns (goOn : BtStatus) (ns : List (BtNode β)) (ts : List TreeNode)
    (p : Option Nat × Ticked (Controls ns) (ExecutorsAll ns) β) : Prop where
  reach : ReachAll ns p.2.control p.2.executors
  at_index : ChainAt goOn ns ts p.1 p.2.control p.2.executors
  completes : p.2.status ≠ .running → p.1 = none
  passes : p.2.status = goOn → mayAll ts goOn = true
  stops : p.2.status ≠ goOn → mayAny ts p.2.status = true

variable (h : List.Forall₂ Sound ns ts)
include h

lemma readyAt_zero {cs es} (hq : QuiescentAll ns cs es) : ReadyAt goOn ns ts 0 cs es := by
  cases h with
  | nil => trivial
  | cons _ _ => exact hq.2

variable {goOn}
lemma chainAt_ready {index cs es} (hat : ChainAt goOn ns ts index cs es) : ReadyAt goOn ns ts (index.getD 0) cs es := by
  cases index with
  | none => exact readyAt_zero goOn h hat
  | some i => exact hat

omit h in
lemma ChainReturns.cons {goOn n t c e p} (h : ChainReturns goOn ns ts p)
    (hr : n.Reach c e) (hq : n.Quiescent c e) (hmay : may t goOn = true) : ChainReturns goOn (n :: ns) (t :: ts)
      (p.1.map (· + 1), ⟨p.2.status, (c, p.2.control), (e, p.2.executors), p.2.blackboard⟩) where
  reach := ⟨hr, h.reach⟩
  at_index := by
    have hat := h.at_index
    cases hp : p.1 with
    | none =>
      rw [hp] at hat
      exact ⟨hq, hat⟩
    | some i =>
      rw [hp] at hat
      exact ⟨hq, hmay, hat⟩
  completes := fun hst => by rw [h.completes hst]; rfl
  passes := fun hst => by simp [mayAll, hmay, h.passes hst]
  stops := fun hst => by simp [mayAny, h.stops hst]

lemma tickFrom_returns (hgo : goOn ≠ .running) : ∀ start cs es b, ReachAll ns cs es → ReadyAt goOn ns ts start cs es →
      ChainReturns goOn ns ts (tickFrom goOn ns start cs es b) := by
  induction h with
  | nil =>
    intro start cs es b _ _
    cases start <;> exact ⟨trivial, trivial, fun _ => rfl, fun _ => rfl, fun hst => absurd rfl hst⟩
  | @cons n t ns ts hn hns ih =>
    intro start ⟨c, cs⟩ ⟨e, es⟩ b ⟨hr, hrs⟩ hready
    cases start with
    | succ start =>
      obtain ⟨hq, hmay, hrest⟩ := hready
      exact (ih start cs es b hrs hrest).cons hr hq hmay
    | zero =>
      have hmay := hn.returns c e b hr
      have hdone := hn.completes c e b hr
      simp only [tickFrom]
      split
      · next hst =>
        rw [hst] at hmay hdone
        exact (ih 0 cs es _ hrs (readyAt_zero goOn hns hready)).cons (hr.tick b) (hdone hgo) hmay
      · next hst =>
        refine ⟨⟨hr.tick b, hrs⟩, ?_, fun hne => if_neg hne, fun heq => absurd heq hst, fun _ => ?_⟩
        · split
          · exact hready
          · next hne => exact ⟨hdone hne, hready⟩
        · simp [mayAny, hmay]

lemma haltAt_quiescent : ∀ i cs es b, ReachAll ns cs es → ReadyAt goOn ns ts i cs es →
    ReachAll ns (haltAt ns i cs es b).control (haltAt ns i cs es b).executors ∧
    QuiescentAll ns (haltAt ns i cs es b).control (haltAt ns i cs es b).executors := by
  induction h with
  | nil =>
    intro i cs es b _ _
    cases i <;> exact ⟨trivial, trivial⟩
  | cons hn _ ih =>
    intro i ⟨c, cs⟩ ⟨e, es⟩ b ⟨hr, hrs⟩ hready
    cases i with
    | zero => exact ⟨⟨hr.halt b, hrs⟩, hn.halts c e b hr, hready⟩
    | succ i =>
      obtain ⟨hq, -, hrest⟩ := hready
      obtain ⟨h1, h2⟩ := ih i cs es b hrs hrest
      exact ⟨⟨hr, h1⟩, hq, h2⟩

lemma reach_chain (hgo : goOn ≠ .running) {c es} (hr : (chainNode goOn ns).Reach c es) :
    ReachAll ns c.2 es ∧ ChainAt goOn ns ts c.1 c.2 es := by
  refine Reach.invariant (n := chainNode goOn ns)
    (fun c es => ReachAll ns c.2 es ∧ ChainAt goOn ns ts c.1 c.2 es)
    ⟨reachAll_built ns, quiescentAll_built h⟩ ?_ ?_ hr
  · rintro ⟨index, cs⟩ es b ⟨hreach, hat⟩
    have hret := tickFrom_returns h hgo (index.getD 0) cs es b hreach (chainAt_ready h hat)
    exact ⟨hret.reach, hret.at_index⟩
  · rintro ⟨index, cs⟩ es b ⟨hreach, hat⟩
    cases index with
    | none => exact ⟨hreach, hat⟩
    | some i => exact haltAt_quiescent h i cs es b hreach hat

lemma sound_chain (hgo : goOn ≠ .running) {t} (hpasses : mayAll ts goOn = true → may t goOn = true)
    (hstops : ∀ st, st ≠ goOn → mayAny ts st = true → may t st = true)
    (hholds : holdsAction t = anyHoldsAction ts) : Sound (chainNode goOn ns) t := by
  have hret : ∀ c es b, (chainNode goOn ns).Reach c es →
      ChainReturns goOn ns ts (tickFrom goOn ns (c.1.getD 0) c.2 es b) := by
    intro c es b hr
    obtain ⟨hreach, hat⟩ := reach_chain h hgo hr
    exact tickFrom_returns h hgo _ c.2 es b hreach (chainAt_ready h hat)
  refine ⟨?_, ?_, ?_, ?_, ?_, ?_⟩
  · intro c es b hr
    by_cases hst : ((chainNode goOn ns).tick c es b).status = goOn
    · rw [hst]
      exact hpasses ((hret c es b hr).passes hst)
    · exact hstops _ hst ((hret c es b hr).stops hst)
  · intro c es b hr hst
    have hat := (hret c es b hr).at_index
    rw [(hret c es b hr).completes hst] at hat
    exact quiescentAll_iff.1 hat
  · rintro ⟨index, cs⟩ es b hr
    obtain ⟨hreach, hat⟩ := reach_chain h hgo hr
    cases index with
    | none => exact quiescentAll_iff.1 hat
    | some i => exact quiescentAll_iff.1 (haltAt_quiescent h i cs es b hreach hat).2
  · exact quiescentAll_iff.1 (quiescentAll_built h)
  · intro hno c es hr
    rw [hholds] at hno
    exact quiescentAll_iff.1 (quiescentAll_of_idle h hno _ es (reach_chain h hgo hr).1)
  · intro c es hr
    exact consistentAll h c.2 es (reach_chain h hgo hr).1

lemma sound_sequence : Sound (SequenceNode ns) (.sequence ts) := by
  refine sound_chain h (by decide) (fun hall => ?_) (fun st hst hany => ?_) (by simp [holdsAction])
  · simpa [may] using hall
  · simpa [may, hst] using hany

lemma sound_fallback : Sound (FallbackNode ns) (.fallback ts) := by
  refine sound_chain h (by decide) (fun hall => ?_) (fun st hst hany => ?_) (by simp [holdsAction])
  · simpa [may] using hall
  · simpa [may, hst] using hany

/-! ## Parallel -/

/-- What ticking the children of a parallel node returns.  If a child is left running,
neither count includes it. -/
structure ParallelReturns (ns : List (BtNode β)) (ts : List TreeNode)
    (p : Nat × Nat × Halted (Controls ns) (ExecutorsAll ns) β) : Prop where
  reach : ReachAll ns p.2.2.control p.2.2.executors
  successes : p.1 ≤ countMay ts .success
  failures : p.2.1 ≤ countMay ts .failure
  counted : mayAny ts .running = true ∨ p.1 + p.2.1 = ts.length
  running : QuiescentAll ns p.2.2.control p.2.2.executors ∨
    ∃ i : Fin ts.length, holdsAction (ts.get i) = true ∧
      p.1 ≤ countMay (ts.eraseIdx i) .success ∧ p.2.1 ≤ countMay (ts.eraseIdx i) .failure

omit h in
lemma tickAll_cons (n : BtNode β) (ns : List (BtNode β)) (c : n.Control) (cs : Controls ns) (e : n.Executors)
    (es : ExecutorsAll ns) (b : β) :
    tickAll (n :: ns) (c, cs) (e, es) b =
      let t := n.tick c e b
      let p := tickAll ns cs es t.blackboard
      (if t.status = .success then p.1 + 1 else p.1, if t.status = .failure then p.2.1 + 1 else p.2.1,
        ⟨(t.control, p.2.2.control), (t.executors, p.2.2.executors), p.2.2.blackboard⟩) := rfl

omit h in
lemma parallel_status (ns : List (BtNode β)) (k : Nat) (cs : (ParallelNode ns k).Control)
    (es : (ParallelNode ns k).Executors) (b : β) : ((ParallelNode ns k).tick cs es b).status =
      parallelStatus k ns.length (tickAll ns cs es b).1 (tickAll ns cs es b).2.1 := rfl

omit h in
lemma count_le_cons {t ts returned st count} (hmay : may t returned = true) (hle : count ≤ countMay ts st) :
    (if returned = st then count + 1 else count) ≤ countMay (t :: ts) st := by
  rw [countMay]
  split
  · next heq =>
    rw [← heq, if_pos hmay, heq]
    omega
  · omega

lemma tickAll_returns : ∀ cs es b, ReachAll ns cs es → ParallelReturns ns ts (tickAll ns cs es b) := by
  induction h with
  | nil => exact fun cs es b _ => ⟨trivial, Nat.le_refl _, Nat.le_refl _, .inr rfl, .inl trivial⟩
  | @cons n t ns ts hn _ ih =>
    intro ⟨c, cs⟩ ⟨e, es⟩ b ⟨hr, hrs⟩
    have hmay := hn.returns c e b hr
    have hret := ih cs es (n.tick c e b).blackboard hrs
    refine ⟨⟨hr.tick b, hret.reach⟩, count_le_cons hmay hret.successes, count_le_cons hmay hret.failures, ?_, ?_⟩
    · rcases hret.counted with hany | hlen
      · exact .inl (by simp [mayAny, hany])
      · cases hst : (n.tick c e b).status with
        | running =>
          rw [hst] at hmay
          exact .inl (by simp [mayAny, hmay])
        | success =>
          simp only [tickAll_cons, hst, List.length_cons, ↓reduceIte, reduceCtorEq]
          omega
        | failure =>
          simp only [tickAll_cons, hst, List.length_cons, ↓reduceIte, reduceCtorEq]
          omega
    · by_cases hbusy : (n.tick c e b).status = .running ∧ holdsAction t = true
      · -- this child is the one that is left running
        obtain ⟨hst, hholds⟩ := hbusy
        refine .inr ⟨⟨0, by simp⟩, hholds, ?_, ?_⟩
        · simpa [tickAll_cons, hst] using hret.successes
        · simpa [tickAll_cons, hst] using hret.failures
      · have hq : n.Quiescent (n.tick c e b).control (n.tick c e b).executors := by
          by_cases hst : (n.tick c e b).status = .running
          · exact hn.idle (by simpa [hst] using hbusy) _ _ (hr.tick b)
          · exact hn.completes c e b hr hst
        rcases hret.running with hqs | ⟨i, hholds, hsucc, hfail⟩
        · exact .inl ⟨hq, hqs⟩
        · exact .inr ⟨i.succ, hholds, count_le_cons hmay hsucc, count_le_cons hmay hfail⟩

lemma haltAll_quiescent : ∀ cs es b, ReachAll ns cs es →
    ReachAll ns (haltAll ns cs es b).control (haltAll ns cs es b).executors ∧
    QuiescentAll ns (haltAll ns cs es b).control (haltAll ns cs es b).executors := by
  induction h with
  | nil => exact fun _ _ _ _ => ⟨trivial, trivial⟩
  | cons hn _ ih =>
    intro ⟨c, cs⟩ ⟨e, es⟩ b ⟨hr, hrs⟩
    obtain ⟨h1, h2⟩ := ih cs es _ hrs
    exact ⟨⟨hr.halt b, h1⟩, hn.halts c e b hr, h2⟩

lemma reach_parallel {k cs es} (hr : (ParallelNode ns k).Reach cs es) : ReachAll ns cs es := by
  refine Reach.invariant (n := ParallelNode ns k) (fun cs es => ReachAll ns cs es) (reachAll_built ns) ?_ ?_ hr
  · exact fun cs es b hreach => (tickAll_returns h cs es b hreach).reach
  · exact fun cs es b hreach => (haltAll_quiescent h cs es b hreach).1

lemma sound_parallel (k : Nat) (hg : ParallelGuarded ts k) : Sound (ParallelNode ns k) (.parallel ts k) := by
  have hlen : ns.length = ts.length := h.length_eq
  have hret : ∀ cs es b, (ParallelNode ns k).Reach cs es → ParallelReturns ns ts (tickAll ns cs es b) :=
    fun cs es b hr => tickAll_returns h cs es b (reach_parallel h hr)
  refine ⟨?_, ?_, ?_, ?_, ?_, ?_⟩
  · intro cs es b hr
    obtain ⟨-, hsucc, hfail, hcount, -⟩ := hret cs es b hr
    rw [parallel_status, parallelStatus, hlen]
    split
    · simp only [may, decide_eq_true_eq]
      omega
    · split
      · simp only [may, decide_eq_true_eq]
        omega
      · simp only [may]
        rcases hcount with hany | hall
        · exact hany
        · omega
  · intro cs es b hr hst
    rcases (hret cs es b hr).running with hq | ⟨i, hholds, hsucc, hfail⟩
    · exact quiescentAll_iff.1 hq
    · obtain ⟨hbelow, habove⟩ := hg i hholds
      refine absurd ?_ hst
      rw [parallel_status, parallelStatus, hlen]
      rw [if_neg (by omega), if_neg (by omega)]
  · intro cs es b hr
    exact quiescentAll_iff.1 (haltAll_quiescent h cs es b (reach_parallel h hr)).2
  · exact quiescentAll_iff.1 (quiescentAll_built h)
  · intro hno cs es hr
    simp only [holdsAction] at hno
    exact quiescentAll_iff.1 (quiescentAll_of_idle h hno cs es (reach_parallel h hr))
  · exact fun cs es hr => consistentAll h cs es (reach_parallel h hr)

end Children
end Roz.Agent.Bt
