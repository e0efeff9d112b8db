import Roz.Server.DeviceAuth

/-!
# A device authorization is spent once

`poll_token` leaves the row as it found it, so that each further poll of a completed code mints
another key, and a poll that passed the expiry check may insert its key after the expiry.  That
does not happen if

    no code is polled again once a poll has found it completed, and
    no poll is still about to insert its key when the code expires →
      at most one key for each code, and none after it expired  (spent_once_of_polled_once)
-/

namespace Roz.Server
open StepRun List
namespace DeviceAuth
variable {s : DeviceAuth}

/-- At most one key for each code; every key after exactly one completion of its code, for the
tenant that completed it, and not after the code expired. -/
structure SpentOnce (s : DeviceAuth) : Prop where
  at_most_one : ∀ deviceCode, (s.minted.filter fun e => e.1 == deviceCode).length ≤ 1
  completed : ∀ e ∈ s.minted, completionsOf s.completions e.1 = [(e.1, e.2.tenantId)]
  in_time : ∀ e ∈ s.minted, ∀ i ∈ s.issued, i.deviceCode = e.1 → e.2.createdAt ≤ i.expiresAt

/-- A code is not polled again once a poll found it completed, and a poll that inserts its key
does so before the code expires. -/
def polledOnce (s : DeviceAuth) : DeviceAuthStep → Bool
  | .poll deviceCode => s.polls.all fun p => p.deviceCode != deviceCode || !p.sawCompleted
  | .createApiKey k => s.polls[k]?.all fun p => p.row.all fun row => decide (s.now ≤ row.expiresAt)
  | _ => true

structure Single (s : DeviceAuth) : Prop where
  polls_once : ∀ (j k : Nat) (p q : Poll), s.polls[j]? = some p → s.polls[k]? = some q →
    p.deviceCode = q.deviceCode → p.sawCompleted = true → q.sawCompleted = true → j = k
  minted_token : ∀ e ∈ s.minted, ∃ (k : Nat) (p : Poll), s.polls[k]? = some p ∧ p.deviceCode = e.1 ∧
    p.sawCompleted = true ∧ p.phase = .token e.2
  minted_nodup : (s.minted.map (·.1)).Nodup
  minted_in_time : ∀ e ∈ s.minted, ∀ i ∈ s.issued, i.deviceCode = e.1 → e.2.createdAt ≤ i.expiresAt

lemma single_new (now : Int) : (new now).Single where
  polls_once := by simp [new]
  minted_token := by simp [new]
  minted_nodup := nodup_nil
  minted_in_time := by simp [new]

lemma Books.minted_issued (h : s.Books) {e} (he : e ∈ s.minted) : ∃ i ∈ s.issued, i.deviceCode = e.1 := by
  have hmem : (e.1, e.2.tenantId) ∈ completionsOf s.completions e.1 := by
    rw [h.minted_completed e he]
    exact mem_singleton_self _
  exact h.completions_issued _ (mem_of_mem_filter hmem)

lemma single_requestCode (hb : s.Books) (h : s.Single) {deviceCode userCode readAt} :
    (s.requestCode deviceCode userCode readAt).Single := by
  rcases s.requestCode_cases deviceCode userCode readAt with hsame | ⟨hfresh, hissued⟩
  · rw [hsame]
    exact h
  · rw [hissued]
    refine { h with minted_in_time := ?_ }
    intro e he i hi heq
    rcases mem_append.1 hi with hi | hi
    · exact h.minted_in_time e he i hi heq
    · -- a key of the new code would be of a code issued before
      obtain ⟨i', hi', heq'⟩ := hb.minted_issued he
      refine absurd ?_ (hfresh i' hi')
      rw [heq', ← heq, mem_singleton.1 hi]
      rfl

lemma single_poll (h : s.Single) {deviceCode} (row : Option DeviceCodeRow)
    (hok : ∀ p ∈ s.polls, p.deviceCode = deviceCode → p.sawCompleted = false) :
    ({ s with polls := s.polls ++ [⟨deviceCode, row, .found⟩] } : DeviceAuth).Single := by
  have hold : ∀ (k : Nat) (p : Poll), s.polls[k]? = some p → deviceCode = p.deviceCode → p.sawCompleted ≠ true := by
    intro k p hk heq hsaw
    rw [hok p (mem_of_getElem? hk) heq.symm] at hsaw
    cases hsaw
  refine { h with polls_once := ?_, minted_token := ?_ }
  · intro j k p q hj hk heq hp hq
    rcases getElem?_snoc hj with hj | ⟨hjlen, rfl⟩
    · rcases getElem?_snoc hk with hk | ⟨_, rfl⟩
      · exact h.polls_once j k p q hj hk heq hp hq
      · exact absurd hp (hold j p hj heq.symm)
    · rcases getElem?_snoc hk with hk | ⟨hklen, _⟩
      · exact absurd hq (hold k q hk heq)
      · rw [hjlen, hklen]
  · intro e he
    obtain ⟨k, p, hk, hp⟩ := h.minted_token e he
    refine ⟨k, p, ?_, hp⟩
    rw [List.getElem?_append_left (List.getElem?_eq_some_iff.1 hk).1]
    exact hk

lemma single_setPoll (h : s.Single) {k p} (hk : s.polls[k]? = some p)
    (hopen : ∀ key, p.phase ≠ .token key) (phase : PollPhase) : (s.setPoll k p phase).Single := by
  -- a poll at an index stays one of the same code that read the same row
  have hold : ∀ (j : Nat) (q : Poll), (s.polls.set k { p with phase })[j]? = some q →
      ∃ q' : Poll, s.polls[j]? = some q' ∧ q'.deviceCode = q.deviceCode ∧ q'.sawCompleted = q.sawCompleted := by
    intro j q hj
    rcases getElem?_set_some hj with ⟨rfl, rfl⟩ | ⟨_, hj⟩
    · exact ⟨p, hk, rfl, rfl⟩
    · exact ⟨q, hj, rfl, rfl⟩
  refine { h with polls_once := ?_, minted_token := ?_ }
  · intro i j q r hi hj heq hq hr
    obtain ⟨q', hi', hcode, hsaw⟩ := hold i q hi
    obtain ⟨r', hj', hcode', hsaw'⟩ := hold j r hj
    exact h.polls_once i j q' r' hi' hj' (by rw [hcode, heq, hcode']) (hsaw.trans hq) (hsaw'.trans hr)
  · intro e he
    obtain ⟨j, q, hj, hcode, hsaw, htoken⟩ := h.minted_token e he
    have hne : k ≠ j := by
      rintro rfl
      rw [hk] at hj
      cases hj
      exact hopen e.2 htoken
    exact ⟨j, q, by rw [setPoll, getElem?_set_ne hne, hj], hcode, hsaw, htoken⟩

lemma single_mint (hb : s.Books) (h : s.Single) {k p} (hk : s.polls[k]? = some p)
    (hok : ∀ row ∈ p.row, s.now ≤ row.expiresAt) : (s.mint k p).Single := by
  unfold mint
  cases hphase : p.phase with
  | found => exact h
  | token key => exact h
  | error status text => exact h
  | granted tenantId userId =>
    obtain ⟨row, hrow, hsome, -⟩ := hb.polls_granted p (mem_of_getElem? hk) tenantId userId hphase
    obtain ⟨hcode, ⟨i₀, hi₀, hicode, hiexpires⟩, -⟩ := hb.polls_rows p (mem_of_getElem? hk) row hrow
    have hsaw : p.sawCompleted = true := by
      rw [Poll.sawCompleted, Option.mem_def.1 hrow]
      exact hsome
    have hopen : ∀ key, p.phase ≠ .token key := by
      intro key heq
      rw [hphase] at heq
      cases heq
    have hset := single_setPoll h hk hopen (.token (createApiKey tenantId userId s.now))
    refine { hset with minted_token := ?_, minted_nodup := ?_, minted_in_time := ?_ }
    · intro e he
      rcases mem_append.1 he with he | he
      · exact hset.minted_token e he
      · rw [mem_singleton.1 he]
        refine ⟨k, { p with phase := .token (createApiKey tenantId userId s.now) }, ?_, rfl, hsaw, rfl⟩
        exact List.getElem?_set_self (List.getElem?_eq_some_iff.1 hk).1
    · -- a key of the same code would have been minted by the same poll
      refine nodup_snoc h.minted_nodup fun e he heq => ?_
      obtain ⟨j, q, hj, hqcode, hqsaw, htoken⟩ := h.minted_token e he
      obtain rfl := h.polls_once j k q p hj hk (hqcode.trans heq) hqsaw hsaw
      rw [hk] at hj
      cases hj
      exact hopen e.2 htoken
    · intro e he i hi heq
      rcases mem_append.1 he with he | he
      · exact h.minted_in_time e he i hi heq
      · rw [mem_singleton.1 he] at heq ⊢
        obtain rfl : i = i₀ :=
          inj_on_of_nodup_map hb.issued_nodup hi hi₀ (heq.trans (hcode.symm.trans hicode.symm))
        rw [hiexpires]
        exact hok row hrow

lemma single_step (hb : s.Books) (h : s.Single) {i} (hok : s.polledOnce i = true) : (s.step i).Single := by
  cases i with
  | pass micros => exact { h with }
  | purge age =>
    simp only [step, purgeStaleDeviceCodes]
    split
    · exact h
    · exact { h with }
  | requestCode deviceCode userCode age => exact single_requestCode hb h
  | beginComplete tenantId userCode => exact { h with }
  | advanceComplete k => exact elim_of Single h fun tx _ => { h with }
  | commit k =>
    refine elim_of Single h fun tx _ => ?_
    unfold DeviceAuth.commit
    split
    · exact { h with }
    · exact h
  | abort k =>
    refine elim_of Single h fun tx _ => ?_
    unfold DeviceAuth.abort
    split
    · exact h
    · exact { h with }
  | poll deviceCode =>
    refine single_poll h _ fun p hp heq => ?_
    have hp' := all_eq_true.1 hok p hp
    simpa [heq] using hp'
  | checkPoll k =>
    refine elim_of Single h fun p hk => ?_
    split
    · rename_i hphase
      exact single_setPoll h hk (fun key heq => by rw [hphase] at heq; cases heq) _
    · exact h
  | createApiKey k =>
    refine elim_of Single h fun p hk => single_mint hb h hk fun row hrow => ?_
    simp only [polledOnce, hk, Option.all_some] at hok
    rw [Option.mem_def.1 hrow] at hok
    exact of_decide_eq_true hok
  | failPoll k =>
    refine elim_of Single h fun p hk => ?_
    unfold DeviceAuth.failPoll
    split
    · exact h
    · exact h
    · rename_i hnot _
      exact single_setPoll h hk (fun key heq => hnot key heq) _

lemma spentOnce_of_single (hb : s.Books) (h : s.Single) : s.SpentOnce where
  at_most_one := by
    intro deviceCode
    have hcount := nodup_iff_count_le_one.1 h.minted_nodup deviceCode
    rw [count_eq_length_filter, filter_map, length_map] at hcount
    exact hcount
  completed := hb.minted_completed
  in_time := h.minted_in_time

/-- If no code is polled again once a poll found it completed, and no poll inserts its key after
the code expired, then every device code is spent at most once. -/
theorem spent_once_of_polled_once (now : Int) (steps : List DeviceAuthStep)
    (hok : EveryStep (fun s i => .next (step s i)) (new now) (fun s i => s.polledOnce i = true) steps)
    (s : DeviceAuth) (hrun : runFrom (fun s i => .next (step s i)) (new now) steps = .next s) : s.SpentOnce := by
  have hinv : s.Books ∧ s.Single := by
    refine EveryStep.invariant (fun s => s.Books ∧ s.Single) ?_ ⟨books_new now, single_new now⟩ steps hok s hrun
    intro s i s' h hi hstep
    cases hstep
    exact ⟨books_step h.1 i, single_step h.1 h.2 hi⟩
  exact spentOnce_of_single hinv.1 hinv.2

def authorized : List DeviceAuthStep :=
  [.requestCode "dc" "ABCD-EFGH" 0, .poll "dc", .checkPoll 0, .beginComplete 7 "ABCD-EFGH", .advanceComplete 0,
    .advanceComplete 0, .advanceComplete 0, .commit 0, .pass 5000000, .poll "dc", .checkPoll 1, .createApiKey 1]

theorem authorized_spent_once : (authorized.foldl step (new 0)).minted.length = 1 ∧
    (authorized.foldl step (new 0)).SpentOnce :=
  ⟨by decide, spent_once_of_polled_once 0 authorized (by decide) _ (runFrom_total _ _ _)⟩

/-- One more poll of the same code, and the client has a second key. -/
theorem polled_again_minted_again :
    ¬ ([.poll "dc", .checkPoll 2, .createApiKey 2].foldl step (authorized.foldl step (new 0))).SpentOnce := by
  intro h
  exact absurd (h.at_most_one "dc") (by decide)

/-- However often it is polled, a code has keys for one tenant only: the one that completed it. -/
theorem minted_for_completer (now : Int) (steps : List DeviceAuthStep) {e}
    (he : e ∈ (steps.foldl step (new now)).minted) :
    completionsOf (steps.foldl step (new now)).completions e.1 = [(e.1, e.2.tenantId)] := by
  have hbooks : (steps.foldl step (new now)).Books :=
    foldlRecOn steps step (books_new now) fun _ h i _ => books_step h i
  exact hbooks.minted_completed e he

theorem authorized_completed : completionsOf (authorized.foldl step (new 0)).completions "dc" = [("dc", 7)] :=
  minted_for_completer 0 authorized (e := ("dc", createApiKey 7 "api_key" 5000000)) (by decide)

end DeviceAuth
end Roz.Server
