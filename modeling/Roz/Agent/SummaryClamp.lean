import Roz.Agent.Compaction

/-!
# The size of a rolling summary (`context_compressor.rs`)

`compact` puts 396 bytes before the reply, cuts the text at 12,000 bytes, and adds a note of 66
bytes if it has less than 2,000.  The cut may fall inside a character, where `String::truncate`
panics; and the note may not be enough (`compact_summary_iff`).
-/

namespace Roz.Agent
open ByteText String

/-! ## Cutting -/

def Boundary (n : Nat) (text : Text) : Prop := ∃ a b, text = a ++ b ∧ byteLen a = n

lemma truncateBytes_append (a b : Text) : truncateBytes (byteLen a) (a ++ b) = some a := by
  induction a with
  | nil => cases b <;> simp [truncateBytes]
  | cons c a ih =>
    have hpos := c.utf8Size_pos
    rw [List.cons_append, byteLen_cons, truncateBytes, if_neg (by omega), if_pos (by omega), Nat.add_sub_cancel_left, ih,
      Option.map_some]

lemma truncateBytes_eq_some {n} {text a : Text} (h : truncateBytes n text = some a) (hn : n ≤ byteLen text) :
    ∃ b, text = a ++ b ∧ byteLen a = n := by
  induction text generalizing n a with
  | nil =>
    rw [truncateBytes, Option.some.injEq] at h
    rw [byteLen_nil, Nat.le_zero] at hn
    subst h hn
    exact ⟨[], rfl, rfl⟩
  | cons c text ih =>
    rw [truncateBytes] at h
    split at h
    · rename_i hzero
      rw [Option.some.injEq] at h
      subst h hzero
      exact ⟨c :: text, rfl, rfl⟩
    · split at h
      · obtain ⟨a', ha', rfl⟩ := Option.map_eq_some_iff.1 h
        rw [byteLen_cons] at hn
        obtain ⟨b, rfl, hlen⟩ := ih ha' (by omega)
        exact ⟨b, rfl, by rw [byteLen_cons, hlen]; omega⟩
      · cases h

lemma truncateBytes_isSome_iff {n text} (hn : n ≤ byteLen text) :
    (∃ a, truncateBytes n text = some a) ↔ Boundary n text := by
  constructor
  · rintro ⟨a, ha⟩
    obtain ⟨b, htext, hlen⟩ := truncateBytes_eq_some ha hn
    exact ⟨a, b, htext, hlen⟩
  · rintro ⟨a, b, rfl, rfl⟩
    exact ⟨a, truncateBytes_append a b⟩

lemma boundary_append (a text : Text) (n : Nat) : Boundary (byteLen a + n) (a ++ text) ↔ Boundary n text := by
  constructor
  · rintro ⟨x, y, hxy, hlen⟩
    rcases List.append_eq_append_iff.1 hxy with ⟨mid, rfl, rfl⟩ | ⟨mid, rfl, rfl⟩
    · rw [byteLen_append] at hlen
      exact ⟨mid, y, rfl, by omega⟩
    · rw [byteLen_append] at hlen
      exact ⟨[], text, rfl, by rw [byteLen_nil]; omega⟩
  · rintro ⟨x, y, rfl, rfl⟩
    exact ⟨a ++ x, y, by rw [List.append_assoc], byteLen_append a x⟩

namespace ContextCompressor

/-! ## The clamp -/

lemma length_eq_of_append {a b : String} {m n} (ha : a.length = m) (hb : b.length = n) : (a ++ b).length = m + n := by
  rw [length_append, ha, hb]

-- The kernel counts the characters of one literal fast, those of an appended text slowly.
lemma summaryHead_length : summaryHead.length = 105 + 102 + 96 + 89 + 2 := by
  refine length_eq_of_append (length_eq_of_append (length_eq_of_append (length_eq_of_append ?_ ?_) ?_) ?_) ?_
  all_goals exact length_ofList.trans rfl

lemma shortNote_length : shortNote.length = 66 := length_ofList.trans rfl

variable (body : String)
lemma clampSummary_cases : (body.utf8ByteSize < 1604 ∧ clampSummary body = some (summaryHead ++ body ++ shortNote)) ∨
    (1604 ≤ body.utf8ByteSize ∧ body.utf8ByteSize ≤ 11604 ∧ clampSummary body = some (summaryHead ++ body)) ∨
    (11604 < body.utf8ByteSize ∧ ∃ a b, body.toList = a ++ b ∧ byteLen a = 11604 ∧
      clampSummary body = some (summaryHead ++ String.ofList a)) ∨
    (11604 < body.utf8ByteSize ∧ ¬ Boundary 11604 body.toList ∧ clampSummary body = none) := by
  have hsize : (summaryHead ++ body).utf8ByteSize = 396 + body.utf8ByteSize := by
    rw [utf8ByteSize_append, summaryHead_size]
  have hclamp : clampSummary body =
      (if 12000 < 396 + body.utf8ByteSize then
        (truncateBytes 12000 (summaryHead.toList ++ body.toList)).map String.ofList
      else some (summaryHead ++ body)).map fun text =>
        if text.utf8ByteSize < 2000 then text ++ shortNote else text := by
    rw [← hsize, ← toList_append]
    rfl
  rw [hclamp]
  by_cases hlong : 12000 < 396 + body.utf8ByteSize
  · rw [if_pos hlong]
    have hhead : byteLen summaryHead.toList = 396 := by rw [← utf8ByteSize_eq, summaryHead_size]
    have hbody : byteLen body.toList = body.utf8ByteSize := (utf8ByteSize_eq body).symm
    have hle : 12000 ≤ byteLen (summaryHead.toList ++ body.toList) := by
      rw [byteLen_append, hhead, hbody]
      omega
    have hiff := truncateBytes_isSome_iff hle
    have hboundary := boundary_append summaryHead.toList body.toList 11604
    rw [hhead] at hboundary
    by_cases hcut : Boundary 11604 body.toList
    · obtain ⟨a, b, hab, ha⟩ := hcut
      have htruncate := truncateBytes_append (summaryHead.toList ++ a) b
      rw [byteLen_append, hhead, ha, List.append_assoc, ← hab] at htruncate
      have hresult : String.ofList (summaryHead.toList ++ a) = summaryHead ++ String.ofList a := by
        rw [ofList_append, ofList_toList]
      have hfull : ¬ (summaryHead ++ String.ofList a).utf8ByteSize < 2000 := by
        rw [utf8ByteSize_append, summaryHead_size, ByteText.utf8ByteSize_ofList, ha]
        decide
      refine .inr (.inr (.inl ⟨by omega, a, b, hab, ha, ?_⟩))
      rw [htruncate, Option.map_some, Option.map_some, hresult, if_neg hfull]
    · refine .inr (.inr (.inr ⟨by omega, hcut, ?_⟩))
      have hnone : truncateBytes 12000 (summaryHead.toList ++ body.toList) = none := by
        by_contra hsome
        exact hcut (hboundary.1 (hiff.1 (Option.ne_none_iff_exists'.1 hsome)))
      rw [hnone]
      rfl
  · rw [if_neg hlong, Option.map_some, hsize]
    by_cases hshort : 396 + body.utf8ByteSize < 2000
    · rw [if_pos hshort]
      exact .inl ⟨by omega, rfl⟩
    · rw [if_neg hshort]
      exact .inr (.inl ⟨by omega, by omega, rfl⟩)

/-! ## Lengths -/

def Clamped (length : String → Nat) (text : String) : Prop :=
  summaryPrefix.toList <+: text.toList ∧ minSummaryChars ≤ length text ∧ length text ≤ maxSummaryChars

lemma prefix_summaryHead (text : String) : summaryPrefix.toList <+: (summaryHead ++ text).toList := by
  rw [summaryHead, append_assoc, toList_append]
  exact List.prefix_append _ _

/-- Counted in bytes: long enough for the note, and no cut inside a character. -/
def FitReply : Prop :=
  1538 ≤ body.utf8ByteSize ∧ (11604 < body.utf8ByteSize → Boundary 11604 body.toList)

lemma clampSummary_iff :
    (∃ text, clampSummary body = some text ∧ Clamped String.utf8ByteSize text) ↔ FitReply body := by
  have hhead := summaryHead_size
  have hnote := shortNote_size
  unfold FitReply Clamped minSummaryChars maxSummaryChars
  rcases clampSummary_cases body with
    ⟨hsize, heq⟩ | ⟨hsize, hsize', heq⟩ | ⟨hsize, a, b, hab, ha, heq⟩ | ⟨hsize, hcut, heq⟩
  · rw [heq]
    constructor
    · rintro ⟨text, ⟨⟩, -, hmin, -⟩
      rw [utf8ByteSize_append, utf8ByteSize_append] at hmin
      exact ⟨by omega, fun h => by omega⟩
    · rintro ⟨hmin, -⟩
      refine ⟨_, rfl, by rw [append_assoc]; exact prefix_summaryHead _, ?_, ?_⟩
      all_goals
        rw [utf8ByteSize_append, utf8ByteSize_append]
        omega
  · refine iff_of_true ⟨_, heq, prefix_summaryHead body, ?_, ?_⟩ ⟨by omega, fun h => by omega⟩
    all_goals
      rw [utf8ByteSize_append]
      omega
  · refine iff_of_true ⟨_, heq, prefix_summaryHead _, ?_, ?_⟩ ⟨by omega, fun _ => ⟨a, b, hab, ha⟩⟩
    all_goals
      rw [utf8ByteSize_append, ByteText.utf8ByteSize_ofList]
      omega
  · rw [heq]
    refine iff_of_false ?_ (fun h => hcut (h.2 hsize))
    rintro ⟨text, htext, -⟩
    cases htext

/-- Counted in characters: enough of them with the note, or without it, and no cut inside one. -/
def FitReplyChars : Prop :=
  (body.utf8ByteSize < 1604 → 1540 ≤ body.length) ∧
  (1604 ≤ body.utf8ByteSize → body.utf8ByteSize ≤ 11604 → 1606 ≤ body.length) ∧
  (11604 < body.utf8ByteSize → Boundary 11604 body.toList)

lemma length_le_byteLen (text : Text) : text.length ≤ byteLen text ∧ byteLen text ≤ 4 * text.length := by
  induction text with
  | nil => simp
  | cons c text ih =>
    have hpos := c.utf8Size_pos
    have hle := c.utf8Size_le_four
    rw [List.length_cons, byteLen_cons]
    omega

lemma length_le_utf8ByteSize (s : String) : s.length ≤ s.utf8ByteSize := by
  rw [utf8ByteSize_eq, ← length_toList]
  exact (length_le_byteLen s.toList).1

lemma clampSummary_chars_iff :
    (∃ text, clampSummary body = some text ∧ Clamped String.length text) ↔ FitReplyChars body := by
  have hhead := summaryHead_length
  have hnote := shortNote_length
  have hle := length_le_utf8ByteSize body
  unfold FitReplyChars Clamped minSummaryChars maxSummaryChars
  rcases clampSummary_cases body with
    ⟨hsize, heq⟩ | ⟨hsize, hsize', heq⟩ | ⟨hsize, a, b, hab, ha, heq⟩ | ⟨hsize, hcut, heq⟩
  · rw [heq]
    constructor
    · rintro ⟨text, ⟨⟩, -, hmin, -⟩
      rw [length_append, length_append] at hmin
      exact ⟨fun _ => by omega, fun h => by omega, fun h => by omega⟩
    · rintro ⟨hmin, -, -⟩
      have hchars := hmin hsize
      refine ⟨_, rfl, by rw [append_assoc]; exact prefix_summaryHead _, ?_, ?_⟩
      all_goals
        rw [length_append, length_append]
        omega
  · rw [heq]
    constructor
    · rintro ⟨text, ⟨⟩, -, hmin, -⟩
      rw [length_append] at hmin
      exact ⟨fun h => by omega, fun _ _ => by omega, fun h => by omega⟩
    · rintro ⟨-, hmin, -⟩
      have hchars := hmin hsize hsize'
      refine ⟨_, rfl, prefix_summaryHead body, ?_, ?_⟩
      all_goals
        rw [length_append]
        omega
  · have hchars := length_le_byteLen a
    refine iff_of_true ⟨_, heq, prefix_summaryHead _, ?_, ?_⟩
      ⟨fun h => by omega, fun _ h => by omega, fun _ => ⟨a, b, hab, ha⟩⟩
    all_goals
      rw [length_append, length_ofList]
      omega
  · rw [heq]
    refine iff_of_false ?_ (fun h => hcut (h.2.2 hsize))
    rintro ⟨text, htext, -⟩
    cases htext

section Compact
variable {M : Type} (approxText : M → String)
def replyOf (messages : List M) (aux : Option AuxLlm) : Option String :=
  match middleEnd approxText messages, aux with
  | some tailStart, some aux => (aux summarySystemPrompt (middlePrompt approxText messages tailStart)).toOption
  | _, _ => none

variable (length : String → Nat)

/-- `compact` returns, and a summary is clamped and takes the place of messages that are there. -/
def Summarizes (messages : List M) (aux : Option AuxLlm) : Prop :=
  ∃ outcome, compact approxText messages aux = some outcome ∧
    ∀ text removedCount, outcome = .summarized text removedCount →
      Clamped length text ∧ 1 ≤ removedCount ∧ headProtectedCount + removedCount ≤ messages.length

lemma summarizes_iff (messages : List M) (aux : Option AuxLlm) : Summarizes approxText length messages aux ↔
    ∀ body ∈ replyOf approxText messages aux, ∃ text, clampSummary body = some text ∧ Clamped length text := by
  unfold Summarizes replyOf compact
  cases hmiddle : middleEnd approxText messages with
  | none => exact iff_of_true ⟨_, rfl, nofun⟩ nofun
  | some tailStart =>
    obtain ⟨-, hstart, hend⟩ := middleEnd_eq_some approxText hmiddle
    cases aux with
    | none => exact iff_of_true ⟨_, rfl, nofun⟩ nofun
    | some aux =>
      dsimp only
      cases aux summarySystemPrompt (middlePrompt approxText messages tailStart) with
      | error e => exact iff_of_true ⟨_, rfl, nofun⟩ nofun
      | ok body =>
        constructor
        · rintro ⟨outcome, houtcome, hsummary⟩ body' ⟨⟩
          obtain ⟨text, htext, rfl⟩ := Option.map_eq_some_iff.1 houtcome
          exact ⟨text, htext, (hsummary text _ rfl).1⟩
        · intro hreply
          obtain ⟨text, htext, hclamped⟩ := hreply body rfl
          refine ⟨_, Option.map_eq_some_iff.2 ⟨text, htext, rfl⟩, ?_⟩
          rintro text' removedCount ⟨⟩
          unfold headProtectedCount
          exact ⟨hclamped, by omega, by omega⟩

theorem compact_summary_iff (messages : List M) (aux : Option AuxLlm) :
    (Summarizes approxText String.utf8ByteSize messages aux ↔
      ∀ body ∈ replyOf approxText messages aux, FitReply body) ∧ (Summarizes approxText String.length messages aux ↔
      ∀ body ∈ replyOf approxText messages aux, FitReplyChars body) := by
  rw [summarizes_iff, summarizes_iff]
  exact ⟨forall₂_congr fun body _ => clampSummary_iff body, forall₂_congr fun body _ => clampSummary_chars_iff body⟩

end Compact

def fourLong : List String := List.replicate 4 (doubled 17)

def accented (n : Nat) : String := String.ofList ('a' :: List.replicate n 'é')

lemma fourLong_middleEnd : middleEnd id fourLong = some 4 := by
  have hlast : tailStart id fourLong.reverse 0 = 4 := by
    rw [fourLong, List.reverse_replicate, List.replicate_succ, tailStart, approxChars, id, doubled_size]
    decide
  unfold middleEnd
  rw [hlast]
  rfl

lemma byteLen_of_two_bytes {text} (h : ∀ c ∈ text, c = 'é') : byteLen text = 2 * text.length := by
  have hsize : 'é'.utf8Size = 2 := by decide
  induction text with
  | nil => rfl
  | cons c text ih =>
    obtain ⟨rfl, htext⟩ := List.forall_mem_cons.1 h
    rw [byteLen_cons, ih htext, hsize, List.length_cons]
    omega

lemma accented_not_boundary (n k : Nat) : ¬ Boundary (2 * k + 2) (accented n).toList := by
  rintro ⟨x, y, hxy, hlen⟩
  rw [accented, toList_ofList] at hxy
  cases x with
  | nil =>
    rw [byteLen_nil] at hlen
    omega
  | cons c x =>
    rw [List.cons_append] at hxy
    obtain ⟨rfl, htail⟩ := List.cons.inj hxy
    have hx : ∀ c ∈ x, c = 'é' := by
      intro c hc
      have hmem : c ∈ List.replicate n 'é' := by
        rw [htail]
        exact List.mem_append_left y hc
      exact List.eq_of_mem_replicate hmem
    have hsize : 'a'.utf8Size = 1 := by decide
    rw [byteLen_cons, byteLen_of_two_bytes hx, hsize] at hlen
    omega

lemma accented_size (n : Nat) : (accented n).utf8ByteSize = 2 * n + 1 := by
  have hsize : 'a'.utf8Size = 1 := by decide
  rw [accented, ByteText.utf8ByteSize_ofList, byteLen_cons, byteLen_of_two_bytes (fun c hc => List.eq_of_mem_replicate hc),
    List.length_replicate, hsize, Nat.add_comm]

lemma compact_of_middleEnd {M : Type} {approxText} {messages : List M} {tailStart body}
    (h : middleEnd approxText messages = some tailStart) : compact approxText messages (some fun _ _ => .ok body) =
      (clampSummary body).map fun text => .summarized text (tailStart - headProtectedCount) := by
  unfold compact
  rw [h]

/-- A reply with a character across byte 11,604 panics; a short one is padded to less than the minimum. -/
theorem compact_panics_or_short : compact id fourLong (some fun _ _ => .ok (accented 6000)) = none ∧
      ∃ text removedCount, compact id fourLong (some fun _ _ => .ok "ok") = some (.summarized text removedCount) ∧
        text.utf8ByteSize < minSummaryChars := by
  rw [compact_of_middleEnd fourLong_middleEnd, compact_of_middleEnd fourLong_middleEnd]
  constructor
  · rcases clampSummary_cases (accented 6000) with ⟨h, -⟩ | ⟨-, h, -⟩ | ⟨-, a, b, hab, ha, -⟩ | ⟨-, -, h⟩
    · rw [accented_size] at h
      omega
    · rw [accented_size] at h
      omega
    · exact absurd ⟨a, b, hab, ha⟩ (accented_not_boundary 6000 5801)
    · rw [h, Option.map_none]
  · have hok : "ok".utf8ByteSize = 2 := by decide
    rcases clampSummary_cases "ok" with ⟨-, hclamp⟩ | ⟨h, -⟩ | ⟨h, -⟩ | ⟨h, -⟩
    · refine ⟨summaryHead ++ "ok" ++ shortNote, 4 - headProtectedCount, ?_, ?_⟩
      · rw [hclamp, Option.map_some]
      · rw [utf8ByteSize_append, utf8ByteSize_append, summaryHead_size, hok, shortNote_size]
        decide
    all_goals
      rw [hok] at h
      omega

end ContextCompressor
end Roz.Agent
