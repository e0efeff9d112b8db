import Mathlib.Data.List.DropRight
import Mathlib.Data.List.Infix

/-!
# Text cut at byte offsets

A text is a list of characters, and offsets into it count bytes of its UTF-8 form.  A slice is
partial: it is taken only between two character boundaries that are in order and in range.

    slice (before ++ mid ++ after) (byteLen before) (byteLen before + byteLen mid) = some mid  (slice_append)
    find pat text = some pos ↔ pos is where pat first stands in text  (find_eq_some_iff)
-/

namespace ByteText
open List

abbrev Text := List Char

def byteLen : Text → Nat
  | [] => 0
  | c :: text => c.utf8Size + byteLen text

@[simp] lemma byteLen_nil : byteLen [] = 0 := rfl

@[simp] lemma byteLen_cons (c : Char) (text : Text) : byteLen (c :: text) = c.utf8Size + byteLen text := rfl

@[simp] lemma byteLen_append (a b : Text) : byteLen (a ++ b) = byteLen a + byteLen b := by
  induction a with
  | nil => simp
  | cons c a ih => rw [cons_append, byteLen_cons, byteLen_cons, ih, Nat.add_assoc]

lemma utf8ByteSize_ofList {text : Text} : (String.ofList text).utf8ByteSize = byteLen text := by
  induction text with
  | nil => rfl
  | cons c text ih => rw [String.ofList_cons, String.utf8ByteSize_append, String.utf8ByteSize_singleton, ih, byteLen_cons]

lemma utf8ByteSize_eq (s : String) : s.utf8ByteSize = byteLen s.toList := by
  rw [← utf8ByteSize_ofList, String.ofList_toList]

variable {pat text : Text} {c : Char} {before after : Text}
lemma byteLen_of_ascii (h : ∀ c ∈ text, c.val ≤ 127) : byteLen text = text.length := by
  induction text with
  | nil => rfl
  | cons c text ih =>
    obtain ⟨hc, htext⟩ := forall_mem_cons.1 h
    rw [byteLen_cons, Char.utf8Size_eq_one_iff.2 hc, ih htext, length_cons, Nat.add_comm]

/-! ## Slices -/

def cut : Nat → Text → Option (Text × Text)
  | 0, text => some ([], text)
  | _ + 1, [] => none
  | n + 1, c :: text =>
    if c.utf8Size ≤ n + 1 then (cut (n + 1 - c.utf8Size) text).map fun (a, b) => (c :: a, b) else none

def slice (text : Text) (start stop : Nat) : Option Text :=
  if start ≤ stop then
    (cut start text).bind fun parts => (cut (stop - start) parts.2).map Prod.fst
  else none

variable (a b : Text)
lemma cut_append : cut (byteLen a) (a ++ b) = some (a, b) := by
  induction a with
  | nil => simp [cut]
  | cons c a ih =>
    obtain ⟨n, hn⟩ := Nat.exists_eq_succ_of_ne_zero c.utf8Size_pos.ne'
    have hlen : byteLen (c :: a) = n + byteLen a + 1 := by
      rw [byteLen_cons, hn]
      omega
    rw [hlen, cons_append, cut, if_pos (by omega), show n + byteLen a + 1 - c.utf8Size = byteLen a by omega, ih]
    rfl

lemma slice_append (before mid after : Text) :
    slice (before ++ mid ++ after) (byteLen before) (byteLen before + byteLen mid) = some mid := by
  rw [slice, if_pos (Nat.le_add_right _ _), append_assoc, cut_append, Option.bind_some,
    Nat.add_sub_cancel_left, cut_append]
  rfl

lemma slice_to : slice (a ++ b) 0 (byteLen a) = some a := by simpa using slice_append [] a b

lemma slice_from : slice (a ++ b) (byteLen a) (byteLen (a ++ b)) = some b := by simpa using slice_append a b []

/-! ## The first and the last character -/

def wrapped (first last : Char) (text : Text) : Bool := text.head? == some first && text.getLast? == some last

variable {first last : Char}
lemma wrapped_iff : wrapped first last text = true ↔
    (text = [first] ∧ first = last) ∨ ∃ inner, text = first :: inner ++ [last] := by
  rw [wrapped, Bool.and_eq_true, beq_iff_eq, beq_iff_eq]
  constructor
  · rintro ⟨hfirst, hlast⟩
    obtain ⟨rest, rfl⟩ := head?_eq_some_iff.1 hfirst
    rcases rest.eq_nil_or_concat' with rfl | ⟨inner, c, rfl⟩
    · exact .inl ⟨rfl, by simpa using hlast⟩
    · rw [← cons_append, getLast?_concat] at hlast
      obtain rfl := Option.some.inj hlast
      exact .inr ⟨inner, rfl⟩
  · rintro (⟨rfl, rfl⟩ | ⟨inner, rfl⟩)
    · exact ⟨rfl, rfl⟩
    · exact ⟨rfl, getLast?_concat⟩

lemma slice_inner (hfirst : first.utf8Size = 1) (hlast : last.utf8Size = 1) (inner : Text) :
    slice (first :: inner ++ [last]) 1 (byteLen (first :: inner ++ [last]) - 1) = some inner := by
  have h := slice_append [first] inner [last]
  simpa [hfirst, hlast, ← Nat.add_assoc] using h

/-- The two ends of a text of one character are the same byte. -/
lemma slice_lone (hc : c.utf8Size = 1) : slice [c] 1 (byteLen [c] - 1) = none := by
  rw [byteLen_cons, hc]
  rfl

/-! ## Searching -/

def find (pat : Text) : Text → Option Nat
  | [] => if pat = [] then some 0 else none
  | c :: text => if pat <+: c :: text then some 0 else (find pat text).map (c.utf8Size + ·)

/-- The first occurrence of a pattern, with what stands around it. -/
structure FirstAt (pat text before after : Text) : Prop where
  eq : text = before ++ pat ++ after
  first : ∀ before' after', text = before' ++ pat ++ after' → before.length ≤ before'.length

lemma FirstAt.unique {a b a' b'} (h : FirstAt pat text a b) (h' : FirstAt pat text a' b') : a = a' ∧ b = b' := by
  have hlen : a.length = a'.length := le_antisymm (h.first a' b' h'.eq) (h'.first a b h.eq)
  have heq := h.eq.symm.trans h'.eq
  rw [append_assoc, append_assoc] at heq
  obtain ⟨rfl, hrest⟩ := append_inj heq hlen
  exact ⟨rfl, append_cancel_left hrest⟩

lemma FirstAt.cons {pat text before after c} (h : FirstAt pat text before after)
    (hnot : ¬ pat <+: c :: text) : FirstAt pat (c :: text) (c :: before) after where
  eq := by rw [h.eq, cons_append, cons_append]
  first := by
    intro before' after' heq
    cases before' with
    | nil => exact absurd ⟨after', heq.symm⟩ hnot
    | cons d before' =>
      obtain ⟨-, heq⟩ := List.cons.inj heq
      exact Nat.succ_le_succ (h.first before' after' heq)

lemma find_spec (pat text : Text) :
    (∃ before after, FirstAt pat text before after ∧ find pat text = some (byteLen before)) ∨
      (¬ pat <:+: text ∧ find pat text = none) := by
  induction text with
  | nil =>
    by_cases hpat : pat = []
    · subst hpat
      exact .inl ⟨[], [], ⟨rfl, fun _ _ _ => Nat.zero_le _⟩, rfl⟩
    · exact .inr ⟨fun h => hpat (infix_nil.1 h), if_neg hpat⟩
  | cons c text ih =>
    by_cases hpat : pat <+: c :: text
    · obtain ⟨after, hafter⟩ := hpat
      exact .inl ⟨[], after, ⟨hafter.symm, fun _ _ _ => Nat.zero_le _⟩, if_pos ⟨after, hafter⟩⟩
    · rw [find, if_neg hpat]
      rcases ih with ⟨before, after, hfirst, hfind⟩ | ⟨hnot, hfind⟩
      · refine .inl ⟨c :: before, after, hfirst.cons hpat, ?_⟩
        rw [hfind, Option.map_some, byteLen_cons]
      · refine .inr ⟨fun h => ?_, by rw [hfind, Option.map_none]⟩
        exact (infix_cons_iff.1 h).elim hpat hnot

lemma exists_firstAt (h : pat <:+: text) : ∃ before after, FirstAt pat text before after := by
  rcases find_spec pat text with ⟨before, after, hfirst, -⟩ | ⟨hnot, -⟩
  · exact ⟨before, after, hfirst⟩
  · exact absurd h hnot

lemma FirstAt.find_eq (h : FirstAt pat text before after) : find pat text = some (byteLen before) := by
  rcases find_spec pat text with ⟨before', after', h', hfind⟩ | ⟨hnot, -⟩
  · rw [hfind, (h.unique h').1]
  · exact absurd ⟨before, after, h.eq.symm⟩ hnot

lemma FirstAt.slice_before (h : FirstAt pat text before after) : slice text 0 (byteLen before) = some before := by
  rw [h.eq, append_assoc]
  exact slice_to before _

lemma FirstAt.slice_after (h : FirstAt pat text before after) :
    slice text (byteLen before + byteLen pat) (byteLen text) = some after := by
  rw [h.eq, ← byteLen_append]
  exact slice_from _ after

lemma firstAt_of_not_mem (h : c ∉ before) (pat after : Text) :
    FirstAt (c :: pat) (before ++ c :: pat ++ after) before after where
  eq := rfl
  first := by
    intro before' after' heq
    by_contra hlt
    -- a shorter text before it leaves its first character in `before`
    have hget := congrArg (·[before'.length]?) heq
    simp only [append_assoc] at hget
    rw [getElem?_append_left (by omega), getElem?_append_right (Nat.le_refl _), Nat.sub_self] at hget
    exact h (mem_of_getElem? hget)

lemma FirstAt.not_mem (h : FirstAt [c] text before after) : c ∉ before := by
  intro hmem
  obtain ⟨a, b, rfl⟩ := append_of_mem hmem
  have hlen := h.first a (b ++ [c] ++ after) (by rw [h.eq]; simp)
  rw [length_append, length_cons] at hlen
  omega

lemma append_cons_cases {x y a b : Text} (hc : c ∉ pat) (h : x ++ pat ++ y = a ++ c :: b) :
    (∃ y', a = x ++ pat ++ y' ∧ y = y' ++ c :: b) ∨ ∃ x', x = a ++ c :: x' ∧ b = x' ++ pat ++ y := by
  rw [append_assoc] at h
  rcases append_eq_append_iff.1 h with ⟨rest, rfl, hrest⟩ | ⟨rest, rfl, hrest⟩
  · -- it begins before `c`, so that it ends there: else `c` would be in it
    rcases append_eq_append_iff.1 hrest with ⟨rest', rfl, rfl⟩ | ⟨rest', rfl, hrest'⟩
    · exact .inl ⟨rest', by rw [append_assoc], rfl⟩
    · cases rest' with
      | nil => exact .inl ⟨[], by simp, by simpa using hrest'.symm⟩
      | cons d rest' =>
        obtain ⟨rfl, -⟩ := List.cons.inj hrest'
        exact absurd (mem_append_right rest (mem_cons_self ..)) hc
  · cases rest with
    | nil =>
      cases pat with
      | nil => exact .inl ⟨[], by simp, by simpa using hrest.symm⟩
      | cons d pat =>
        obtain ⟨rfl, -⟩ := List.cons.inj hrest
        exact absurd (mem_cons_self ..) hc
    | cons d rest =>
      obtain ⟨rfl, rfl⟩ := List.cons.inj hrest
      exact .inr ⟨rest, rfl, (append_assoc ..).symm⟩

lemma infix_append_cons_iff (hc : c ∉ pat) (a b : Text) : pat <:+: a ++ c :: b ↔ pat <:+: a ∨ pat <:+: b := by
  constructor
  · rintro ⟨before, after, heq⟩
    rcases append_cons_cases hc heq with ⟨y, rfl, -⟩ | ⟨x, -, rfl⟩
    · exact .inl ⟨before, y, rfl⟩
    · exact .inr ⟨x, after, rfl⟩
  · rintro (h | h)
    · exact h.trans (infix_append' [] a (c :: b))
    · exact h.trans ((suffix_cons c b).trans (suffix_append a (c :: b))).isInfix

lemma infix_append_left_iff {a : Text} (hpat : pat ≠ []) (ha : ∀ c ∈ a, c ∉ pat) (b : Text) :
    pat <:+: a ++ b ↔ pat <:+: b := by
  induction a with
  | nil => rfl
  | cons c a ih =>
    rw [forall_mem_cons] at ha
    rw [cons_append, ← nil_append (c :: (a ++ b)), infix_append_cons_iff ha.1, ih ha.2, infix_nil, or_iff_right hpat]

section Trim
variable {ws : Char → Bool}
def trim (ws : Char → Bool) (text : Text) : Text := (text.dropWhile ws).rdropWhile ws

/-- Neither end is white space. -/
def Trimmed (ws : Char → Bool) (text : Text) : Prop :=
  (∀ c ∈ text.head?, ws c = false) ∧ ∀ c ∈ text.getLast?, ws c = false

lemma trim_eq_self {text} (h : Trimmed ws text) : trim ws text = text := by
  have hdrop : text.dropWhile ws = text := by
    cases text with
    | nil => rfl
    | cons c text => exact dropWhile_cons_of_neg (by simpa using h.1 c rfl)
  rw [trim, hdrop, rdropWhile_eq_self_iff]
  intro hne
  simpa using h.2 _ (getLast?_eq_some_getLast hne)

lemma trim_append {spaces spaces'} (hs : ∀ c ∈ spaces, ws c = true) (hs' : ∀ c ∈ spaces', ws c = true)
    {body} (hbody : Trimmed ws body) : trim ws (spaces ++ body ++ spaces') = body := by
  have hleft : (spaces ++ body ++ spaces').dropWhile ws = (body ++ spaces').dropWhile ws := by
    rw [append_assoc, dropWhile_append_of_pos hs]
  cases body with
  | nil =>
    rw [trim, hleft, nil_append, dropWhile_eq_nil_iff.2 hs']
    rfl
  | cons c body =>
    have hstay : (c :: body ++ spaces').dropWhile ws = c :: body ++ spaces' :=
      dropWhile_cons_of_neg (by simpa using hbody.1 c rfl)
    rw [trim, hleft, hstay, List.rdropWhile, reverse_append,
      dropWhile_append_of_pos (by simpa using hs'), ← List.rdropWhile, rdropWhile_eq_self_iff]
    intro hne
    simpa using hbody.2 _ (getLast?_eq_some_getLast hne)

lemma trimmed_trim (text : Text) : Trimmed ws (trim ws text) := by
  constructor
  · intro c hc
    have hhead : (text.dropWhile ws).head? = some c := by
      obtain ⟨rest, hrest⟩ := rdropWhile_prefix ws (text.dropWhile ws)
      rw [← hrest, head?_append, ← trim, hc]
      rfl
    simpa [hhead] using head?_dropWhile_not ws text
  · intro c hc
    have hne : trim ws text ≠ [] := by
      intro hnil
      rw [hnil] at hc
      cases hc
    rw [getLast?_eq_some_getLast hne, Option.mem_some_iff] at hc
    rw [← hc]
    exact Bool.eq_false_iff.2 (rdropWhile_last_not ws (text.dropWhile ws) hne)

lemma trim_eq_nil_iff {text} : trim ws text = [] ↔ ∀ c ∈ text, ws c = true := by
  rw [trim, rdropWhile_eq_nil_iff]
  constructor
  · intro h c hc
    rw [← takeWhile_append_dropWhile (p := ws) (l := text)] at hc
    exact (mem_append.1 hc).elim mem_takeWhile_imp (h c)
  · intro h c hc
    exact h c ((dropWhile_suffix ws).subset hc)

/-- Only the front is trimmed if the last character stays. -/
lemma trim_concat {c} (hc : ws c = false) (text : Text) : trim ws (text ++ [c]) = text.dropWhile ws ++ [c] := by
  have hbody : Trimmed ws (text.dropWhile ws ++ [c]) := by
    constructor
    · intro d hd
      cases hdrop : text.dropWhile ws with
      | nil =>
        rw [hdrop] at hd
        obtain rfl : c = d := by simpa using hd
        exact hc
      | cons e rest =>
        rw [hdrop] at hd
        obtain rfl : e = d := by simpa using hd
        simpa [hdrop] using head?_dropWhile_not ws text
    · intro d hd
      rw [getLast?_concat, Option.mem_some_iff] at hd
      rwa [← hd]
  have hspaces : ∀ d ∈ text.takeWhile ws, ws d = true := fun d => mem_takeWhile_imp
  have h := trim_append hspaces (fun d (hd : d ∈ []) => nomatch hd) hbody
  rwa [append_nil, ← append_assoc, takeWhile_append_dropWhile] at h

lemma trim_trim (text : Text) : trim ws (trim ws text) = trim ws text := trim_eq_self (trimmed_trim text)

end Trim

section Returns
variable {α : Type} {P Q : α → Prop}

/-- The run does not panic, and it returns a value just if the value has the property. -/
def Returns (run : Option (Option α)) (P : α → Prop) : Prop := ∃ r, run = some r ∧ ∀ v, r = some v ↔ P v

lemma returns_none (h : ∀ v, ¬ P v) : Returns (some none) P :=
  ⟨none, rfl, fun v => ⟨(nomatch ·), fun hv => absurd hv (h v)⟩⟩

lemma returns_some {a : α} (ha : P a) (h : ∀ v, P v → v = a) : Returns (some (some a)) P := by
  refine ⟨some a, rfl, fun v => ?_⟩
  constructor
  · rintro ⟨⟩
    exact ha
  · intro hv
    rw [h v hv]

lemma Returns.congr {run} (hrun : Returns run P) (h : ∀ v, P v ↔ Q v) : Returns run Q := by
  obtain ⟨r, hr, hP⟩ := hrun
  exact ⟨r, hr, fun v => (hP v).trans (h v)⟩

lemma Returns.cases {run} (hrun : Returns run P) :
    (run = some none ∧ ∀ v, ¬ P v) ∨ ∃ a, run = some (some a) ∧ P a ∧ ∀ v, P v → v = a := by
  obtain ⟨r, hr, hP⟩ := hrun
  cases r with
  | none => exact .inl ⟨hr, fun v hv => nomatch (hP v).2 hv⟩
  | some a => exact .inr ⟨a, hr, (hP a).1 rfl, fun v hv => (Option.some.inj ((hP v).2 hv)).symm⟩

end Returns
end ByteText
