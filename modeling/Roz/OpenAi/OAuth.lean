import Mathlib.Data.List.Nodup
import Roz.Lib.Emitter

/-!
# Refreshing OAuth tokens (`roz-openai/src/auth/oauth.rs`)

Any number of `refresh_if_needed` calls share the credentials of one `OAuthAuth`.  The lock is held
while the credentials are read or written, not in between, so two calls may send the same refresh
token.  The server rotates refresh tokens: its `n`-th response has the tokens `n`, and only the
latest refresh token is good for another one.  What is stored is always from one response
(`Coherent`); that no token is sent twice takes calls that read it one at a time (`spent_once`).

`chrono` takes a threshold only up to a bound; one beyond it is `none`.
-/

namespace Roz.OpenAi.OAuth

structure TokenExchangeResponse where
  accessToken : Nat
  refreshToken : Option Nat
  expiresInSecs : Option Nat

structure OAuthCredentials where
  accessToken : Nat
  refreshToken : Nat
  expiresAt : Int

def computeExpiresAt (now : Int) (expiresIn : Option Nat) : Int := now + (expiresIn.getD 3600 : Nat)

def OAuthCredentials.store (c : OAuthCredentials) (r : TokenExchangeResponse) (now : Int) : OAuthCredentials :=
  ⟨r.accessToken, r.refreshToken.getD c.refreshToken, computeExpiresAt now r.expiresInSecs⟩

inductive RefreshCall where
  | notStarted
  | started (now : Int)
  | needsRefresh
  | holding (refreshToken : Nat)
  | answered (response : TokenExchangeResponse)
  | returned (ok : Bool)

namespace RefreshCall

def Ended : RefreshCall → Prop
  | .notStarted => True
  | .returned _ => True
  | _ => False

/-- Between reading the refresh token and storing what it was exchanged for. -/
def Exchanging : RefreshCall → Prop
  | .holding _ => True
  | .answered _ => True
  | _ => False

end RefreshCall

/-- The credentials, how many responses the server has given, and the calls. -/
structure Clients where
  creds : OAuthCredentials
  issued : Nat
  calls : Nat → RefreshCall

/-- The call that moves on, the clock, and what the server says of the lifetime. -/
structure Move where
  call : Nat
  now : Int
  expiresIn : Option Nat

namespace Clients

def new (expiresAt : Int) : Clients := ⟨⟨0, 0, expiresAt⟩, 0, fun _ => .notStarted⟩

variable (s : Clients)
def set (i : Nat) (c : RefreshCall) : Clients := { s with calls := Function.update s.calls i c }

def step (threshold : Option Int) (s : Clients) (m : Move) : Clients × List Nat :=
  match s.calls m.call with
  | .notStarted => (s.set m.call (.started m.now), [])
  | .started now =>
    match threshold with
    | none => (s.set m.call (.returned false), [])
    | some t => (s.set m.call (if s.creds.expiresAt ≤ now + t then .needsRefresh else .returned true), [])
  | .needsRefresh => (s.set m.call (.holding s.creds.refreshToken), [])
  | .holding token =>
    if token = s.issued then
      ({ s with issued := s.issued + 1 }.set m.call
        (.answered ⟨s.issued + 1, some (s.issued + 1), m.expiresIn⟩), [token])
    else (s.set m.call (.returned false), [token])
  | .answered r => ({ s with creds := s.creds.store r m.now }.set m.call (.returned true), [])
  | .returned _ => (s, [])

/-- A call reads the refresh token only when no other one is exchanging it. -/
def OneAtATime (m : Move) : Prop :=
  s.calls m.call = .needsRefresh → ∀ i, ¬ (s.calls i).Exchanging

def Latest : Prop := s.creds.accessToken = s.issued ∧ s.creds.refreshToken = s.issued

/-- The tokens are of one response, which is the latest unless a call is about to store that one. -/
structure Coherent (s : Clients) : Prop where
  same : s.creds.accessToken = s.creds.refreshToken
  held : ∀ i token, s.calls i = .holding token → token ≤ s.creds.refreshToken
  pending : (s.creds.refreshToken = s.issued ∧ ∀ i r, s.calls i ≠ .answered r) ∨
    (s.creds.refreshToken < s.issued ∧ ∃ i expiresIn, s.calls i = .answered ⟨s.issued, some s.issued, expiresIn⟩ ∧
      ∀ j r, s.calls j = .answered r → j = i)

variable {s : Clients} {i : Nat} {c : RefreshCall}
lemma calls_set (j : Nat) : (s.set i c).calls j = if j = i then c else s.calls j := Function.update_apply ..

lemma Coherent.set (h : s.Coherent) (hfrom : ∀ r, s.calls i ≠ .answered r) (hto : ∀ r, c ≠ .answered r)
    (hheld : ∀ token, c = .holding token → token ≤ s.creds.refreshToken) : (s.set i c).Coherent := by
  obtain ⟨hsame, hheld', hpending⟩ := h
  refine ⟨hsame, ?_, ?_⟩
  · grind [calls_set, Clients.set]
  · rcases hpending with ⟨hlatest, hnone⟩ | ⟨hlt, j, e, hj, honly⟩
    · exact .inl ⟨hlatest, by grind [calls_set]⟩
    · exact .inr ⟨hlt, j, e, by grind [calls_set, Clients.set], by grind [calls_set]⟩

lemma coherent_step {threshold} (m : Move) (h : s.Coherent) : (s.step threshold m).1.Coherent := by
  unfold step
  cases hcall : s.calls m.call with
  | notStarted => exact h.set (by simp [hcall]) nofun nofun
  | started now =>
    cases threshold with
    | none => exact h.set (by simp [hcall]) nofun nofun
    | some t =>
      dsimp only
      split <;> exact h.set (by simp [hcall]) nofun nofun
  | needsRefresh =>
    refine h.set (by simp [hcall]) nofun ?_
    rintro token ⟨⟩
    exact Nat.le_refl _
  | holding token =>
    dsimp only
    split
    · have hle := h.held _ _ hcall
      rcases h.pending with ⟨hstored, hnone⟩ | ⟨hlt, -⟩
      · refine ⟨h.same, ?_, .inr ⟨Nat.lt_succ_of_le (Nat.le_of_eq hstored), m.call, m.expiresIn, ?_, ?_⟩⟩
        · have hheld := h.held
          grind [calls_set, Clients.set]
        · exact (calls_set _).trans (if_pos rfl)
        · grind [calls_set]
      · omega
    · exact h.set (by simp [hcall]) nofun nofun
  | answered r =>
    rcases h.pending with ⟨-, hnone⟩ | ⟨hlt, j, e, hj, honly⟩
    · exact absurd hcall (hnone _ _)
    · -- the only answer there is, is stored
      obtain rfl := honly _ _ hcall
      cases hj.symm.trans hcall
      refine ⟨rfl, fun k t hk => ?_, .inl ⟨rfl, by grind [calls_set]⟩⟩
      have hle : t ≤ s.creds.refreshToken := h.held k t (by grind [calls_set])
      exact Nat.le_trans hle (Nat.le_of_lt hlt)
  | returned ok => exact h

lemma coherent_run (threshold : Option Int) (moves : List Move) :
    ∀ s, Coherent s → (Emitter.run (step threshold) s moves).1.Coherent := by
  induction moves with
  | nil => exact fun s h => h
  | cons m moves ih => exact fun s h => ih _ (coherent_step m h)

structure Sole (s : Clients) (sent : List Nat) : Prop where
  sole : ∀ i j, (s.calls i).Exchanging → (s.calls j).Exchanging → i = j
  fresh : ∀ i token, s.calls i = .holding token → token = s.issued
  nodup : sent.Nodup
  spent : ∀ token ∈ sent, token < s.issued
  succeeds : ∀ i, s.calls i ≠ .returned false

variable {sent : List Nat}
lemma Sole.set (h : s.Sole sent) (hsole : c.Exchanging → ∀ j, (s.calls j).Exchanging → j = i)
    (hfresh : ∀ token, c = .holding token → token = s.issued) (hok : c ≠ .returned false) : (s.set i c).Sole sent := by
  obtain ⟨hsole', hfresh', hnodup, hspent, hsucceeds⟩ := h
  refine ⟨?_, ?_, hnodup, hspent, ?_⟩ <;> grind [calls_set, Clients.set]

lemma Sole.send (h : s.Sole sent) (hcall : s.calls i = .holding s.issued) (r : TokenExchangeResponse) :
    ({ s with issued := s.issued + 1 }.set i (.answered r)).Sole (sent ++ [s.issued]) := by
  have hmine (j : Nat) (hj : (s.calls j).Exchanging) : j = i := by
    refine h.sole j i hj ?_
    rw [hcall]
    trivial
  obtain ⟨-, hfresh, hnodup, hspent, hsucceeds⟩ := h
  refine ⟨?_, ?_, ?_, ?_, ?_⟩
  · grind [calls_set]
  · grind [calls_set, RefreshCall.Exchanging]
  · grind
  · grind [Clients.set]
  · grind [calls_set]

lemma sole_step {threshold} (m : Move) (hcoherent : s.Coherent) (h : s.Sole sent) (hone : s.OneAtATime m) :
    (s.step (some threshold) m).1.Sole (sent ++ (s.step (some threshold) m).2) := by
  unfold OneAtATime at hone
  unfold step
  cases hcall : s.calls m.call with
  | notStarted =>
    rw [List.append_nil]
    exact h.set nofun nofun nofun
  | started now =>
    rw [List.append_nil]
    dsimp only
    split <;> exact h.set nofun nofun nofun
  | needsRefresh =>
    have hnone := hone hcall
    rw [List.append_nil]
    refine h.set (fun _ j hj => absurd hj (hnone j)) ?_ nofun
    rintro token ⟨⟩
    rcases hcoherent.pending with ⟨hlatest, -⟩ | ⟨-, j, e, hj, -⟩
    · exact hlatest
    · refine absurd ?_ (hnone j)
      rw [hj]
      trivial
  | holding token =>
    obtain rfl := h.fresh _ _ hcall
    dsimp only
    rw [if_pos rfl]
    exact h.send hcall _
  | answered r =>
    rw [List.append_nil]
    have hstored : { s with creds := s.creds.store r m.now }.Sole sent :=
      ⟨h.sole, h.fresh, h.nodup, h.spent, h.succeeds⟩
    exact hstored.set nofun nofun nofun
  | returned ok =>
    rw [List.append_nil]
    exact h

end Clients
open Clients

/-- Whatever the interleaving, what is stored when the calls have ended is from the latest response.
If they read the refresh token one at a time, none is sent twice and no call fails. -/
theorem spent_once (threshold : Option Int) (expiresAt : Int) (moves : List Move) :
    ((∀ i, ((Emitter.run (step threshold) (.new expiresAt) moves).1.calls i).Ended) →
      (Emitter.run (step threshold) (.new expiresAt) moves).1.Latest) ∧
    (threshold.isSome → Emitter.EachStep (step threshold) OneAtATime (.new expiresAt) moves →
      (Emitter.run (step threshold) (.new expiresAt) moves).2.Nodup ∧
      ∀ i, (Emitter.run (step threshold) (.new expiresAt) moves).1.calls i ≠ .returned false) := by
  have hnew : (Clients.new expiresAt).Coherent := ⟨rfl, nofun, .inl ⟨rfl, nofun⟩⟩
  constructor
  · intro hended
    have hcoherent := coherent_run threshold moves _ hnew
    rcases hcoherent.pending with ⟨hlatest, -⟩ | ⟨-, i, e, hi, -⟩
    · exact ⟨hcoherent.same.trans hlatest, hlatest⟩
    · have := hended i
      rw [hi] at this
      exact this.elim
  · intro hthreshold hone
    obtain ⟨t, rfl⟩ := Option.isSome_iff_exists.1 hthreshold
    have hstart : (Clients.new expiresAt).Coherent ∧ (Clients.new expiresAt).Sole [] :=
      ⟨hnew, nofun, nofun, .nil, nofun, nofun⟩
    obtain ⟨-, hsole⟩ := Emitter.EachStep.invariant (I := fun s sent => s.Coherent ∧ s.Sole sent)
      (fun s sent m h hok => ⟨coherent_step m h.1, sole_step m h.1 h.2 hok⟩) hone hstart
    exact ⟨hsole.nodup, hsole.succeeds⟩

def refreshing (i : Nat) : List Move := List.replicate 5 ⟨i, 0, none⟩

theorem spent_once_sequential : (Emitter.run (step (some 300)) (.new 0) (refreshing 0 ++ refreshing 1)).2.Nodup :=
  ((spent_once (some 300) 0 (refreshing 0 ++ refreshing 1)).2 rfl
    ⟨nofun, nofun, fun _ i => match i with | 0 => id | _ + 1 => id, nofun, nofun,
      nofun, nofun, fun _ i => match i with | 0 => id | 1 => id | _ + 2 => id, nofun, nofun, trivial⟩).1

theorem not_spent_once : ¬ (Emitter.run (step (some 300)) (.new 0)
        ((refreshing 0).take 3 ++ (refreshing 1).take 3 ++ [⟨0, 0, none⟩, ⟨1, 0, none⟩])).2.Nodup ∧
      (Emitter.run (step (some 300)) (.new 0)
        ((refreshing 0).take 3 ++ (refreshing 1).take 3 ++ [⟨0, 0, none⟩, ⟨1, 0, none⟩])).1.calls 1 = .returned false := by
  refine ⟨by decide, rfl⟩

end Roz.OpenAi.OAuth
