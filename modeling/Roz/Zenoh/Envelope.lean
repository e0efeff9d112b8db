import Roz.Lib.Run
import Mathlib.Data.List.AList

/-!
# The peer key cache and signed envelopes (`roz-zenoh/src/envelope.rs`)

Hex, Ed25519 and JSON are parameters (`Codecs`).  A run of announcements and evictions also
records what each robot announced, ever and since its last eviction.

The cache maps a robot to the key it announced last, and only that key is evicted with it.  An
older key of the robot stays behind, and a key that another robot announced too is lost to it
(`loses_trust_run_iff`).
-/

namespace Roz.Zenoh
open StepRun AList List

structure SignedSessionEnvelope where
  signerPubkeyHex : String
  envelopeBytes : List UInt8
  signatureHex : String
  deriving DecidableEq

structure PeerAnnouncement where
  robotId : String
  deviceId : String
  verifyingKeyHex : String
  announcedAt : Int
  deriving DecidableEq

/-- `hex::decode`, `VerifyingKey::from_bytes`, `VerifyingKey::verify` and `serde_json::from_slice`. -/
structure Codecs (Key Event : Type) where
  hexDecode : String → Except String (List UInt8)
  keyFromBytes : List UInt8 → Except String Key
  verify : Key → (message signature : List UInt8) → Except String Unit
  fromSlice : List UInt8 → Except String Event

structure PeerKeyCache (Key : Type) where
  inner : AList fun _ : String => Key
  robotToHex : AList fun _ : String => String
  verifier : PeerAnnouncement → Except String Unit

open PeerKeyCache
section Cache
variable {Key Event : Type} (c : Codecs Key Event)
def parsePubkey (hex : String) : Except String Key :=
  match c.hexDecode hex with
  | .error e => .error ("pubkey hex decode: " ++ e)
  | .ok bytes =>
    if bytes.length = 32 then
      match c.keyFromBytes bytes with
      | .error e => .error ("pubkey parse: " ++ e)
      | .ok key => .ok key
    else .error "pubkey must be 32 bytes"

namespace PeerKeyCache

def newWithVerifier (verifier : PeerAnnouncement → Except String Unit) : PeerKeyCache Key := ⟨∅, ∅, verifier⟩

variable (cache : PeerKeyCache Key)
def insertFromAnnouncement (announcement : PeerAnnouncement) : Except String (PeerKeyCache Key) :=
  match cache.verifier announcement with
  | .error e => .error e
  | .ok () =>
    match parsePubkey c announcement.verifyingKeyHex with
    | .error e => .error e
    | .ok key =>
      .ok { cache with
        inner := cache.inner.insert announcement.verifyingKeyHex key
        robotToHex := cache.robotToHex.insert announcement.robotId announcement.verifyingKeyHex }

def insert (pubkeyHex : String) (key : Key) : PeerKeyCache Key :=
  { cache with inner := cache.inner.insert pubkeyHex key }

def get (pubkeyHex : String) : Option Key := cache.inner.lookup pubkeyHex

def evictByRobotId (robotId : String) : Option Key × PeerKeyCache Key :=
  match cache.robotToHex.lookup robotId with
  | none => (none, cache)
  | some hex =>
    (cache.inner.lookup hex,
      { cache with inner := cache.inner.erase hex, robotToHex := cache.robotToHex.erase robotId })

end PeerKeyCache

def verifyEnvelope (cache : PeerKeyCache Key) (signed : SignedSessionEnvelope) : Except String Event :=
  match cache.get signed.signerPubkeyHex with
  | none => .error ("unknown peer pubkey " ++ signed.signerPubkeyHex)
  | some key =>
    match c.hexDecode signed.signatureHex with
    | .error e => .error ("signature hex decode failed: " ++ e)
    | .ok signature =>
      if signature.length = 64 then
        match c.verify key signed.envelopeBytes signature with
        | .error e => .error ("signature verification failed: " ++ e)
        | .ok () =>
          match c.fromSlice signed.envelopeBytes with
          | .error e => .error ("envelope JSON decode failed: " ++ e)
          | .ok event => .ok event
      else .error "signature hex must decode to 64 bytes"

/-! ## Runs -/

inductive CacheOp where
  | insertFromAnnouncement (announcement : PeerAnnouncement)
  | evictByRobotId (robotId : String)
  deriving DecidableEq

/-- The cache, with the accepted announcements as pairs of robot and key, newest first. -/
structure Traced (Key : Type) where
  cache : PeerKeyCache Key
  announced : List (String × String)
  -- those made since the robot's last eviction
  since : List (String × String)

namespace Traced
variable (verifier : PeerAnnouncement → Except String Unit)
def init : Traced Key := ⟨.newWithVerifier verifier, [], []⟩

variable (s : Traced Key)
def step : CacheOp → Traced Key
  | .insertFromAnnouncement a =>
    match s.cache.insertFromAnnouncement c a with
    | .error _ => s
    | .ok cache =>
      ⟨cache, (a.robotId, a.verifyingKeyHex) :: s.announced, (a.robotId, a.verifyingKeyHex) :: s.since⟩
  | .evictByRobotId r => ⟨(s.cache.evictByRobotId r).2, s.announced, s.since.filter (fun p => decide (p.1 ≠ r))⟩

def latest (r : String) : Option String :=
  (s.since.find? (fun p => decide (p.1 = r))).map Prod.snd

/-- Of the keys that `r` announced since its last eviction, exactly the last one is not also
announced by another robot. -/
def LatestAlone (r : String) : Prop :=
  ∀ hex, (r, hex) ∈ s.since → (s.latest r = some hex ↔ ∀ other, other ≠ r → (other, hex) ∉ s.since)

def Genuine (signed : SignedSessionEnvelope) (event : Event) : Prop :=
  ∃ key signature, parsePubkey c signed.signerPubkeyHex = .ok key ∧ c.hexDecode signed.signatureHex = .ok signature ∧
    signature.length = 64 ∧ c.verify key signed.envelopeBytes signature = .ok () ∧
    c.fromSlice signed.envelopeBytes = .ok event

structure LosesTrust (s : Traced Key) (r : String) : Prop where
  removed : ∀ hex, (r, hex) ∈ s.announced → (∀ other, other ≠ r → (other, hex) ∉ s.since) → hex ∉ s.cache.inner
  kept : ∀ other hex, other ≠ r → (other, hex) ∈ s.since → hex ∈ s.cache.inner
  -- under whatever hex the key is given
  rejected : ∀ hex key, (r, hex) ∈ s.announced → parsePubkey c hex = .ok key →
    (∀ other hex', other ≠ r → (other, hex') ∈ s.since → parsePubkey c hex' ≠ .ok key) →
    ∀ signed, parsePubkey c signed.signerPubkeyHex = .ok key →
      verifyEnvelope c s.cache signed = .error ("unknown peer pubkey " ++ signed.signerPubkeyHex)
  accepted : ∀ other hex, other ≠ r → (other, hex) ∈ s.since →
    ∀ signed event, signed.signerPubkeyHex = hex → Genuine c signed event → verifyEnvelope c s.cache signed = .ok event

/-! ## One operation -/

structure Held (s : Traced Key) : Prop where
  held : ∀ hex, hex ∈ s.cache.inner ↔ ∃ r, (r, hex) ∈ s.since
  parsed : ∀ hex key, s.cache.inner.lookup hex = some key → parsePubkey c hex = .ok key
  last : ∀ r, s.cache.robotToHex.lookup r = s.latest r
  known : ∀ p ∈ s.since, p ∈ s.announced

lemma held_init : (init verifier : Traced Key).Held c where
  held := by simp [init, newWithVerifier]
  parsed := by simp [init, newWithVerifier]
  last := by simp [init, newWithVerifier, latest]
  known := by simp [init]

variable {c} {cache : PeerKeyCache Key} {s : Traced Key}
lemma insertFromAnnouncement_ok {cache' a}
    (h : cache.insertFromAnnouncement c a = .ok cache') : ∃ key, parsePubkey c a.verifyingKeyHex = .ok key ∧
      cache' = { cache with
        inner := cache.inner.insert a.verifyingKeyHex key
        robotToHex := cache.robotToHex.insert a.robotId a.verifyingKeyHex } := by
  unfold insertFromAnnouncement at h
  cases hv : cache.verifier a with
  | error e =>
    rw [hv] at h
    cases h
  | ok u =>
    rw [hv] at h
    cases hp : parsePubkey c a.verifyingKeyHex with
    | error e =>
      simp only [hp] at h
      cases h
    | ok key =>
      simp only [hp, Except.ok.injEq] at h
      exact ⟨key, rfl, h.symm⟩

lemma Held.insertFromAnnouncement {s : Traced Key} (hs : s.Held c) (a : PeerAnnouncement) :
    (s.step c (.insertFromAnnouncement a)).Held c := by
  cases h : s.cache.insertFromAnnouncement c a with
  | error e =>
    simp only [step, h]
    exact hs
  | ok cache =>
    simp only [step, h]
    obtain ⟨key, hkey, rfl⟩ := insertFromAnnouncement_ok h
    refine ⟨fun hex => ?_, fun hex k hk => ?_, fun r => ?_, fun p hp => ?_⟩
    · simp only [mem_insert, mem_cons, Prod.mk.injEq, hs.held hex]
      constructor
      · rintro (rfl | ⟨r, hr⟩)
        · exact ⟨a.robotId, .inl ⟨rfl, rfl⟩⟩
        · exact ⟨r, .inr hr⟩
      · rintro ⟨r, ⟨-, rfl⟩ | hr⟩
        · exact .inl rfl
        · exact .inr ⟨r, hr⟩
    · by_cases he : hex = a.verifyingKeyHex
      · subst he
        simp only [lookup_insert, Option.some.injEq] at hk
        exact hk ▸ hkey
      · simp only [lookup_insert_ne he] at hk
        exact hs.parsed hex k hk
    · by_cases hr : r = a.robotId
      · subst hr
        simp [latest]
      · have hne : ¬ a.robotId = r := fun h => hr h.symm
        simpa [latest, lookup_insert_ne hr, hne] using hs.last r
    · rcases mem_cons.1 hp with rfl | hp
      · exact .head _
      · exact .tail _ (hs.known p hp)

lemma latest_evict (s : Traced Key) (r other : String) :
    (s.step c (.evictByRobotId r)).latest other = if other = r then none else s.latest other := by
  simp only [latest, step, find?_filter]
  by_cases ho : other = r
  · subst ho
    rw [if_pos rfl, Option.map_eq_none_iff, find?_eq_none]
    simp
  · rw [if_neg ho]
    congr 2
    funext p
    by_cases hp : p.1 = other
    · simp [hp, ho]
    · simp [hp]

lemma mem_since_evict (s : Traced Key) (r other hex : String) :
    (other, hex) ∈ (s.step c (.evictByRobotId r)).since ↔ (other, hex) ∈ s.since ∧ other ≠ r := by
  simp [step, mem_filter]

lemma mem_since_of_latest {r hex} (h : s.latest r = some hex) : (r, hex) ∈ s.since := by
  obtain ⟨⟨robot, key⟩, hfind, rfl⟩ := Option.map_eq_some_iff.1 h
  have hrobot := find?_some hfind
  obtain rfl : robot = r := by simpa using hrobot
  exact mem_of_find?_eq_some hfind

lemma Held.maps_evict (hs : s.Held c) (r : String) :
    (∀ hex, hex ∈ (s.step c (.evictByRobotId r)).cache.inner ↔ hex ∈ s.cache.inner ∧ s.latest r ≠ some hex) ∧
    (∀ hex key, (s.step c (.evictByRobotId r)).cache.inner.lookup hex = some key → s.cache.inner.lookup hex = some key) ∧
    ∀ other, (s.step c (.evictByRobotId r)).cache.robotToHex.lookup other =
      if other = r then none else s.cache.robotToHex.lookup other := by
  have hlast := hs.last r
  simp only [step, evictByRobotId]
  cases hl : s.cache.robotToHex.lookup r with
  | none =>
    rw [hl] at hlast
    refine ⟨fun hex => ?_, fun hex key h => h, fun other => ?_⟩
    · simp [← hlast]
    · by_cases ho : other = r
      · subst ho
        simp [hl]
      · simp [ho]
  | some last =>
    rw [hl] at hlast
    refine ⟨fun hex => ?_, fun hex key h => ?_, fun other => ?_⟩
    · simp only [mem_erase, ← hlast, ne_eq, Option.some.injEq]
      exact ⟨fun ⟨h, hm⟩ => ⟨hm, fun he => h he.symm⟩, fun ⟨hm, h⟩ => ⟨fun he => h he.symm, hm⟩⟩
    · by_cases he : hex = last
      · subst he
        simp at h
      · simpa [lookup_erase_ne he] using h
    · by_cases ho : other = r
      · subst ho
        simp
      · simp [ho, lookup_erase_ne ho]

lemma Held.evict_iff (hs : s.Held c) (r : String) : (s.step c (.evictByRobotId r)).Held c ↔ s.LatestAlone r := by
  obtain ⟨hinner, hlookup, hrobots⟩ := hs.maps_evict r
  constructor
  · intro h hex hr
    constructor
    · intro hlast other ho hother
      have hmem := (h.held hex).2 ⟨other, (mem_since_evict s r other hex).2 ⟨hother, ho⟩⟩
      exact ((hinner hex).1 hmem).2 hlast
    · intro halone
      by_contra hlast
      have hmem := (hinner hex).2 ⟨(hs.held hex).2 ⟨r, hr⟩, hlast⟩
      obtain ⟨other, hother⟩ := (h.held hex).1 hmem
      obtain ⟨hother, ho⟩ := (mem_since_evict s r other hex).1 hother
      exact halone other ho hother
  · intro h
    refine ⟨fun hex => ?_, fun hex key hk => hs.parsed hex key (hlookup hex key hk), fun other => ?_, fun p hp => ?_⟩
    · rw [hinner hex, hs.held hex]
      simp only [mem_since_evict]
      constructor
      · rintro ⟨⟨other, hother⟩, hlast⟩
        by_cases ho : other = r
        · -- an older key of `r`, so another robot announced it too
          subst ho
          by_contra hnone
          refine hlast ((h hex hother).2 fun other' ho' hother' => hnone ⟨other', hother', ho'⟩)
        · exact ⟨other, hother, ho⟩
      · rintro ⟨other, hother, ho⟩
        refine ⟨⟨other, hother⟩, fun hlast => ?_⟩
        exact (h hex (mem_since_of_latest hlast)).1 hlast other ho hother
    · rw [hrobots other, latest_evict, hs.last other]
    · exact hs.known p (mem_of_mem_filter hp)

/-! ## What an exact cache accepts -/

variable {signed : SignedSessionEnvelope}
lemma verifyEnvelope_unknown (h : signed.signerPubkeyHex ∉ cache.inner) :
    verifyEnvelope c cache signed = .error ("unknown peer pubkey " ++ signed.signerPubkeyHex) := by
  have hget : cache.get signed.signerPubkeyHex = none := lookup_eq_none.2 h
  simp only [verifyEnvelope, hget]

lemma verifyEnvelope_genuine {event key}
    (hget : cache.get signed.signerPubkeyHex = some key) (hparse : parsePubkey c signed.signerPubkeyHex = .ok key)
    (h : Genuine c signed event) : verifyEnvelope c cache signed = .ok event := by
  obtain ⟨key', signature, hkey, hsig, hlen, hverify, hevent⟩ := h
  obtain rfl : key = key' := Except.ok.inj (hparse.symm.trans hkey)
  simp only [verifyEnvelope, hget, hsig, hlen, if_true, hverify, hevent]

lemma Held.losesTrust (hs : s.Held c) (r : String) (hr : ∀ hex, (r, hex) ∉ s.since) : s.LosesTrust c r where
  removed := by
    intro hex _ hnone hmem
    obtain ⟨other, hother⟩ := (hs.held hex).1 hmem
    by_cases ho : other = r
    · exact hr hex (ho ▸ hother)
    · exact hnone other ho hother
  kept := fun other hex _ hother => (hs.held hex).2 ⟨other, hother⟩
  rejected := by
    intro hex key _ _ hnone signed hsigned
    refine verifyEnvelope_unknown fun hmem => ?_
    obtain ⟨other, hother⟩ := (hs.held signed.signerPubkeyHex).1 hmem
    by_cases ho : other = r
    · exact hr _ (ho ▸ hother)
    · exact hnone other _ ho hother hsigned
  accepted := by
    intro other hex _ hother signed event hsigner hgenuine
    subst hsigner
    have hmem := (hs.held _).2 ⟨other, hother⟩
    obtain ⟨key, hkey⟩ := Option.isSome_iff_exists.1 (lookup_isSome.2 hmem)
    exact verifyEnvelope_genuine hkey (hs.parsed _ key hkey) hgenuine

lemma Held.losesTrust_iff (hs : s.Held c) (r : String) :
    (s.step c (.evictByRobotId r)).LosesTrust c r ↔ s.LatestAlone r := by
  obtain ⟨hinner, -, -⟩ := hs.maps_evict r
  constructor
  · intro h hex hr
    constructor
    · intro hlast other ho hother
      have hmem := h.kept other hex ho ((mem_since_evict s r other hex).2 ⟨hother, ho⟩)
      exact ((hinner hex).1 hmem).2 hlast
    · intro halone
      by_contra hlast
      refine h.removed hex (hs.known _ hr) (fun other ho hother => ?_) ?_
      · exact halone other ho ((mem_since_evict s r other hex).1 hother).1
      · exact (hinner hex).2 ⟨(hs.held hex).2 ⟨r, hr⟩, hlast⟩
  · intro h
    refine ((hs.evict_iff r).2 h).losesTrust r fun hex hr => ?_
    exact ((mem_since_evict s r r hex).1 hr).2 rfl

/-! ## Every run -/

def AtEviction (ok : Traced Key → String → Prop) (s : Traced Key) : CacheOp → Prop
  | .insertFromAnnouncement _ => True
  | .evictByRobotId r => ok s r

lemma Held.step {s : Traced Key} (hs : s.Held c) (op : CacheOp) (hop : AtEviction LatestAlone s op) :
    (s.step c op).Held c := by
  cases op with
  | insertFromAnnouncement a => exact hs.insertFromAnnouncement a
  | evictByRobotId r => exact (hs.evict_iff r).2 hop

lemma Held.atEviction_iff (hs : s.Held c) (op : CacheOp) :
    AtEviction (fun s r => (s.step c (.evictByRobotId r)).LosesTrust c r) s op ↔ AtEviction LatestAlone s op := by
  cases op with
  | insertFromAnnouncement a => exact Iff.rfl
  | evictByRobotId r => exact hs.losesTrust_iff r

/-- The keys in the cache are the node's own and those that were announced. -/
def Announced (c : Codecs Key Event) (own : String) (s : Traced Key) : Prop :=
  ∀ hex key, s.cache.inner.lookup hex = some key → parsePubkey c hex = .ok key ∧ hex ∈ own :: s.announced.map Prod.snd

variable {own : String} {key : Key}
lemma Announced.step (h : s.Announced c own) (op : CacheOp) : (s.step c op).Announced c own := by
  intro hex key hkey
  cases op with
  | insertFromAnnouncement a =>
    cases ha : s.cache.insertFromAnnouncement c a with
    | error e =>
      simp only [Traced.step, ha] at hkey ⊢
      exact h hex key hkey
    | ok cache =>
      obtain ⟨new, hnew, rfl⟩ := insertFromAnnouncement_ok ha
      simp only [Traced.step, ha] at hkey ⊢
      by_cases he : hex = a.verifyingKeyHex
      · subst he
        cases (lookup_insert _).symm.trans hkey
        exact ⟨hnew, by simp⟩
      · rw [lookup_insert_ne he] at hkey
        exact ⟨(h hex key hkey).1, by grind [h hex key hkey]⟩
  | evictByRobotId r =>
    refine h hex key ?_
    simp only [Traced.step, evictByRobotId] at hkey
    grind [lookup_erase, lookup_erase_ne]

lemma Announced.run (h : s.Announced c own) (ops : List CacheOp) : (ops.foldl (Traced.step c) s).Announced c own :=
  foldlRecOn ops _ h fun _ hs op _ => hs.step op

lemma Announced.insert (h : s.Announced c own) (hown : parsePubkey c own = .ok key) :
    Announced c own { s with cache := s.cache.insert own key } := by
  intro hex k hk
  by_cases he : hex = own
  · subst he
    cases (lookup_insert _).symm.trans hk
    exact ⟨hown, .head _⟩
  · exact h hex k ((lookup_insert_ne he).symm.trans hk)

/-- The node inserts its own key while peers announce theirs (`ZenohSessionTransport::open`). -/
def opened (c : Codecs Key Event) (own : String) (key : Key) (before after : List CacheOp) : Traced Key :=
  let s := before.foldl (step c) (init verifier)
  after.foldl (step c) { s with cache := s.cache.insert own key }

/-- Whatever was evicted, an accepted envelope is signed with the node's own key or one announced. -/
theorem verifyEnvelope_sound (before after : List CacheOp) {event : Event} (hown : parsePubkey c own = .ok key)
    (h : verifyEnvelope c (opened verifier c own key before after).cache signed = .ok event) :
    Genuine c signed event ∧
      signed.signerPubkeyHex ∈ own :: (opened verifier c own key before after).announced.map Prod.snd := by
  have hinit : (init verifier).Announced c own := by simp [Announced, init, newWithVerifier]
  have hrun : (opened verifier c own key before after).Announced c own := ((hinit.run before).insert hown).run after
  unfold verifyEnvelope PeerKeyCache.get at h
  unfold Announced at hrun
  unfold Genuine
  grind

end Traced
end Cache
open Traced

/-- After every eviction of a run the robot's keys are refused and the others' accepted, if and
only if at every eviction exactly the last key of the robot was its alone. -/
theorem loses_trust_run_iff {Key Event : Type} (c : Codecs Key Event)
    (verifier : PeerAnnouncement → Except String Unit) (ops : List CacheOp) :
    EveryStep (fun s op => .next (s.step c op)) (init verifier)
        (AtEviction fun s r => (s.step c (.evictByRobotId r)).LosesTrust c r) ops ↔
      EveryStep (fun s op => .next (s.step c op)) (init verifier) (AtEviction LatestAlone) ops := by
  -- the cache is exact as long as the condition was met
  have hinv : ∀ pre s, EveryStep (fun s op => .next (s.step c op)) (init verifier) (AtEviction LatestAlone) pre →
      runFrom (fun s op => .next (s.step c op)) (init verifier) pre = .next s → s.Held c := by
    intro pre s hpre hrun
    refine hpre.invariant (Held c) (fun s op s' hs hop hstep => ?_) (held_init c verifier) pre s hrun
    cases hstep
    exact hs.step op hop
  constructor
  · intro h
    refine everyStep_of_step _ _ fun pre op post s he hrun hpre => ?_
    exact ((hinv pre s hpre hrun).atEviction_iff op).1 (h pre op post s he hrun)
  · intro h pre op post s he hrun
    exact ((hinv pre s (h.of_append he) hrun).atEviction_iff op).2 (h pre op post s he hrun)

/-! ## A rotated key and a shared one -/

/-- Texts of different length stand for different keys, and every signature verifies. -/
def textKeys : Codecs (List UInt8) Unit where
  hexDecode := fun hex =>
    .ok (if hex = "signature" then List.replicate 64 0 else List.replicate 32 (UInt8.ofNat hex.length))
  keyFromBytes := .ok
  verify := fun _ _ _ => .ok ()
  fromSlice := fun _ => .ok ()

def textRun (ops : List CacheOp) : Traced (List UInt8) :=
  ops.foldl (fun s op => s.step textKeys op) (init fun _ => .ok ())

def announce (robot hex : String) : CacheOp := .insertFromAnnouncement ⟨robot, "device", hex, 0⟩

theorem verifyEnvelope_sound_announced : Genuine textKeys ⟨"old", [], "signature"⟩ () :=
  have hown : parsePubkey textKeys "self" = .ok (.replicate 32 4) := by decide
  (verifyEnvelope_sound (fun _ => .ok ()) [announce "arm" "old"] [] hown (by decide)).1

/-- A robot that announced a second key is evicted: envelopes under the first one are still
accepted.  Of two robots that announced one key, one is evicted: the other's are refused. -/
theorem rotated_key_trusted :
    (("arm", "old") ∈ (textRun [announce "arm" "old", announce "arm" "newer", .evictByRobotId "arm"]).announced ∧
      (textRun [announce "arm" "old", announce "arm" "newer", .evictByRobotId "arm"]).since = [] ∧
      verifyEnvelope textKeys (textRun [announce "arm" "old", announce "arm" "newer", .evictByRobotId "arm"]).cache
        ⟨"old", [], "signature"⟩ = .ok ()) ∧
    (("base", "old") ∈ (textRun [announce "arm" "old", announce "base" "old", .evictByRobotId "arm"]).since ∧
      verifyEnvelope textKeys (textRun [announce "arm" "old", announce "base" "old", .evictByRobotId "arm"]).cache
        ⟨"old", [], "signature"⟩ = .error "unknown peer pubkey old") :=
  ⟨⟨by decide, by decide, by decide⟩, by decide, by decide⟩

end Roz.Zenoh
