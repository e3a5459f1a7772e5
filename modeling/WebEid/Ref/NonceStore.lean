import Mathlib.Data.List.AList
import WebEid.Lib.Fallible
import WebEid.Ref.Platform

/-!
# Challenge nonces (`store.go`, `store_memory.go`, `nonce.go`, `redisstore/`)

A nonce waits between challenge and login in a store that keys it by the
browser's session. `ChallengeNonceStore` is the interface; its two
implementations are the in-process map and the Redis store, and both are
written here as functions that hand the new state back beside the answer,
because a failed operation of theirs can still have touched the state.

The Redis store is written against its `Client` interface, as in the source.
What a real server does behind the interface is not code of the repository
and is left to the results that need it.
-/

namespace WebEid

open Lib Exceptions

/-! ## store.go -/

structure ChallengeNonce where
  base64EncodedNonce : String
  issuedAt : Time
  deriving DecidableEq, Repr

def ChallengeNonce.expired (n : ChallengeNonce) (now : Time) (ttl : Duration) : Bool :=
  decide (ttl < now.sub n.issuedAt)

/-- The interface, for a request context `κ` and a store state `σ`. The
instant is what the store's own clock shows during a `Put`. -/
structure ChallengeNonceStore (κ σ : Type) where
  put : Time → κ → ChallengeNonce → σ → Except GoError Unit × σ
  getAndRemove : κ → σ → Except GoError ChallengeNonce × σ

abbrev SessionKeyFunc (κ : Type) := κ → Except GoError String

/-! ## nonce.go -/

def minNonceBytes : Nat := 32

/-- Five minutes. -/
def defaultNonceTTL : Duration := 300000000000

def errStoreNil : GoError := .text "a ChallengeNonceStore is required"

structure ChallengeNonceGenerator where
  nonceSize : Nat
  deriving DecidableEq, Repr

/-- `GenerateAndStoreNonce` up to the call of `Put`: the nonce it draws. -/
def ChallengeNonceGenerator.generate (g : ChallengeNonceGenerator)
    (random : Nat → Except GoError Bytes) (now : Time) : Except GoError ChallengeNonce := do
  let buf ← random g.nonceSize
  pure ⟨Base64.stdEncoding.encodeToString buf, now⟩

/-- A nonce carries the reading of the clock it was drawn at. -/
theorem ChallengeNonceGenerator.generate_issuedAt {g : ChallengeNonceGenerator}
    {random : Nat → Except GoError Bytes} {now : Time} {nonce : ChallengeNonce}
    (h : g.generate random now = .ok nonce) : nonce.issuedAt = now := by
  rw [generate] at h
  obtain ⟨buf, _, h⟩ := bind_eq_ok h
  cases h
  rfl

/-- `GenerateAndStoreNonce`. Its two clock readings, for the nonce and inside
`Put`, may differ. -/
def ChallengeNonceGenerator.generateAndStoreNonce {κ σ : Type}
    (g : ChallengeNonceGenerator) (S : ChallengeNonceStore κ σ)
    (random : Nat → Except GoError Bytes) (now putNow : Time) (ctx : κ) (st : σ) :
    Except GoError ChallengeNonce × σ :=
  match g.generate random now with
  | .error err => (.error err, st)
  | .ok nonce =>
      match S.put putNow ctx nonce st with
      | (.error err, st) => (.error err, st)
      | (.ok (), st) => (.ok nonce, st)

/-- The builder, for a reference `ρ` to a store. -/
structure ChallengeNonceGeneratorBuilder (ρ : Type) where
  store : Option ρ := none
  ttl : Duration := defaultNonceTTL
  nonceSize : Nat := minNonceBytes

namespace ChallengeNonceGeneratorBuilder

variable {ρ : Type}

def withChallengeNonceStore (b : ChallengeNonceGeneratorBuilder ρ) (store : ρ) :
    ChallengeNonceGeneratorBuilder ρ := { b with store := some store }

def withNonceTTL (b : ChallengeNonceGeneratorBuilder ρ) (ttl : Duration) :
    ChallengeNonceGeneratorBuilder ρ := if 0 < ttl then { b with ttl := ttl } else b

/-- The lifetime is dropped: the store and the login handler enforce it. -/
def build (b : ChallengeNonceGeneratorBuilder ρ) :
    Except GoError ChallengeNonceGenerator :=
  match b.store with
  | none => .error errStoreNil
  | some _ => .ok ⟨b.nonceSize⟩

end ChallengeNonceGeneratorBuilder

/-! ## store_memory.go -/

/-- A Go `map[string]*ChallengeNonce`. -/
abbrev NonceMap := AList fun _ : String => ChallengeNonce

/-- What is left after an erasure was there before. -/
theorem lookup_erase_some {β : Type} {m : AList fun _ : String => β} {key k : String} {v : β}
    (h : (m.erase key).lookup k = some v) : m.lookup k = some v := by
  by_cases hk : k = key
  · subst hk
    rw [AList.lookup_erase] at h
    cases h
  · rwa [AList.lookup_erase_ne hk] at h

structure InMemoryStore (κ : Type) where
  sessionKey : SessionKeyFunc κ
  ttl : Duration
  entries : NonceMap

def newInMemoryStore {κ : Type} (sessionKey : SessionKeyFunc κ) (ttl : Duration) :
    InMemoryStore κ where
  sessionKey := sessionKey
  ttl := if ttl ≤ 0 then defaultNonceTTL else ttl
  entries := ∅

namespace InMemoryStore

variable {κ : Type}

/-- The `range` loop of `sweepLocked`, over the entries that are left to
visit. -/
def sweepEntries (now : Time) (ttl : Duration) :
    List (Sigma fun _ : String => ChallengeNonce) → NonceMap → NonceMap
  | [], m => m
  | ⟨k, n⟩ :: rest, m =>
      sweepEntries now ttl rest (if n.expired now ttl then m.erase k else m)

def sweepLocked (s : InMemoryStore κ) (now : Time) : InMemoryStore κ :=
  { s with entries := sweepEntries now s.ttl s.entries.entries s.entries }

def put (now : Time) (ctx : κ) (nonce : ChallengeNonce) (s : InMemoryStore κ) :
    Except GoError Unit × InMemoryStore κ :=
  match s.sessionKey ctx with
  | .error err => (.error err, s)
  | .ok key =>
      let s := s.sweepLocked now
      (.ok (), { s with entries := s.entries.insert key nonce })

def getAndRemove (ctx : κ) (s : InMemoryStore κ) :
    Except GoError ChallengeNonce × InMemoryStore κ :=
  match s.sessionKey ctx with
  | .error err => (.error err, s)
  | .ok key =>
      match s.entries.lookup key with
      | none => (.error (.typed .errChallengeNonceNotFound), s)
      | some nonce => (.ok nonce, { s with entries := s.entries.erase key })

/-- The store as an implementation of the interface. -/
def store : ChallengeNonceStore κ (InMemoryStore κ) where
  put := put
  getAndRemove := getAndRemove

/-! ### What the sweep leaves -/

/-- Visiting a list of entries drops the keys it lists with an expired nonce
and no others. -/
theorem lookup_sweepEntries (now : Time) (ttl : Duration) (key : String) :
    ∀ (es : List (Sigma fun _ : String => ChallengeNonce)) (m : NonceMap),
      (sweepEntries now ttl es m).lookup key =
        if (es.any fun e => e.1 == key && e.2.expired now ttl) then none
        else m.lookup key := by
  intro es
  induction es with
  | nil => intro m; rfl
  | cons e es ih =>
      intro m
      obtain ⟨k, n⟩ := e
      rw [sweepEntries, ih, List.any_cons]
      -- an entry of the key further down decides whatever this one does
      by_cases hes : (es.any fun e => e.1 == key && e.2.expired now ttl) = true
      · rw [if_pos hes, if_pos (by simp [hes])]
      · rw [if_neg hes]
        simp only [Bool.not_eq_true] at hes
        rw [hes, Bool.or_false]
        by_cases hkey : k = key
        · subst hkey
          by_cases hexp : n.expired now ttl = true <;> simp [hexp]
        · have hlook : (if n.expired now ttl then m.erase k else m).lookup key =
              m.lookup key := by
            split
            · exact AList.lookup_erase_ne (Ne.symm hkey)
            · rfl
          rw [hlook]
          simp [hkey]

/-- The sweep keeps exactly the entries that have not expired. -/
theorem lookup_sweepLocked (s : InMemoryStore κ) (now : Time) (key : String) :
    (s.sweepLocked now).entries.lookup key =
      (s.entries.lookup key).filter fun n => !n.expired now s.ttl := by
  rw [sweepLocked, lookup_sweepEntries]
  -- the map lists at most one nonce under a key, the one `lookup` finds
  have hany : (s.entries.entries.any fun e => e.1 == key && e.2.expired now s.ttl) =
      (s.entries.lookup key).any fun n => n.expired now s.ttl := by
    rw [Bool.eq_iff_iff, List.any_eq_true, Option.any_eq_true]
    constructor
    · rintro ⟨⟨k, n⟩, hmem, h⟩
      simp only [Bool.and_eq_true, beq_iff_eq] at h
      obtain ⟨rfl, hexp⟩ := h
      exact ⟨n, AList.mem_lookup_iff.mpr hmem, hexp⟩
    · rintro ⟨n, hlook, hexp⟩
      exact ⟨⟨key, n⟩, AList.mem_lookup_iff.mp hlook, by simp [hexp]⟩
  rw [hany]
  cases s.entries.lookup key with
  | none => rfl
  | some n => cases hexp : n.expired now s.ttl <;> simp [Option.filter, hexp]

/-! ### What the operations do to one session -/

theorem put_of_key {s : InMemoryStore κ} {ctx : κ} {key : String}
    (hkey : s.sessionKey ctx = .ok key) (now : Time) (nonce : ChallengeNonce) :
    put now ctx nonce s =
      (.ok (), { s with entries := (s.sweepLocked now).entries.insert key nonce }) := by
  unfold put
  rw [hkey]
  rfl

theorem put_of_error {s : InMemoryStore κ} {ctx : κ} {err : GoError}
    (hkey : s.sessionKey ctx = .error err) (now : Time) (nonce : ChallengeNonce) :
    put now ctx nonce s = (.error err, s) := by
  unfold put
  rw [hkey]

/-- A `Put` that fails leaves the store. -/
theorem put_error {s s' : InMemoryStore κ} {now : Time} {ctx : κ} {nonce : ChallengeNonce}
    {err : GoError} (h : put now ctx nonce s = (.error err, s')) : s' = s := by
  cases hkey : s.sessionKey ctx with
  | error e => rw [put_of_error hkey] at h; cases h; rfl
  | ok key => rw [put_of_key hkey] at h; cases h

theorem put_ok {s s' : InMemoryStore κ} {now : Time} {ctx : κ} {nonce : ChallengeNonce}
    (h : put now ctx nonce s = (.ok (), s')) : ∃ key, s.sessionKey ctx = .ok key := by
  cases hkey : s.sessionKey ctx with
  | error e => rw [put_of_error hkey] at h; cases h
  | ok key => exact ⟨key, rfl⟩

/-- After a `Put` the session holds the new nonce, and every other session
what it held unless that has expired. -/
theorem lookup_put {s : InMemoryStore κ} {ctx : κ} {key : String}
    (hkey : s.sessionKey ctx = .ok key) (now : Time) (nonce : ChallengeNonce) (k : String) :
    (put now ctx nonce s).2.entries.lookup k =
      if k = key then some nonce
      else (s.entries.lookup k).filter fun n => !n.expired now s.ttl := by
  rw [put_of_key hkey]
  by_cases hk : k = key
  · subst hk
    rw [if_pos rfl]
    exact AList.lookup_insert _
  · rw [if_neg hk, ← lookup_sweepLocked]
    exact AList.lookup_insert_ne hk

theorem getAndRemove_of_error {s : InMemoryStore κ} {ctx : κ} {err : GoError}
    (hkey : s.sessionKey ctx = .error err) : getAndRemove ctx s = (.error err, s) := by
  unfold getAndRemove
  rw [hkey]

theorem getAndRemove_of_none {s : InMemoryStore κ} {ctx : κ} {key : String}
    (hkey : s.sessionKey ctx = .ok key) (hlook : s.entries.lookup key = none) :
    getAndRemove ctx s = (.error (.typed .errChallengeNonceNotFound), s) := by
  unfold getAndRemove
  rw [hkey]
  simp only [hlook]

theorem getAndRemove_of_some {s : InMemoryStore κ} {ctx : κ} {key : String}
    {nonce : ChallengeNonce} (hkey : s.sessionKey ctx = .ok key)
    (hlook : s.entries.lookup key = some nonce) :
    getAndRemove ctx s = (.ok nonce, { s with entries := s.entries.erase key }) := by
  unfold getAndRemove
  rw [hkey]
  simp only [hlook]

/-- A nonce that was handed out was the session's. -/
theorem getAndRemove_ok {s s' : InMemoryStore κ} {ctx : κ} {nonce : ChallengeNonce}
    (h : getAndRemove ctx s = (.ok nonce, s')) :
    ∃ key, s.sessionKey ctx = .ok key ∧ s.entries.lookup key = some nonce ∧
      s' = { s with entries := s.entries.erase key } := by
  cases hkey : s.sessionKey ctx with
  | error err => rw [getAndRemove_of_error hkey] at h; cases h
  | ok key =>
      cases hlook : s.entries.lookup key with
      | none => rw [getAndRemove_of_none hkey hlook] at h; cases h
      | some n =>
          rw [getAndRemove_of_some hkey hlook] at h
          cases h
          exact ⟨key, rfl, hlook, rfl⟩

/-- Whatever it answers, `GetAndRemove` leaves the session without a
nonce. -/
theorem lookup_getAndRemove_self {s : InMemoryStore κ} {ctx : κ} {key : String}
    (hkey : s.sessionKey ctx = .ok key) :
    (getAndRemove ctx s).2.entries.lookup key = none := by
  cases hlook : s.entries.lookup key with
  | none => rw [getAndRemove_of_none hkey hlook]; exact hlook
  | some n => rw [getAndRemove_of_some hkey hlook]; exact AList.lookup_erase key s.entries

@[simp] theorem put_sessionKey (s : InMemoryStore κ) (now : Time) (ctx : κ)
    (nonce : ChallengeNonce) : (put now ctx nonce s).2.sessionKey = s.sessionKey := by
  unfold put
  split <;> rfl

@[simp] theorem getAndRemove_sessionKey (s : InMemoryStore κ) (ctx : κ) :
    (getAndRemove ctx s).2.sessionKey = s.sessionKey := by
  unfold getAndRemove
  split
  · rfl
  · split <;> rfl

@[simp] theorem put_ttl (s : InMemoryStore κ) (now : Time) (ctx : κ)
    (nonce : ChallengeNonce) : (put now ctx nonce s).2.ttl = s.ttl := by
  unfold put
  split <;> rfl

@[simp] theorem getAndRemove_ttl (s : InMemoryStore κ) (ctx : κ) :
    (getAndRemove ctx s).2.ttl = s.ttl := by
  unfold getAndRemove
  split
  · rfl
  · split <;> rfl

end InMemoryStore

/-! ## redisstore/store.go -/

namespace RedisStore

def defaultKeyPrefix : String := "webeid:nonce:"

/-- The Redis operations the store needs, over a server state `σ`. An absent
key is `none`. -/
structure Client (σ : Type) where
  set : String → Bytes → Duration → σ → Except GoError Unit × σ
  getDel : String → σ → Except GoError (Option Bytes) × σ

structure Store (κ : Type) where
  sessionKey : SessionKeyFunc κ
  ttl : Duration
  keyPrefix : String

/-- The `Option`s: each is a `WithKeyPrefix`, which ignores an empty one. -/
def withKeyPrefix {κ : Type} (s : Store κ) (p : String) : Store κ :=
  if p ≠ "" then { s with keyPrefix := p } else s

def new {κ : Type} (sessionKey : SessionKeyFunc κ) (ttl : Duration)
    (opts : List String) : Store κ :=
  opts.foldl withKeyPrefix
    { sessionKey := sessionKey
      ttl := if ttl ≤ 0 then defaultNonceTTL else ttl
      keyPrefix := defaultKeyPrefix }

namespace Store

variable {κ σ : Type}

def put (P : Platform) (C : Client σ) (s : Store κ) (ctx : κ) (nonce : ChallengeNonce)
    (st : σ) : Except GoError Unit × σ :=
  match s.sessionKey ctx with
  | .error err => (.error err, st)
  | .ok key =>
      match P.marshalNonce ⟨nonce.base64EncodedNonce, nonce.issuedAt⟩ with
      | .error err => (.error err, st)
      | .ok payload => C.set (s.keyPrefix ++ key) payload s.ttl st

def getAndRemove (P : Platform) (C : Client σ) (s : Store κ) (ctx : κ) (st : σ) :
    Except GoError ChallengeNonce × σ :=
  match s.sessionKey ctx with
  | .error err => (.error err, st)
  | .ok key =>
      match C.getDel (s.keyPrefix ++ key) st with
      | (.error err, st) => (.error (wrap .errChallengeNonceNotFound err), st)
      | (.ok none, st) => (.error (.typed .errChallengeNonceNotFound), st)
      | (.ok (some raw), st) =>
          match P.unmarshalNonce raw with
          | .error err => (.error (wrap .errChallengeNonceNotFound err), st)
          | .ok sn => (.ok ⟨sn.nonce, sn.issuedAt⟩, st)

/-- The store as an implementation of the interface; it has no clock of its
own. -/
def store (P : Platform) (C : Client σ) (s : Store κ) : ChallengeNonceStore κ σ where
  put := fun _ => s.put P C
  getAndRemove := s.getAndRemove P C

end Store

end RedisStore

end WebEid
