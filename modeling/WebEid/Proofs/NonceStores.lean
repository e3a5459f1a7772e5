import WebEid.Lib.Expiring
import WebEid.Lib.Machine
import WebEid.Ref.Routes

/-!
# The two nonce stores behind login

The in-process store sweeps all sessions whenever any of them gets a nonce; the
Redis store leaves expiry to the server, which counts from the write. The one
returns an expired nonce for login to refuse, the other may have lost it. Both
are run here side by side on the same puts and logins, on one clock, together
with what either is for: a slot per session, from which login accepts what is
not older than the lifetime.

The simulation relation is agreement on the nonces that are still fresh
(`Table.Agree`), so a stale entry on either side is of no account. What is
assumed of the server is in `client` and `evict`: its commands are atomic, and
a key that is not older than its lifetime stays.
-/

namespace WebEid.NonceStores

open Lib Exceptions Azugo Table

variable {κ σ : Type}

/-! ## The login step -/

/-- What `login` does between reading the request and validating the token. -/
def nonceStep (S : ChallengeNonceStore κ σ) (ttl : Duration) (timeNow : Time) (ctx : κ)
    (st : σ) : Except GoError ChallengeNonce × σ :=
  match S.getAndRemove ctx st with
  | (.error err, st) => (.error err, st)
  | (.ok stored, st) =>
      if stored.expired timeNow ttl then (.error (.typed .errChallengeNonceExpired), st)
      else (.ok stored, st)

theorem login_eq_nonceStep (P : Platform) (venv : ValidateEnv) (ienv : Assertion.IssueEnv)
    (h : Handler) (S : ChallengeNonceStore κ σ) (timeNow : Time)
    (trust : Nat → TrustSnapshot) (ctx : κ) (req : LoginRequest) (st : σ) :
    h.login P venv ienv S timeNow trust ctx (.ok req) st =
      match nonceStep S h.config.nonceTTL timeNow ctx st with
      | (.error err, st) => (⟨none, .error err⟩, st)
      | (.ok stored, st) => (h.finishLogin P venv ienv trust req stored, st) := by
  simp only [Handler.login, Handler.takeNonce, Handler.checkExpiry, nonceStep]
  rcases S.getAndRemove ctx st with ⟨err | stored, st⟩
  · rfl
  · simp only []
    by_cases hexp : stored.expired timeNow h.config.nonceTTL = true
    · rw [if_pos hexp, if_pos hexp]
    · rw [if_neg hexp, if_neg hexp]

theorem nonceStep_decision (S : ChallengeNonceStore κ σ) (ttl : Duration) (timeNow : Time)
    (ctx : κ) (st : σ) :
    (nonceStep S ttl timeNow ctx st).1.toOption =
      (S.getAndRemove ctx st).1.toOption.filter fun n => !n.expired timeNow ttl := by
  rw [nonceStep]
  rcases S.getAndRemove ctx st with ⟨err | stored, st⟩
  · rfl
  · cases hexp : stored.expired timeNow ttl <;> simp [Except.toOption, Option.filter, hexp]

theorem nonceStep_state (S : ChallengeNonceStore κ σ) (ttl : Duration) (timeNow : Time)
    (ctx : κ) (st : σ) :
    (nonceStep S ttl timeNow ctx st).2 = (S.getAndRemove ctx st).2 := by
  rw [nonceStep]
  rcases S.getAndRemove ctx st with ⟨err | stored, st⟩
  · rfl
  · simp only []
    split <;> rfl

/-! ## The server -/

structure Entry where
  value : Bytes
  writtenAt : Uptime
  ttl : Duration

abbrev Server := AList fun _ : String => Entry

/-- `SET` with an expiry and `GETDEL`, at a moment. -/
def client (clock : Uptime) : RedisStore.Client Server where
  set := fun key value ttl st => (.ok (), st.insert key ⟨value, clock, ttl⟩)
  getDel := fun key st => (.ok ((st.lookup key).map Entry.value), st.erase key)

/-- The server drops a key, which it may once the key is older than its
lifetime, and need not even then. -/
def evict (clock : Uptime) (key : String) (st : Server) : Server :=
  match st.lookup key with
  | none => st
  | some e => if e.ttl.toInt < (clock.ns : Int) - e.writtenAt.ns then st.erase key else st

/-! ## The system -/

structure Setup (κ : Type) where
  platform : Platform
  sessionKey : SessionKeyFunc κ
  ttl : Duration
  ttl_pos : 0 < ttl
  keyPrefixes : List String
  /-- When the process started. -/
  start : Time

namespace Setup

variable (C : Setup κ)

def memory : InMemoryStore κ := newInMemoryStore C.sessionKey C.ttl

def redis : RedisStore.Store κ := RedisStore.new C.sessionKey C.ttl C.keyPrefixes

def redisAt (clock : Uptime) : ChallengeNonceStore κ Server :=
  C.redis.store C.platform (client clock)

def now (clock : Uptime) : Time := clock.instant C.start

def fresh (clock : Uptime) (n : ChallengeNonce) : Bool := !n.expired (C.now clock) C.ttl

end Setup

/-- What one login step decided: by each of the stores, and by the slot. -/
structure Decision where
  memory : Option ChallengeNonce
  redis : Option ChallengeNonce
  slot : Option ChallengeNonce
  deriving DecidableEq

structure Sys (κ : Type) where
  clock : Uptime
  memory : InMemoryStore κ
  redis : Server
  slots : Table String ChallengeNonce
  decisions : List Decision

inductive Action (κ : Type) where
  | put (ctx : κ) (text : String)
  | login (ctx : κ)
  | advance (d : Nat)
  | evict (key : String)

/-- A session's slot is written; a context without a session has none. -/
def write (C : Setup κ) (ctx : κ) (o : Option ChallengeNonce)
    (slots : Table String ChallengeNonce) : Table String ChallengeNonce :=
  match C.sessionKey ctx with
  | .error _ => slots
  | .ok key => Function.update slots key o

/-- What login is to accept. -/
def accepts (C : Setup κ) (clock : Uptime) (ctx : κ) (slots : Table String ChallengeNonce) :
    Option ChallengeNonce :=
  match C.sessionKey ctx with
  | .error _ => none
  | .ok key => (slots key).filter (C.fresh clock)

def step (C : Setup κ) (a : Action κ) (s : Sys κ) : Sys κ :=
  match a with
  | .put ctx text =>
      let nonce : ChallengeNonce := ⟨text, C.now s.clock⟩
      { s with
        memory := (InMemoryStore.store.put (C.now s.clock) ctx nonce s.memory).2
        redis := ((C.redisAt s.clock).put (C.now s.clock) ctx nonce s.redis).2
        slots := write C ctx (some nonce) s.slots }
  | .login ctx =>
      let inMemory := nonceStep InMemoryStore.store C.ttl (C.now s.clock) ctx s.memory
      let inRedis := nonceStep (C.redisAt s.clock) C.ttl (C.now s.clock) ctx s.redis
      { s with
        memory := inMemory.2
        redis := inRedis.2
        slots := write C ctx none s.slots
        decisions := s.decisions ++ [⟨inMemory.1.toOption, inRedis.1.toOption,
          accepts C s.clock ctx s.slots⟩] }
  | .advance d => { s with clock := (s.clock.advance d).getD s.clock }
  | .evict key => { s with redis := evict s.clock key s.redis }

/-- The JSON form of a nonce reads back as the nonce. -/
def RoundTrips (P : Platform) (n : StoredNonce) : Prop :=
  ∃ payload, P.marshalNonce n = .ok payload ∧ P.unmarshalNonce payload = .ok n

def allowed (C : Setup κ) (s : Sys κ) : Action κ → Prop
  | .put _ text => RoundTrips C.platform ⟨text, C.now s.clock⟩
  | _ => True

def initial (C : Setup κ) (clock : Uptime) : Sys κ where
  clock := clock
  memory := C.memory
  redis := ∅
  slots := fun _ => none
  decisions := []

def machine (C : Setup κ) : Machine (Sys κ) (Action κ) where
  init := fun s => ∃ clock, s = initial C clock
  allowed := allowed C
  step := step C

/-! ## The stores as tables -/

def memoryTable (s : InMemoryStore κ) : Table String ChallengeNonce := fun k => s.entries.lookup k

def decode (P : Platform) (e : Entry) : Option ChallengeNonce :=
  match P.unmarshalNonce e.value with
  | .error _ => none
  | .ok sn => some ⟨sn.nonce, sn.issuedAt⟩

def redisTable (C : Setup κ) (st : Server) : Table String ChallengeNonce :=
  fun k => (st.lookup (C.redis.keyPrefix ++ k)).bind (decode C.platform)

theorem redis_fields (C : Setup κ) :
    C.redis.sessionKey = C.sessionKey ∧ C.redis.ttl = C.ttl := by
  have hfold : ∀ (opts : List String) (s : RedisStore.Store κ),
      (opts.foldl RedisStore.withKeyPrefix s).sessionKey = s.sessionKey ∧
        (opts.foldl RedisStore.withKeyPrefix s).ttl = s.ttl := by
    intro opts
    induction opts with
    | nil => intro s; exact ⟨rfl, rfl⟩
    | cons p opts ih =>
        intro s
        rw [List.foldl_cons, (ih _).1, (ih _).2]
        unfold RedisStore.withKeyPrefix
        split <;> exact ⟨rfl, rfl⟩
  have hpos : ¬ C.ttl ≤ 0 := Int64.not_le.mpr C.ttl_pos
  rw [Setup.redis, RedisStore.new, (hfold _ _).1, (hfold _ _).2]
  exact ⟨rfl, if_neg hpos⟩

theorem memoryTable_put {s : InMemoryStore κ} {ctx : κ} {key : String}
    (hkey : s.sessionKey ctx = .ok key) (now : Time) (nonce : ChallengeNonce) :
    memoryTable (InMemoryStore.put now ctx nonce s).2 =
      Function.update (fun k => (memoryTable s k).filter fun n => !n.expired now s.ttl) key
        (some nonce) := by
  funext k
  rw [memoryTable, InMemoryStore.lookup_put hkey, Function.update_apply]
  rfl

theorem memoryTable_take {s : InMemoryStore κ} {ctx : κ} {key : String}
    (hkey : s.sessionKey ctx = .ok key) :
    (InMemoryStore.getAndRemove ctx s).1.toOption = memoryTable s key ∧
      memoryTable (InMemoryStore.getAndRemove ctx s).2 =
        Function.update (memoryTable s) key none := by
  cases hlook : s.entries.lookup key with
  | none =>
      rw [InMemoryStore.getAndRemove_of_none hkey hlook]
      refine ⟨hlook.symm, ?_⟩
      exact (Function.update_eq_self_iff.mpr hlook.symm).symm
  | some n =>
      rw [InMemoryStore.getAndRemove_of_some hkey hlook]
      refine ⟨hlook.symm, ?_⟩
      funext k
      rw [Function.update_apply]
      split
      · next hk =>
          subst hk
          exact AList.lookup_erase _ _
      · next hk => exact AList.lookup_erase_ne hk

section Redis

variable {C : Setup κ} {ctx : κ} {key : String}

theorem redisTable_erase (C : Setup κ) (st : Server) (key : String) :
    redisTable C (st.erase (C.redis.keyPrefix ++ key)) =
      Function.update (redisTable C st) key none := by
  funext k
  rw [redisTable, Function.update_apply]
  split
  · next hk =>
      subst hk
      rw [AList.lookup_erase]
      rfl
  · next hk =>
      rw [AList.lookup_erase_ne fun h => hk (String.append_right_inj _ |>.mp h)]
      rfl

theorem redis_put_of_key (hkey : C.sessionKey ctx = .ok key) {nonce : ChallengeNonce}
    {payload : Bytes}
    (hmarshal : C.platform.marshalNonce ⟨nonce.base64EncodedNonce, nonce.issuedAt⟩ = .ok payload)
    (clock : Uptime) (st : Server) :
    (C.redis.put C.platform (client clock) ctx nonce st).2 =
      st.insert (C.redis.keyPrefix ++ key) ⟨payload, clock, C.ttl⟩ := by
  obtain ⟨hsession, httl⟩ := redis_fields C
  rw [RedisStore.Store.put, hsession, hkey]
  simp only [hmarshal]
  rw [httl]
  rfl

theorem redisTable_insert (C : Setup κ) (st : Server) (key : String) {e : Entry}
    {sn : StoredNonce} (he : C.platform.unmarshalNonce e.value = .ok sn) :
    redisTable C (st.insert (C.redis.keyPrefix ++ key) e) =
      Function.update (redisTable C st) key (some ⟨sn.nonce, sn.issuedAt⟩) := by
  funext k
  rw [redisTable, Function.update_apply]
  split
  · next hk =>
      subst hk
      rw [AList.lookup_insert, Option.bind_some, decode, he]
  · next hk =>
      rw [AList.lookup_insert_ne fun h => hk (String.append_right_inj _ |>.mp h)]
      rfl

theorem redis_take (hkey : C.sessionKey ctx = .ok key) (clock : Uptime) (st : Server) :
    (C.redis.getAndRemove C.platform (client clock) ctx st).1.toOption = redisTable C st key ∧
      (C.redis.getAndRemove C.platform (client clock) ctx st).2 =
        st.erase (C.redis.keyPrefix ++ key) := by
  rw [RedisStore.Store.getAndRemove, (redis_fields C).1, hkey, redisTable]
  simp only [client]
  cases st.lookup (C.redis.keyPrefix ++ key) with
  | none => exact ⟨rfl, rfl⟩
  | some e =>
      rw [Option.map_some, Option.bind_some, decode]
      simp only []
      cases C.platform.unmarshalNonce e.value <;> exact ⟨rfl, rfl⟩

end Redis

/-! ## The simulation -/

/-- The server keeps nonces that were written when they were issued. -/
def Stored (C : Setup κ) (e : Entry) : Prop :=
  e.ttl = C.ttl ∧ ∃ text, C.platform.unmarshalNonce e.value = .ok ⟨text, C.now e.writtenAt⟩

structure Inv (C : Setup κ) (s : Sys κ) : Prop where
  sessionKey : s.memory.sessionKey = C.sessionKey
  ttl : s.memory.ttl = C.ttl
  memory : Agree (C.fresh s.clock) s.slots (memoryTable s.memory)
  stored : ∀ key e, s.redis.lookup key = some e → Stored C e
  redis : Agree (C.fresh s.clock) s.slots (redisTable C s.redis)
  decisions : ∀ d ∈ s.decisions, d.memory = d.slot ∧ d.redis = d.slot

theorem fresh_mono (C : Setup κ) {u v : Uptime} (huv : u.ns ≤ v.ns) (n : ChallengeNonce)
    (h : C.fresh v n = true) : C.fresh u n = true := by
  have hle : (C.now u).ns ≤ (C.now v).ns := by
    simp only [Setup.now, Uptime.instant]
    omega
  have hsub := Time.sub_le_sub hle n.issuedAt
  simp only [Setup.fresh, ChallengeNonce.expired, Bool.not_eq_true', decide_eq_false_iff_not,
    Int64.not_lt] at h ⊢
  exact Int64.le_trans hsub h

/-- What the server may drop, login would have refused. -/
theorem Stored.stale {C : Setup κ} {e : Entry} (he : Stored C e) {clock : Uptime}
    (hage : e.ttl.toInt < (clock.ns : Int) - e.writtenAt.ns) :
    (decode C.platform e).filter (C.fresh clock) = none := by
  obtain ⟨httl, text, hdecode⟩ := he
  rw [httl] at hage
  have hexp : C.ttl < (C.now clock).sub (C.now e.writtenAt) := Uptime.lt_sub_instant.mpr hage
  rw [decode, hdecode]
  refine Option.filter_some_neg ?_
  simp only [Setup.fresh, ChallengeNonce.expired, decide_eq_true hexp, Bool.not_true]

variable {C : Setup κ} {s : Sys κ}

theorem inv_initial (C : Setup κ) (clock : Uptime) : Inv C (initial C clock) := by
  have hpos : ¬ C.ttl ≤ 0 := Int64.not_le.mpr C.ttl_pos
  refine ⟨rfl, if_neg hpos, fun k => rfl, ?_, fun k => rfl, ?_⟩
  · intro key e h
    cases h
  · intro d hd
    cases hd

theorem inv_put (hi : Inv C s) {ctx : κ} {text : String}
    (hjson : RoundTrips C.platform ⟨text, C.now s.clock⟩) : Inv C (step C (.put ctx text) s) := by
  cases hkey : C.sessionKey ctx with
  | error err =>
      have hmem : s.memory.sessionKey ctx = .error err := by rw [hi.sessionKey, hkey]
      have hredis : C.redis.sessionKey ctx = .error err := by rw [(redis_fields C).1, hkey]
      simp only [step, write, hkey, InMemoryStore.store, InMemoryStore.put_of_error hmem,
        Setup.redisAt, RedisStore.Store.store, RedisStore.Store.put, hredis]
      exact hi
  | ok key =>
      have hmem : s.memory.sessionKey ctx = .ok key := by rw [hi.sessionKey, hkey]
      obtain ⟨payload, hmarshal, hunmarshal⟩ := hjson
      simp only [step, write, hkey, InMemoryStore.store, Setup.redisAt, RedisStore.Store.store]
      rw [redis_put_of_key hkey hmarshal]
      refine ⟨?_, ?_, ?_, ?_, ?_, hi.decisions⟩
      · rw [InMemoryStore.put_sessionKey]
        exact hi.sessionKey
      · rw [InMemoryStore.put_ttl]
        exact hi.ttl
      · -- the sweep takes only what login would refuse
        rw [memoryTable_put hmem, hi.ttl]
        exact (hi.memory.trans (Agree.prune (fun _ h => h) _)).update key _
      · intro key' e h
        by_cases hk : key' = C.redis.keyPrefix ++ key
        · subst hk
          rw [AList.lookup_insert] at h
          cases h
          exact ⟨rfl, text, hunmarshal⟩
        · rw [AList.lookup_insert_ne hk] at h
          exact hi.stored key' e h
      · rw [redisTable_insert C s.redis key hunmarshal]
        exact hi.redis.update key _

theorem inv_login (hi : Inv C s) (ctx : κ) : Inv C (step C (.login ctx) s) := by
  cases hkey : C.sessionKey ctx with
  | error err =>
      have hmem : s.memory.sessionKey ctx = .error err := by rw [hi.sessionKey, hkey]
      have hredis : C.redis.sessionKey ctx = .error err := by rw [(redis_fields C).1, hkey]
      simp only [step, write, accepts, hkey, nonceStep, InMemoryStore.store,
        InMemoryStore.getAndRemove_of_error hmem, Setup.redisAt, RedisStore.Store.store,
        RedisStore.Store.getAndRemove, hredis]
      refine { hi with decisions := ?_ }
      rw [List.forall_mem_append, List.forall_mem_singleton]
      exact ⟨hi.decisions, rfl, rfl⟩
  | ok key =>
      have hmem : s.memory.sessionKey ctx = .ok key := by rw [hi.sessionKey, hkey]
      obtain ⟨hmemAnswer, hmemTable⟩ := memoryTable_take hmem
      obtain ⟨hredisAnswer, hredisState⟩ := redis_take hkey s.clock s.redis
      simp only [step, write, accepts, hkey, nonceStep_state, nonceStep_decision,
        InMemoryStore.store, Setup.redisAt, RedisStore.Store.store]
      rw [hredisState, hmemAnswer, hredisAnswer]
      refine ⟨?_, ?_, ?_, ?_, ?_, ?_⟩
      · rw [InMemoryStore.getAndRemove_sessionKey]
        exact hi.sessionKey
      · rw [InMemoryStore.getAndRemove_ttl]
        exact hi.ttl
      · rw [hmemTable]
        exact hi.memory.update key none
      · intro key' e h
        exact hi.stored key' e (lookup_erase_some h)
      · rw [redisTable_erase]
        exact hi.redis.update key none
      · rw [List.forall_mem_append, List.forall_mem_singleton]
        exact ⟨hi.decisions, (hi.memory key).symm, (hi.redis key).symm⟩

theorem inv_advance (hi : Inv C s) (d : Nat) : Inv C (step C (.advance d) s) := by
  have hle : s.clock.ns ≤ ((s.clock.advance d).getD s.clock).ns := by
    cases hadv : s.clock.advance d with
    | none => exact Nat.le_refl _
    | some v =>
        have := Uptime.advance_eq_some hadv
        simp only [Option.getD_some]
        omega
  exact
    { hi with
      memory := hi.memory.mono (fresh_mono C hle)
      redis := hi.redis.mono (fresh_mono C hle) }

/-- A key the server drops is none of the store's, or held nothing fresh. -/
theorem inv_evict (hi : Inv C s) (key : String) : Inv C (step C (.evict key) s) := by
  simp only [step, evict]
  cases hlook : s.redis.lookup key with
  | none => exact hi
  | some e =>
      simp only []
      split
      · next hage =>
          refine { hi with stored := ?_, redis := hi.redis.trans ?_ }
          · intro key' e' h
            exact hi.stored key' e' (lookup_erase_some h)
          · by_cases hours : ∃ k, key = C.redis.keyPrefix ++ k
            · obtain ⟨k, rfl⟩ := hours
              rw [redisTable_erase]
              refine Agree.drop ?_
              rw [redisTable, hlook]
              exact (hi.stored _ e hlook).stale hage
            · intro k
              have hne : C.redis.keyPrefix ++ k ≠ key := fun h => hours ⟨k, h.symm⟩
              rw [redisTable, redisTable, AList.lookup_erase_ne hne]
      · exact hi

theorem inv_reach (hs : (machine C).Reach s) : Inv C s := by
  refine Machine.Reach.invariant ?_ ?_ hs
  · rintro s₀ ⟨clock, rfl⟩
    exact inv_initial C clock
  · intro s₁ a hi ha
    cases a with
    | put ctx text => exact inv_put hi ha
    | login ctx => exact inv_login hi ctx
    | advance d => exact inv_advance hi d
    | evict key => exact inv_evict hi key

/-- On every run the two stores decide alike at every login, on the nonce and
on its time of issue, and both as the session's slot does. -/
theorem stores_interchangeable (C : Setup κ) {s : Sys κ} (hs : (machine C).Reach s) :
    ∀ d ∈ s.decisions, d.memory = d.redis ∧ d.memory = d.slot := by
  intro d hd
  obtain ⟨hmemory, hredis⟩ := (inv_reach hs).decisions d hd
  exact ⟨hmemory.trans hredis.symm, hmemory⟩

/-! ## A run

One session logs in at the last moment of its nonce's life. The other comes a
nanosecond late, when the server has dropped its key and the process has not
swept it. -/

namespace Run

/-- One nonce text; its time of issue is a byte. -/
def platform : Platform :=
  { Platform.refusing with
    marshalNonce := fun sn => .ok [UInt8.ofNat sn.issuedAt.ns.toNat]
    unmarshalNonce := fun payload =>
      match payload with
      | [b] => .ok ⟨"n", ⟨b.toNat⟩⟩
      | _ => .error (.text "unexpected end of JSON input") }

def setup : Setup String where
  platform := platform
  sessionKey := .ok
  ttl := 5
  ttl_pos := by decide
  keyPrefixes := []
  start := ⟨0⟩

def actions : List (Action String) :=
  [.put "a" "n", .advance 1, .put "b" "n", .advance 4, .login "a", .advance 2,
    .evict "webeid:nonce:b", .login "b"]

def final : Sys String :=
  actions.foldl (fun s a => step setup a s) (initial setup ⟨0, by decide⟩)

theorem reach_final : (machine setup).Reach final := by
  have hstart : (machine setup).Reach (initial setup ⟨0, by decide⟩) := .init ⟨_, rfl⟩
  have hput : (machine setup).Reach _ :=
    hstart.step (a := Action.put "a" "n") ⟨[0], rfl, rfl⟩
  have htick : (machine setup).Reach _ := hput.step (a := Action.advance 1) trivial
  have hput' : (machine setup).Reach _ :=
    htick.step (a := Action.put "b" "n") ⟨[1], rfl, rfl⟩
  exact ((((hput'.step (a := Action.advance 4) trivial).step (a := Action.login "a")
    trivial).step (a := Action.advance 2) trivial).step (a := Action.evict "webeid:nonce:b")
    trivial).step (a := Action.login "b") trivial

end Run

open Run in
theorem stores_interchangeable_run :
    final.decisions.map Decision.memory = [some ⟨"n", ⟨0⟩⟩, none] ∧ final.redis.keys = [] ∧
      ∀ d ∈ final.decisions, d.memory = d.redis ∧ d.memory = d.slot :=
  ⟨by decide +kernel, by decide +kernel, stores_interchangeable setup reach_final⟩

end WebEid.NonceStores
