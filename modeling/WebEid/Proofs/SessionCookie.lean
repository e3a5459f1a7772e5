import WebEid.Lib.Machine
import WebEid.Ref.Session

/-!
# The cookie and the nonce run on different clocks

A browser asks for a challenge and logs in with it. The nonce counts its
lifetime from the challenge, and every challenge starts a new one. The cookie
that leads back to it counts its Max-Age from the request that minted the
session id, and no later request renews it. So a login can come while the nonce
is fresh and the cookie is gone.

The system is one browser, which keeps the cookie until its Max-Age has
elapsed and sends it with every request, beside the in-process store and the
other users of the store. Two things are assumed of the runs (`allowed`): a
drawn session id is not one the browser was given before, and nobody else sends
an id of this browser. `login_finds_nonce_iff` then says which logins find
their nonce.
-/

namespace WebEid.SessionCookie

open Lib Exceptions Azugo

/-! ## The system -/

structure Setup where
  platform : Platform
  handler : Handler
  sessionCookieName : String
  enforceHostHeader : Bool
  /-- The Host header of the browser's requests. The cookie has no Domain, so
  it goes to one host. -/
  host : String
  /-- When the process started. -/
  start : Time

namespace Setup

variable (C : Setup)

def config : SiteConfiguration :=
  ⟨C.handler.config, C.sessionCookieName, C.enforceHostHeader⟩

def now (clock : Uptime) : Time := clock.instant C.start

def maxAge : Option Int := cookieMaxAge C.handler.config.nonceTTL

end Setup

structure Held where
  value : String
  setAt : Uptime
  maxAge : Option Int
  deriving DecidableEq

def Held.live (c : Held) (clock : Uptime) : Bool :=
  match c.maxAge with
  | none => true
  | some m => decide ((clock.ns : Int) ≤ c.setAt.ns + m * 1000000000)

/-- The browser's latest challenge, as long as no login followed it: the id the
nonce was stored under, and the cookie that carries the id. -/
structure Pending where
  sid : String
  nonce : ChallengeNonce
  answered : Uptime
  cookie : Held
  deriving DecidableEq

structure Sys where
  clock : Uptime
  store : InMemoryStore Context
  jar : Option Held
  pending : Option Pending
  /-- Every session id this browser was given. -/
  minted : List String

def Sys.sent (s : Sys) : String :=
  match s.jar with
  | none => ""
  | some c => if c.live s.clock then c.value else ""

def Sys.receive (s : Sys) (set : Option SetCookie) : Sys :=
  match set with
  | none => s
  | some c => { s with jar := some ⟨c.value, s.clock, c.maxAge⟩, minted := c.value :: s.minted }

abbrev Draw := Nat → Except GoError Bytes

inductive Action where
  | advance (d : Nat)
  | challenge (session nonce : Draw)
  | login (session : Draw) (body : Except GoError LoginRequest)
  /-- Another endpoint behind the middleware. -/
  | visit (session : Draw)
  | otherChallenge (ctx : Context) (text : String)
  | otherLogin (ctx : Context)

def ensure (C : Setup) (s : Sys) (random : Draw) : Except GoError (String × Option SetCookie) :=
  ensureSession C.platform C.config C.host s.sent random

def step (C : Setup) (a : Action) (s : Sys) : Sys :=
  match a with
  | .advance d => { s with clock := (s.clock.advance d).getD s.clock }
  | .challenge session nonce =>
      match ensure C s session with
      | .error _ => s
      | .ok (sid, set) =>
          let s := s.receive set
          let now := C.now s.clock
          match C.handler.challenge InMemoryStore.store nonce now now ⟨some sid⟩ s.store with
          | (.error _, st) => { s with store := st }
          | (.ok text, st) =>
              { s with
                store := st
                pending := s.jar.map fun c => ⟨sid, ⟨text, now⟩, s.clock, c⟩ }
  | .login session body =>
      let s := { s with pending := none }
      match ensure C s session with
      | .error _ => s
      | .ok (sid, set) =>
          let s := s.receive set
          { s with store := (Handler.takeNonce InMemoryStore.store ⟨some sid⟩ body s.store).2 }
  | .visit session =>
      match ensure C s session with
      | .error _ => s
      | .ok (_, set) => s.receive set
  | .otherChallenge ctx text =>
      let nonce : ChallengeNonce := ⟨text, C.now s.clock⟩
      { s with store := (InMemoryStore.put (C.now s.clock) ctx nonce s.store).2 }
  | .otherLogin ctx => { s with store := (InMemoryStore.getAndRemove ctx s.store).2 }

/-- What a request's random source is assumed to give: as many bytes as were
asked for, and an id the browser never had. -/
structure FreshDraw (s : Sys) (random : Draw) : Prop where
  length : ∀ n b, random n = .ok b → b.length = n
  fresh : ∀ sid, newSessionID random = .ok sid → sid ∉ s.minted

def Foreign (s : Sys) (ctx : Context) : Prop :=
  ∀ sid, ctx.sessionID = some sid → sid ∉ s.minted

def allowed (s : Sys) : Action → Prop
  | .advance _ => True
  | .challenge session _ => FreshDraw s session
  | .login session _ => FreshDraw s session
  | .visit session => FreshDraw s session
  | .otherChallenge ctx _ => Foreign s ctx
  | .otherLogin ctx => Foreign s ctx

def initial (C : Setup) (clock : Uptime) : Sys where
  clock := clock
  store := newSessionStore C.handler.config
  jar := none
  pending := none
  minted := []

def machine (C : Setup) : Machine Sys Action where
  init := fun s => ∃ clock, s = initial C clock
  allowed := allowed
  step := step C

/-- The session id and the nonce a login gets. -/
def loginNonce (C : Setup) (s : Sys) (random : Draw) (req : LoginRequest) :
    Except GoError (String × ChallengeNonce) := do
  let (sid, _) ← ensure C s random
  let (_, nonce) ← (Handler.takeNonce InMemoryStore.store ⟨some sid⟩ (.ok req) s.store).1
  pure (sid, nonce)

/-! ## Sessions and the store -/

theorem sessionKey_of_valid {sid : String} (h : validSessionID sid = true) :
    sessionKey ⟨some sid⟩ = .ok sid := by
  have hne : sid ≠ "" := by
    rintro rfl
    cases h
  exact if_neg hne

/-- What a store is to keep of a nonce: it, until it has expired. -/
def Keeps (now : Time) (st : InMemoryStore Context) (sid : String) (n : ChallengeNonce) : Prop :=
  st.entries.lookup sid = some n ∨ n.expired now st.ttl = true

section Keeps

variable {st : InMemoryStore Context} {sid : String} {n : ChallengeNonce} {now : Time}
  {ctx : Context}

theorem Keeps.put (h : Keeps now st sid n) (hkey : st.sessionKey ctx ≠ .ok sid)
    (m : ChallengeNonce) : Keeps now (InMemoryStore.put now ctx m st).2 sid n := by
  cases hctx : st.sessionKey ctx with
  | error err =>
      rw [InMemoryStore.put_of_error hctx]
      exact h
  | ok key =>
      have hne : sid ≠ key := by
        rintro rfl
        exact hkey hctx
      rw [Keeps, InMemoryStore.lookup_put hctx, if_neg hne, InMemoryStore.put_ttl]
      rcases h with hlook | hexp
      · -- the sweep takes the nonce only when it has expired
        cases hexp : n.expired now st.ttl with
        | true => exact Or.inr rfl
        | false =>
            left
            rw [hlook]
            exact Option.filter_some_pos (by rw [hexp]; rfl)
      · exact Or.inr hexp

theorem Keeps.getAndRemove (h : Keeps now st sid n) (hkey : st.sessionKey ctx ≠ .ok sid) :
    Keeps now (InMemoryStore.getAndRemove ctx st).2 sid n := by
  rw [Keeps, InMemoryStore.getAndRemove_ttl]
  refine h.imp_left ?_
  intro hlook
  cases hctx : st.sessionKey ctx with
  | error err => rwa [InMemoryStore.getAndRemove_of_error hctx]
  | ok key =>
      have hne : sid ≠ key := by
        rintro rfl
        exact hkey hctx
      cases hother : st.entries.lookup key with
      | none => rwa [InMemoryStore.getAndRemove_of_none hctx hother]
      | some m =>
          rw [InMemoryStore.getAndRemove_of_some hctx hother]
          exact (AList.lookup_erase_ne hne).trans hlook

theorem Keeps.later {now' : Time} (h : Keeps now st sid n) (hle : now.ns ≤ now'.ns) :
    Keeps now' st sid n := by
  refine h.imp_right ?_
  intro hexp
  have hlt : st.ttl < now.sub n.issuedAt := of_decide_eq_true hexp
  exact decide_eq_true (Int64.lt_of_lt_of_le hlt (Time.sub_le_sub hle n.issuedAt))

end Keeps

theorem Held.live_antitone {c : Held} {u v : Uptime} (huv : u.ns ≤ v.ns)
    (h : c.live u = false) : c.live v = false := by
  rw [live] at h ⊢
  split at h
  · cases h
  · simp only [decide_eq_false_iff_not] at h ⊢
    omega

/-! ## The invariant -/

structure Genuine (C : Setup) (minted : List String) (c : Held) : Prop where
  minted : c.value ∈ minted
  valid : validSessionID c.value = true
  maxAge : c.maxAge = C.maxAge

structure Awaits (C : Setup) (s : Sys) (p : Pending) : Prop where
  host : checkHost C.platform C.config C.host = .ok ()
  sid : p.cookie.value = p.sid
  genuine : Genuine C s.minted p.cookie
  issued : p.nonce.issuedAt = C.now p.answered
  /-- Only an expired cookie is replaced, and then by another id. -/
  cookie : s.jar = some p.cookie ∨
    p.cookie.live s.clock = false ∧ ∀ c, s.jar = some c → c.value ≠ p.sid
  nonce : Keeps (C.now s.clock) s.store p.sid p.nonce

structure Inv (C : Setup) (s : Sys) : Prop where
  sessionKey : s.store.sessionKey = Azugo.sessionKey
  ttl : s.store.ttl = (newSessionStore C.handler.config).ttl
  jar : ∀ c, s.jar = some c → Genuine C s.minted c
  pending : ∀ p, s.pending = some p → Awaits C s p

variable {C : Setup} {s : Sys}

theorem inv_initial (C : Setup) (clock : Uptime) : Inv C (initial C clock) := by
  refine ⟨rfl, rfl, ?_, ?_⟩
  · intro c hc
    cases hc
  · intro p hp
    cases hp

theorem sent_eq {c : Held} (hjar : s.jar = some c) :
    s.sent = if c.live s.clock then c.value else "" := by
  rw [Sys.sent, hjar]

/-- A request is answered under the id of the browser's live cookie, or under a
new id when it has none. -/
theorem ensure_cases (hi : Inv C s) {random : Draw} {sid : String} {set : Option SetCookie}
    (h : ensure C s random = .ok (sid, set)) :
    (∃ c, s.jar = some c ∧ c.live s.clock = true ∧ sid = c.value ∧ set = none) ∨
      (∀ c, s.jar = some c → c.live s.clock = false) ∧ newSessionID random = .ok sid ∧
        set = some (setSessionCookie C.sessionCookieName sid
          C.handler.config.nonceTTL) := by
  obtain ⟨_, ⟨hvalid, rfl, rfl⟩ | ⟨hinvalid, hnew, rfl⟩⟩ := ensureSession_ok h
  · left
    cases hjar : s.jar with
    | none =>
        rw [Sys.sent, hjar] at hvalid
        cases hvalid
    | some c =>
        rw [sent_eq hjar] at hvalid ⊢
        cases hlive : c.live s.clock with
        | true => exact ⟨c, rfl, hlive, rfl, rfl⟩
        | false =>
            rw [hlive] at hvalid
            cases hvalid
  · refine Or.inr ⟨?_, hnew, rfl⟩
    intro c hjar
    by_contra hlive
    rw [Bool.not_eq_false] at hlive
    rw [sent_eq hjar, if_pos hlive, (hi.jar c hjar).valid] at hinvalid
    cases hinvalid

/-- The middleware's part of a request: afterwards the browser holds a cookie
with the id of the request. -/
theorem inv_receive (hi : Inv C s) {random : Draw} (hdraw : FreshDraw s random) {sid : String}
    {set : Option SetCookie} (h : ensure C s random = .ok (sid, set)) :
    Inv C (s.receive set) ∧ ∃ c, (s.receive set).jar = some c ∧ c.value = sid := by
  rcases ensure_cases hi h with ⟨c, hjar, _, rfl, rfl⟩ | ⟨hdead, hnew, rfl⟩
  · exact ⟨hi, c, hjar, rfl⟩
  · have hvalid := validSessionID_newSessionID hdraw.length hnew
    refine ⟨⟨hi.sessionKey, hi.ttl, ?_, ?_⟩, _, rfl, rfl⟩
    · intro c hc
      cases hc
      exact ⟨List.mem_cons_self, hvalid, rfl⟩
    · intro p hp
      have hwait := hi.pending p hp
      have hgenuine := hwait.genuine
      refine
        { hwait with
          genuine := ⟨List.mem_cons_of_mem _ hgenuine.minted, hgenuine.valid, hgenuine.maxAge⟩
          cookie := Or.inr ⟨?_, ?_⟩ }
      · rcases hwait.cookie with hjar | ⟨hlive, _⟩
        · exact hdead _ hjar
        · exact hlive
      · intro c hc
        cases hc
        rintro rfl
        exact hdraw.fresh _ hnew (hwait.sid ▸ hgenuine.minted)

theorem inv_advance (hi : Inv C s) (d : Nat) : Inv C (step C (.advance d) s) := by
  have hle : s.clock.ns ≤ ((s.clock.advance d).getD s.clock).ns := by
    cases hadv : s.clock.advance d with
    | none => exact Nat.le_refl _
    | some v =>
        rw [Option.getD_some, Uptime.advance_eq_some hadv]
        omega
  refine ⟨hi.sessionKey, hi.ttl, hi.jar, ?_⟩
  intro p hp
  have hwait := hi.pending p hp
  have hnow : (C.now s.clock).ns ≤ (C.now ((s.clock.advance d).getD s.clock)).ns := by
    simp only [Setup.now, Uptime.instant]
    omega
  exact
    { hwait with
      cookie := hwait.cookie.imp_right fun h => ⟨Held.live_antitone hle h.1, h.2⟩
      nonce := hwait.nonce.later hnow }

/-- The store may change in any way that keeps the pending nonce. -/
theorem Inv.withStore (hi : Inv C s) {st : InMemoryStore Context}
    (hkey : st.sessionKey = s.store.sessionKey) (httl : st.ttl = s.store.ttl)
    (hkeeps : ∀ p, s.pending = some p → Keeps (C.now s.clock) st p.sid p.nonce) :
    Inv C { s with store := st } := by
  refine ⟨hkey.trans hi.sessionKey, httl.trans hi.ttl, hi.jar, ?_⟩
  intro p hp
  exact { hi.pending p hp with nonce := hkeeps p hp }

/-- Nobody else's request has the key of the pending nonce. -/
theorem Inv.key_ne (hi : Inv C s) {ctx : Context} (hctx : Foreign s ctx) {p : Pending}
    (hp : s.pending = some p) : s.store.sessionKey ctx ≠ .ok p.sid := by
  intro hkey
  rw [hi.sessionKey] at hkey
  have hwait := hi.pending p hp
  exact hctx _ (sessionKey_ok hkey) (hwait.sid ▸ hwait.genuine.minted)

/-- A challenge either fails and leaves the store, or puts the nonce it
answers with. -/
theorem challenge_cases (h : Handler) (nonce : Draw) (now : Time) {ctx : Context} {key : String}
    {st : InMemoryStore Context} (hkey : st.sessionKey ctx = .ok key) :
    (∃ err, h.challenge InMemoryStore.store nonce now now ctx st = (.error err, st)) ∨
      ∃ text, h.challenge InMemoryStore.store nonce now now ctx st =
        (.ok text, (InMemoryStore.put now ctx ⟨text, now⟩ st).2) := by
  rw [Handler.challenge, ChallengeNonceGenerator.generateAndStoreNonce]
  cases hgen : h.generator.generate nonce now with
  | error err => exact Or.inl ⟨err, rfl⟩
  | ok n =>
      right
      have hissued := ChallengeNonceGenerator.generate_issuedAt hgen
      obtain ⟨text, issuedAt⟩ := n
      cases hissued
      refine ⟨text, ?_⟩
      simp only [InMemoryStore.store]
      rw [InMemoryStore.put_of_key hkey]

theorem inv_challenge (hi : Inv C s) {session : Draw} (nonce : Draw)
    (hdraw : FreshDraw s session) : Inv C (step C (.challenge session nonce) s) := by
  rw [step]
  cases hens : ensure C s session with
  | error err => exact hi
  | ok r =>
      obtain ⟨sid, set⟩ := r
      have hhost := (ensureSession_ok hens).1
      obtain ⟨hi', c, hjar, hc⟩ := inv_receive hi hdraw hens
      simp only []
      generalize s.receive set = s' at hi' hjar ⊢
      have hgenuine := hi'.jar c hjar
      have hkey : s'.store.sessionKey ⟨some sid⟩ = .ok sid := by
        rw [hi'.sessionKey]
        exact sessionKey_of_valid (hc ▸ hgenuine.valid)
      rcases challenge_cases C.handler nonce (C.now s'.clock) hkey with
        ⟨err, hchal⟩ | ⟨text, hchal⟩
      · rw [hchal]
        exact hi'
      · rw [hchal]
        refine ⟨?_, ?_, hi'.jar, ?_⟩
        · rw [← hi'.sessionKey]
          exact InMemoryStore.put_sessionKey _ _ _ _
        · rw [← hi'.ttl]
          exact InMemoryStore.put_ttl _ _ _ _
        · intro p hp
          simp only [hjar, Option.map_some, Option.some.injEq] at hp
          subst hp
          refine ⟨hhost, hc, hgenuine, rfl, Or.inl hjar, Or.inl ?_⟩
          exact (InMemoryStore.lookup_put hkey _ _ _).trans (if_pos rfl)

theorem takeNonce_fields (ctx : Context) (body : Except GoError LoginRequest)
    (st : InMemoryStore Context) :
    (Handler.takeNonce InMemoryStore.store ctx body st).2.sessionKey = st.sessionKey ∧
      (Handler.takeNonce InMemoryStore.store ctx body st).2.ttl = st.ttl := by
  cases body with
  | error err => exact ⟨rfl, rfl⟩
  | ok req =>
      have hstate : (Handler.takeNonce InMemoryStore.store ctx (.ok req) st).2 =
          (InMemoryStore.getAndRemove ctx st).2 := by
        simp only [Handler.takeNonce, InMemoryStore.store]
        rcases InMemoryStore.getAndRemove ctx st with ⟨err | stored, st'⟩ <;> rfl
      rw [hstate]
      exact ⟨InMemoryStore.getAndRemove_sessionKey _ _, InMemoryStore.getAndRemove_ttl _ _⟩

theorem inv_login (hi : Inv C s) {session : Draw} (body : Except GoError LoginRequest)
    (hdraw : FreshDraw s session) : Inv C (step C (.login session body) s) := by
  have hnone : Inv C { s with pending := none } := by
    refine ⟨hi.sessionKey, hi.ttl, hi.jar, ?_⟩
    intro p hp
    cases hp
  rw [step]
  simp only []
  cases hens : ensure C { s with pending := none } session with
  | error err => exact hnone
  | ok r =>
      obtain ⟨sid, set⟩ := r
      have hi' := (inv_receive hnone ⟨hdraw.length, hdraw.fresh⟩ hens).1
      have hfields := takeNonce_fields ⟨some sid⟩ body
        (Sys.receive { s with pending := none } set).store
      refine hi'.withStore hfields.1 hfields.2 ?_
      intro p hp
      cases set <;> cases hp

theorem inv_visit (hi : Inv C s) {session : Draw} (hdraw : FreshDraw s session) :
    Inv C (step C (.visit session) s) := by
  rw [step]
  cases hens : ensure C s session with
  | error err => exact hi
  | ok r => exact (inv_receive hi hdraw hens).1

theorem inv_step (hi : Inv C s) {a : Action} (ha : allowed s a) : Inv C (step C a s) := by
  cases a with
  | advance d => exact inv_advance hi d
  | challenge session nonce => exact inv_challenge hi nonce ha
  | login session body => exact inv_login hi body ha
  | visit session => exact inv_visit hi ha
  | otherChallenge ctx text =>
      refine hi.withStore (InMemoryStore.put_sessionKey _ _ _ _) (InMemoryStore.put_ttl _ _ _ _) ?_
      intro p hp
      exact (hi.pending p hp).nonce.put (hi.key_ne ha hp) _
  | otherLogin ctx =>
      refine hi.withStore (InMemoryStore.getAndRemove_sessionKey _ _)
        (InMemoryStore.getAndRemove_ttl _ _) ?_
      intro p hp
      exact (hi.pending p hp).nonce.getAndRemove (hi.key_ne ha hp)

theorem reach_inv (hs : (machine C).Reach s) : Inv C s := by
  refine Machine.Reach.invariant (I := Inv C) ?_ ?_ hs
  · rintro _ ⟨clock, rfl⟩
    exact inv_initial C clock
  · intro s a hi ha
    exact inv_step hi ha

/-! ## Which logins find their nonce -/

/-- The store's lifetime is not shorter than the configured one. -/
theorem age_le_store (cfg : Configuration) {age : Int}
    (hage : age ≤ cfg.nonceTTL.toInt) : age ≤ (newSessionStore cfg).ttl.toInt := by
  simp only [newSessionStore, newInMemoryStore]
  split
  · next hle =>
      have hle' := Int64.le_iff_toInt_le.mp hle
      have hzero : (0 : Int64).toInt = 0 := by decide
      have hdefault : (0 : Int) ≤ defaultNonceTTL.toInt := by decide
      omega
  · exact hage

theorem Awaits.lookup {p : Pending} (hwait : Awaits C s p) (hi : Inv C s)
    (hage : (s.clock.ns : Int) - p.answered.ns ≤ C.handler.config.nonceTTL.toInt) :
    s.store.entries.lookup p.sid = some p.nonce := by
  refine hwait.nonce.resolve_right ?_
  intro hexp
  have hlt : s.store.ttl < (C.now s.clock).sub p.nonce.issuedAt := of_decide_eq_true hexp
  rw [hwait.issued, hi.ttl] at hlt
  have hlt' := Uptime.lt_sub_instant.mp hlt
  have hle := age_le_store C.handler.config hage
  omega

theorem live_iff {c : Held} (h : c.maxAge = C.maxAge) (clock : Uptime) :
    c.live clock = true ↔
      ∀ m, C.maxAge = some m → (clock.ns : Int) ≤ c.setAt.ns + m * 1000000000 := by
  rw [Held.live, h]
  cases C.maxAge with
  | none => simp
  | some m => simp

/-- A login that is given the session of the challenge brought its cookie. -/
theorem Awaits.live_of_ensure {p : Pending} (hwait : Awaits C s p) (hi : Inv C s)
    {random : Draw} (hdraw : FreshDraw s random) {set : Option SetCookie}
    (hens : ensure C s random = .ok (p.sid, set)) : p.cookie.live s.clock = true := by
  rcases ensure_cases hi hens with ⟨c, hjar, hlive, hsid, _⟩ | ⟨_, hnew, _⟩
  · rcases hwait.cookie with hcookie | ⟨_, hother⟩
    · rw [hjar] at hcookie
      cases hcookie
      exact hlive
    · exact absurd hsid.symm (hother c hjar)
  · exact absurd (hwait.sid ▸ hwait.genuine.minted) (hdraw.fresh _ hnew)

theorem Awaits.ensure_of_live {p : Pending} (hwait : Awaits C s p)
    (hlive : p.cookie.live s.clock = true) (random : Draw) :
    ensure C s random = .ok (p.sid, none) := by
  have hjar : s.jar = some p.cookie := by
    rcases hwait.cookie with hjar | ⟨hdead, _⟩
    · exact hjar
    · rw [hlive] at hdead
      cases hdead
  have hsent : s.sent = p.sid := by rw [sent_eq hjar, if_pos hlive, hwait.sid]
  rw [ensure, hsent]
  exact ensureSession_valid hwait.host (hwait.sid ▸ hwait.genuine.valid)

/-- A login within the lifetime of the browser's latest nonce is given the
nonce's session and finds the nonce exactly when the Max-Age of the cookie,
counted from the request that set it, has not run out. -/
theorem login_finds_nonce_iff (hs : (machine C).Reach s) {p : Pending}
    (hp : s.pending = some p)
    (hage : (s.clock.ns : Int) - p.answered.ns ≤ C.handler.config.nonceTTL.toInt)
    {random : Draw} (hdraw : FreshDraw s random) (req : LoginRequest) :
    loginNonce C s random req = .ok (p.sid, p.nonce) ↔
      ∀ m, cookieMaxAge C.handler.config.nonceTTL = some m →
        (s.clock.ns : Int) ≤ p.cookie.setAt.ns + m * 1000000000 := by
  have hi := reach_inv hs
  have hwait := hi.pending p hp
  refine Iff.trans ?_ (live_iff hwait.genuine.maxAge s.clock)
  constructor
  · intro h
    obtain ⟨⟨sid, set⟩, hens, h⟩ := bind_eq_ok h
    obtain ⟨⟨_, nonce⟩, _, h⟩ := bind_eq_ok h
    obtain rfl : sid = p.sid := congrArg Prod.fst (Except.ok.inj h)
    exact hwait.live_of_ensure hi hdraw hens
  · intro hlive
    have hkey : s.store.sessionKey ⟨some p.sid⟩ = .ok p.sid := by
      rw [hi.sessionKey]
      exact sessionKey_of_valid (hwait.sid ▸ hwait.genuine.valid)
    rw [loginNonce, hwait.ensure_of_live hlive, bind_ok]
    simp only [Handler.takeNonce, InMemoryStore.store,
      InMemoryStore.getAndRemove_of_some hkey (hwait.lookup hi hage)]
    rfl

def samplePlatform : Platform :=
  { Platform.refusing with urlParse := fun _ => .ok ⟨"https", "a.lv", "", "", ""⟩ }

/-- Nonces live for two seconds. -/
def sampleConfiguration : Configuration :=
  ⟨["https://a.lv"], "/trust", 2000000000, false, 0, "", [], ["SHA-256"], false, [], [], []⟩

def sampleSetup : Setup where
  platform := samplePlatform
  handler :=
    { store := .session 2000000000
      runtimeTrust := true
      ocspTransport := none
      assertionIssuer := none
      config := sampleConfiguration
      validator := ⟨["https://a.lv"], 0, none, Certificate.defaultDisallowedPolicies⟩
      generator := ⟨32⟩
      signer := ⟨["SHA-256"], some 0, none, []⟩
      trust := 0 }
  sessionCookieName := "webeid_session"
  enforceHostHeader := true
  host := "a.lv"
  start := ⟨0⟩

def drawOf (x : UInt8) : Draw := fun n => .ok (List.replicate n x)

def atStart : Sys := initial sampleSetup .zero

/-- A challenge, and a second one a second and a half later. -/
def afterOne : Sys := step sampleSetup (.challenge (drawOf 1) (drawOf 2)) atStart

def afterTwo : Sys :=
  step sampleSetup (.challenge (drawOf 3) (drawOf 4))
    (step sampleSetup (.advance 1500000000) afterOne)

/-- One more second passes before the login. -/
def atLogin : Sys := step sampleSetup (.advance 1000000000) afterTwo

def sampleRequest : LoginRequest := ⟨⟨"", "", "", "", ""⟩⟩

theorem freshDraw_drawOf {s : Sys} {x : UInt8}
    (h : Base64.rawURLEncoding.encodeToString (List.replicate sessionIDBytes x) ∉ s.minted) :
    FreshDraw s (drawOf x) := by
  refine ⟨?_, ?_⟩
  · intro n b hb
    cases hb
    exact List.length_replicate
  · intro sid hsid
    cases hsid
    exact h

theorem reach_afterTwo : (machine sampleSetup).Reach afterTwo := by
  have h0 : (machine sampleSetup).Reach atStart := .init ⟨_, rfl⟩
  have hfirst : FreshDraw atStart (drawOf 1) := freshDraw_drawOf (by decide +kernel)
  have h1 := h0.step (a := Action.challenge (drawOf 1) (drawOf 2)) hfirst
  have h2 := h1.step (a := Action.advance 1500000000) trivial
  have hsecond : FreshDraw (step sampleSetup (.advance 1500000000) afterOne) (drawOf 3) :=
    freshDraw_drawOf (by decide +kernel)
  exact h2.step (a := Action.challenge (drawOf 3) (drawOf 4)) hsecond

/-- The second challenge is answered under the cookie of the first. -/
theorem afterTwo_state :
    afterTwo.pending.any (fun p =>
        decide (p.answered.ns = 1500000000 ∧ p.cookie.setAt.ns = 0)) = true ∧
      afterTwo.clock.ns = 1500000000 ∧
      Base64.rawURLEncoding.encodeToString (List.replicate sessionIDBytes 5) ∉
        afterTwo.minted := by
  decide +kernel

/-- A login right after the second challenge finds its nonce. -/
theorem login_finds_second_nonce :
    ∃ p, afterTwo.pending = some p ∧
      loginNonce sampleSetup afterTwo (drawOf 5) sampleRequest = .ok (p.sid, p.nonce) := by
  obtain ⟨hpending, hclock, hfresh⟩ := afterTwo_state
  obtain ⟨p, hp, htimes⟩ := (Option.any_eq_true _ _).mp hpending
  rw [decide_eq_true_eq] at htimes
  have hmax : cookieMaxAge sampleSetup.handler.config.nonceTTL = some 2 := by
    decide +kernel
  have httl : sampleSetup.handler.config.nonceTTL.toInt = 2000000000 := by decide +kernel
  refine ⟨p, hp, (login_finds_nonce_iff reach_afterTwo hp ?_ (freshDraw_drawOf hfresh)
    sampleRequest).mpr ?_⟩
  · rw [hclock, htimes.1, httl]
    decide
  · intro m hm
    rw [hmax] at hm
    cases hm
    rw [hclock, htimes.2]
    decide

/-- A second later the nonce has half of its lifetime left and the cookie is
gone: the login is given a new session, which has no nonce. -/
theorem login_misses_fresh_nonce :
    (machine sampleSetup).Reach atLogin ∧
      (atLogin.pending.any fun p =>
        decide ((atLogin.clock.ns : Int) - p.answered.ns ≤
            sampleSetup.handler.config.nonceTTL.toInt ∧
          atLogin.store.entries.lookup p.sid = some p.nonce)) = true ∧
      FreshDraw atLogin (drawOf 5) ∧
      loginNonce sampleSetup atLogin (drawOf 5) sampleRequest =
        .error (.typed .errChallengeNonceNotFound) := by
  have hreach := reach_afterTwo.step (a := Action.advance 1000000000) trivial
  have hminted : atLogin.minted = afterTwo.minted := by rw [atLogin, step]
  refine ⟨hreach, by decide +kernel, freshDraw_drawOf ?_, by decide +kernel⟩
  rw [hminted]
  exact afterTwo_state.2.2

end WebEid.SessionCookie
