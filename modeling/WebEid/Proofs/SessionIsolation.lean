import WebEid.Lib.Expiring
import WebEid.Lib.Interference
import WebEid.Proofs.NonceStores
import WebEid.Ref.Router

/-!
# Browsers that share a service

All sessions of a site share one nonce store. The in-process store even sweeps
the entries of every session whenever any of them asks for a challenge. This
file says what a browser can notice of the others: nothing, except that a login
that comes too late may be told that there is no nonce where it would have been
told that the nonce has expired.

* **The in-process store** (`sessions_isolated`). The relation between the run
  of all and the run of one is agreement on the entry of that one session, as
  far as it is fresh at some moment that is not before any `Put` served so far.
  A sweep by another session removes only what is stale at all such moments.

* **The Redis store** (`redis_sessions_isolated`). Here the server expires a
  key on its own clock, so the expiries belong to both runs and the relation is
  equality of the entry under the session's key. The answers are the same, not
  only up to the wording of a refusal, and the expiry of another session's key
  is as invisible as the other session.
-/

namespace WebEid.SessionIsolation

open Lib Exceptions Azugo Table
open NonceStores (nonceStep login_eq_nonceStep memoryTable memoryTable_put memoryTable_take)

/-! ## What a browser can tell apart -/

/-- Whether the nonce is gone or too old is not told apart. -/
def noNonce (err : GoError) : GoError :=
  match err.error? with
  | some .errChallengeNonceNotFound => .typed .errChallengeNonceNotFound
  | some .errChallengeNonceExpired => .typed .errChallengeNonceNotFound
  | _ => err

def view (resp : Option Response) : Option Response :=
  resp.map fun r => { r with answer := r.answer.mapError noNonce }

/-- Served in the session. -/
def inSession (P : Platform) (site : Site) (sid : String) (req : Request) : Bool :=
  site.sessionOf P req = some sid

/-- The clock does not run backwards: no `Put` read it at a later instant than
the requests behind it did. -/
def ClockOrder (a b : Request) : Prop :=
  a.env.putNow.ns ≤ b.env.putNow.ns ∧ a.env.putNow.ns ≤ b.env.timeNow.ns

/-! ## Login as a function of the nonce it was given -/

section Login

variable {σ : Type} (P : Platform) (site : Site) (req : Request)

/-- The rest of a login once the store has answered. -/
def loginReply (lreq : LoginRequest) (stored : Except GoError ChallengeNonce) : Reply Payload :=
  match stored with
  | .error err => ⟨none, .error err⟩
  | .ok stored =>
      let r := site.handler.finishLogin P req.env.validate req.env.issue req.env.trust lreq stored
      ⟨r.user, r.answer.map .login⟩

theorem call_login (S : ChallengeNonceStore Context σ) {lreq : LoginRequest}
    (hbody : req.body.login = .ok lreq) (ctx : Context) (st : σ) :
    site.call P S req ctx st .login =
      (loginReply P site req lreq
          (nonceStep S site.handler.config.nonceTTL req.env.timeNow ctx st).1,
        (nonceStep S site.handler.config.nonceTTL req.env.timeNow ctx st).2) := by
  simp only [Site.call, hbody, login_eq_nonceStep]
  rcases nonceStep S site.handler.config.nonceTTL req.env.timeNow ctx st with ⟨err | stored, st⟩
  · rfl
  · rfl

theorem call_login_error (S : ChallengeNonceStore Context σ) {err : GoError}
    (hbody : req.body.login = .error err) (ctx : Context) (st : σ) :
    site.call P S req ctx st .login = (⟨none, .error err⟩, st) := by
  simp only [Site.call, hbody]
  rfl

/-- The view of the answer is settled by the view of what the store answered. -/
theorem view_loginReply (lreq : LoginRequest) (set : Option SetCookie)
    {x y : Except GoError ChallengeNonce} (h : x.mapError noNonce = y.mapError noNonce) :
    view (some ⟨set, (loginReply P site req lreq x).user, (loginReply P site req lreq x).answer⟩) =
      view (some ⟨set, (loginReply P site req lreq y).user,
        (loginReply P site req lreq y).answer⟩) := by
  cases x with
  | error err =>
      cases y with
      | error err' =>
          have herr : noNonce err = noNonce err' := Except.error.inj h
          simp only [loginReply, view, Option.map_some, Except.mapError, herr]
      | ok n => cases h
  | ok n =>
      cases y with
      | error err => cases h
      | ok n' =>
          cases h
          rfl

end Login

/-! ## The in-process store -/

/-- Unexpired at the instant, as login tests it. -/
def fresh (site : Site) (q : Time) (n : ChallengeNonce) : Bool :=
  !n.expired q site.handler.config.nonceTTL

theorem expired_later {n : ChallengeNonce} {p q : Time} {ttl ttl' : Duration} (hle : ttl ≤ ttl')
    (hpq : p.ns ≤ q.ns) (h : n.expired p ttl' = true) : n.expired q ttl = true := by
  have hsub := Int64.le_iff_toInt_le.mp (Time.sub_le_sub hpq n.issuedAt)
  have httl := Int64.le_iff_toInt_le.mp hle
  rw [ChallengeNonce.expired, decide_eq_true_eq, Int64.lt_iff_toInt_lt] at h ⊢
  omega

/-- A store of the site: keyed by the session, and kept for at least as long
as login accepts. -/
structure StoreOf (site : Site) (s : InMemoryStore Context) : Prop where
  key : s.sessionKey = sessionKey
  ttl : site.handler.config.nonceTTL ≤ s.ttl

theorem storeOf_newSessionStore (site : Site) :
    StoreOf site (newSessionStore site.handler.config) := by
  refine ⟨rfl, ?_⟩
  rw [newSessionStore, newInMemoryStore]
  simp only []
  split
  next hle => exact Int64.le_trans hle (by decide)
  next => exact Int64.le_refl _

theorem StoreOf.put {site : Site} {s : InMemoryStore Context} (h : StoreOf site s) (now : Time)
    (ctx : Context) (n : ChallengeNonce) : StoreOf site (InMemoryStore.put now ctx n s).2 :=
  ⟨by rw [InMemoryStore.put_sessionKey, h.key], by rw [InMemoryStore.put_ttl]; exact h.ttl⟩

theorem StoreOf.getAndRemove {site : Site} {s : InMemoryStore Context} (h : StoreOf site s)
    (ctx : Context) : StoreOf site (InMemoryStore.getAndRemove ctx s).2 :=
  ⟨by rw [InMemoryStore.getAndRemove_sessionKey, h.key],
    by rw [InMemoryStore.getAndRemove_ttl]; exact h.ttl⟩

/-- The two stores hold the same nonce for the session, as far as any login
from now on can see. -/
structure Related (site : Site) (sid : String) (past : List Request)
    (s t : InMemoryStore Context) : Prop where
  left : StoreOf site s
  right : StoreOf site t
  agree : ∀ q, (∀ b ∈ past, b.env.putNow.ns ≤ q.ns) →
    (memoryTable s sid).filter (fresh site q) = (memoryTable t sid).filter (fresh site q)

namespace Related

variable {site : Site} {sid : String} {past : List Request} {s t : InMemoryStore Context}

theorem refl {s : InMemoryStore Context} (h : StoreOf site s) : Related site sid [] s s :=
  ⟨h, h, fun _ _ => rfl⟩

theorem weaken (h : Related site sid past s t) (a : Request) : Related site sid (a :: past) s t :=
  ⟨h.left, h.right, fun q hq => h.agree q fun b hb => hq b (List.mem_cons_of_mem a hb)⟩

/-- Another session's `Put` sweeps only what nobody can use any more. -/
theorem put_other (h : Related site sid past s t) {ctx : Context} {key : String}
    (hkey : sessionKey ctx = .ok key) (hne : key ≠ sid) (a : Request) (n : ChallengeNonce) :
    Related site sid (a :: past) (InMemoryStore.put a.env.putNow ctx n s).2 t := by
  refine ⟨h.left.put _ _ _, h.right, ?_⟩
  intro q hq
  have hput : a.env.putNow.ns ≤ q.ns := hq a List.mem_cons_self
  rw [memoryTable_put (h.left.key ▸ hkey), Function.update_of_ne (Ne.symm hne),
    filter_filter_of_le]
  · exact h.agree q fun b hb => hq b (List.mem_cons_of_mem a hb)
  · intro n hfresh
    rw [fresh, Bool.not_eq_true'] at hfresh
    rw [Bool.not_eq_true', ← Bool.not_eq_true]
    intro hexp
    rw [expired_later h.left.ttl hput hexp] at hfresh
    cases hfresh

theorem put_own (h : Related site sid past s t) {ctx : Context} (hkey : sessionKey ctx = .ok sid)
    (a : Request) (n : ChallengeNonce) :
    Related site sid (a :: past) (InMemoryStore.put a.env.putNow ctx n s).2
      (InMemoryStore.put a.env.putNow ctx n t).2 := by
  refine ⟨h.left.put _ _ _, h.right.put _ _ _, ?_⟩
  intro q _
  rw [memoryTable_put (h.left.key ▸ hkey), memoryTable_put (h.right.key ▸ hkey),
    Function.update_self, Function.update_self]

theorem take_other (h : Related site sid past s t) {ctx : Context} {key : String}
    (hkey : sessionKey ctx = .ok key) (hne : key ≠ sid) (a : Request) :
    Related site sid (a :: past) (InMemoryStore.getAndRemove ctx s).2 t := by
  refine ⟨h.left.getAndRemove _, h.right, ?_⟩
  intro q hq
  rw [(memoryTable_take (h.left.key ▸ hkey)).2, Function.update_of_ne (Ne.symm hne)]
  exact (h.weaken a).agree q hq

theorem take_own (h : Related site sid past s t) {ctx : Context} (hkey : sessionKey ctx = .ok sid)
    (a : Request) :
    Related site sid (a :: past) (InMemoryStore.getAndRemove ctx s).2
      (InMemoryStore.getAndRemove ctx t).2 := by
  refine ⟨h.left.getAndRemove _, h.right.getAndRemove _, ?_⟩
  intro q _
  rw [(memoryTable_take (h.left.key ▸ hkey)).2, (memoryTable_take (h.right.key ▸ hkey)).2,
    Function.update_self, Function.update_self]

end Related

theorem sessionKey_some {sid key : String} (h : sessionKey ⟨some sid⟩ = .ok key) : key = sid :=
  (Option.some.inj (sessionKey_ok h)).symm

/-- What a login sees of the store is the session's nonce, if it is fresh. -/
theorem nonceStep_view {site : Site} {s : InMemoryStore Context} (h : StoreOf site s)
    {ctx : Context} {sid : String} (hkey : sessionKey ctx = .ok sid) (q : Time) :
    (nonceStep InMemoryStore.store site.handler.config.nonceTTL q ctx s).1.mapError noNonce =
      match (memoryTable s sid).filter (fresh site q) with
      | none => .error (.typed .errChallengeNonceNotFound)
      | some n => .ok n := by
  have hskey : s.sessionKey ctx = .ok sid := h.key ▸ hkey
  rw [nonceStep]
  cases hlook : s.entries.lookup sid with
  | none =>
      simp only [InMemoryStore.store, InMemoryStore.getAndRemove_of_none hskey hlook, memoryTable,
        hlook, Option.filter_none, Except.mapError]
      rfl
  | some n =>
      simp only [InMemoryStore.store, InMemoryStore.getAndRemove_of_some hskey hlook, memoryTable,
        hlook]
      cases hexp : n.expired q site.handler.config.nonceTTL with
      | true =>
          rw [Option.filter_some_neg (by simp [fresh, hexp]), if_pos rfl]
          rfl
      | false =>
          rw [Option.filter_some_pos (by simp [fresh, hexp]), if_neg Bool.false_ne_true]
          rfl

/-- The nonce a challenge of the session stores, if it gets as far. -/
def drawnFor (site : Site) (req : Request) (sid : String) : Option ChallengeNonce :=
  match sessionKey ⟨some sid⟩,
      site.handler.generator.generate req.env.nonceRandom req.env.now with
  | .ok _, .ok n => some n
  | _, _ => none

/-- A challenge fails before it reaches the store, or answers with the nonce it
stored. -/
theorem challenge_cases (P : Platform) (site : Site) (req : Request) (sid : String) :
    (drawnFor site req sid = none ∧ ∃ err, ∀ s, StoreOf site s →
      site.call P InMemoryStore.store req ⟨some sid⟩ s .challenge = (⟨none, .error err⟩, s)) ∨
    ∃ n, drawnFor site req sid = some n ∧ sessionKey ⟨some sid⟩ = .ok sid ∧
      ∀ s, StoreOf site s → site.call P InMemoryStore.store req ⟨some sid⟩ s .challenge =
        (⟨none, .ok (.challenge n.base64EncodedNonce)⟩,
          (InMemoryStore.put req.env.putNow ⟨some sid⟩ n s).2) := by
  rw [drawnFor]
  cases hgen : site.handler.generator.generate req.env.nonceRandom req.env.now with
  | error err =>
      refine Or.inl ⟨by split <;> first | rfl | contradiction, err, fun s _ => ?_⟩
      simp only [Site.call, Handler.challenge, ChallengeNonceGenerator.generateAndStoreNonce, hgen]
      rfl
  | ok n =>
      cases hkey : sessionKey ⟨some sid⟩ with
      | error err =>
          refine Or.inl ⟨rfl, err, fun s hs => ?_⟩
          simp only [Site.call, Handler.challenge, ChallengeNonceGenerator.generateAndStoreNonce,
            hgen, InMemoryStore.store, InMemoryStore.put_of_error (hs.key ▸ hkey)]
          rfl
      | ok key =>
          obtain rfl := sessionKey_some hkey
          refine Or.inr ⟨n, rfl, rfl, fun s hs => ?_⟩
          simp only [Site.call, Handler.challenge, ChallengeNonceGenerator.generateAndStoreNonce,
            hgen, InMemoryStore.store, InMemoryStore.put_of_key (hs.key ▸ hkey)]
          rfl

/-- The nonce a request puts into the store, with the reading of the clock its
sweep goes by. -/
def putOf (P : Platform) (site : Site) (req : Request) : Option (ChallengeNonce × Time) :=
  match site.route req, site.sessionOf P req with
  | some route, some sid =>
      if route.endpoint = .challenge then (drawnFor site req sid).map (·, req.env.putNow)
      else none
  | _, _ => none

/-- What an endpoint does to the store in a session. Only a challenge puts, and
only a login takes. -/
theorem call_store (P : Platform) {site : Site} (req : Request) (sid : String) (e : Endpoint)
    {st : InMemoryStore Context} (hst : StoreOf site st) :
    ((e = .challenge → drawnFor site req sid = none) ∧
      (site.call P InMemoryStore.store req ⟨some sid⟩ st e).2 = st) ∨
    (∃ n, e = .challenge ∧ drawnFor site req sid = some n ∧ sessionKey ⟨some sid⟩ = .ok sid ∧
      (site.call P InMemoryStore.store req ⟨some sid⟩ st e).2 =
        (InMemoryStore.put req.env.putNow ⟨some sid⟩ n st).2) ∨
    e = .login ∧ (site.call P InMemoryStore.store req ⟨some sid⟩ st e).2 =
      (InMemoryStore.getAndRemove ⟨some sid⟩ st).2 := by
  cases e with
  | challenge =>
      rcases challenge_cases P site req sid with ⟨hno, err, hcall⟩ | ⟨n, hn, hkey, hcall⟩
      · exact Or.inl ⟨fun _ => hno, by rw [hcall st hst]⟩
      · exact Or.inr (Or.inl ⟨n, rfl, hn, hkey, by rw [hcall st hst]⟩)
  | login =>
      cases hbody : req.body.login with
      | error err =>
          refine Or.inl ⟨nofun, ?_⟩
          rw [call_login_error P site req _ hbody]
      | ok lreq =>
          refine Or.inr (Or.inr ⟨rfl, ?_⟩)
          rw [call_login P site req _ hbody, NonceStores.nonceStep_state]
          rfl
  | validate | signingCertificate | finalize | jwks =>
      exact Or.inl ⟨nofun, rfl⟩

/-- A request leaves the store alone, or puts a nonce into its session, or takes
the session's out. -/
theorem serve_store (P : Platform) {site : Site} (req : Request) {st : InMemoryStore Context}
    (hst : StoreOf site st) :
    putOf P site req = none ∧ (site.serve P InMemoryStore.store req st).2 = st ∨
    ∃ sid, site.sessionOf P req = some sid ∧
      ((∃ n, putOf P site req = some (n, req.env.putNow) ∧ sessionKey ⟨some sid⟩ = .ok sid ∧
        (site.serve P InMemoryStore.store req st).2 =
          (InMemoryStore.put req.env.putNow ⟨some sid⟩ n st).2) ∨
      putOf P site req = none ∧ (site.serve P InMemoryStore.store req st).2 =
        (InMemoryStore.getAndRemove ⟨some sid⟩ st).2) := by
  cases hroute : site.route req with
  | none => exact Or.inl ⟨by simp only [putOf, hroute], by simp only [Site.serve, hroute]⟩
  | some route =>
      cases hguard : route.ensureSession with
      | false =>
          have hsession := Site.sessionOf_open (P := P) hroute hguard
          refine Or.inl ⟨by simp only [putOf, hroute, hsession], ?_⟩
          rw [Site.serve_open hroute hguard]
          rcases Site.unguarded_endpoint hroute hguard with he | he
          · rw [he]
            rfl
          · rw [he]
            rfl
      | true =>
          cases hsession : ensureSession P site.config req.host req.cookie
              req.env.sessionRandom with
          | error err =>
              have hof : site.sessionOf P req = none := by
                rw [Site.sessionOf_eq hroute hguard, hsession]
                rfl
              refine Or.inl ⟨by simp only [putOf, hroute, hof], ?_⟩
              rw [Site.serve_refused hroute hguard hsession]
          | ok r =>
              obtain ⟨sid, set⟩ := r
              have hof : site.sessionOf P req = some sid := by
                rw [Site.sessionOf_eq hroute hguard, hsession]
                rfl
              have hput : putOf P site req = if route.endpoint = .challenge then
                  (drawnFor site req sid).map (·, req.env.putNow) else none := by
                simp only [putOf, hroute, hof]
              rw [Site.serve_session hroute hguard hsession, hput]
              rcases call_store P req sid route.endpoint hst with
                ⟨hno, hcall⟩ | ⟨n, he, hn, hkey, hcall⟩ | ⟨he, hcall⟩
              · refine Or.inl ⟨?_, hcall⟩
                split
                next he => rw [hno he]; rfl
                next => rfl
              · exact Or.inr ⟨sid, hof, Or.inl ⟨n, by rw [if_pos he, hn]; rfl, hkey, hcall⟩⟩
              · exact Or.inr ⟨sid, hof, Or.inr ⟨by rw [he]; rfl, hcall⟩⟩

section Step

variable {P : Platform} {site : Site} {sid : String} {past : List Request} {req : Request}
  {s t : InMemoryStore Context}

/-- A request of the session is answered alike on both sides. -/
theorem serve_own (hmine : site.sessionOf P req = some sid)
    (hclock : ∀ b ∈ past, ClockOrder b req) (h : Related site sid past s t) :
    view (site.serve P InMemoryStore.store req s).1 =
        view (site.serve P InMemoryStore.store req t).1 ∧
      Related site sid (req :: past) (site.serve P InMemoryStore.store req s).2
        (site.serve P InMemoryStore.store req t).2 := by
  rcases Site.serve_cases P site InMemoryStore.store req with ⟨resp, hserve⟩ | hsession
  · rw [hserve, hserve]
    exact ⟨rfl, h.weaken req⟩
  · obtain ⟨sid', set, e, he, hof, hserve⟩ := hsession
    obtain rfl : sid' = sid := Option.some.inj (hof.symm.trans hmine)
    rw [hserve, hserve]
    rcases he with rfl | rfl
    · rcases challenge_cases P site req sid' with ⟨-, err, hcall⟩ | ⟨n, -, hkey, hcall⟩
      · rw [hcall s h.left, hcall t h.right]
        exact ⟨rfl, h.weaken req⟩
      · rw [hcall s h.left, hcall t h.right]
        exact ⟨rfl, h.put_own hkey req n⟩
    · cases hbody : req.body.login with
      | error err =>
          rw [call_login_error P site req _ hbody, call_login_error P site req _ hbody]
          exact ⟨rfl, h.weaken req⟩
      | ok lreq =>
          simp only [call_login P site req _ hbody, NonceStores.nonceStep_state]
          cases hkey : sessionKey ⟨some sid'⟩ with
          | error err =>
              simp only [nonceStep, InMemoryStore.store,
                InMemoryStore.getAndRemove_of_error (h.left.key ▸ hkey),
                InMemoryStore.getAndRemove_of_error (h.right.key ▸ hkey)]
              exact ⟨trivial, h.weaken req⟩
          | ok key =>
              obtain rfl := sessionKey_some hkey
              refine ⟨view_loginReply P site req lreq set ?_, h.take_own hkey req⟩
              rw [nonceStep_view h.left hkey, nonceStep_view h.right hkey,
                h.agree req.env.timeNow fun b hb => (hclock b hb).2]

/-- A request of another session, or of none, is not noticed. -/
theorem serve_other (hmine : site.sessionOf P req ≠ some sid) (h : Related site sid past s t) :
    Related site sid (req :: past) (site.serve P InMemoryStore.store req s).2 t := by
  rcases serve_store P req h.left with
    ⟨-, hserve⟩ | ⟨sid', hof, ⟨n, -, hkey, hserve⟩ | ⟨-, hserve⟩⟩
  · rw [hserve]
    exact h.weaken req
  · rw [hserve]
    exact h.put_other hkey (fun heq => hmine (heq ▸ hof)) req n
  · rw [hserve]
    cases hkey : sessionKey ⟨some sid'⟩ with
    | error err =>
        rw [InMemoryStore.getAndRemove_of_error (h.left.key ▸ hkey)]
        exact h.weaken req
    | ok key =>
        obtain rfl := sessionKey_some hkey
        exact h.take_other hkey (fun heq => hmine (heq ▸ hof)) req

end Step

theorem unwinding_memory (P : Platform) (site : Site) (sid : String) :
    Unwinding (inSession P site sid) (site.serve P InMemoryStore.store) view ClockOrder
      (Related site sid) where
  own := fun _ _ _ _ hmine hclock h => serve_own (of_decide_eq_true hmine) hclock h
  other := fun _ _ _ _ hmine _ h => serve_other (of_decide_eq_false hmine) h

/-- Along any run of requests, of any sessions and of none, a session is
answered as if the others had never called. -/
theorem sessions_isolated (P : Platform) (site : Site) (sid : String) (reqs : List Request)
    (hclock : reqs.Pairwise ClockOrder) :
    (answersOf (inSession P site sid) (site.serve P InMemoryStore.store) reqs
        (newSessionStore site.handler.config)).map view =
      (answers (site.serve P InMemoryStore.store) (reqs.filter (inSession P site sid))
        (newSessionStore site.handler.config)).map view :=
  (unwinding_memory P site sid).isolated reqs hclock _
    (Related.refl (storeOf_newSessionStore site))

/-! Two browsers, one of which is late. -/

def sampleConfig : SiteConfiguration where
  origins := ["https://example.org"]
  trustedCACertsPath := "/trust"
  nonceTTL := 300000000000
  ocspEnabled := false
  ocspRequestTimeout := 5000000000
  designatedOCSPURL := ""
  ocspNonceDisabledURLs := []
  signingHashPreference := ["SHA-256"]
  allowInsecureLocalhost := false
  ocspAllowedResponderURLs := []
  disallowedPolicyOIDs := []
  signingAcceptedPolicyOIDs := []
  sessionCookieName := "WEBEID_SESSION"
  enforceHostHeader := false

def sampleSite : Site where
  config := sampleConfig
  handler :=
    { store := .session 300000000000
      runtimeTrust := false
      ocspTransport := none
      assertionIssuer := none
      config := sampleConfig.toConfiguration
      validator := ⟨["https://example.org"], 0, none, []⟩
      generator := ⟨32⟩
      signer := ⟨["SHA-256"], some 0, none, []⟩
      trust := 0 }
  publishedKeys := none
  config_eq := rfl

def sampleBody : Body where
  login := .ok ⟨⟨"", "ES256", "", "web-eid:1.0", ""⟩⟩
  validate := .error (.text "")
  valid := fun _ => .ok ()
  signingCertificate := .error (.text "")
  finalize := .error (.text "")

/-- A request with this cookie, all of whose clock readings are this one. -/
def sampleRequest (method : Method) (path cookie : String) (now : Time) : Request where
  method := method
  path := path
  host := "example.org"
  cookie := cookie
  body := sampleBody
  env :=
    { sessionRandom := fun n => .ok (List.replicate n 0)
      nonceRandom := fun n => .ok (List.replicate n 1)
      now := now
      putNow := now
      timeNow := now
      validate := ⟨now, ⟨.error (.text ""), fun _ _ _ _ => .error (.text ""), now⟩⟩
      issue := ⟨.error (.text ""), now, fun _ _ => .error (.text "")⟩
      trust := fun _ => TrustStore.newRuntime
      range := id }

/-- The second browser's challenge sweeps the nonce of the first, which comes
back six minutes after it got it. -/
def sampleRun : List Request :=
  [sampleRequest .get "/auth/challenge" "AAAA" ⟨0⟩,
   sampleRequest .get "/auth/challenge" "BBBB" ⟨360000000000⟩,
   sampleRequest .post "/auth/login" "AAAA" ⟨360000000000⟩]

theorem sessions_isolated_late :
    sampleRun.Pairwise ClockOrder ∧
      (answersOf (inSession Platform.refusing sampleSite "AAAA")
          (sampleSite.serve Platform.refusing InMemoryStore.store) sampleRun
          (newSessionStore sampleSite.handler.config)).map view =
        (answers (sampleSite.serve Platform.refusing InMemoryStore.store)
          (sampleRun.filter (inSession Platform.refusing sampleSite "AAAA"))
          (newSessionStore sampleSite.handler.config)).map view := by
  have hclock : sampleRun.Pairwise ClockOrder := by
    simp [sampleRun, ClockOrder, sampleRequest]
  exact ⟨hclock, sessions_isolated _ _ _ _ hclock⟩

/-! ## The Redis store -/

section Redis

open NonceStores (Server client evict)

variable (P : Platform) (site : Site) (store : RedisStore.Store Context)

/-- A request as the server's clock stands, or the server dropping a key. -/
inductive Event where
  | request (clock : Uptime) (req : Request)
  | evict (clock : Uptime) (key : String)

/-- One event; the server answers nobody when it drops a key. -/
def serveRedis : Event → Server → Option Response × Server
  | .request clock req, st => site.serve P (store.store P (client clock)) req st
  | .evict clock key, st => (none, evict clock key st)

/-- The key of a session. -/
def slot (sid : String) : String := store.keyPrefix ++ sid

/-- The requests of the session, and the server dropping its key. -/
def seenBy (sid : String) : Event → Bool
  | .request _ req => inSession P site sid req
  | .evict _ key => key = slot store sid

variable {P site store}

theorem slot_ne {sid sid' : String} (h : sid ≠ sid') : slot store sid ≠ slot store sid' :=
  fun heq => h ((String.append_right_inj _).mp heq)

/-- A challenge fails without touching the server, or writes the session's
key. -/
theorem challenge_redis_cases (hkey : store.sessionKey = sessionKey) (clock : Uptime)
    (req : Request) (sid : String) :
    (∃ reply, ∀ st, site.call P (store.store P (client clock)) req ⟨some sid⟩ st .challenge =
      (reply, st)) ∨
    ∃ reply e, ∀ st, site.call P (store.store P (client clock)) req ⟨some sid⟩ st .challenge =
      (reply, st.insert (slot store sid) e) := by
  cases hgen : site.handler.generator.generate req.env.nonceRandom req.env.now with
  | error err =>
      refine Or.inl ⟨⟨none, .error err⟩, fun st => ?_⟩
      simp only [Site.call, Handler.challenge, ChallengeNonceGenerator.generateAndStoreNonce, hgen]
      rfl
  | ok n =>
      cases hsid : sessionKey ⟨some sid⟩ with
      | error err =>
          refine Or.inl ⟨⟨none, .error err⟩, fun st => ?_⟩
          simp only [Site.call, Handler.challenge, ChallengeNonceGenerator.generateAndStoreNonce,
            hgen, RedisStore.Store.store, RedisStore.Store.put, hkey, hsid]
          rfl
      | ok key =>
          obtain rfl := sessionKey_some hsid
          cases hjson : P.marshalNonce ⟨n.base64EncodedNonce, n.issuedAt⟩ with
          | error err =>
              refine Or.inl ⟨⟨none, .error err⟩, fun st => ?_⟩
              simp only [Site.call, Handler.challenge,
                ChallengeNonceGenerator.generateAndStoreNonce, hgen, RedisStore.Store.store,
                RedisStore.Store.put, hkey, hsid, hjson]
              rfl
          | ok payload =>
              refine Or.inr ⟨⟨none, .ok (.challenge n.base64EncodedNonce)⟩,
                ⟨payload, clock, store.ttl⟩, fun st => ?_⟩
              simp only [Site.call, Handler.challenge,
                ChallengeNonceGenerator.generateAndStoreNonce, hgen, RedisStore.Store.store,
                RedisStore.Store.put, hkey, hsid, hjson]
              rfl

/-- What `GetAndRemove` makes of the entry it found. -/
def readNonce (P : Platform) (e : Option NonceStores.Entry) : Except GoError ChallengeNonce :=
  match e with
  | none => .error (.typed .errChallengeNonceNotFound)
  | some e =>
      match P.unmarshalNonce e.value with
      | .error err => .error (wrap .errChallengeNonceNotFound err)
      | .ok sn => .ok ⟨sn.nonce, sn.issuedAt⟩

theorem getAndRemove_redis (hkey : store.sessionKey = sessionKey) (clock : Uptime) {sid : String}
    (hsid : sessionKey ⟨some sid⟩ = .ok sid) (st : Server) :
    (store.store P (client clock)).getAndRemove ⟨some sid⟩ st =
      (readNonce P (st.lookup (slot store sid)), st.erase (slot store sid)) := by
  simp only [RedisStore.Store.store, RedisStore.Store.getAndRemove, hkey, hsid, client, slot,
    readNonce]
  cases st.lookup (store.keyPrefix ++ sid) with
  | none => rfl
  | some e => cases hjson : P.unmarshalNonce e.value <;> simp only [Option.map_some, hjson]

/-- A login fails without touching the server, or is answered from the
session's key and deletes it. -/
theorem login_redis_cases (hkey : store.sessionKey = sessionKey) (clock : Uptime)
    (req : Request) (sid : String) :
    (∃ reply, ∀ st, site.call P (store.store P (client clock)) req ⟨some sid⟩ st .login =
      (reply, st)) ∨
    ∃ reply : Option NonceStores.Entry → Reply Payload, ∀ st,
      site.call P (store.store P (client clock)) req ⟨some sid⟩ st .login =
        (reply (st.lookup (slot store sid)), st.erase (slot store sid)) := by
  cases hbody : req.body.login with
  | error err => exact Or.inl ⟨_, call_login_error P site req _ hbody _⟩
  | ok lreq =>
      cases hsid : sessionKey ⟨some sid⟩ with
      | error err =>
          refine Or.inl ⟨loginReply P site req lreq (.error err), fun st => ?_⟩
          rw [call_login P site req _ hbody]
          simp only [nonceStep, RedisStore.Store.store, RedisStore.Store.getAndRemove, hkey, hsid]
      | ok key =>
          obtain rfl := sessionKey_some hsid
          refine Or.inr ⟨fun e => loginReply P site req lreq (readNonce P e >>= fun stored =>
            site.handler.checkExpiry req.env.timeNow stored >>= fun _ => .ok stored), fun st => ?_⟩
          rw [call_login P site req _ hbody, NonceStores.nonceStep_state,
            getAndRemove_redis hkey clock hsid]
          simp only [nonceStep, getAndRemove_redis hkey clock hsid]
          cases readNonce P (st.lookup (slot store key)) with
          | error err => rfl
          | ok stored =>
              simp only [bind_ok, Handler.checkExpiry]
              split <;> rfl

theorem lookup_evict (clock : Uptime) (key : String) (st : Server) (k : String) :
    (evict clock key st).lookup k =
      if key = k then
        (st.lookup k).filter fun e => !decide (e.ttl.toInt < (clock.ns : Int) - e.writtenAt.ns)
      else st.lookup k := by
  rw [evict]
  by_cases hk : key = k
  · subst hk
    rw [if_pos rfl]
    cases hlook : st.lookup key with
    | none => simp [hlook]
    | some e =>
        by_cases hold : e.ttl.toInt < (clock.ns : Int) - e.writtenAt.ns
        · simp only [if_pos hold]
          rw [AList.lookup_erase, Option.filter_some_neg (by simp [hold])]
        · simp only [if_neg hold]
          rw [hlook, Option.filter_some_pos (by simp [hold])]
  · rw [if_neg hk]
    cases st.lookup key with
    | none => rfl
    | some e =>
        simp only []
        split
        · exact AList.lookup_erase_ne (Ne.symm hk)
        · rfl

/-- A request leaves the server alone, writes the key of its session, or is
answered from that key and deletes it. -/
theorem request_redis_cases (P : Platform) (site : Site) (hkey : store.sessionKey = sessionKey)
    (clock : Uptime) (req : Request) :
    (∃ resp, ∀ st, serveRedis P site store (.request clock req) st = (resp, st)) ∨
    ∃ sid, site.sessionOf P req = some sid ∧
      ((∃ resp e, ∀ st, serveRedis P site store (.request clock req) st =
          (resp, st.insert (slot store sid) e)) ∨
        ∃ resp : Option NonceStores.Entry → Option Response, ∀ st,
          serveRedis P site store (.request clock req) st =
            (resp (st.lookup (slot store sid)), st.erase (slot store sid))) := by
  simp only [serveRedis]
  rcases Site.serve_cases P site (store.store P (client clock)) req with
    ⟨resp, hserve⟩ | ⟨sid, set, e, he, hof, hserve⟩
  · exact Or.inl ⟨resp, hserve⟩
  · rcases he with rfl | rfl
    · rcases challenge_redis_cases hkey clock req sid with ⟨reply, hcall⟩ | ⟨reply, e, hcall⟩
      · refine Or.inl ⟨some ⟨set, reply.user, reply.answer⟩, fun st => ?_⟩
        rw [hserve, hcall]
      · refine Or.inr ⟨sid, hof, Or.inl ⟨some ⟨set, reply.user, reply.answer⟩, e, fun st => ?_⟩⟩
        rw [hserve, hcall]
    · rcases login_redis_cases hkey clock req sid with ⟨reply, hcall⟩ | ⟨reply, hcall⟩
      · refine Or.inl ⟨some ⟨set, reply.user, reply.answer⟩, fun st => ?_⟩
        rw [hserve, hcall]
      · refine Or.inr ⟨sid, hof,
          Or.inr ⟨fun e => some ⟨set, (reply e).user, (reply e).answer⟩, fun st => ?_⟩⟩
        rw [hserve, hcall]

/-- What a request answers and writes depends on the key of its session only:
servers that agree on keys with that one among them answer alike and agree on
those keys afterwards. -/
theorem request_congr (P : Platform) (site : Site) (hkey : store.sessionKey = sessionKey)
    (clock : Uptime) (req : Request) (keys : String → Prop)
    (hin : ∀ sid, site.sessionOf P req = some sid → keys (slot store sid)) {s t : Server}
    (h : ∀ key, keys key → s.lookup key = t.lookup key) :
    (serveRedis P site store (.request clock req) s).1 =
        (serveRedis P site store (.request clock req) t).1 ∧
      ∀ key, keys key → (serveRedis P site store (.request clock req) s).2.lookup key =
        (serveRedis P site store (.request clock req) t).2.lookup key := by
  rcases request_redis_cases P site hkey clock req with
    ⟨resp, hserve⟩ | ⟨sid, hof, ⟨resp, e, hserve⟩ | ⟨resp, hserve⟩⟩
  · rw [hserve, hserve]
    exact ⟨rfl, h⟩
  · rw [hserve, hserve]
    refine ⟨rfl, fun key hmem => ?_⟩
    by_cases hs : key = slot store sid
    · rw [hs, AList.lookup_insert, AList.lookup_insert]
    · rw [AList.lookup_insert_ne hs, AList.lookup_insert_ne hs]
      exact h key hmem
  · rw [hserve, hserve, h _ (hin sid hof)]
    refine ⟨rfl, fun key hmem => ?_⟩
    by_cases hs : key = slot store sid
    · rw [hs, AList.lookup_erase, AList.lookup_erase]
    · rw [AList.lookup_erase_ne hs, AList.lookup_erase_ne hs]
      exact h key hmem

/-- And every other key is left alone. -/
theorem request_frame (P : Platform) (site : Site) (hkey : store.sessionKey = sessionKey)
    (clock : Uptime) (req : Request) {key : String}
    (hout : ∀ sid, site.sessionOf P req = some sid → key ≠ slot store sid) (st : Server) :
    (serveRedis P site store (.request clock req) st).2.lookup key = st.lookup key := by
  rcases request_redis_cases P site hkey clock req with
    ⟨resp, hserve⟩ | ⟨sid, hof, ⟨resp, e, hserve⟩ | ⟨resp, hserve⟩⟩
  · rw [hserve]
  · rw [hserve, AList.lookup_insert_ne (hout sid hof)]
  · rw [hserve, AList.lookup_erase_ne (hout sid hof)]

theorem unwinding_redis (P : Platform) (site : Site) {store : RedisStore.Store Context}
    (hkey : store.sessionKey = sessionKey) (sid : String) :
    Unwinding (seenBy P site store sid) (serveRedis P site store) id (fun _ _ => True)
      (fun _ s t => s.lookup (slot store sid) = t.lookup (slot store sid)) where
  own := by
    intro _ ev s t hmine _ h
    cases ev with
    | evict clock key =>
        refine ⟨rfl, ?_⟩
        simp only [serveRedis, lookup_evict, h]
    | request clock req =>
        have hof : site.sessionOf P req = some sid := of_decide_eq_true hmine
        have hin : ∀ sid', site.sessionOf P req = some sid' →
            slot store sid' = slot store sid := by
          intro sid' hof'
          rw [hof] at hof'
          cases hof'
          rfl
        have hagree : ∀ key, key = slot store sid → s.lookup key = t.lookup key := by
          rintro key rfl
          exact h
        obtain ⟨hresp, hkeys⟩ := request_congr P site hkey clock req (· = slot store sid) hin hagree
        exact ⟨hresp, hkeys _ rfl⟩
  other := by
    intro _ ev s t hmine _ h
    cases ev with
    | evict clock key =>
        have hne : key ≠ slot store sid := of_decide_eq_false hmine
        simp only [serveRedis, lookup_evict, if_neg hne]
        exact h
    | request clock req =>
        have hof : site.sessionOf P req ≠ some sid := of_decide_eq_false hmine
        have hout : ∀ sid', site.sessionOf P req = some sid' →
            slot store sid ≠ slot store sid' := by
          intro sid' hof'
          refine slot_ne ?_
          rintro rfl
          exact hof hof'
        exact (request_frame P site hkey clock req hout s).trans h

theorem new_sessionKey (key : SessionKeyFunc Context) (ttl : Duration)
    (keyPrefixes : List String) : (RedisStore.new key ttl keyPrefixes).sessionKey = key := by
  refine List.foldlRecOn (motive := fun s : RedisStore.Store Context => s.sessionKey = key)
    keyPrefixes RedisStore.withKeyPrefix rfl ?_
  intro s hs p _
  rw [RedisStore.withKeyPrefix]
  split
  · exact hs
  · exact hs

/-- With a Redis server behind the sites of a cluster a session is answered
exactly as if the others had never called and the server had never dropped a
key of theirs, whatever else it expires and when. -/
theorem redis_sessions_isolated (P : Platform) (site : Site) (ttl : Duration)
    (keyPrefixes : List String) (sid : String) (events : List Event) (st : Server) :
    let store := RedisStore.new sessionKey ttl keyPrefixes
    answersOf (seenBy P site store sid) (serveRedis P site store) events st =
      answers (serveRedis P site store) (events.filter (seenBy P site store sid)) st := by
  intro store
  have hkey := new_sessionKey sessionKey ttl keyPrefixes
  have hrun := (unwinding_redis P site hkey sid).isolated events
    (List.pairwise_of_forall fun _ _ => trivial) st rfl
  rwa [List.map_id, List.map_id] at hrun

end Redis

end WebEid.SessionIsolation
