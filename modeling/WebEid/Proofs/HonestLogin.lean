import WebEid.Proofs.Acceptance
import WebEid.Proofs.SessionIsolation

/-!
# An honest browser gets in

The other results about login say whom it keeps out. This one is the other
half: a browser that asks for a challenge, has it signed by a card whose
certificate is fit to log in with, and sends the token back in time is logged
in as the person on the card (`honest_login_succeeds`). Before, between and
around the two requests any number of others may be served, of other sessions,
of none, or refused; what they do to the store in between is either to another
session's entry or a sweep, and a sweep keeps a nonce that is still in time.

With the nonces in Redis the two requests may reach different pods
(`honest_login_across_pods`). There is no sweep then: the server expires
entries on its own, at any moment its clock allows, so that clock is what the
login has to be in time for, beside the pod's.
-/

namespace WebEid.HonestLogin

open Lib Exceptions Azugo AuthTokenValidator SessionIsolation

/-! ## The card -/

/-- A card whose key goes with its certificate. -/
structure Card (P : Platform) where
  cert : Certificate
  der : Bytes
  algorithm : String
  hash : Hash
  sign : Bytes → Bytes
  parses : P.parseCertificate der = .ok cert
  hash_eq : Signature.hashFor algorithm = some hash
  verifies : ∀ data, Signature.verify P cert algorithm data (sign data) = .ok ()

/-- The token the browser makes of a nonce on a page of this origin. -/
def Card.token {P : Platform} (card : Card P) (origin nonce : String) : AuthToken where
  unverifiedCertificate := Base64.stdEncoding.encodeToString card.der
  algorithm := card.algorithm
  signature := Base64.stdEncoding.encodeToString
    (card.sign (P.hashSum card.hash (Go.bytes origin) ++ P.hashSum card.hash (Go.bytes nonce)))
  format := "web-eid:1.0"
  appVersion := ""

/-- What an eligible card signs for one of the site's origins is accepted. -/
theorem Card.accepted {P : Platform} (card : Card P) {env : ValidateEnv} {v : AuthTokenValidator}
    {trust : Nat → TrustSnapshot} (heligible : Eligible P env v trust card.cert) {origin : String}
    (horigin : origin ∈ v.origins) {nonce : String} (hnonce : nonce ≠ "") :
    (v.validate P env (card.token origin nonce) nonce).under trust = .ok card.cert := by
  have hread := Base64.decodeString_encodeToString Base64.sound_stdEncoding
  refine validate_iff.mpr
    { heligible with
      nonce_ne := hnonce
      carried := ⟨card.der, hread _, card.parses⟩
      signed := ⟨card.hash, _, card.hash_eq, hread _, origin, horigin, card.verifies _⟩ }

/-! ## The two requests

What a challenge and a login do, over any store. -/

section Requests

variable {P : Platform} {site : Site} {sid : String} {σ : Type} {S : ChallengeNonceStore Context σ}
  {st : σ}

/-- A challenge that is answered has put its nonce into its session. -/
theorem serve_challenge {req : Request} {st' : σ} {set : Option SetCookie} {user : Option User}
    {nonce : String} (hsession : site.sessionOf P req = some sid)
    (h : site.serve P S req st = (some ⟨set, user, .ok (.challenge nonce)⟩, st')) :
    S.put req.env.putNow ⟨some sid⟩ ⟨nonce, req.env.now⟩ st = (.ok (), st') := by
  obtain ⟨err, hresp, -⟩ | ⟨route, -, -, hanswer, rfl⟩ := Site.serve_some h
  · cases hresp
  rw [hsession] at hanswer ⊢
  replace hanswer := hanswer.symm
  generalize route.endpoint = e at hanswer ⊢
  cases e with
  | challenge =>
      simp only [Site.call, Handler.challenge, ChallengeNonceGenerator.generateAndStoreNonce]
        at hanswer ⊢
      cases hgen : site.handler.generator.generate req.env.nonceRandom req.env.now with
      | error err =>
          rw [hgen] at hanswer
          cases hanswer
      | ok n =>
          have hissued := ChallengeNonceGenerator.generate_issuedAt hgen
          simp only [hgen] at hanswer ⊢
          rcases hput : S.put req.env.putNow ⟨some sid⟩ n st with ⟨err | u, st''⟩
          · rw [hput] at hanswer
            cases hanswer
          · rw [hput] at hanswer
            cases hanswer
            rw [← hissued]
            exact hput
  | _ =>
      obtain ⟨_, -, hne⟩ := map_eq_ok hanswer
      cases hne

theorem route_login {req : Request} (hmethod : req.method = .post)
    (hpath : req.path = "/auth/login") (site : Site) :
    site.route req = some ⟨.post, "/auth/login", true, .login⟩ := by
  rw [Site.route, Site.bind, hmethod, hpath]
  split
  next => decide
  next => decide

/-- What a login comes to for the person on a card: the user of the request,
with the bare subject or an assertion of it as the answer. -/
structure LoggedIn (P : Platform) (site : Site) (req : Request) (cert : Certificate)
    (resp : Option Response) : Prop where
  user : ∃ set answer,
    resp = some ⟨set, some (userOf (subjectFromCertificate cert)), answer⟩
  plain : site.handler.assertionIssuer = none → ∃ set user,
    resp = some ⟨set, user, .ok (.login (.subject (subjectFromCertificate cert)))⟩
  asserted : ∀ iss tok, site.handler.assertionIssuer = some iss →
    iss.issue P req.env.issue (assertionSubject (subjectFromCertificate cert)) = .ok tok →
    ∃ set user,
      resp = some ⟨set, user, .ok (.login (.assertion tok (subjectFromCertificate cert)))⟩

/-- A login that takes the nonce its card has signed, and takes it in time,
logs the person on the card in. -/
theorem serve_login (card : Card P) {origin nonce : String} {issued : Time} {req : Request}
    (hmethod : req.method = .post) (hpath : req.path = "/auth/login")
    (hsession : site.sessionOf P req = some sid)
    (hbody : req.body.login = .ok ⟨card.token origin nonce⟩)
    (htake : (S.getAndRemove ⟨some sid⟩ st).1 = .ok ⟨nonce, issued⟩)
    (htime : req.env.timeNow.sub issued ≤ site.handler.config.nonceTTL)
    (hnonce : nonce ≠ "") (horigin : origin ∈ site.handler.validator.origins)
    (heligible : Eligible P req.env.validate site.handler.validator req.env.trust card.cert) :
    LoggedIn P site req card.cert (site.serve P S req st).1 := by
  have hroute := route_login hmethod hpath site
  rw [Site.sessionOf_eq hroute rfl] at hsession
  cases hensure : ensureSession P site.config req.host req.cookie req.env.sessionRandom with
  | error err =>
      rw [hensure] at hsession
      cases hsession
  | ok r =>
      obtain ⟨sid', set⟩ := r
      rw [hensure] at hsession
      obtain rfl : sid' = sid := Option.some.inj hsession
      have hfresh : (⟨nonce, issued⟩ : ChallengeNonce).expired req.env.timeNow
          site.handler.config.nonceTTL = false := by
        rw [ChallengeNonce.expired, decide_eq_false_iff_not, Int64.not_lt]
        exact htime
      have hverdict := card.accepted heligible horigin hnonce
      have hstep : (NonceStores.nonceStep S site.handler.config.nonceTTL req.env.timeNow
          ⟨some sid'⟩ st).1 = .ok ⟨nonce, issued⟩ := by
        refine toOption_eq_some_iff.mp ?_
        rw [NonceStores.nonceStep_decision, htake]
        exact Option.filter_some_pos (by simp [hfresh])
      rw [Site.serve_session hroute rfl hensure, call_login P site req _ hbody, hstep]
      simp only [loginReply, Handler.finishLogin, hverdict]
      refine ⟨⟨set, _, by rw [establish_user]⟩, ?_, ?_⟩
      · intro hnone
        rw [hnone]
        exact ⟨_, _, rfl⟩
      · intro iss tok hiss htok
        rw [hiss]
        simp only [establish, htok]
        exact ⟨_, _, rfl⟩

end Requests

/-! ## The nonce on its way -/

section Store

variable {P : Platform} {site : Site} {sid : String} {st : InMemoryStore Context}

/-- A request of another session leaves a nonce that is in time. -/
theorem serve_keeps (hst : StoreOf site st) {req : Request}
    (hother : site.sessionOf P req ≠ some sid) {n : ChallengeNonce}
    (hlook : st.entries.lookup sid = some n)
    (hfresh : n.expired req.env.putNow st.ttl = false) :
    StoreOf site (site.serve P InMemoryStore.store req st).2 ∧
      (site.serve P InMemoryStore.store req st).2.ttl = st.ttl ∧
      (site.serve P InMemoryStore.store req st).2.entries.lookup sid = some n := by
  rcases serve_store P req hst with
    ⟨-, hserve⟩ | ⟨sid', hof, ⟨m, -, hkey, hserve⟩ | ⟨-, hserve⟩⟩
  · rw [hserve]
    exact ⟨hst, rfl, hlook⟩
  · have hne : sid ≠ sid' := fun heq => hother (heq ▸ hof)
    rw [hserve]
    refine ⟨hst.put _ _ _, InMemoryStore.put_ttl _ _ _ _, ?_⟩
    rw [InMemoryStore.lookup_put (hst.key ▸ hkey), if_neg hne, hlook]
    exact Option.filter_some_pos (by simp [hfresh])
  · have hne : sid ≠ sid' := fun heq => hother (heq ▸ hof)
    rw [hserve]
    refine ⟨hst.getAndRemove _, InMemoryStore.getAndRemove_ttl _ _, ?_⟩
    cases hkey : sessionKey ⟨some sid'⟩ with
    | error err =>
        rw [InMemoryStore.getAndRemove_of_error (hst.key ▸ hkey)]
        exact hlook
    | ok key =>
        obtain rfl := sessionKey_some hkey
        have htable := (NonceStores.memoryTable_take (hst.key ▸ hkey)).2
        have hentry := congrFun htable sid
        rw [Function.update_of_ne hne] at hentry
        exact hentry.trans hlook

/-- So does a run of them, when the sweeps come before an instant at which the
nonce is still in time. -/
theorem serveAll_keeps {n : ChallengeNonce} {t : Time} (reqs : List Request)
    (hothers : ∀ req ∈ reqs, site.sessionOf P req ≠ some sid)
    (hclock : ∀ req ∈ reqs, req.env.putNow.ns ≤ t.ns)
    (hfresh : n.expired t site.handler.config.nonceTTL = false) (hst : StoreOf site st)
    (hlook : st.entries.lookup sid = some n) :
    StoreOf site (site.serveAll P InMemoryStore.store reqs st) ∧
      (site.serveAll P InMemoryStore.store reqs st).entries.lookup sid = some n := by
  induction reqs generalizing st with
  | nil => exact ⟨hst, hlook⟩
  | cons req reqs ih =>
      have hswept : n.expired req.env.putNow st.ttl = false := by
        rw [← Bool.not_eq_true]
        intro hexp
        rw [expired_later hst.ttl (hclock req List.mem_cons_self) hexp] at hfresh
        cases hfresh
      obtain ⟨hst', -, hlook'⟩ :=
        serve_keeps hst (hothers req List.mem_cons_self) hlook hswept
      exact ih (fun r hr => hothers r (List.mem_cons_of_mem req hr))
        (fun r hr => hclock r (List.mem_cons_of_mem req hr)) hst' hlook'

theorem serveAll_storeOf (reqs : List Request) (hst : StoreOf site st) :
    StoreOf site (site.serveAll P InMemoryStore.store reqs st) := by
  refine List.foldlRecOn reqs _ hst ?_
  intro st hst req _
  rcases serve_store P req hst with
    ⟨-, hserve⟩ | ⟨sid', -, ⟨m, -, -, hserve⟩ | ⟨-, hserve⟩⟩
  · rw [hserve]
    exact hst
  · rw [hserve]
    exact hst.put _ _ _
  · rw [hserve]
    exact hst.getAndRemove _

/-- What a `Put` that went well leaves behind. -/
theorem put_holds (hst : StoreOf site st) {now : Time} {n : ChallengeNonce}
    {st' : InMemoryStore Context}
    (h : InMemoryStore.store.put now ⟨some sid⟩ n st = (.ok (), st')) :
    sessionKey ⟨some sid⟩ = .ok sid ∧ StoreOf site st' ∧ st'.entries.lookup sid = some n := by
  cases hkey : sessionKey ⟨some sid⟩ with
  | error err =>
      rw [show InMemoryStore.store.put now ⟨some sid⟩ n st = _ from
        InMemoryStore.put_of_error (hst.key ▸ hkey) now n] at h
      cases h
  | ok key =>
      obtain rfl := sessionKey_some hkey
      obtain rfl : (InMemoryStore.put now ⟨some key⟩ n st).2 = st' := congrArg Prod.snd h
      refine ⟨rfl, hst.put _ _ _, ?_⟩
      rw [InMemoryStore.lookup_put (hst.key ▸ hkey), if_pos rfl]

end Store

/-- A browser that is answered a nonce, has it signed by an eligible card and
logs in before the nonce expires is logged in, whatever other sessions do in
the meantime. -/
theorem honest_login_succeeds {P : Platform} {site : Site} (card : Card P)
    {sid origin nonce : String} {past between : List Request} {challenge login : Request}
    {set : Option SetCookie} {user : Option User}
    (hanswer : (site.serve P InMemoryStore.store challenge
      (site.serveAll P InMemoryStore.store past (newSessionStore site.handler.config))).1 =
        some ⟨set, user, .ok (.challenge nonce)⟩)
    (hsession : site.sessionOf P challenge = some sid)
    (hothers : ∀ req ∈ between, site.sessionOf P req ≠ some sid)
    (hclock : ∀ req ∈ between, req.env.putNow.ns ≤ login.env.timeNow.ns)
    (hmethod : login.method = .post) (hpath : login.path = "/auth/login")
    (hsession' : site.sessionOf P login = some sid)
    (hbody : login.body.login = .ok ⟨card.token origin nonce⟩)
    (htime : login.env.timeNow.sub challenge.env.now ≤ site.handler.config.nonceTTL)
    (hnonce : nonce ≠ "") (horigin : origin ∈ site.handler.validator.origins)
    (heligible : Eligible P login.env.validate site.handler.validator login.env.trust card.cert) :
    LoggedIn P site login card.cert
      (site.serve P InMemoryStore.store login (site.serveAll P InMemoryStore.store
        (past ++ challenge :: between) (newSessionStore site.handler.config))).1 := by
  have hpast := serveAll_storeOf (P := P) past (storeOf_newSessionStore site)
  have hput := serve_challenge hsession (Prod.ext hanswer rfl)
  obtain ⟨hkey, hst, hlook⟩ := put_holds hpast hput
  have hfresh : (⟨nonce, challenge.env.now⟩ : ChallengeNonce).expired login.env.timeNow
      site.handler.config.nonceTTL = false := by
    rw [ChallengeNonce.expired, decide_eq_false_iff_not, Int64.not_lt]
    exact htime
  obtain ⟨hst', hlook'⟩ := serveAll_keeps between hothers hclock hfresh hst hlook
  have hruns : site.serveAll P InMemoryStore.store (past ++ challenge :: between)
      (newSessionStore site.handler.config) =
        site.serveAll P InMemoryStore.store between
          (site.serve P InMemoryStore.store challenge (site.serveAll P InMemoryStore.store past
            (newSessionStore site.handler.config))).2 := by
    simp only [Site.serveAll, List.foldl_append, List.foldl_cons]
  rw [hruns]
  refine serve_login card hmethod hpath hsession' hbody ?_ htime hnonce horigin heligible
  exact congrArg Prod.fst (InMemoryStore.getAndRemove_of_some (hst'.key ▸ hkey) hlook')

/-! A browser that logs in five nanoseconds after its challenge, with another
one's challenge in between. -/

def sampleNonce : String := Base64.stdEncoding.encodeToString (List.replicate 32 1)

def cardPlatform : Platform :=
  { Accepting.platform with
    marshalNonce := fun _ => .ok [1]
    unmarshalNonce := fun _ => .ok ⟨sampleNonce, ⟨0⟩⟩ }

def sampleCard : Card cardPlatform where
  cert := Accepting.cert
  der := [0]
  algorithm := "RS256"
  hash := .sha256
  sign := fun _ => [0]
  parses := rfl
  hash_eq := rfl
  verifies := fun _ => rfl

def sampleLogin : Request :=
  { sampleRequest .post "/auth/login" "AAAA" ⟨5⟩ with
    body := { sampleBody with
      login := .ok ⟨sampleCard.token "https://example.org" sampleNonce⟩ } }

theorem sampleCard_eligible :
    Eligible cardPlatform sampleLogin.env.validate sampleSite.handler.validator
      sampleLogin.env.trust sampleCard.cert where
  valid := by decide
  purpose := by decide
  policies := Or.inl rfl
  trusted := rfl
  unrevoked := fun _ h => nomatch h
  named := by decide

theorem honest_login_succeeds_sample :
    ∃ set user, (sampleSite.serve cardPlatform InMemoryStore.store sampleLogin
        (sampleSite.serveAll cardPlatform InMemoryStore.store
          [sampleRequest .get "/auth/challenge" "AAAA" ⟨0⟩,
            sampleRequest .get "/auth/challenge" "BBBB" ⟨3⟩]
          (newSessionStore sampleSite.handler.config))).1 =
      some ⟨set, user, .ok (.login (.subject (subjectFromCertificate Accepting.cert)))⟩ := by
  have hanswer : (sampleSite.serve cardPlatform InMemoryStore.store
      (sampleRequest .get "/auth/challenge" "AAAA" ⟨0⟩)
      (sampleSite.serveAll cardPlatform InMemoryStore.store []
        (newSessionStore sampleSite.handler.config))).1 =
        some ⟨none, none, .ok (.challenge sampleNonce)⟩ := rfl
  have hothers : ∀ req ∈ [sampleRequest .get "/auth/challenge" "BBBB" ⟨3⟩],
      sampleSite.sessionOf cardPlatform req ≠ some "AAAA" := by decide
  have hclock : ∀ req ∈ [sampleRequest .get "/auth/challenge" "BBBB" ⟨3⟩],
      req.env.putNow.ns ≤ sampleLogin.env.timeNow.ns := by decide
  exact (honest_login_succeeds sampleCard hanswer (by decide) hothers hclock rfl rfl (by decide) rfl
    (by decide) (by decide) (by decide) sampleCard_eligible).plain rfl

/-! ## Several pods and a Redis server

The challenge and the login may be served by different pods, each with a
configuration of its own, as long as they share the server and the prefix of
its keys. A nonce stays on the server until the server's clock says it is older
than its lifetime. -/

section Pods

open NonceStores (Server client evict)

variable {P : Platform} {store : RedisStore.Store Context} {sid : String} {st : Server}

/-- The server after these events, each on a pod. -/
def serveAllRedis (P : Platform) (store : RedisStore.Store Context) (events : List (Site × Event))
    (st : Server) : Server :=
  events.foldl (fun st ev => (serveRedis P ev.1 store ev.2 st).2) st

/-- Not a request of the session, and no expiry after this reading of the
server's clock. -/
def Elsewhere (P : Platform) (sid : String) (last : Uptime) (ev : Site × Event) : Prop :=
  match ev.2 with
  | .request _ req => ev.1.sessionOf P req ≠ some sid
  | .evict clock _ => clock.ns ≤ last.ns

theorem serveRedis_keeps (hkey : store.sessionKey = sessionKey) {last : Uptime}
    {ev : Site × Event} (hev : Elsewhere P sid last ev) {e : NonceStores.Entry}
    (hlook : st.lookup (slot store sid) = some e)
    (hlive : (last.ns : Int) - e.writtenAt.ns ≤ e.ttl.toInt) :
    (serveRedis P ev.1 store ev.2 st).2.lookup (slot store sid) = some e := by
  obtain ⟨site, event⟩ := ev
  cases event with
  | evict clock key =>
      have hclock : clock.ns ≤ last.ns := hev
      rw [serveRedis, lookup_evict, hlook]
      split
      · refine Option.filter_some_pos ?_
        simp only [Bool.not_eq_true', decide_eq_false_iff_not]
        omega
      · rfl
  | request clock req =>
      have hof : site.sessionOf P req ≠ some sid := hev
      rcases request_redis_cases P site hkey clock req with
        ⟨resp, hserve⟩ | ⟨sid', hof', hserve⟩
      · rw [hserve]
        exact hlook
      · have hne : slot store sid ≠ slot store sid' := slot_ne fun heq => hof (heq ▸ hof')
        rcases hserve with ⟨resp, e', hserve⟩ | ⟨resp, hserve⟩
        · rw [hserve, AList.lookup_insert_ne hne]
          exact hlook
        · rw [hserve, AList.lookup_erase_ne hne]
          exact hlook

theorem serveAllRedis_keeps (hkey : store.sessionKey = sessionKey) {e : NonceStores.Entry}
    (hlook : st.lookup (slot store sid) = some e) {last : Uptime}
    (hlive : (last.ns : Int) - e.writtenAt.ns ≤ e.ttl.toInt) (events : List (Site × Event))
    (hevents : ∀ ev ∈ events, Elsewhere P sid last ev) :
    (serveAllRedis P store events st).lookup (slot store sid) = some e := by
  refine List.foldlRecOn (motive := fun st : Server => st.lookup (slot store sid) = some e)
    events _ hlook ?_
  intro st hlook ev hev
  exact serveRedis_keeps hkey (hevents ev hev) hlook hlive

/-- What a `Put` that went well leaves on the server. -/
theorem put_holds_redis (hkey : store.sessionKey = sessionKey) {clock : Uptime} {now : Time}
    {n : ChallengeNonce} {st' : Server}
    (h : (store.store P (client clock)).put now ⟨some sid⟩ n st = (.ok (), st')) :
    sessionKey ⟨some sid⟩ = .ok sid ∧ ∃ payload,
      P.marshalNonce ⟨n.base64EncodedNonce, n.issuedAt⟩ = .ok payload ∧
      st'.lookup (slot store sid) = some ⟨payload, clock, store.ttl⟩ := by
  simp only [RedisStore.Store.store, RedisStore.Store.put, hkey] at h
  cases hsid : sessionKey ⟨some sid⟩ with
  | error err =>
      rw [hsid] at h
      cases h
  | ok key =>
      obtain rfl := sessionKey_some hsid
      simp only [hsid] at h
      split at h
      next => cases h
      next payload hpayload =>
        cases h
        exact ⟨rfl, payload, hpayload, AList.lookup_insert _⟩

/-- A browser whose challenge one pod answered logs in at another, whatever the
pods and the server do for others in the meantime, while both lifetimes last:
that of the key on the server's clock and that of the nonce on the pods'. -/
theorem honest_login_across_pods (card : Card P) {ttl : Duration} {keyPrefixes : List String}
    {podA podB : Site} {sid origin nonce : String} {between : List (Site × Event)}
    {challenge login : Request} {set : Option SetCookie} {user : Option User} {c₁ c₂ : Uptime}
    {st st' : Server}
    (hanswer : podA.serve P ((RedisStore.new sessionKey ttl keyPrefixes).store P (client c₁))
      challenge st = (some ⟨set, user, .ok (.challenge nonce)⟩, st'))
    (hjson : Encodes P.marshalNonce P.unmarshalNonce ⟨nonce, challenge.env.now⟩)
    (hsession : podA.sessionOf P challenge = some sid)
    (hothers : ∀ ev ∈ between, Elsewhere P sid c₂ ev)
    (hlive : (c₂.ns : Int) - c₁.ns ≤
      (RedisStore.new sessionKey ttl keyPrefixes : RedisStore.Store Context).ttl.toInt)
    (hmethod : login.method = .post) (hpath : login.path = "/auth/login")
    (hsession' : podB.sessionOf P login = some sid)
    (hbody : login.body.login = .ok ⟨card.token origin nonce⟩)
    (htime : login.env.timeNow.sub challenge.env.now ≤ podB.handler.config.nonceTTL)
    (hnonce : nonce ≠ "") (horigin : origin ∈ podB.handler.validator.origins)
    (heligible : Eligible P login.env.validate podB.handler.validator login.env.trust card.cert) :
    LoggedIn P podB login card.cert
      (podB.serve P ((RedisStore.new sessionKey ttl keyPrefixes).store P (client c₂)) login
        (serveAllRedis P (RedisStore.new sessionKey ttl keyPrefixes) between st')).1 := by
  have hkey := new_sessionKey sessionKey ttl keyPrefixes
  obtain ⟨hsid, payload, hpayload, hlook⟩ :=
    put_holds_redis hkey (serve_challenge hsession hanswer)
  have hkept := serveAllRedis_keeps hkey hlook hlive between hothers
  refine serve_login card hmethod hpath hsession' hbody ?_ htime hnonce horigin heligible
  rw [getAndRemove_redis hkey c₂ hsid, hkept]
  simp only [readNonce, Encodes.read hjson hpayload]

end Pods

/-! The same browser, challenged by one pod and logged in by another whose
nonces live shorter, with a look of the server at the key in between. -/

def strictConfig : SiteConfiguration := { sampleConfig with nonceTTL := 60000000000 }

def strictSite : Site where
  config := strictConfig
  handler := { sampleSite.handler with config := strictConfig.toConfiguration }
  publishedKeys := none
  config_eq := rfl

theorem returned_fits : 9 < 2 ^ 63 := by decide

def returned : Uptime := ⟨9, returned_fits⟩

def sampleStore (clock : Uptime) : ChallengeNonceStore Context NonceStores.Server :=
  (RedisStore.new sessionKey 300000000000 []).store cardPlatform (NonceStores.client clock)

theorem honest_login_across_pods_sample :
    ∃ st', sampleSite.serve cardPlatform (sampleStore .zero)
        (sampleRequest .get "/auth/challenge" "AAAA" ⟨0⟩) ∅ =
          (some ⟨none, none, .ok (.challenge sampleNonce)⟩, st') ∧
      LoggedIn cardPlatform strictSite sampleLogin Accepting.cert
        (strictSite.serve cardPlatform (sampleStore returned) sampleLogin
          (serveAllRedis cardPlatform (RedisStore.new sessionKey 300000000000 [])
            [(sampleSite, .evict returned "webeid:nonce:AAAA"),
              (strictSite, .request returned (sampleRequest .get "/auth/challenge" "BBBB" ⟨3⟩))]
            st')).1 := by
  have hanswer : sampleSite.serve cardPlatform (sampleStore .zero)
      (sampleRequest .get "/auth/challenge" "AAAA" ⟨0⟩) ∅ =
        (some ⟨none, none, .ok (.challenge sampleNonce)⟩,
          (∅ : NonceStores.Server).insert "webeid:nonce:AAAA" ⟨[1], .zero, 300000000000⟩) := rfl
  have hothers : ∀ ev ∈ [(sampleSite, Event.evict returned "webeid:nonce:AAAA"),
      (strictSite, Event.request returned (sampleRequest .get "/auth/challenge" "BBBB" ⟨3⟩))],
      Elsewhere cardPlatform "AAAA" returned ev := by
    rw [List.forall_mem_cons, List.forall_mem_singleton]
    refine ⟨Nat.le_refl 9, ?_⟩
    show strictSite.sessionOf cardPlatform _ ≠ some "AAAA"
    decide
  have hbody : sampleLogin.body.login =
      .ok ⟨sampleCard.token "https://example.org" sampleNonce⟩ := rfl
  exact ⟨_, hanswer, honest_login_across_pods sampleCard hanswer ⟨[1], rfl, rfl⟩ (by decide) hothers
    (by decide) rfl rfl (by decide) hbody (by decide) (by decide) (by decide) sampleCard_eligible⟩

end WebEid.HonestLogin
