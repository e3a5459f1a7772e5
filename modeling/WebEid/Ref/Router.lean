import WebEid.Ref.Session
import WebEid.Ref.Verifier

/-!
# The routes (`azugo/routes.go`, `handler.go`)

`Bind` puts six endpoints on a router. Four of them sit in the groups `/auth`
and `/sign` behind `EnsureSession`; `/auth/validate` and the key document are
registered beside the groups and skip it, and the key document only when
there is a key set to publish. `serve` is the whole service: it finds the
route, runs the middleware in front of it and calls the endpoint.

Every request makes at most one operation on the nonce store, and that
operation is atomic, so requests that overlap are served as if one came after
the other, in the order of those operations.
-/

namespace WebEid.Azugo

open Lib Exceptions Assertion

/-! ## The published keys -/

/-- The options of `New`: those that set a field `Settings` has, and the one
that sets the published key set. -/
inductive SiteOption where
  | handler (o : HandlerOption)
  | withPublishedJWKS (keys : Option KeySet)

namespace SiteOption

def handlerOption : SiteOption → Option HandlerOption
  | handler o => some o
  | withPublishedJWKS _ => none

/-- What an option does to `publishedKeys`: an issuer publishes its own set
only when none is there yet. -/
def publish (keys : Option KeySet) : SiteOption → Option KeySet
  | handler (.withAssertionIssuer (some iss)) =>
      if keys.isNone then some iss.keySet else keys
  | handler _ => keys
  | withPublishedJWKS (some ks) => some ks
  | withPublishedJWKS none => keys

end SiteOption

/-- A handler with what only its routes read. -/
structure Site where
  config : SiteConfiguration
  handler : Handler
  publishedKeys : Option KeySet
  config_eq : handler.config = config.toConfiguration

/-- `New`, with the published keys. -/
def newSite (P : Platform) (cfg : SiteConfiguration) (opts : List SiteOption) (source : Source)
    (stores : List TrustSnapshot) : Except GoError (Site × List TrustSnapshot) :=
  match hnew : new P cfg.toConfiguration (opts.filterMap SiteOption.handlerOption) source
      stores with
  | .error err => .error err
  | .ok (h, stores') =>
      .ok
        (⟨cfg, h, opts.foldl SiteOption.publish none, by
          obtain ⟨_, _, _, _, _, _, hcfg⟩ := new_ok hnew
          exact hcfg⟩, stores')

/-! ## Requests and responses -/

inductive Method where
  | get
  | post
  deriving DecidableEq, Repr

/-- What `ctx.Body.JSON` makes of the body, for each type an endpoint decodes
it into, and what `req.Validate` says. -/
structure Body where
  login : Except GoError LoginRequest
  validate : Except GoError ValidateRequest
  valid : ValidateRequest → Except GoError Unit
  signingCertificate : Except GoError SigningCertificateRequest
  finalize : Except GoError FinalizeRequest

/-- What the request meets outside of the store: the random source, read for
the session id and for the nonce, the clock, read by the generator, in `Put`
and in `login`, the surroundings of the two pipelines, the trust store, and
the order a range over a map takes. -/
structure Surroundings where
  sessionRandom : Nat → Except GoError Bytes
  nonceRandom : Nat → Except GoError Bytes
  now : Time
  putNow : Time
  timeNow : Time
  validate : ValidateEnv
  issue : IssueEnv
  trust : Nat → TrustSnapshot
  range : List KeyEntry → List KeyEntry

/-- A request; without a session cookie `cookie` is `""`. -/
structure Request where
  method : Method
  path : String
  host : String
  cookie : String
  body : Body
  env : Surroundings

inductive Payload where
  | challenge (nonce : String)
  | login (r : LoginResponse)
  | signingCertificate (r : SigningCertificateResponse)
  | finalize (r : FinalizeResponse)
  | jwks (doc : JWKS)

structure Response where
  setCookie : Option SetCookie
  user : Option User
  answer : Except GoError Payload

/-! ## The route table -/

inductive Endpoint where
  | challenge
  | login
  | validate
  | signingCertificate
  | finalize
  | jwks
  deriving DecidableEq, Repr

structure Route where
  method : Method
  path : String
  ensureSession : Bool
  endpoint : Endpoint
  deriving DecidableEq, Repr

/-- `g.Group(path)` with `EnsureSession` in use. -/
def sessionGroup (path : String) (routes : List (Method × String × Endpoint)) : List Route :=
  routes.map fun r => ⟨r.1, path ++ r.2.1, true, r.2.2⟩

/-- `Bind`. -/
def Site.bind (site : Site) : List Route :=
  sessionGroup "/auth" [(.get, "/challenge", .challenge), (.post, "/login", .login)] ++
  [⟨.post, "/auth/validate", false, .validate⟩] ++
  sessionGroup "/sign"
    [(.post, "/certificate", .signingCertificate), (.post, "/finalize", .finalize)] ++
  if site.publishedKeys.isSome then [⟨.get, "/.well-known/jwks.json", false, .jwks⟩] else []

/-- The route a request is for. -/
def Site.route (site : Site) (req : Request) : Option Route :=
  site.bind.find? fun r => r.method = req.method && r.path == req.path

/-! ## Serving a request -/

namespace Site

variable {σ : Type}

/-- The `jwks` endpoint. It is registered only with a key set to range over. -/
def jwks (P : Platform) (site : Site) (env : Surroundings) : Except GoError JWKS :=
  Assertion.jwks P (env.range (site.publishedKeys.getD KeySet.empty).keys.entries)

/-- The endpoint, on a request whose context the middleware has left so. -/
def call (P : Platform) (site : Site) (S : ChallengeNonceStore Context σ) (req : Request)
    (ctx : Context) (st : σ) : Endpoint → Reply Payload × σ
  | .challenge =>
      let r := site.handler.challenge S req.env.nonceRandom req.env.now req.env.putNow ctx st
      (⟨none, r.1.map .challenge⟩, r.2)
  | .login =>
      let r := site.handler.login P req.env.validate req.env.issue S req.env.timeNow req.env.trust
        ctx req.body.login st
      (⟨r.1.user, r.1.answer.map .login⟩, r.2)
  | .validate =>
      let r := site.handler.validate P req.env.validate req.env.issue req.env.trust
        req.body.validate req.body.valid
      (⟨r.user, r.answer.map .login⟩, st)
  | .signingCertificate =>
      (⟨none, (site.handler.signingCertificate P req.env.validate req.env.trust
        req.body.signingCertificate).map .signingCertificate⟩, st)
  | .finalize => (⟨none, (Handler.finalize P req.body.finalize).map .finalize⟩, st)
  | .jwks => (⟨none, (site.jwks P req.env).map .jwks⟩, st)

/-- The answer to a request; `none` is the router's own answer where nothing is
registered. -/
def serve (P : Platform) (site : Site) (S : ChallengeNonceStore Context σ) (req : Request)
    (st : σ) : Option Response × σ :=
  match site.route req with
  | none => (none, st)
  | some route =>
      if route.ensureSession then
        match ensureSession P site.config req.host req.cookie req.env.sessionRandom with
        | .error err => (some ⟨none, none, .error err⟩, st)
        | .ok (sid, set) =>
            let r := site.call P S req ⟨some sid⟩ st route.endpoint
            (some ⟨set, r.1.user, r.1.answer⟩, r.2)
      else
        let r := site.call P S req ⟨none⟩ st route.endpoint
        (some ⟨none, r.1.user, r.1.answer⟩, r.2)

/-- The store after these requests, one after the other. -/
def serveAll (P : Platform) (site : Site) (S : ChallengeNonceStore Context σ)
    (reqs : List Request) (st : σ) : σ :=
  reqs.foldl (fun st req => (site.serve P S req st).2) st

/-- The session a request is served in, if any. -/
def sessionOf (P : Platform) (site : Site) (req : Request) : Option String :=
  match site.route req with
  | none => none
  | some route =>
      if route.ensureSession then
        (ensureSession P site.config req.host req.cookie
          req.env.sessionRandom).toOption.map (·.1)
      else none

/-! ### What serving a request can do -/

/-- Only `validate` and the key document are outside the middleware. -/
theorem unguarded_endpoint {site : Site} {req : Request} {route : Route}
    (h : site.route req = some route) (hopen : route.ensureSession = false) :
    route.endpoint = .validate ∨ route.endpoint = .jwks := by
  have htable : ∀ r ∈ site.bind,
      r.ensureSession = false → r.endpoint = .validate ∨ r.endpoint = .jwks := by
    rw [bind]
    simp only [List.forall_mem_append]
    refine ⟨⟨⟨by decide, by decide⟩, by decide⟩, ?_⟩
    split <;> decide
  exact htable route (List.mem_of_find?_eq_some h) hopen

section Serve

variable {P : Platform} {site : Site} {req : Request} {route : Route}

theorem serve_open (hroute : site.route req = some route) (hopen : route.ensureSession = false)
    (S : ChallengeNonceStore Context σ) (st : σ) :
    site.serve P S req st =
      (some ⟨none, (site.call P S req ⟨none⟩ st route.endpoint).1.user,
        (site.call P S req ⟨none⟩ st route.endpoint).1.answer⟩,
        (site.call P S req ⟨none⟩ st route.endpoint).2) := by
  have hno : ¬ route.ensureSession = true := by rw [hopen]; exact Bool.false_ne_true
  simp only [serve, hroute, if_neg hno]

theorem serve_refused (hroute : site.route req = some route) (hguard : route.ensureSession = true)
    {err : GoError} (hsession : ensureSession P site.config req.host req.cookie
      req.env.sessionRandom = .error err) (S : ChallengeNonceStore Context σ) (st : σ) :
    site.serve P S req st = (some ⟨none, none, .error err⟩, st) := by
  simp only [serve, hroute, if_pos hguard, hsession]

theorem serve_session (hroute : site.route req = some route) (hguard : route.ensureSession = true)
    {sid : String} {set : Option SetCookie} (hsession : ensureSession P site.config req.host
      req.cookie req.env.sessionRandom = .ok (sid, set)) (S : ChallengeNonceStore Context σ)
    (st : σ) :
    site.serve P S req st =
      (some ⟨set, (site.call P S req ⟨some sid⟩ st route.endpoint).1.user,
        (site.call P S req ⟨some sid⟩ st route.endpoint).1.answer⟩,
        (site.call P S req ⟨some sid⟩ st route.endpoint).2) := by
  simp only [serve, hroute, if_pos hguard, hsession]

theorem sessionOf_eq (hroute : site.route req = some route) (hguard : route.ensureSession = true) :
    site.sessionOf P req =
      (ensureSession P site.config req.host req.cookie
        req.env.sessionRandom).toOption.map (·.1) := by
  simp only [sessionOf, hroute, if_pos hguard]

theorem sessionOf_open (hroute : site.route req = some route)
    (hopen : route.ensureSession = false) : site.sessionOf P req = none := by
  simp [sessionOf, hroute, hopen]

/-- A response is a refusal by the middleware, or the endpoint's, called in the
request's session. -/
theorem serve_some {S : ChallengeNonceStore Context σ} {st st' : σ} {resp : Response}
    (h : site.serve P S req st = (some resp, st')) :
    (∃ err, resp = ⟨none, none, .error err⟩ ∧ st' = st) ∨
    ∃ route, site.route req = some route ∧
      resp.user = (site.call P S req ⟨site.sessionOf P req⟩ st route.endpoint).1.user ∧
      resp.answer = (site.call P S req ⟨site.sessionOf P req⟩ st route.endpoint).1.answer ∧
      st' = (site.call P S req ⟨site.sessionOf P req⟩ st route.endpoint).2 := by
  cases hroute : site.route req with
  | none => simp [serve, hroute] at h
  | some route =>
      cases hguard : route.ensureSession with
      | false =>
          rw [serve_open hroute hguard] at h
          cases h
          exact Or.inr ⟨route, rfl, by rw [sessionOf_open hroute hguard]; exact ⟨rfl, rfl, rfl⟩⟩
      | true =>
          cases hsession : ensureSession P site.config req.host req.cookie
              req.env.sessionRandom with
          | error err =>
              rw [serve_refused hroute hguard hsession] at h
              cases h
              exact Or.inl ⟨err, rfl, rfl⟩
          | ok r =>
              obtain ⟨sid, set⟩ := r
              have hof : site.sessionOf P req = some sid := by
                rw [sessionOf_eq hroute hguard, hsession]
                rfl
              rw [serve_session hroute hguard hsession] at h
              cases h
              exact Or.inr ⟨route, rfl, by rw [hof]; exact ⟨rfl, rfl, rfl⟩⟩

end Serve

/-- The other endpoints never look at the store. -/
theorem call_stateless (P : Platform) (site : Site) (S : ChallengeNonceStore Context σ)
    (req : Request) (ctx : Context) {e : Endpoint} (hchallenge : e ≠ .challenge)
    (hlogin : e ≠ .login) : ∃ reply, ∀ st, site.call P S req ctx st e = (reply, st) := by
  cases e with
  | challenge => exact absurd rfl hchallenge
  | login => exact absurd rfl hlogin
  | validate => exact ⟨_, fun _ => rfl⟩
  | signingCertificate => exact ⟨_, fun _ => rfl⟩
  | finalize => exact ⟨_, fun _ => rfl⟩
  | jwks => exact ⟨_, fun _ => rfl⟩

/-- A request leaves the store alone and is answered whatever it holds, or it
calls `challenge` or `login` in its session. -/
theorem serve_cases (P : Platform) (site : Site) (S : ChallengeNonceStore Context σ)
    (req : Request) :
    (∃ resp, ∀ st, site.serve P S req st = (resp, st)) ∨
      ∃ sid set e, (e = .challenge ∨ e = .login) ∧ site.sessionOf P req = some sid ∧
        ∀ st, site.serve P S req st =
          (some ⟨set, (site.call P S req ⟨some sid⟩ st e).1.user,
            (site.call P S req ⟨some sid⟩ st e).1.answer⟩,
            (site.call P S req ⟨some sid⟩ st e).2) := by
  cases hroute : site.route req with
  | none => exact Or.inl ⟨none, fun st => by simp only [serve, hroute]⟩
  | some route =>
      cases hguard : route.ensureSession with
      | false =>
          have hserve := serve_open (P := P) hroute hguard S
          have he := unguarded_endpoint hroute hguard
          obtain ⟨reply, hcall⟩ := call_stateless P site S req ⟨none⟩ (e := route.endpoint)
            (by rcases he with he | he <;> simp [he]) (by rcases he with he | he <;> simp [he])
          exact Or.inl ⟨some ⟨none, reply.user, reply.answer⟩, fun st => by rw [hserve, hcall]⟩
      | true =>
          cases hsession : ensureSession P site.config req.host req.cookie
              req.env.sessionRandom with
          | error err => exact Or.inl ⟨_, serve_refused hroute hguard hsession S⟩
          | ok r =>
              obtain ⟨sid, set⟩ := r
              have hserve := serve_session hroute hguard hsession S
              by_cases he : route.endpoint = .challenge ∨ route.endpoint = .login
              · refine Or.inr ⟨sid, set, _, he, ?_, hserve⟩
                rw [sessionOf_eq hroute hguard, hsession]
                rfl
              · rw [not_or] at he
                obtain ⟨reply, hcall⟩ := call_stateless P site S req ⟨some sid⟩ he.1 he.2
                exact Or.inl ⟨some ⟨set, reply.user, reply.answer⟩, fun st => by rw [hserve, hcall]⟩

end Site

end WebEid.Azugo
