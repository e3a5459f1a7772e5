import WebEid.Proofs.Acceptance
import WebEid.Proofs.Federation
import WebEid.Proofs.Freshness
import WebEid.Proofs.Revocation

/-!
# How long a revoked card still gets in

An authority revokes a card at some instant, and from then on its responders no
longer call the card good. What they said before can still be around: a
response is accepted until it is seventeen minutes old, two of age and fifteen
of skew, and since a response without a nonce passes, anyone on the path can
hand the service an earlier one. This file bounds what that comes to.

* **The service** (`revocation_takes_effect`). Seventeen minutes after the
  revocation no request establishes the card's holder any more, by whichever
  endpoint and from whatever state of the nonce store, and no signature is
  prepared with the card.

* **Its consumers** (`revocation_reaches_consumers`). An assertion outlives the
  check it rests on. A consumer stops accepting the last one when its lifetime
  and the consumer's leeway have passed as well, and the time the service took
  from the check to the signature.

Two things are asked of the outside world. A response that verifies and says
`good` is true of the card it names (`Truthful`). And a request is answered
about the card it names, now or from the past (`AnswersAsked`): the check itself
does not compare the two.
-/

namespace WebEid.RevocationDelay

open Lib Exceptions Ocsp Azugo Assertion AuthTokenValidator

/-- When each card was revoked, by its issuer and serial number. -/
abbrev Revocations := Certificate → Int → Option Time

/-- What verifies for an issuer and says `good` was made before the card it
names was revoked. -/
def Truthful (P : Platform) (revokedAt : Revocations) : Prop :=
  ∀ b issuer resp, P.parseResponse b issuer = .ok resp → resp.status = .good →
    ∀ t, revokedAt issuer resp.serialNumber = some t → resp.thisUpdate.ns < t.ns

/-- Responses may be old, but are about a card the request names. -/
def AnswersAsked (P : Platform) (env : OcspEnv) : Prop :=
  ∀ client url req bytes timeout b issuer resp, P.marshalRequest req = .ok bytes →
    env.exchange client url bytes timeout = .ok b → P.parseResponse b issuer = .ok resp →
    ∃ asked ∈ req.requestList, asked.serialNumber = resp.serialNumber

/-- The default maximum age and the default skew. -/
def delay : Int := 1020000000000

/-! ## One check -/

section Check

variable {P : Platform} {env : OcspEnv} {c : Checker} {cert issuer : Certificate}

/-- The bytes that were sent are a request for the certificate. -/
theorem buildRequest_serial {nonce : Option Bytes} {bytes : Bytes}
    (h : buildRequest P cert issuer nonce = .ok bytes) :
    ∃ req : OcspRequest, P.marshalRequest req = .ok bytes ∧
      ∀ asked ∈ req.requestList, asked.serialNumber = cert.serialNumber := by
  unfold buildRequest at h
  split at h
  next => cases h
  next key _ =>
    refine ⟨_, h, ?_⟩
    intro asked hasked
    rw [List.mem_singleton.mp hasked]

/-- Without a pinned responder certificate the response was verified with the
issuer, and on such a network it is about the certificate. -/
theorem fetch_asked (hpin : ∀ d, c.opts.designated = some d → d.responderCertificate = none)
    (hnet : AnswersAsked P env) {x : Exchange} (h : c.fetch P env cert issuer = .ok x) :
    P.parseResponse x.respBytes issuer = .ok x.resp ∧
      x.resp.serialNumber = cert.serialNumber := by
  rw [fetch_eq] at h
  obtain ⟨⟨responder, nonce, bytes⟩, hrequest, h⟩ := bind_eq_ok h
  obtain ⟨r, hr, hrequest⟩ := bind_eq_ok hrequest
  obtain ⟨n, -, hrequest⟩ := bind_eq_ok hrequest
  obtain ⟨b, hbuild, hrequest⟩ := bind_eq_ok hrequest
  cases hrequest
  obtain ⟨respBytes, hexchange, h⟩ := bind_eq_ok h
  obtain ⟨resp, hresp, h⟩ := bind_eq_ok h
  cases h
  have hnone : responder.responderCert = none := by
    refine Option.eq_none_iff_forall_ne_some.mpr ?_
    intro rc hrc
    obtain ⟨d, hd, -, hd'⟩ := (resolveResponder_ok_iff.mp hr).pinned hrc
    rw [hpin d hd] at hd'
    cases hd'
  have hparse : P.parseResponse respBytes issuer = .ok resp := by
    have hverify := mapError_eq_ok hresp
    rw [hnone] at hverify
    exact hverify
  obtain ⟨req, hmarshal, hserial⟩ := buildRequest_serial (mapError_eq_ok hbuild)
  obtain ⟨asked, hasked, heq⟩ :=
    hnet _ _ req bytes _ respBytes issuer resp hmarshal (mapError_eq_ok hexchange) hparse
  exact ⟨hparse, heq.symm.trans (hserial asked hasked)⟩

variable {revokedAt : Revocations} {t : Time}

/-- A check that passes does so before its window after the revocation ends. -/
theorem check_before_delay (htruth : Truthful P revokedAt) (hnet : AnswersAsked P env)
    (hpin : ∀ d, c.opts.designated = some d → d.responderCertificate = none)
    (hskew : c.opts.allowedResponseTimeSkew = defaultOptions.allowedResponseTimeSkew)
    (hage : c.opts.maxResponseThisUpdateAge = defaultOptions.maxResponseThisUpdateAge)
    (h : c.check P env cert issuer = .ok ())
    (hrevoked : revokedAt issuer cert.serialNumber = some t) : env.now.ns < t.ns + delay := by
  obtain ⟨x, hx, -, hfresh, hgood⟩ := check_ok_iff.mp h
  obtain ⟨hparse, hserial⟩ := fetch_asked hpin hnet hx
  rw [← hserial] at hrevoked
  have hmade := htruth _ _ _ hparse hgood t hrevoked
  have hskew' : c.opts.allowedResponseTimeSkew.toInt = 900000000000 := by rw [hskew]; rfl
  have hage' : c.opts.maxResponseThisUpdateAge.toInt = 120000000000 := by rw [hage]; rfl
  obtain ⟨-, hold, -⟩ :=
    (checkFreshness_inWindow (by omega) (by omega) (by omega)).mp hfresh
  rw [hskew', hage'] at hold
  rw [delay]
  omega

end Check

theorem policyChecker_unpinned (cfg : Configuration) (rt : Option RoundTripper)
    (d : DesignatedServiceConfiguration) (h : (policyChecker cfg rt).opts.designated = some d) :
    d.responderCertificate = none := by
  have hd : designatedConfig cfg = some d := h
  rw [designatedConfig] at hd
  split at hd
  next => cases hd
  next =>
    cases hd
    rfl

/-! ## The service -/

/-- The holder of the card could not have been let in this way later than the
delay after its revocation. -/
def InTime (P : Platform) (revokedAt : Revocations) (trust : Nat → TrustSnapshot) (now : Int)
    (cert : Certificate) : Prop :=
  ∃ issuer, TrustStore.findIssuer P (trust 1) cert = some issuer ∧
    ∀ t, revokedAt issuer cert.serialNumber = some t → now < t.ns + delay

theorem inTime_of_unrevoked {P : Platform} {revokedAt : Revocations} {env : OcspEnv}
    {trust : Nat → TrustSnapshot} {cfg : Configuration} {rt : Option RoundTripper}
    {cert : Certificate} (htruth : Truthful P revokedAt) (hnet : AnswersAsked P env)
    (h : Unrevoked P env (policyChecker cfg rt) (trust 1) cert) :
    InTime P revokedAt trust env.now.ns cert := by
  obtain ⟨issuer, hissuer, hcheck⟩ := h
  refine ⟨issuer, hissuer, ?_⟩
  intro t hrevoked
  exact check_before_delay htruth hnet (policyChecker_unpinned cfg rt) rfl rfl hcheck hrevoked

section Service

variable {P : Platform} {cfg : SiteConfiguration} {opts : List SiteOption} {source : Source}
  {stores stores' : List TrustSnapshot} {site : Site}

theorem newSite_checkers (hnew : newSite P cfg opts source stores = .ok (site, stores'))
    (hocsp : cfg.ocspEnabled = true) :
    site.handler.validator.ocspChecker = some (policyChecker cfg.toConfiguration none) ∧
      site.handler.signer.ocspChecker =
        some (policyChecker cfg.toConfiguration site.handler.ocspTransport) ∧
      site.handler.signer.trust ≠ none := by
  rw [newSite] at hnew
  split at hnew
  · cases hnew
  next h stores'' hok =>
    cases hnew
    obtain ⟨hv, hs⟩ := new_checkers hocsp hok
    obtain ⟨_, -, -, -, -, htrust, -⟩ := new_ok hok
    refine ⟨hv, hs, ?_⟩
    rw [htrust]
    exact Option.some_ne_none _

/-- The certificate of a token in the request's body. -/
def Presents (P : Platform) (req : Request) (cert : Certificate) : Prop :=
  ∃ token der, ((∃ body, req.body.login = .ok body ∧ body.authToken = token) ∨
      ∃ body, req.body.validate = .ok body ∧ body.authToken = token) ∧
    Base64.stdEncoding.decodeString token.unverifiedCertificate = some der ∧
    P.parseCertificate der = .ok cert

/-- A user comes from an accepted token and is its certificate's subject. -/
theorem serve_user {σ : Type} {S : ChallengeNonceStore Context σ} {req : Request} {st st' : σ}
    {resp : Response} {u : User} (h : site.serve P S req st = (some resp, st'))
    (hu : resp.user = some u) :
    ∃ cert, Accepted P site req cert ∧ Presents P req cert ∧
      u = userOf (subjectFromCertificate cert) := by
  obtain ⟨err, rfl, -⟩ | ⟨route, -, huser, -, -⟩ := Site.serve_some h
  · cases hu
  rw [hu] at huser
  generalize route.endpoint = e at huser
  cases e with
  | login =>
      simp only [Site.call, login_verdict] at huser
      obtain ⟨cert, hverdict, rfl⟩ := establish_user_iff.mp huser.symm
      obtain ⟨body, stored, hbody, -, -, haccepts⟩ := loginVerdict_ok_iff.mp hverdict
      obtain ⟨der, hder, hparse⟩ := haccepts.carried
      exact ⟨cert, ⟨_, _, validate_iff.mpr haccepts⟩,
        ⟨_, der, Or.inl ⟨body, hbody, rfl⟩, hder, hparse⟩, rfl⟩
  | validate =>
      simp only [Site.call, validate_verdict] at huser
      obtain ⟨cert, hverdict, rfl⟩ := establish_user_iff.mp huser.symm
      obtain ⟨body, hbody, -, haccepts⟩ := validateVerdict_ok_iff.mp hverdict
      obtain ⟨der, hder, hparse⟩ := haccepts.carried
      exact ⟨cert, ⟨_, _, validate_iff.mpr haccepts⟩,
        ⟨_, der, Or.inr ⟨body, hbody, rfl⟩, hder, hparse⟩, rfl⟩
  | _ => cases huser

theorem serve_signingCertificate {σ : Type} {S : ChallengeNonceStore Context σ} {req : Request}
    {st st' : σ} {resp : Response} {r : SigningCertificateResponse}
    (h : site.serve P S req st = (some resp, st'))
    (hr : resp.answer = .ok (.signingCertificate r)) :
    site.handler.signingCertificate P req.env.validate req.env.trust
      req.body.signingCertificate = .ok r := by
  obtain ⟨err, rfl, -⟩ | ⟨route, -, -, hanswer, -⟩ := Site.serve_some h
  · cases hr
  replace hanswer := hanswer.symm.trans hr
  generalize route.endpoint = e at hanswer
  cases e with
  | signingCertificate =>
      obtain ⟨r', hr', heq⟩ := map_eq_ok hanswer
      cases heq
      exact hr'
  | _ =>
      obtain ⟨_, -, hne⟩ := map_eq_ok hanswer
      cases hne

theorem inTime_of_accepted {revokedAt : Revocations} (htruth : Truthful P revokedAt)
    (hnew : newSite P cfg opts source stores = .ok (site, stores'))
    (hocsp : cfg.ocspEnabled = true) {req : Request} (hnet : AnswersAsked P req.env.validate.ocsp)
    {cert : Certificate} (h : Accepted P site req cert) :
    InTime P revokedAt req.env.trust req.env.validate.ocsp.now.ns cert := by
  obtain ⟨token, nonce, hvalidate⟩ := h
  obtain ⟨hchecker, -, -⟩ := newSite_checkers hnew hocsp
  exact inTime_of_unrevoked htruth hnet ((validate_iff.mp hvalidate).unrevoked _ hchecker)

/-- With OCSP enabled, whoever a request establishes and whichever certificate
it prepares a signature for, the check was made no later than the delay after
the card's revocation. -/
theorem revocation_takes_effect {revokedAt : Revocations} (htruth : Truthful P revokedAt)
    (hnew : newSite P cfg opts source stores = .ok (site, stores'))
    (hocsp : cfg.ocspEnabled = true) {σ : Type} (S : ChallengeNonceStore Context σ) (req : Request)
    (hnet : AnswersAsked P req.env.validate.ocsp) {st st' : σ} {resp : Response}
    (hserve : site.serve P S req st = (some resp, st')) :
    (∀ u, resp.user = some u → ∃ cert, Presents P req cert ∧
      u = userOf (subjectFromCertificate cert) ∧
      InTime P revokedAt req.env.trust req.env.validate.ocsp.now.ns cert) ∧
    ∀ r, resp.answer = .ok (.signingCertificate r) → ∃ body der cert,
      req.body.signingCertificate = .ok body ∧
      Base64.stdEncoding.decodeString body.certificate = some der ∧
      P.parseCertificate der = .ok cert ∧
      InTime P revokedAt req.env.trust req.env.validate.ocsp.now.ns cert := by
  refine ⟨?_, ?_⟩
  · intro u hu
    obtain ⟨cert, haccepted, hpresents, huser⟩ := serve_user hserve hu
    exact ⟨cert, hpresents, huser, inTime_of_accepted htruth hnew hocsp hnet haccepted⟩
  · intro r hr
    obtain ⟨body, der, prepared, hbody, hder, hprepares, -⟩ :=
      signingCertificate_ok_iff.mp (serve_signingCertificate hserve hr)
    obtain ⟨-, hchecker, htrust⟩ := newSite_checkers hnew hocsp
    exact ⟨body, der, prepared.cert, hbody, hder, hprepares.carried,
      inTime_of_unrevoked htruth hnet (hprepares.unrevoked htrust _ hchecker)⟩

/-! ## The consumers -/

/-- A token that passes has the claims it was issued with, and passes no later
than its lifetime and the verifier's leeway allow. -/
theorem verify_issued {env : IssueEnv} {i : Issuer} {s : Subject} {tok : String}
    (hissue : i.issue P env s = .ok tok) (httl : 0 < i.ttl) (ht : 1 ≤ env.now.unix)
    (hfits : (env.now.add i.ttl).Fits)
    (hclaims : ∀ jti, env.genJTI = .ok jti →
      Encodes P.marshalClaims P.unmarshalClaims (i.claims s jti env.now))
    {v : Verifier} {now : Time} {c : Claims} (h : v.verify P now tok = .ok c) :
    (∃ jti, c = i.claims s jti env.now) ∧
      now.ns ≤ env.now.ns + i.ttl.toInt + v.leeway.toInt := by
  obtain ⟨jti, hdr, payload, r, s', hjti, -, hpayload, -, rfl⟩ := issue_inv hissue
  obtain ⟨header, body, signature, _, _, hsplit, -, -, -, hbody, hcheck⟩ := Verifier.verify_ok h
  rw [split_compact (dot_notMem_b64 _) (dot_notMem_b64 _) (dot_notMem_b64 _)] at hsplit
  cases hsplit
  rw [decodeClaims_b64, Encodes.read (hclaims jti hjti) hpayload] at hbody
  cases hbody
  refine ⟨⟨jti, rfl⟩, ?_⟩
  have httl' : 0 < i.ttl.toInt := Int64.lt_iff_toInt_lt.mp httl
  have hexp : (env.now.add i.ttl).unix ≠ 0 := by
    simp only [Time.unix, Time.add] at ht ⊢
    omega
  obtain ⟨-, -, -, hexpiry, -⟩ := Verifier.checkClaims_ok_iff.mp hcheck
  have hlast := hexpiry hexp
  rw [show (i.claims s jti env.now).expiry = (env.now.add i.ttl).unix from rfl,
    Time.ofUnix_unix hfits] at hlast
  simp only [Time.floorSecond, Time.add] at hlast
  omega

/-- A consumer that accepts an assertion does so no later than the delay after
the revocation, the time the service took to sign, the lifetime of the
assertion and its own leeway, together. -/
theorem revocation_reaches_consumers {revokedAt : Revocations} (htruth : Truthful P revokedAt)
    (hnew : newSite P cfg opts source stores = .ok (site, stores'))
    (hocsp : cfg.ocspEnabled = true) {key : SigningKey} {url audience : String} {ttl : Duration}
    {iss : Issuer} (hmade : newIssuer key url audience ttl = .ok iss)
    (hiss : site.handler.assertionIssuer = some iss) {σ : Type} {S : ChallengeNonceStore Context σ}
    {req : Request} (hnet : AnswersAsked P req.env.validate.ocsp)
    (ht : 1 ≤ req.env.issue.now.unix) (hfits : (req.env.issue.now.add iss.ttl).Fits)
    {st st' : σ} {set : Option SetCookie} {user : Option User} {tok : String}
    {subject : SubjectResponse}
    (hserve : site.serve P S req st =
      (some ⟨set, user, .ok (.login (.assertion tok subject))⟩, st'))
    (hclaims : ∀ jti, req.env.issue.genJTI = .ok jti → Encodes P.marshalClaims P.unmarshalClaims
      (iss.claims (assertionSubject subject) jti req.env.issue.now))
    {v : Verifier} {now : Time} {c : Claims} (hverify : v.verify P now tok = .ok c) :
    ∃ cert issuer jti,
      c = iss.claims (assertionSubject (subjectFromCertificate cert)) jti req.env.issue.now ∧
      TrustStore.findIssuer P (req.env.trust 1) cert = some issuer ∧
      ∀ t, revokedAt issuer cert.serialNumber = some t →
        now.ns < t.ns + delay + (req.env.issue.now.ns - req.env.validate.ocsp.now.ns) +
          iss.ttl.toInt + v.leeway.toInt := by
  obtain ⟨iss', cert, hiss', haccepted, rfl, -, hissue⟩ := serve_assertion hserve
  obtain rfl : iss' = iss := Option.some.inj (hiss'.symm.trans hiss)
  obtain ⟨-, -, -, -, httl⟩ := newIssuer_inv hmade
  obtain ⟨⟨jti, hc⟩, hlast⟩ := verify_issued hissue httl ht hfits hclaims hverify
  obtain ⟨issuer, hissuer, htime⟩ := inTime_of_accepted htruth hnew hocsp hnet haccepted
  refine ⟨cert, issuer, jti, hc, hissuer, ?_⟩
  intro t hrevoked
  have hchecked := htime t hrevoked
  omega

end Service

/-! A card that was revoked one nanosecond after its last good response, and
that response presented at the last moment. -/

def lastResponse : OcspResponse :=
  ⟨.good, 7, ⟨62135595785000000000⟩, ⟨0⟩, [], none⟩

def revokedNext : Revocations := fun _ serial =>
  if serial = 7 then some ⟨62135595785000000001⟩ else none

def revokedCert : Certificate :=
  { deliveryCert with
    serialNumber := 7
    notAfter := ⟨62135600000000000000⟩
    ocspServer := ["http://ocsp.lv"] }

/-- Only requests for the card can be sent, and they are all answered the
same. -/
def delayPlatform : Platform :=
  { deliveryPlatform with
    urlParse := policyPlatform.urlParse
    unmarshalPublicKey := policyPlatform.unmarshalPublicKey
    parseCertificate := fun _ => .ok revokedCert
    checkSignatureFrom := fun _ _ => .ok ()
    marshalRequest := fun r =>
      if r.requestList.any (·.serialNumber == 7) then .ok [1] else .error (.text "")
    parseResponse := fun _ _ => .ok lastResponse }

def delaySite : Site where
  config := federationConfig
  handler := { policyHandler none with assertionIssuer := some sampleCall.issuer }
  publishedKeys := some sampleCall.issuer.keySet
  config_eq := rfl

def delayRequest : Request :=
  { deliveryRequest .post "/auth/validate" with
    env := { (deliveryRequest .post "/auth/validate").env with
      validate := ⟨⟨62135596805000000000⟩, ⟨.ok [], fun _ _ _ _ => .ok [], ⟨62135596805000000000⟩⟩⟩
      trust := fun _ => newTrustSnapshot [default] } }

theorem newSite_delaySite :
    newSite delayPlatform federationConfig
        [.handler .withRuntimeTrust, .handler (.withAssertionIssuer (some sampleCall.issuer))]
        noTrustYet [] = .ok (delaySite, [TrustStore.newRuntime]) :=
  newSite_of_new (by decide +kernel) rfl rfl

theorem truthful_revokedNext : Truthful delayPlatform revokedNext := by
  intro b issuer resp hparse _ t hrevoked
  cases hparse
  cases hrevoked
  decide

theorem answersAsked_delayRequest : AnswersAsked delayPlatform delayRequest.env.validate.ocsp := by
  intro client url req bytes timeout b issuer resp hmarshal _ hparse
  cases hparse
  simp only [delayPlatform] at hmarshal
  split at hmarshal
  next hany =>
    obtain ⟨asked, hasked, heq⟩ := List.any_eq_true.mp hany
    exact ⟨asked, hasked, beq_iff_eq.mp heq⟩
  next => cases hmarshal

def delayToken : String :=
  b64 [1] ++ "." ++ b64 [2] ++ "." ++ b64 (Go.fillBytes p256ByteLen 7 ++ Go.fillBytes p256ByteLen 9)

theorem serve_delayRequest :
    delaySite.serve delayPlatform InMemoryStore.store delayRequest
        (newSessionStore policyConfiguration) =
      (some ⟨none, some (userOf deliverySubject),
        .ok (.login (.assertion delayToken deliverySubject))⟩,
        newSessionStore policyConfiguration) := rfl

theorem revocation_takes_effect_last :
    (delaySite.serve delayPlatform InMemoryStore.store delayRequest
        (newSessionStore policyConfiguration)).1 =
      some ⟨none, some (userOf deliverySubject),
        .ok (.login (.assertion delayToken deliverySubject))⟩ ∧
      InTime delayPlatform revokedNext delayRequest.env.trust 62135596805000000000 revokedCert := by
  refine ⟨by rw [serve_delayRequest], ?_⟩
  obtain ⟨cert, ⟨token, der, -, -, hparse⟩, -, hin⟩ :=
    (revocation_takes_effect truthful_revokedNext newSite_delaySite rfl InMemoryStore.store
      delayRequest answersAsked_delayRequest serve_delayRequest).1 _ rfl
  cases hparse
  exact hin

/-- The consumer's last moment: two minutes of lifetime, from the full second
on, and half a minute of leeway. -/
theorem revocation_reaches_consumers_last :
    ∃ c cert issuer, sampleVerifier.verify delayPlatform ⟨62135596955000000000⟩ delayToken = .ok c ∧
      c.nationalID = "PNOLV-32345678901" ∧
      TrustStore.findIssuer delayPlatform (delayRequest.env.trust 1) cert = some issuer ∧
      ∀ t, revokedNext issuer cert.serialNumber = some t →
        (62135596955000000000 : Int) < t.ns + delay + 500000000 + 120000000000 + 30000000000 := by
  have hkey : sampleVerifier.keyOf sampleCall.header = .ok sampleKey.key.pub := by decide
  have hverify : sampleVerifier.verify delayPlatform ⟨62135596955000000000⟩ delayToken =
      .ok (sampleCall.issuer.claims (assertionSubject deliverySubject) "jti"
        sampleCall.env.now) :=
    (verify_signed rfl hkey rfl (by decide) (by decide) rfl).trans (by decide +kernel)
  have hclaims : ∀ jti, delayRequest.env.issue.genJTI = .ok jti →
      Encodes delayPlatform.marshalClaims delayPlatform.unmarshalClaims
        (sampleCall.issuer.claims (assertionSubject deliverySubject) jti
          delayRequest.env.issue.now) := by
    intro jti hjti
    cases hjti
    exact ⟨[2], rfl, rfl⟩
  have hmade : newIssuer sampleKey "https://web-eid.internal" "svc:auth" 120000000000 =
      .ok sampleCall.issuer := rfl
  obtain ⟨cert, issuer, jti, hc, hissuer, htime⟩ :=
    revocation_reaches_consumers truthful_revokedNext newSite_delaySite rfl hmade rfl
      answersAsked_delayRequest (by decide) ⟨by decide, by decide⟩ serve_delayRequest hclaims
      hverify
  exact ⟨_, cert, issuer, hverify, rfl, hissuer, htime⟩

end WebEid.RevocationDelay
