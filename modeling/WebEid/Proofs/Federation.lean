import WebEid.Proofs.Assertions
import WebEid.Proofs.KeySets
import WebEid.Proofs.Login
import WebEid.Proofs.RevocationPolicy
import WebEid.Ref.Router

/-!
# From a login to the service that trusts it

A consumer of the service sees two of its answers: the assertion a login came
to, and the key document. This file follows both through the whole service.

* **What is published** (`active_key_published_iff`). The handler signs with
  the last issuer it was given, but publishes the set of the first one unless
  a set was given to it outright. Only the options decide whether the two go
  together.

* **What the consumer learns** (`assertion_delivered`). When they do, the
  document is served, read back, and accepts the assertion for as long as it
  is meant to be accepted; and the claims are the subject the browser was told
  about, which is the certificate's.
-/

namespace WebEid.Azugo

open Lib Exceptions Assertion

/-! ## The options -/

/-- The sets given with `WithPublishedJWKS`; a nil one counts for nothing. -/
def jwksArg : SiteOption → Option KeySet
  | .withPublishedJWKS keys => keys
  | .handler _ => none

/-- The issuers given with `WithAssertionIssuer`, nil or not. -/
def issuerArg : SiteOption → Option (Option Issuer)
  | .handler (.withAssertionIssuer iss) => some iss
  | _ => none

theorem foldl_publish (opts : List SiteOption) (keys : Option KeySet) :
    opts.foldl SiteOption.publish keys =
      (opts.filterMap jwksArg).getLast?.or
        (keys.or ((opts.filterMap fun o => (issuerArg o).join).head?.map Issuer.keySet)) := by
  induction opts generalizing keys with
  | nil => simp
  | cons o opts ih =>
      rw [List.foldl_cons, ih]
      match o with
      | .withPublishedJWKS none => rfl
      | .withPublishedJWKS (some ks) =>
          have harg : jwksArg (.withPublishedJWKS (some ks)) = some ks := rfl
          rw [List.filterMap_cons_some harg, List.getLast?_cons]
          cases (opts.filterMap jwksArg).getLast? <;> rfl
      | .handler (.withAssertionIssuer none) => rfl
      | .handler (.withAssertionIssuer (some iss)) =>
          cases keys <;> rfl
      | .handler (.withNonceStore _) => rfl
      | .handler .withRuntimeTrust => rfl
      | .handler (.withOCSPTransport _) => rfl

theorem foldl_assertionIssuer (opts : List SiteOption) (s : Settings) :
    ((opts.filterMap SiteOption.handlerOption).foldl HandlerOption.apply s).assertionIssuer =
      (opts.filterMap issuerArg).getLast?.getD s.assertionIssuer := by
  induction opts generalizing s with
  | nil => rfl
  | cons o opts ih =>
      match o with
      | .withPublishedJWKS _ => exact ih s
      | .handler (.withAssertionIssuer iss) =>
          refine (ih _).trans ?_
          rw [List.filterMap_cons_some
            (show issuerArg (.handler (.withAssertionIssuer iss)) = some iss from rfl),
            List.getLast?_cons]
          rfl
      | .handler (.withNonceStore none) => exact ih s
      | .handler (.withNonceStore (some id)) => exact ih _
      | .handler .withRuntimeTrust => exact ih _
      | .handler (.withOCSPTransport _) => exact ih _

theorem new_assertionIssuer {P : Platform} {cfg : Configuration} {opts : List HandlerOption}
    {source : Source} {stores stores' : List TrustSnapshot} {h : Handler}
    (hnew : new P cfg opts source stores = .ok (h, stores')) :
    h.assertionIssuer = (opts.foldl HandlerOption.apply
      ⟨.session cfg.nonceTTL, false, none, none⟩).assertionIssuer := by
  rw [new] at hnew
  obtain ⟨_, _, hnew⟩ := bind_eq_ok hnew
  obtain ⟨_, _, hnew⟩ := bind_eq_ok hnew
  obtain ⟨_, _, hnew⟩ := bind_eq_ok hnew
  obtain ⟨_, _, hnew⟩ := bind_eq_ok hnew
  cases hnew
  rfl

/-- What the options make of a site's issuer and of its published keys. -/
theorem newSite_ok {P : Platform} {cfg : SiteConfiguration} {opts : List SiteOption}
    {source : Source} {stores stores' : List TrustSnapshot} {site : Site}
    (h : newSite P cfg opts source stores = .ok (site, stores')) :
    site.handler.assertionIssuer = (opts.filterMap issuerArg).getLast?.join ∧
      site.publishedKeys = (opts.filterMap jwksArg).getLast?.or
        ((opts.filterMap fun o => (issuerArg o).join).head?.map Issuer.keySet) := by
  rw [newSite] at h
  split at h
  · cases h
  next hd stores'' hnew =>
    cases h
    refine ⟨?_, ?_⟩
    · rw [new_assertionIssuer hnew, foldl_assertionIssuer]
      cases (opts.filterMap issuerArg).getLast? <;> rfl
    · rw [foldl_publish, Option.none_or]

theorem newSite_of_new {P : Platform} {cfg : SiteConfiguration} {opts : List SiteOption}
    {source : Source} {stores stores' : List TrustSnapshot} {site : Site}
    (hnew : new P cfg.toConfiguration (opts.filterMap SiteOption.handlerOption) source stores =
      .ok (site.handler, stores'))
    (hconfig : site.config = cfg)
    (hkeys : site.publishedKeys = opts.foldl SiteOption.publish none) :
    newSite P cfg opts source stores = .ok (site, stores') := by
  obtain ⟨config, h, keys, hconfig_eq⟩ := site
  subst hconfig hkeys
  rw [newSite]
  split
  next err herr =>
    rw [hnew] at herr
    cases herr
  next h' stores'' hok =>
    rw [hnew] at hok
    cases hok
    rfl

/-- The key document is served exactly when there are keys to publish. -/
theorem route_jwks {req : Request} (hmethod : req.method = .get)
    (hpath : req.path = "/.well-known/jwks.json") (site : Site) :
    site.route req =
      if site.publishedKeys.isSome then some ⟨.get, "/.well-known/jwks.json", false, .jwks⟩
      else none := by
  rw [Site.route, Site.bind, hmethod, hpath]
  split
  · decide
  · decide

theorem get_keySet (i : Issuer) {kid : String} (hkid : kid ≠ "") (pub : EcdsaPublicKey) :
    i.keySet.get kid = some pub ↔ i.key.kid = kid ∧ i.key.key.pub = pub := by
  rw [Issuer.keySet]
  by_cases hempty : i.key.kid = ""
  · rw [KeySet.add, if_pos hempty]
    refine iff_of_false (by simp [KeySet.get, KeySet.empty]) ?_
    rintro ⟨rfl, -⟩
    exact hkid hempty
  · rw [KeySet.get_add_some hempty]
    split
    next heq => simp [heq]
    next hne =>
      refine iff_of_false (by simp [KeySet.get, KeySet.empty]) ?_
      rintro ⟨rfl, -⟩
      exact hne rfl

/-- A site that signs assertions always serves a key document, and signs with
the last issuer it was given. The document holds that issuer's key exactly when
the last published set does, or, without any such set, when the first issuer
given has the same key. -/
theorem active_key_published_iff {P : Platform} {cfg : SiteConfiguration} {opts : List SiteOption}
    {source : Source} {stores stores' : List TrustSnapshot} {site : Site} {iss : Issuer}
    (hnew : newSite P cfg opts source stores = .ok (site, stores'))
    (hiss : site.handler.assertionIssuer = some iss) (hkid : iss.key.kid ≠ "") :
    (opts.filterMap issuerArg).getLast? = some (some iss) ∧
    (∀ req : Request, req.method = .get → req.path = "/.well-known/jwks.json" →
      ∃ route, site.route req = some route ∧ route.endpoint = .jwks) ∧
    ((∃ ks, site.publishedKeys = some ks ∧ ks.get iss.key.kid = some iss.key.key.pub) ↔
      match (opts.filterMap jwksArg).getLast? with
      | some ks => ks.get iss.key.kid = some iss.key.key.pub
      | none => ∃ first, (opts.filterMap fun o => (issuerArg o).join).head? = some first ∧
          first.key.kid = iss.key.kid ∧ first.key.key.pub = iss.key.key.pub) := by
  obtain ⟨hlast, hkeys⟩ := newSite_ok hnew
  rw [hlast, Option.join_eq_some_iff] at hiss
  -- the active issuer is among those given, so there is a first one
  obtain ⟨first, hfirst⟩ : ∃ first,
      (opts.filterMap fun o => (issuerArg o).join).head? = some first := by
    obtain ⟨o, ho, harg⟩ := List.mem_filterMap.mp (List.mem_of_getLast? hiss)
    have hmem : iss ∈ opts.filterMap fun o => (issuerArg o).join :=
      List.mem_filterMap.mpr ⟨o, ho, by rw [harg]; rfl⟩
    cases hlist : opts.filterMap fun o => (issuerArg o).join with
    | nil => rw [hlist] at hmem; cases hmem
    | cons first rest => exact ⟨first, rfl⟩
  rw [hfirst, Option.map_some] at hkeys
  refine ⟨hiss, ?_, ?_⟩
  · intro req hmethod hpath
    rw [route_jwks hmethod hpath, hkeys, Option.isSome_or, Option.isSome_some, Bool.or_true,
      if_pos rfl]
    exact ⟨_, rfl, rfl⟩
  · rw [hkeys]
    cases (opts.filterMap jwksArg).getLast? with
    | some ks => simp
    | none => simp [hfirst, get_keySet first hkid]

/-! A key that was meant to take over from another. -/

def retiringIssuer : Issuer :=
  ⟨⟨"2026-05", ⟨.p256, 4, 5⟩, 6⟩, "https://web-eid.internal", "svc:auth", 120000000000⟩

def activeIssuer : Issuer :=
  ⟨⟨"2026-06", ⟨.p256, 1, 2⟩, 3⟩, "https://web-eid.internal", "svc:auth", 120000000000⟩

def federationConfig : SiteConfiguration :=
  { policyConfiguration with
    sessionCookieName := "WEBEID_SESSION"
    enforceHostHeader := true }

def replacedSite : Site where
  config := federationConfig
  handler := { policyHandler none with assertionIssuer := some activeIssuer }
  publishedKeys := some retiringIssuer.keySet
  config_eq := rfl

/-- Given the one issuer after the other, a site signs with the second and
publishes the first. -/
theorem active_key_unpublished :
    newSite policyPlatform federationConfig
        [.handler .withRuntimeTrust, .handler (.withAssertionIssuer (some retiringIssuer)),
          .handler (.withAssertionIssuer (some activeIssuer))] noTrustYet [] =
        .ok (replacedSite, [TrustStore.newRuntime]) ∧
      ¬ ∃ ks, replacedSite.publishedKeys = some ks ∧
        ks.get "2026-06" = some activeIssuer.key.key.pub := by
  have hsite : newSite policyPlatform federationConfig
      [.handler .withRuntimeTrust, .handler (.withAssertionIssuer (some retiringIssuer)),
        .handler (.withAssertionIssuer (some activeIssuer))] noTrustYet [] =
        .ok (replacedSite, [TrustStore.newRuntime]) :=
    newSite_of_new (by decide +kernel) rfl rfl
  have hissuer : replacedSite.handler.assertionIssuer = some activeIssuer := rfl
  refine ⟨hsite, ?_⟩
  intro hpublished
  obtain ⟨first, hfirst, hkid, -⟩ :=
    (active_key_published_iff hsite hissuer (by decide)).2.2.mp hpublished
  cases hfirst
  exact absurd hkid (by decide)

/-! ## From the answer to the consumer -/

/-- An assertion is only ever issued for the certificate of an accepted token,
and the user goes with it. -/
theorem establish_assertion {P : Platform} {env : IssueEnv} {ai : Option Issuer}
    {verdict : Except GoError Certificate} {tok : String} {subject : SubjectResponse}
    (h : (establish P env ai verdict).answer = .ok (.assertion tok subject)) :
    ∃ iss cert, ai = some iss ∧ verdict = .ok cert ∧ subject = subjectFromCertificate cert ∧
      (establish P env ai verdict).user = some (userOf subject) ∧
      iss.issue P env (assertionSubject subject) = .ok tok := by
  cases verdict with
  | error err => cases h
  | ok cert =>
      cases ai with
      | none => cases h
      | some iss =>
          have huser : (establish P env (some iss) (.ok cert)).user = some _ := establish_user
          rw [establish] at h
          split at h
          next => cases h
          next tok' htok =>
            cases h
            exact ⟨iss, cert, rfl, rfl, rfl, huser, htok⟩

/-- A token the site accepted, and its certificate. -/
def Accepted (P : Platform) (site : Site) (req : Request) (cert : Certificate) : Prop :=
  ∃ token nonce, (site.handler.validator.validate P req.env.validate token nonce).under
    req.env.trust = .ok cert

/-- Whichever endpoint the assertion came from, it is the active issuer's, for
the certificate of an accepted token. -/
theorem serve_assertion {P : Platform} {site : Site} {σ : Type}
    {S : ChallengeNonceStore Context σ} {req : Request} {st st' : σ} {set : Option SetCookie}
    {user : Option User} {tok : String} {subject : SubjectResponse}
    (h : site.serve P S req st =
      (some ⟨set, user, .ok (.login (.assertion tok subject))⟩, st')) :
    ∃ iss cert, site.handler.assertionIssuer = some iss ∧ Accepted P site req cert ∧
      subject = subjectFromCertificate cert ∧ user = some (userOf subject) ∧
      iss.issue P req.env.issue (assertionSubject subject) = .ok tok := by
  obtain ⟨err, hresp, -⟩ | ⟨route, -, huser, hanswer, -⟩ := Site.serve_some h
  · cases hresp
  replace hanswer := hanswer.symm
  generalize route.endpoint = e at huser hanswer
  cases e with
  | challenge | signingCertificate | finalize | jwks =>
      obtain ⟨_, -, hne⟩ := map_eq_ok hanswer
      cases hne
  | login =>
      simp only [Site.call, login_verdict] at huser hanswer
      obtain ⟨_, hanswer, hlogin⟩ := map_eq_ok hanswer
      cases hlogin
      obtain ⟨iss, cert, hiss, hverdict, hsubject, huser', hissue⟩ := establish_assertion hanswer
      obtain ⟨p, -, hverdict⟩ := bind_eq_ok hverdict
      obtain ⟨_, -, hverdict⟩ := bind_eq_ok hverdict
      exact ⟨iss, cert, hiss, ⟨_, _, hverdict⟩, hsubject, huser.trans huser', hissue⟩
  | validate =>
      simp only [Site.call, validate_verdict] at huser hanswer
      obtain ⟨_, hanswer, hlogin⟩ := map_eq_ok hanswer
      cases hlogin
      obtain ⟨iss, cert, hiss, hverdict, hsubject, huser', hissue⟩ := establish_assertion hanswer
      obtain ⟨_, -, hverdict⟩ := bind_eq_ok hverdict
      obtain ⟨_, -, hverdict⟩ := bind_eq_ok hverdict
      exact ⟨iss, cert, hiss, ⟨_, _, hverdict⟩, hsubject, huser.trans huser', hissue⟩

/-- What a token of `Issue` is made of. -/
theorem issue_inv {P : Platform} {env : IssueEnv} {i : Issuer} {s : Subject} {tok : String}
    (h : i.issue P env s = .ok tok) :
    ∃ jti hdr payload r s', env.genJTI = .ok jti ∧
      P.marshalHeader ⟨"ES256", "JWT", i.key.kid⟩ = .ok hdr ∧
      P.marshalClaims (i.claims s jti env.now) = .ok payload ∧
      env.ecdsaSign i.key.key
        (P.hashSum .sha256 (Go.bytes (b64 hdr ++ "." ++ b64 payload))) = .ok (r, s') ∧
      tok = b64 hdr ++ "." ++ b64 payload ++ "." ++
        b64 (Go.fillBytes p256ByteLen r ++ Go.fillBytes p256ByteLen s') := by
  rw [Issuer.issue] at h
  split at h
  next => cases h
  next =>
    obtain ⟨jti, hjti, h⟩ := bind_eq_ok h
    obtain ⟨hdr, hhdr, h⟩ := bind_eq_ok h
    obtain ⟨payload, hpayload, h⟩ := bind_eq_ok h
    obtain ⟨⟨r, s'⟩, hsign, h⟩ := bind_eq_ok h
    cases h
    exact ⟨jti, hdr, payload, r, s', hjti, hhdr, hpayload, hsign, rfl⟩

/-- The surroundings of an `Issue` call that its consumers can rely on: the
key signs, and the decoder reads what the encoder wrote. -/
structure Issues (P : Platform) (i : Issuer) (env : IssueEnv) (s : Subject) : Prop where
  sign : SignsAll P env i.key.key
  header : Encodes P.marshalHeader P.unmarshalHeader ⟨"ES256", "JWT", i.key.kid⟩
  claims : ∀ jti, env.genJTI = .ok jti →
    Encodes P.marshalClaims P.unmarshalClaims (i.claims s jti env.now)

section Verdict

variable {P : Platform} {env : IssueEnv} {i : Issuer} {s : Subject} {tok : String} {v : Verifier}

/-- To a verifier that has the issuer's key under its id, only the claims of a
token are left to test. -/
theorem verify_known (hissue : i.issue P env s = .ok tok) (henv : Issues P i env s)
    (hkey : v.keys.get i.key.kid = some i.key.key.pub) :
    ∃ jti, env.genJTI = .ok jti ∧
      ∀ now, v.verify P now tok = v.checkClaims now (i.claims s jti env.now) := by
  obtain ⟨jti, hdr, payload, r, s', hjti, hhdr, hpayload, hsign, rfl⟩ := issue_inv hissue
  obtain ⟨r', s'', hsign', hr, hs, hverify⟩ :=
    henv.sign (P.hashSum .sha256 (Go.bytes (b64 hdr ++ "." ++ b64 payload)))
  rw [hsign] at hsign'
  cases hsign'
  refine ⟨jti, hjti, fun now => ?_⟩
  exact verify_signed (Encodes.read henv.header hhdr) (Verifier.keyOf_ok_iff.mpr ⟨rfl, hkey⟩)
    (Encodes.read (henv.claims jti hjti) hpayload) hr hs hverify

/-- To one that does not know the id, a token is signed by an unknown key. -/
theorem verify_unknown (hissue : i.issue P env s = .ok tok) (henv : Issues P i env s)
    (hkey : v.keys.get i.key.kid = none) (now : Time) :
    v.verify P now tok = .error errUnknownKey := by
  obtain ⟨jti, hdr, payload, r, s', -, hhdr, -, -, rfl⟩ := issue_inv hissue
  rw [Verifier.verify, split_compact (dot_notMem_b64 _) (dot_notMem_b64 _) (dot_notMem_b64 _)]
  simp only [decodeHeader_b64, Encodes.read henv.header hhdr, Except.mapError, bind_ok,
    Verifier.keyOf, hkey]
  rfl

end Verdict

theorem newIssuer_inv {key : SigningKey} {iss aud : String} {ttl : Duration} {i : Issuer}
    (h : newIssuer key iss aud ttl = .ok i) :
    i.key.key.pub.curve = .p256 ∧ i.key.kid ≠ "" ∧ i.iss ≠ "" ∧ i.aud ≠ "" ∧ 0 < i.ttl := by
  rw [newIssuer] at h
  split at h
  next => cases h
  next hcurve =>
    split at h
    next => cases h
    next hkid =>
      split at h
      next => cases h
      next hnames =>
        cases h
        simp only [Bool.or_eq_true, decide_eq_true_eq, not_or] at hnames
        refine ⟨Decidable.not_not.mp hcurve, hkid, hnames.1, hnames.2, ?_⟩
        simp only []
        split
        next => decide
        next hpos => exact Int64.not_le.mp hpos

/-- The instants at which a verifier with this leeway is to accept a token
issued then. -/
def Window (issued : Time) (ttl leeway : Duration) (now : Time) : Prop :=
  issued.floorSecond.ns - leeway.toInt ≤ now.ns ∧
    now.ns ≤ (issued.add ttl).floorSecond.ns + leeway.toInt

theorem checkClaims_window {i : Issuer} {v : Verifier} {s : Subject} {jti : String} {t now : Time}
    (hiss : i.iss = v.iss) (haud : i.aud = v.aud) (httl : 0 < i.ttl) (ht : 1 ≤ t.unix)
    (hfits : (t.add i.ttl).Fits) (hnow : Window t i.ttl v.leeway now) :
    v.checkClaims now (i.claims s jti t) = .ok (i.claims s jti t) := by
  obtain ⟨hlo, hhi⟩ := hnow
  rw [checkClaims_claims hiss haud httl ht hfits, if_neg (by omega), if_neg (by omega)]

/-- A site whose key document speaks for its assertions. -/
structure Federated (P : Platform) (site : Site) (iss : Issuer) (ks : KeySet) : Prop where
  issuer : site.handler.assertionIssuer = some iss
  made : ∃ key url audience ttl, newIssuer key url audience ttl = .ok iss
  published : site.publishedKeys = some ks
  active : ks.get iss.key.kid = some iss.key.key.pub
  valid : ∀ kid pub, ks.get kid = some pub → Publishable P pub
  named : ks.get "" = none

theorem serve_jwks {P : Platform} {site : Site} {ks : KeySet} (hks : site.publishedKeys = some ks)
    {req : Request} (hmethod : req.method = .get) (hpath : req.path = "/.well-known/jwks.json")
    {doc : JWKS} (hdoc : jwks P (req.env.range ks.keys.entries) = .ok doc) {σ : Type}
    (S : ChallengeNonceStore Context σ) (st : σ) :
    site.serve P S req st = (some ⟨none, none, .ok (.jwks doc)⟩, st) := by
  have hroute := route_jwks hmethod hpath site
  rw [hks, Option.isSome_some, if_pos rfl] at hroute
  rw [Site.serve_open hroute rfl]
  simp only [Site.call, Site.jwks, hks, Option.getD_some, hdoc]
  rfl

/-- A consumer that reads the key document of a federated site accepts the
site's assertions while they last. What it learns is the subject the browser
was answered with, the user of the request and the certificate of the token. -/
theorem assertion_delivered {P : Platform} (hpoint : PointEncoding P) {site : Site} {iss : Issuer}
    {ks : KeySet} (hfed : Federated P site iss ks) (hjson : EncodesPublished P ks) {σ : Type}
    {S : ChallengeNonceStore Context σ} {req : Request} {st st' : σ} {set : Option SetCookie}
    {user : Option User} {tok : String} {subject : SubjectResponse}
    (hlogin : site.serve P S req st =
      (some ⟨set, user, .ok (.login (.assertion tok subject))⟩, st'))
    (henv : Issues P iss req.env.issue (assertionSubject subject))
    (ht : 1 ≤ req.env.issue.now.unix) (hfits : (req.env.issue.now.add iss.ttl).Fits)
    {docReq : Request} (hmethod : docReq.method = .get)
    (hpath : docReq.path = "/.well-known/jwks.json")
    (hrange : (docReq.env.range ks.keys.entries).Perm ks.keys.entries) :
    ∃ doc data keys v cert jti,
      (∀ st, site.serve P S docReq st = (some ⟨none, none, .ok (.jwks doc)⟩, st)) ∧
      P.marshalJWKS doc = .ok data ∧ keySetFromJWKS P data = .ok keys ∧
      newVerifier (some keys) iss.iss iss.aud [] = .ok v ∧
      Accepted P site req cert ∧ subject = subjectFromCertificate cert ∧
      user = some (userOf subject) ∧
      ∀ now, Window req.env.issue.now iss.ttl defaultLeeway now →
        v.verify P now tok =
          .ok (iss.claims (assertionSubject subject) jti req.env.issue.now) := by
  obtain ⟨iss', cert, hiss, haccepted, hsubject, huser, hissue⟩ := serve_assertion hlogin
  obtain rfl : iss' = iss := Option.some.inj (hiss.symm.trans hfed.issuer)
  obtain ⟨key, url, audience, ttl, hmade⟩ := hfed.made
  obtain ⟨-, -, hurl, haud, httl⟩ := newIssuer_inv hmade
  obtain ⟨data, keys, hdata, hkeys, hget⟩ :=
    roundTrips_of_publishable hpoint hjson hfed.named hfed.valid _ hrange
  obtain ⟨doc, hdoc, hdata⟩ := bind_eq_ok hdata
  have hv : newVerifier (some keys) iss'.iss iss'.aud [] =
      .ok ⟨keys, iss'.iss, iss'.aud, defaultLeeway⟩ := by
    simp [newVerifier, hurl, haud]
  obtain ⟨jti, hjti, hverify⟩ := verify_known (v := ⟨keys, iss'.iss, iss'.aud, defaultLeeway⟩)
    hissue henv ((hget _).trans hfed.active)
  refine ⟨doc, data, keys, _, cert, jti, serve_jwks hfed.published hmethod hpath hdoc S, hdata,
    hkeys, hv, haccepted, hsubject, huser, ?_⟩
  intro now hnow
  rw [hverify]
  exact checkClaims_window rfl rfl httl ht hfits hnow

/-! A stateless validation, and the consumer of its assertion. -/

def deliveryCert : Certificate :=
  { Accepting.cert with
    subject :=
      { (default : Name) with
        commonName := "A"
        serialNumber := "PNOLV-32345678901"
        country := ["LV"] } }

def deliverySubject : SubjectResponse := ⟨"A", "PNOLV-32345678901", "LV", "", ""⟩

def deliveryPlatform : Platform :=
  { publishingPlatform with
    parseCertificate := fun _ => .ok deliveryCert
    verify := fun _ _ => .ok ()
    rsaVerifyPKCS1v15 := fun _ _ _ _ => .ok ()
    ecdsaVerify := fun _ _ r s => decide (r = 7 ∧ s = 9)
    marshalHeader := fun _ => .ok [1]
    unmarshalHeader := fun _ => .ok sampleCall.header
    marshalClaims := fun _ => .ok [2]
    unmarshalClaims := fun _ =>
      .ok (sampleCall.issuer.claims (assertionSubject deliverySubject) "jti" sampleCall.env.now) }

def deliverySite : Site where
  config := federationConfig
  handler :=
    { policyHandler none with
      assertionIssuer := some sampleCall.issuer
      validator := Accepting.validator }
  publishedKeys := some sampleCall.issuer.keySet
  config_eq := rfl

def deliveryRequest (method : Method) (path : String) : Request where
  method := method
  path := path
  host := ""
  cookie := ""
  body :=
    { login := .error (.text "")
      validate := .ok ⟨Accepting.token "web-eid:1.0", "n"⟩
      valid := fun _ => .ok ()
      signingCertificate := .error (.text "")
      finalize := .error (.text "") }
  env :=
    { sessionRandom := fun _ => .error (.text "")
      nonceRandom := fun _ => .error (.text "")
      now := ⟨0⟩
      putNow := ⟨0⟩
      timeNow := ⟨0⟩
      validate := Accepting.env
      issue := sampleCall.env
      trust := Accepting.trust
      range := id }

theorem deliverySite_federated :
    Federated deliveryPlatform deliverySite sampleCall.issuer sampleCall.issuer.keySet where
  issuer := rfl
  made := ⟨sampleKey, "https://web-eid.internal", "svc:auth", 120000000000, rfl⟩
  published := rfl
  active := by decide
  valid := by
    intro kid pub hget
    by_cases hkid : kid = ""
    · subst hkid
      cases hget
    · obtain ⟨-, rfl⟩ := (get_keySet _ hkid _).mp hget
      exact ⟨rfl, p256Point, rfl⟩
  named := by decide

theorem assertion_delivered_sample :
    ∃ tok doc data keys v,
      (deliverySite.serve deliveryPlatform InMemoryStore.store
        (deliveryRequest .post "/auth/validate") (newSessionStore policyConfiguration)).1 =
          some ⟨none, some (userOf deliverySubject),
            .ok (.login (.assertion tok deliverySubject))⟩ ∧
      (∀ st, deliverySite.serve deliveryPlatform InMemoryStore.store
        (deliveryRequest .get "/.well-known/jwks.json") st =
          (some ⟨none, none, .ok (.jwks doc)⟩, st)) ∧
      deliveryPlatform.marshalJWKS doc = .ok data ∧
      keySetFromJWKS deliveryPlatform data = .ok keys ∧
      newVerifier (some keys) "https://web-eid.internal" "svc:auth" [] = .ok v ∧
      ∃ c, v.verify deliveryPlatform ⟨62135596806000000000⟩ tok = .ok c ∧
        c.nationalID = "PNOLV-32345678901" ∧ c.country = "LV" := by
  have hjson : EncodesPublished deliveryPlatform sampleCall.issuer.keySet := by
    intro order doc horder hdoc
    obtain rfl := List.perm_singleton.mp horder
    cases hdoc
    exact encodes_published [true]
  have hissues : Issues deliveryPlatform sampleCall.issuer sampleCall.env
      (assertionSubject deliverySubject) :=
    { sign := fun _ => ⟨7, 9, rfl, by decide, by decide, rfl⟩
      header := ⟨[1], rfl, rfl⟩
      claims := by
        intro jti hjti
        cases hjti
        exact ⟨[2], rfl, rfl⟩ }
  have hserve : deliverySite.serve deliveryPlatform InMemoryStore.store
      (deliveryRequest .post "/auth/validate") (newSessionStore policyConfiguration) =
        (some ⟨none, some (userOf deliverySubject),
          .ok (.login (.assertion (b64 [1] ++ "." ++ b64 [2] ++ "." ++
            b64 (Go.fillBytes p256ByteLen 7 ++ Go.fillBytes p256ByteLen 9)) deliverySubject))⟩,
          newSessionStore policyConfiguration) := by
    rfl
  have hpoint : PointEncoding deliveryPlatform :=
    ⟨publishingPlatform_points.bytes_eq, publishingPlatform_points.parse_iff⟩
  have hmethod : (deliveryRequest .get "/.well-known/jwks.json").method = .get := rfl
  obtain ⟨doc, data, keys, v, cert, jti, hdoc, hdata, hkeys, hv, -, -, -, hverify⟩ :=
    assertion_delivered hpoint deliverySite_federated hjson hserve hissues (by decide)
      ⟨by decide, by decide⟩ hmethod rfl (List.Perm.refl _)
  exact ⟨_, doc, data, keys, v, by rw [hserve], hdoc, hdata, hkeys, hv, _,
    hverify _ ⟨by decide, by decide⟩, rfl, rfl⟩

end WebEid.Azugo
