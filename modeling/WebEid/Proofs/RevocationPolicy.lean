import WebEid.Ref.Handler

/-!
# One revocation policy for authentication and for signing

`New` makes two OCSP checkers, one through the validator's builder and one
from `ocsp.Options` directly. The two paths have defaults of their own, and
these agree: timeout, skew, age, designated responder, nonce list and
allowlist come out the same for every configuration (`new_checkers`). The
transport does not. `WithOCSPTransport` reaches the signer only; the
validator's checker always talks through `http.DefaultTransport`, so the two
are observationally equal only while no other transport was given
(`revocation_policy_iff`).
-/

namespace WebEid.Ocsp

open Lib Exceptions

/-! ## What a check does to the world -/

/-- The `RoundTripper` a client sends through, where `dt` is the process's
`http.DefaultTransport`. -/
def Client.transport (dt : RoundTripper) : Client → Option RoundTripper
  | httpClient none => some dt
  | httpClient (some rt) => some rt
  | custom _ => none

/-- A network answers per transport. -/
abbrev Network := RoundTripper → String → Bytes → Duration → Except GoError Bytes

def Network.env (net : Network) (dt : RoundTripper) (nonce : Except GoError Bytes) (now : Time) :
    OcspEnv where
  generateNonce := nonce
  exchange := fun client url req timeout =>
    match client.bind (Client.transport dt) with
    | none => .error (.text "no transport")
    | some rt => net rt url req timeout
  now := now

structure Contact where
  transport : Option RoundTripper
  url : String
  nonce : Option Bytes
  reqBytes : Bytes
  timeout : Duration
  deriving DecidableEq

def Checker.contact (P : Platform) (dt : RoundTripper) (env : OcspEnv) (c : Checker)
    (cert issuer : Certificate) : Option Contact :=
  (c.request P env cert issuer).toOption.map fun r =>
    ⟨c.opts.client.bind (Client.transport dt), r.1.url, r.2.1, r.2.2, c.opts.requestTimeout⟩

/-- Two checkers that nobody can tell apart, by what they send or by what they
answer. -/
def ObsEq (P : Platform) (dt : RoundTripper) (c c' : Checker) : Prop :=
  ∀ (net : Network) (nonce : Except GoError Bytes) (now : Time) (cert issuer : Certificate),
    c.contact P dt (net.env dt nonce now) cert issuer =
        c'.contact P dt (net.env dt nonce now) cert issuer ∧
      c.check P (net.env dt nonce now) cert issuer = c'.check P (net.env dt nonce now) cert issuer

def Checker.withClient (c : Checker) (client : Client) : Checker :=
  ⟨{ c.opts with client := some client }⟩

theorem request_withClient (P : Platform) (env : OcspEnv) (c : Checker) (client : Client)
    (cert issuer : Certificate) :
    (c.withClient client).request P env cert issuer = c.request P env cert issuer := rfl

theorem contact_withClient (P : Platform) (dt : RoundTripper) (env : OcspEnv) (c : Checker)
    (client : Client) (cert issuer : Certificate) :
    (c.withClient client).contact P dt env cert issuer =
      (c.request P env cert issuer).toOption.map fun r =>
        ⟨client.transport dt, r.1.url, r.2.1, r.2.2, c.opts.requestTimeout⟩ := rfl

/-- A checker that never gets to the point of sending, on this platform. -/
def Checker.Silent (P : Platform) (c : Checker) : Prop :=
  ∀ env cert issuer, ∃ err, c.request P env cert issuer = .error err

theorem obsEq_of_transport {P : Platform} {dt : RoundTripper} {c : Checker} {a b : Client}
    (h : a.transport dt = b.transport dt) :
    ObsEq P dt (c.withClient a) (c.withClient b) := by
  intro net nonce now cert issuer
  have hexchange : (c.withClient a).exchange P (net.env dt nonce now) issuer =
      (c.withClient b).exchange P (net.env dt nonce now) issuer := by
    funext r
    simp only [Checker.exchange, Checker.withClient, Network.env, Option.bind_some, h]
  refine ⟨?_, ?_⟩
  · rw [contact_withClient, contact_withClient, h]
  · rw [check_eq, check_eq, request_withClient, request_withClient, hexchange]
    rfl

/-- Checkers that differ in the client are told apart by every request, unless
both clients send through one transport. -/
theorem obsEq_withClient_iff {P : Platform} {dt : RoundTripper} {c : Checker} {a b : Client} :
    ObsEq P dt (c.withClient a) (c.withClient b) ↔
      (a.transport dt ≠ b.transport dt → c.Silent P) := by
  constructor
  · intro hobs hne env cert issuer
    cases hreq : c.request P env cert issuer with
    | error err => exact ⟨err, rfl⟩
    | ok r =>
        -- only the nonce of the surroundings enters a request
        have hsame : ∀ net : Network,
            c.request P (net.env dt env.generateNonce env.now) cert issuer = .ok r :=
          fun _ => hreq
        have hcontact := (hobs (fun _ _ _ _ => .error (.text "")) env.generateNonce env.now cert
          issuer).1
        rw [contact_withClient, contact_withClient, hsame] at hcontact
        injection hcontact with hcontact
        injection hcontact with htransport
        exact absurd htransport hne
  · intro hsilent
    by_cases h : a.transport dt = b.transport dt
    · exact obsEq_of_transport h
    · intro net nonce now cert issuer
      obtain ⟨err, herr⟩ := hsilent h (net.env dt nonce now) cert issuer
      refine ⟨?_, ?_⟩
      · rw [contact_withClient, contact_withClient, herr]
        rfl
      · rw [check_eq, check_eq, request_withClient, request_withClient, herr]
        rfl

end WebEid.Ocsp

namespace WebEid.Azugo

open Lib Exceptions Ocsp

/-! ## The two checkers of a handler -/

/-- The revocation policy of a configuration, over a transport. -/
def policyChecker (cfg : Configuration) (rt : Option RoundTripper) : Checker where
  opts :=
    { client := some (.httpClient rt)
      requestTimeout := if cfg.ocspRequestTimeout ≤ 0 then 5000000000 else cfg.ocspRequestTimeout
      designated := designatedConfig cfg
      nonceDisabledURLs := cfg.ocspNonceDisabledURLs
      allowedResponderURLs := cfg.ocspAllowedResponderURLs
      allowedResponseTimeSkew := 900000000000
      maxResponseThisUpdateAge := 120000000000 }

theorem signerChecker_eq {cfg : Configuration} (hocsp : cfg.ocspEnabled = true)
    (rt : Option RoundTripper) : signerChecker cfg rt = some (policyChecker cfg rt) := by
  rw [signerChecker, if_pos hocsp]
  cases rt <;> rfl

theorem withPolicies_ok {cfg : Configuration} {b b' : AuthTokenValidatorBuilder}
    (h : withPolicies cfg b = .ok b') : ∃ oids, b' = { b with disallowedPolicies := oids } := by
  rw [withPolicies] at h
  split at h
  · obtain ⟨oids, -, h⟩ := bind_eq_ok h
    cases h
    exact ⟨oids, rfl⟩
  · cases h
    exact ⟨b.disallowedPolicies, rfl⟩

/-- A builder with the options' values and defaults makes the policy's checker. -/
theorem buildChecker_eq {cfg : Configuration} {b : AuthTokenValidatorBuilder}
    (henabled : b.ocspEnabled = true) (hclient : b.ocspClient = none)
    (htimeout : b.ocspRequestTimeout =
      if cfg.ocspRequestTimeout ≤ 0 then 5000000000 else cfg.ocspRequestTimeout)
    (hdesignated : b.designatedOCSP = designatedConfig cfg)
    (hnonce : b.nonceDisabledOCSPURL = cfg.ocspNonceDisabledURLs)
    (hallowed : b.allowedOCSPURLs = cfg.ocspAllowedResponderURLs)
    (hskew : b.ocspSkew = 900000000000) (hage : b.ocspMaxThisUpdateAge = 120000000000) :
    b.buildChecker = some (policyChecker cfg none) := by
  -- a timeout that was replaced by the default is not replaced again
  have hpositive : ¬ b.ocspRequestTimeout ≤ 0 := by
    rw [htimeout]
    split
    · decide
    next hpos => exact hpos
  rw [AuthTokenValidatorBuilder.buildChecker, if_pos henabled, newChecker, policyChecker]
  simp only [hclient, hdesignated, hnonce, hallowed, hskew, hage, if_neg hpositive]
  rw [htimeout]
  rfl

/-- The builder's own defaults lead to the same policy, over no transport. -/
theorem buildValidator_checker {P : Platform} {cfg : Configuration} {ref : StoreRef}
    {stores stores' : List TrustSnapshot} {v : AuthTokenValidator}
    (hocsp : cfg.ocspEnabled = true) (h : buildValidator P cfg ref stores = .ok (v, stores')) :
    v.ocspChecker = some (policyChecker cfg none) := by
  rw [buildValidator] at h
  obtain ⟨b, hb, h⟩ := bind_eq_ok h
  obtain ⟨oids, rfl⟩ := withPolicies_ok hb
  have hpos : 0 < cfg.ocspRequestTimeout ↔ ¬ cfg.ocspRequestTimeout ≤ 0 := Int64.not_le.symm
  rw [(AuthTokenValidatorBuilder.build_ok h).2.1, hocsp]
  simp only [AuthTokenValidatorBuilder.withOcspRequestTimeout, hpos, ite_not]
  -- each setting is made by one step of the chain, and no other step touches it
  cases hd : designatedConfig cfg <;> cases cfg.allowInsecureLocalhost <;>
    by_cases htimeout : cfg.ocspRequestTimeout ≤ 0 <;>
    simp only [htimeout, if_true, if_false] <;>
    refine buildChecker_eq rfl rfl ?_ ?_ rfl rfl rfl rfl <;>
    first | exact hd.symm | (simp only [htimeout, if_true, if_false]; rfl)

/-- The transport the options left. -/
theorem new_checkers {P : Platform} {cfg : Configuration} {opts : List HandlerOption}
    {source : Source} {stores stores' : List TrustSnapshot} {h : Handler}
    (hocsp : cfg.ocspEnabled = true) (hnew : new P cfg opts source stores = .ok (h, stores')) :
    h.validator.ocspChecker = some (policyChecker cfg none) ∧
      h.signer.ocspChecker = some (policyChecker cfg h.ocspTransport) := by
  rw [new] at hnew
  obtain ⟨snap, -, hnew⟩ := bind_eq_ok hnew
  obtain ⟨⟨v, stores''⟩, hv, hnew⟩ := bind_eq_ok hnew
  obtain ⟨signer, hsigner, hnew⟩ := bind_eq_ok hnew
  obtain ⟨g, -, hnew⟩ := bind_eq_ok hnew
  cases hnew
  refine ⟨buildValidator_checker hocsp hv, ?_⟩
  obtain ⟨accepted, -, hsigner⟩ := bind_eq_ok hsigner
  obtain ⟨rfl, -⟩ := Signing.newSigner_ok hsigner
  exact signerChecker_eq hocsp _

/-- With OCSP enabled, authentication and signing check revocation alike unless
a transport other than the default one was given and some check gets to send. -/
theorem revocation_policy_iff {P : Platform} {cfg : Configuration} {opts : List HandlerOption}
    {source : Source} {stores stores' : List TrustSnapshot} {h : Handler} (dt : RoundTripper)
    (hocsp : cfg.ocspEnabled = true) (hnew : new P cfg opts source stores = .ok (h, stores')) :
    ∃ cv cs, h.validator.ocspChecker = some cv ∧ h.signer.ocspChecker = some cs ∧
      (ObsEq P dt cv cs ↔ ∀ rt, h.ocspTransport = some rt → rt ≠ dt → cv.Silent P) := by
  obtain ⟨hv, hs⟩ := new_checkers hocsp hnew
  refine ⟨_, _, hv, hs, ?_⟩
  have hclients : ObsEq P dt ((policyChecker cfg none).withClient (.httpClient none))
      ((policyChecker cfg none).withClient (.httpClient h.ocspTransport)) ↔
      (Client.transport dt (.httpClient none) ≠ Client.transport dt (.httpClient h.ocspTransport) →
        (policyChecker cfg none).Silent P) := obsEq_withClient_iff
  refine Iff.trans hclients ?_
  cases h.ocspTransport with
  | none =>
      constructor
      · intro _ rt hrt
        cases hrt
      · intro _ hne
        exact absurd rfl hne
  | some rt =>
      constructor
      · rintro hsilent rt' hrt' hne
        cases hrt'
        refine hsilent ?_
        intro heq
        exact hne (Option.some.inj heq).symm
      · intro hsilent hne
        refine hsilent rt rfl ?_
        rintro rfl
        exact hne rfl

/-! A service with an instrumented transport beside the default one. -/

def policyPlatform : Platform :=
  { Platform.refusing with
    urlParse := fun _ => .ok ⟨"https", "a.lv", "", "", ""⟩
    unmarshalPublicKey := fun _ => .ok []
    marshalRequest := fun _ => .ok [1] }

def policyConfiguration : Configuration :=
  ⟨["https://a.lv"], "/trust", 5, true, 0, "", [], ["SHA-256"], false, [], [], []⟩

def noTrustYet : Source := .noStat (.sentinel .osErrNotExist)

def plainTransport : RoundTripper := ⟨0⟩

def tracedTransport : RoundTripper := ⟨1⟩

def policyHandler (rt : Option RoundTripper) : Handler where
  store := .session 5
  runtimeTrust := true
  ocspTransport := rt
  assertionIssuer := none
  config := policyConfiguration
  validator :=
    ⟨["https://a.lv"], 0, some (policyChecker policyConfiguration none),
      Certificate.defaultDisallowedPolicies⟩
  generator := ⟨32⟩
  signer := ⟨["SHA-256"], some 0, some (policyChecker policyConfiguration rt), []⟩
  trust := 0

theorem new_policyHandler :
    new policyPlatform policyConfiguration [.withRuntimeTrust] noTrustYet [] =
      .ok (policyHandler none, [TrustStore.newRuntime]) := by
  decide +kernel

/-- Without a transport of their own the two checkers are alike. -/
theorem revocation_policy_default :
    ObsEq policyPlatform plainTransport (policyChecker policyConfiguration none)
      (policyChecker policyConfiguration none) := by
  obtain ⟨cv, cs, hv, hs, hiff⟩ :=
    revocation_policy_iff plainTransport (show policyConfiguration.ocspEnabled = true from rfl)
      new_policyHandler
  cases hv
  cases hs
  refine hiff.mpr ?_
  intro rt hrt
  cases hrt

/-- With one, only the signer sends through it. -/
theorem revocation_policy_split :
    new policyPlatform policyConfiguration
        [.withRuntimeTrust, .withOCSPTransport (some tracedTransport)] noTrustYet [] =
      .ok (policyHandler (some tracedTransport), [TrustStore.newRuntime]) ∧
      ¬ ObsEq policyPlatform plainTransport (policyChecker policyConfiguration none)
        (policyChecker policyConfiguration (some tracedTransport)) := by
  refine ⟨by decide +kernel, ?_⟩
  intro hobs
  have hcontact := (hobs (fun _ _ _ _ => .error (.text "")) (.ok []) ⟨0⟩
    { (default : Certificate) with ocspServer := ["http://ocsp.lv"] } default).1
  exact absurd hcontact (by decide +kernel)

end WebEid.Azugo
