import WebEid.Ref.Assertion
import WebEid.Ref.NonceStore
import WebEid.Ref.Signing

/-!
# The HTTP handler's wiring (`azugo/handler.go`, `config.go`)

`new` builds a handler from a configuration and a list of options, and
`reloadTrust` refreshes the trust store it made. Trust stores are shared by
reference: a handler, its validator and its signer hold the place of a store
in the list of all stores ever allocated, and a reload replaces the snapshot
in that place.

What the configured path holds can change between two reads of it, so the
source is an argument of every function that reads it.
-/

namespace WebEid.Azugo

open Lib Exceptions

/-- The settings the modelled code reads. -/
structure Configuration where
  origins : List String
  trustedCACertsPath : String
  nonceTTL : Duration
  ocspEnabled : Bool
  ocspRequestTimeout : Duration
  designatedOCSPURL : String
  ocspNonceDisabledURLs : List String
  signingHashPreference : List String
  allowInsecureLocalhost : Bool
  ocspAllowedResponderURLs : List String
  disallowedPolicyOIDs : List String
  signingAcceptedPolicyOIDs : List String
  deriving DecidableEq, Repr

/-- Which nonce store a handler uses: the in-process one made from its
configuration, or one the integrator supplied. -/
inductive NonceStoreRef where
  | session (ttl : Duration)
  | custom (id : Nat)
  deriving DecidableEq, Repr

/-- The fields of a handler an option can set. -/
structure Settings where
  store : NonceStoreRef
  runtimeTrust : Bool
  ocspTransport : Option Ocsp.RoundTripper
  assertionIssuer : Option Assertion.Issuer
  deriving DecidableEq

/-- The options; `none` is a nil argument. -/
inductive HandlerOption where
  | withNonceStore (store : Option Nat)
  | withAssertionIssuer (iss : Option Assertion.Issuer)
  | withRuntimeTrust
  | withOCSPTransport (rt : Option Ocsp.RoundTripper)

def HandlerOption.apply (s : Settings) : HandlerOption → Settings
  | withNonceStore none => s
  | withNonceStore (some id) => { s with store := .custom id }
  | withAssertionIssuer iss => { s with assertionIssuer := iss }
  | withRuntimeTrust => { s with runtimeTrust := true }
  | withOCSPTransport rt => { s with ocspTransport := rt }

structure Handler extends Settings where
  config : Configuration
  validator : AuthTokenValidator
  generator : ChallengeNonceGenerator
  signer : Signing.Signer
  trust : StoreRef
  deriving DecidableEq

/-! ## Trust material -/

/-- A file or a directory, as `os.Stat` says. -/
def loadTrustedCAs (P : Platform) (path : String) (source : Source) :
    Except GoError (List Certificate) :=
  match source with
  | .noStat err => .error err
  | .dir entries => Certificate.loadCertificatesFromDir P path entries
  | .file content => Certificate.loadCertificatesFromPEM P content

/-- Loading failed only because nothing is there yet. -/
def emptyTrustSource (err : GoError) : Bool :=
  err.is .osErrNotExist || err.is .errNoCertificatesFound

/-- The snapshot a new handler starts with. -/
def initialTrust (P : Platform) (cfg : Configuration) (runtimeTrust : Bool)
    (source : Source) : Except GoError TrustSnapshot :=
  match loadTrustedCAs P cfg.trustedCACertsPath source with
  | .ok cas => TrustStore.reload cas
  | .error err =>
      if runtimeTrust && emptyTrustSource err then .ok TrustStore.newRuntime
      else .error err

/-! ## Construction -/

def designatedConfig (cfg : Configuration) :
    Option Ocsp.DesignatedServiceConfiguration :=
  if cfg.designatedOCSPURL = "" then none
  else some ⟨cfg.designatedOCSPURL, none, [], false⟩

/-- The blocklist: the configured one replaces the builder's default. -/
def withPolicies (cfg : Configuration) (b : AuthTokenValidatorBuilder) :
    Except GoError AuthTokenValidatorBuilder :=
  if 0 < cfg.disallowedPolicyOIDs.length then do
    let oids ← Certificate.parseOIDs cfg.disallowedPolicyOIDs
    pure (b.withDisallowedCertificatePolicies oids)
  else pure b

def buildValidator (P : Platform) (cfg : Configuration) (trust : StoreRef)
    (stores : List TrustSnapshot) : Except GoError (AuthTokenValidator × List TrustSnapshot) := do
  let b : AuthTokenValidatorBuilder :=
    ((((({} : AuthTokenValidatorBuilder).withSiteOrigins cfg.origins).withTrustStore
      trust).withOcspRequestTimeout cfg.ocspRequestTimeout).withNonceDisabledOcspUrls
      cfg.ocspNonceDisabledURLs).withAllowedOcspResponderURLs cfg.ocspAllowedResponderURLs
  let b := if cfg.allowInsecureLocalhost then b.withAllowInsecureLocalhostOrigin else b
  let b ← withPolicies cfg b
  let b := if !cfg.ocspEnabled then b.withoutUserCertificateRevocationCheckWithOcsp else b
  let b := match designatedConfig cfg with
    | some d => b.withDesignatedOcspServiceConfiguration d
    | none => b
  b.build P stores

/-- The signer's checker. -/
def signerChecker (cfg : Configuration) (ocspTransport : Option Ocsp.RoundTripper) :
    Option Ocsp.Checker :=
  if cfg.ocspEnabled then
    some (Ocsp.newChecker
      { client := ocspTransport.map fun rt => .httpClient (some rt)
        requestTimeout := cfg.ocspRequestTimeout
        designated := designatedConfig cfg
        nonceDisabledURLs := cfg.ocspNonceDisabledURLs
        allowedResponderURLs := cfg.ocspAllowedResponderURLs
        allowedResponseTimeSkew := 0
        maxResponseThisUpdateAge := 0 })
  else none

def buildSigner (cfg : Configuration) (ocspTransport : Option Ocsp.RoundTripper)
    (trust : StoreRef) : Except GoError Signing.Signer := do
  let acceptedPolicies ← Certificate.parseOIDs cfg.signingAcceptedPolicyOIDs
  Signing.newSigner
    { hashPreference := cfg.signingHashPreference
      trust := some trust
      ocspChecker := signerChecker cfg ocspTransport
      acceptedPolicies := acceptedPolicies }

def buildGenerator (cfg : Configuration) (store : NonceStoreRef) :
    Except GoError ChallengeNonceGenerator :=
  ((({} : ChallengeNonceGeneratorBuilder NonceStoreRef).withChallengeNonceStore
    store).withNonceTTL cfg.nonceTTL).build

/-- `New`. The options are applied first, the trust store is allocated behind
the stores that exist, and a failure allocates nothing anyone can reach. -/
def new (P : Platform) (cfg : Configuration) (opts : List HandlerOption) (source : Source)
    (stores : List TrustSnapshot) : Except GoError (Handler × List TrustSnapshot) := do
  let s := opts.foldl HandlerOption.apply
    { store := .session cfg.nonceTTL
      runtimeTrust := false
      ocspTransport := none
      assertionIssuer := none }
  let snap ← initialTrust P cfg s.runtimeTrust source
  let trust := stores.length
  let (validator, stores) ← buildValidator P cfg trust (stores ++ [snap])
  let signer ← buildSigner cfg s.ocspTransport trust
  let generator ← buildGenerator cfg s.store
  pure
    ({ s with
       config := cfg
       validator := validator
       generator := generator
       signer := signer
       trust := trust }, stores)

/-! ## Reloading -/

/-- `TrustStore.Reload` of the store in one place. -/
def reloadStore (ref : StoreRef) (cas : List Certificate) (stores : List TrustSnapshot) :
    Except GoError Unit × List TrustSnapshot :=
  match TrustStore.reload cas with
  | .error err => (.error err, stores)
  | .ok snap => (.ok (), stores.set ref snap)

/-- `ReloadTrust`: the number of certificates loaded. -/
def Handler.reloadTrust (P : Platform) (h : Handler) (source : Source)
    (stores : List TrustSnapshot) : Except GoError Nat × List TrustSnapshot :=
  match loadTrustedCAs P h.config.trustedCACertsPath source with
  | .error err => (.error err, stores)
  | .ok cas =>
      match reloadStore h.trust cas stores with
      | (.error err, stores) => (.error err, stores)
      | (.ok (), stores) => (.ok cas.length, stores)

/-! ## What the builders do with the store -/

/-- A builder that was given a store hands it on and allocates nothing. -/
theorem build_trust {P : Platform} {b : AuthTokenValidatorBuilder} {ref : StoreRef}
    {stores stores' : List TrustSnapshot} {v : AuthTokenValidator}
    (hstore : b.trustStore = some ref) (h : b.build P stores = .ok (v, stores')) :
    v.trust = ref ∧ stores' = stores := by
  obtain ⟨htrust, -, -⟩ := AuthTokenValidatorBuilder.build_ok h
  simp only [AuthTokenValidatorBuilder.buildTrust, hstore] at htrust
  split at htrust
  · cases htrust
  · cases htrust
    exact ⟨rfl, rfl⟩

theorem withPolicies_trustStore {cfg : Configuration} {b b' : AuthTokenValidatorBuilder}
    (h : withPolicies cfg b = .ok b') : b'.trustStore = b.trustStore := by
  unfold withPolicies at h
  split at h
  · obtain ⟨_, _, h⟩ := bind_eq_ok h
    cases h
    rfl
  · cases h
    rfl

/-- Where the stores end up plays no part in a build that was given one. -/
theorem build_stores {P : Platform} {b : AuthTokenValidatorBuilder} {ref : StoreRef}
    {stores stores' : List TrustSnapshot} {v : AuthTokenValidator}
    (hstore : b.trustStore = some ref) (h : b.build P stores = .ok (v, stores'))
    (stores₂ : List TrustSnapshot) : b.build P stores₂ = .ok (v, stores₂) := by
  rw [AuthTokenValidatorBuilder.build] at h ⊢
  split at h
  · cases h
  · next hne =>
      obtain ⟨origins, horigins, h⟩ := bind_eq_ok h
      obtain ⟨⟨ref', stores''⟩, htrust, h⟩ := bind_eq_ok h
      cases h
      rw [if_neg hne, horigins]
      simp only [AuthTokenValidatorBuilder.buildTrust, hstore] at htrust ⊢
      split at htrust
      · cases htrust
      · next hcas =>
          cases htrust
          rw [if_neg hcas]
          rfl

/-- The builder a configuration comes to, and the store it was given. -/
theorem buildValidator_eq {P : Platform} {cfg : Configuration} {ref : StoreRef}
    {stores : List TrustSnapshot} {r : AuthTokenValidator × List TrustSnapshot}
    (h : buildValidator P cfg ref stores = .ok r) :
    ∃ b : AuthTokenValidatorBuilder, b.trustStore = some ref ∧
      ∀ stores', buildValidator P cfg ref stores' = b.build P stores' := by
  rw [buildValidator] at h
  obtain ⟨b, hb, -⟩ := bind_eq_ok h
  refine ⟨_, ?_, fun stores' => by rw [buildValidator, hb, bind_ok]⟩
  -- no step after `withTrustStore` touches the store
  refine Eq.trans ?_ ((withPolicies_trustStore hb).trans ?_)
  · split <;> split <;> rfl
  · unfold AuthTokenValidatorBuilder.withOcspRequestTimeout
    split <;> split <;> rfl

/-- The validator verifies against the store it was wired to. -/
theorem buildValidator_trust {P : Platform} {cfg : Configuration} {ref : StoreRef}
    {stores stores' : List TrustSnapshot} {v : AuthTokenValidator}
    (h : buildValidator P cfg ref stores = .ok (v, stores')) :
    v.trust = ref ∧ stores' = stores := by
  obtain ⟨b, hstore, hbuild⟩ := buildValidator_eq h
  rw [hbuild] at h
  exact build_trust hstore h

theorem buildValidator_stores {P : Platform} {cfg : Configuration} {ref : StoreRef}
    {stores stores' : List TrustSnapshot} {v : AuthTokenValidator}
    (h : buildValidator P cfg ref stores = .ok (v, stores')) (stores₂ : List TrustSnapshot) :
    buildValidator P cfg ref stores₂ = .ok (v, stores₂) := by
  obtain ⟨b, hstore, hbuild⟩ := buildValidator_eq h
  rw [hbuild] at h ⊢
  exact build_stores hstore h stores₂

theorem newSigner_trust {opts : Signing.Options} {s : Signing.Signer}
    (h : Signing.newSigner opts = .ok s) : s.trust = opts.trust := by
  obtain ⟨rfl, -⟩ := Signing.newSigner_ok h
  rfl

/-- The signer verifies against the store it was wired to. -/
theorem buildSigner_trust {cfg : Configuration} {rt : Option Ocsp.RoundTripper}
    {ref : StoreRef} {s : Signing.Signer} (h : buildSigner cfg rt ref = .ok s) :
    s.trust = some ref := by
  unfold buildSigner at h
  obtain ⟨_, _, h⟩ := bind_eq_ok h
  exact newSigner_trust h

/-- What construction comes to: one store more, holding the initial
snapshot, and a handler whose validator and signer both look there. -/
theorem new_ok {P : Platform} {cfg : Configuration} {opts : List HandlerOption}
    {source : Source} {stores stores' : List TrustSnapshot} {h : Handler}
    (hnew : new P cfg opts source stores = .ok (h, stores')) :
    ∃ snap, initialTrust P cfg h.runtimeTrust source = .ok snap ∧
      stores' = stores ++ [snap] ∧ h.trust = stores.length ∧
      h.validator.trust = stores.length ∧ h.signer.trust = some stores.length ∧
      h.config = cfg := by
  unfold new at hnew
  obtain ⟨snap, hsnap, hnew⟩ := bind_eq_ok hnew
  obtain ⟨⟨v, stores''⟩, hv, hnew⟩ := bind_eq_ok hnew
  obtain ⟨signer, hsigner, hnew⟩ := bind_eq_ok hnew
  obtain ⟨g, _, hnew⟩ := bind_eq_ok hnew
  obtain ⟨htrust, hstores⟩ := buildValidator_trust hv
  cases hnew
  exact ⟨snap, hsnap, hstores, rfl, htrust, buildSigner_trust hsigner, rfl⟩

end WebEid.Azugo
