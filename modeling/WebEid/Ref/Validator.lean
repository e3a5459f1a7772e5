import WebEid.Ref.Ocsp
import WebEid.Ref.Token

/-!
# The authentication-token validator (`validator.go`, `validator_options.go`)

`validate` is the whole pipeline. It is a `Call` on the trust store's cell:
step 5 loads the snapshot to build the chain, and step 6 loads it again to
look the issuer up, so a reload can fall between the two. Everything before
the first load is `checkToken`, everything after the second is
`checkSignature`, and neither looks at the store.
-/

namespace WebEid

open Lib Exceptions Ocsp

/-- A trust store, known by where it was allocated. -/
abbrev StoreRef := Nat

/-- `authTokenValidator`. A checker is present exactly when revocation
checking is enabled, because `Build` creates it then and only then. -/
structure AuthTokenValidator where
  origins : List String
  trust : StoreRef
  ocspChecker : Option Checker
  disallowedPolicies : List ObjectIdentifier
  deriving DecidableEq

/-- The clock and the responder one call of `Validate` meets. -/
structure ValidateEnv where
  now : Time
  ocsp : OcspEnv

namespace AuthTokenValidator

/-- The origin loop accepts on the first origin the signature verifies
for. -/
def verifySignature (P : Platform) (v : AuthTokenValidator) (token : AuthToken)
    (cert : Certificate) (challengeNonce : String) : Except GoError Unit :=
  match Signature.hashFor token.algorithm with
  | none => .error (.typed .errTokenUnsupportedFormat)
  | some h =>
      match token.decodeSignature with
      | .error err => .error err
      | .ok sig =>
          let nonceHash := P.hashSum h (Go.bytes challengeNonce)
          if v.origins.any fun origin =>
              (Signature.verify P cert token.algorithm
                (P.hashSum h (Go.bytes origin) ++ nonceHash) sig).isOk
          then .ok ()
          else .error (.typed .errTokenSignatureInvalid)

/-- Steps 1 to 4: the certificate the token carries, if it may be used to
log in at all. -/
def checkToken (P : Platform) (env : ValidateEnv) (v : AuthTokenValidator)
    (token : AuthToken) (currentChallengeNonce : String) : Except GoError Certificate := do
  if currentChallengeNonce = "" then .error (.typed .errChallengeNonceNotFound)
  let der ← token.decodeCertificate
  let cert ← (P.parseCertificate der).mapError (wrap .errTokenParse)
  cert.checkValidity env.now
  cert.checkKeyUsageForAuthentication
  cert.checkDisallowedPolicies P v.disallowedPolicies
  pure cert

/-- What step 6 makes of the issuer it found. -/
def checkIssuer (P : Platform) (env : ValidateEnv) (checker : Checker) (cert : Certificate)
    (issuer : Option Certificate) : Except GoError Unit :=
  match issuer with
  | none => .error (.typed .errCertificateNotTrusted)
  | some issuer => checker.check P env.ocsp cert issuer

/-- Step 6. -/
def checkRevocation (P : Platform) (env : ValidateEnv) (v : AuthTokenValidator)
    (cert : Certificate) : Call TrustSnapshot GoError Unit :=
  match v.ocspChecker with
  | none => pure ()
  | some checker => do
      let issuer ← TrustStore.issuerOf P cert
      checkIssuer P env checker cert issuer

/-- Steps 8 and 9. -/
def checkSignature (P : Platform) (v : AuthTokenValidator) (token : AuthToken)
    (cert : Certificate) (currentChallengeNonce : String) : Except GoError Certificate := do
  v.verifySignature P token cert currentChallengeNonce
  let _ ← cert.subjectCN.mapError (wrap .errTokenParse)
  pure cert

def validate (P : Platform) (env : ValidateEnv) (v : AuthTokenValidator) (token : AuthToken)
    (currentChallengeNonce : String) : Call TrustSnapshot GoError Certificate := do
  let cert ← checkToken P env v token currentChallengeNonce
  TrustStore.verify P cert env.now [.clientAuth]
  v.checkRevocation P env cert
  v.checkSignature P token cert currentChallengeNonce

/-! ### What an accepted token rests on -/

/-- The pipeline as one chain of binds. -/
theorem validate_eq (P : Platform) (env : ValidateEnv) (v : AuthTokenValidator)
    (token : AuthToken) (nonce : String) :
    v.validate P env token nonce =
      (Call.lift (checkToken P env v token nonce)).bind fun cert =>
        (TrustStore.verify P cert env.now [.clientAuth]).bind fun _ =>
          (v.checkRevocation P env cert).bind fun _ =>
            Call.lift (v.checkSignature P token cert nonce) := rfl

/-- The certificate an accepted token yields is the one it carries, and the
token's signature verified with it. -/
theorem validate_ok {P : Platform} {env : ValidateEnv} {v : AuthTokenValidator}
    {token : AuthToken} {nonce : String} {trust : Nat → TrustSnapshot} {cert : Certificate}
    (h : (v.validate P env token nonce).under trust = .ok cert) :
    checkToken P env v token nonce = .ok cert ∧
      v.verifySignature P token cert nonce = .ok () ∧ cert.subject.commonName ≠ "" := by
  rw [validate_eq] at h
  obtain ⟨cert', _, htoken, h⟩ := Call.under_bind_ok h
  obtain ⟨_, _, _, h⟩ := Call.under_bind_ok h
  obtain ⟨_, _, _, h⟩ := Call.under_bind_ok h
  rw [Call.under_lift] at htoken h
  unfold checkSignature at h
  obtain ⟨_, hsig, h⟩ := bind_eq_ok h
  obtain ⟨cn, hcn, h⟩ := bind_eq_ok h
  cases h
  obtain ⟨rfl, hne⟩ := Certificate.subjectCN_ok (mapError_eq_ok hcn)
  exact ⟨htoken, hsig, hne⟩

/-- A verified signature verified for one of the origins. -/
theorem verifySignature_ok {P : Platform} {v : AuthTokenValidator} {token : AuthToken}
    {cert : Certificate} {nonce : String}
    (h : v.verifySignature P token cert nonce = .ok ()) :
    ∃ hash sig origin, Signature.hashFor token.algorithm = some hash ∧
      token.decodeSignature = .ok sig ∧ origin ∈ v.origins ∧
      Signature.verify P cert token.algorithm
        (P.hashSum hash (Go.bytes origin) ++ P.hashSum hash (Go.bytes nonce)) sig = .ok () := by
  unfold verifySignature at h
  split at h
  · cases h
  · next hash hhash =>
      split at h
      · cases h
      · next sig hsig =>
          simp only [] at h
          split at h
          · next hany =>
              obtain ⟨origin, hmem, hok⟩ := List.any_eq_true.mp hany
              refine ⟨hash, sig, origin, hhash, hsig, hmem, ?_⟩
              cases hver : Signature.verify P cert token.algorithm
                  (P.hashSum hash (Go.bytes origin) ++ P.hashSum hash (Go.bytes nonce)) sig with
              | error err => rw [hver] at hok; cases hok
              | ok u => rfl
          · cases h

end AuthTokenValidator

/-! ## The builder -/

def errOriginRequired : GoError := .text "site origin is required"

def isLoopbackHost (host : String) : Bool :=
  ["localhost", "127.0.0.1", "::1"].any (· == Go.toLower host)

def normalizeOrigin (P : Platform) (origin : String) (allowInsecureLocalhost : Bool) :
    Except GoError String :=
  match P.urlParse origin with
  | .error err => .error (.wrapf "site origin is required" err)
  | .ok u =>
      if u.scheme ≠ "https" &&
          (!allowInsecureLocalhost || u.scheme ≠ "http" || !isLoopbackHost u.hostname)
      then .error (.text "site origin must use https")
      else if u.host = "" then .error errOriginRequired
      else if (u.path ≠ "" && u.path ≠ "/") || u.rawQuery ≠ "" || u.fragment ≠ "" then
        .error (.text "site origin must not contain a path, query or fragment")
      else .ok (Go.trimSuffix (u.scheme ++ "://" ++ u.host) "/")

structure AuthTokenValidatorBuilder where
  origins : List String := []
  allowInsecureLocalhost : Bool := false
  trustedCAs : List Certificate := []
  trustStore : Option StoreRef := none
  ocspEnabled : Bool := true
  ocspClient : Option Client := none
  ocspRequestTimeout : Duration := 5000000000
  designatedOCSP : Option DesignatedServiceConfiguration := none
  nonceDisabledOCSPURL : List String := []
  allowedOCSPURLs : List String := []
  ocspSkew : Duration := 900000000000
  ocspMaxThisUpdateAge : Duration := 120000000000
  disallowedPolicies : List ObjectIdentifier := Certificate.defaultDisallowedPolicies

namespace AuthTokenValidatorBuilder

def withSiteOrigins (b : AuthTokenValidatorBuilder) (origins : List String) :
    AuthTokenValidatorBuilder := { b with origins := b.origins ++ origins }

def withTrustStore (b : AuthTokenValidatorBuilder) (ts : StoreRef) :
    AuthTokenValidatorBuilder := { b with trustStore := some ts }

def withOcspRequestTimeout (b : AuthTokenValidatorBuilder) (d : Duration) :
    AuthTokenValidatorBuilder := if 0 < d then { b with ocspRequestTimeout := d } else b

def withNonceDisabledOcspUrls (b : AuthTokenValidatorBuilder) (urls : List String) :
    AuthTokenValidatorBuilder :=
  { b with nonceDisabledOCSPURL := b.nonceDisabledOCSPURL ++ urls }

def withAllowedOcspResponderURLs (b : AuthTokenValidatorBuilder) (urls : List String) :
    AuthTokenValidatorBuilder := { b with allowedOCSPURLs := b.allowedOCSPURLs ++ urls }

def withAllowInsecureLocalhostOrigin (b : AuthTokenValidatorBuilder) :
    AuthTokenValidatorBuilder := { b with allowInsecureLocalhost := true }

def withDisallowedCertificatePolicies (b : AuthTokenValidatorBuilder)
    (oids : List ObjectIdentifier) : AuthTokenValidatorBuilder :=
  { b with disallowedPolicies := oids }

def withoutUserCertificateRevocationCheckWithOcsp (b : AuthTokenValidatorBuilder) :
    AuthTokenValidatorBuilder := { b with ocspEnabled := false }

def withDesignatedOcspServiceConfiguration (b : AuthTokenValidatorBuilder)
    (cfg : DesignatedServiceConfiguration) : AuthTokenValidatorBuilder :=
  { b with designatedOCSP := some cfg }

/-- The store the validator gets: the one supplied, or a new one allocated
behind those that exist. -/
def buildTrust (b : AuthTokenValidatorBuilder) (stores : List TrustSnapshot) :
    Except GoError (StoreRef × List TrustSnapshot) :=
  match b.trustStore with
  | none => do
      let snap ← TrustStore.new b.trustedCAs
      pure (stores.length, stores ++ [snap])
  | some ts =>
      if !b.trustedCAs.isEmpty then
        .error (.text ("webeid: use either WithTrustStore or " ++
          "WithTrustedCertificateAuthorities, not both"))
      else .ok (ts, stores)

def buildChecker (b : AuthTokenValidatorBuilder) : Option Checker :=
  if b.ocspEnabled then
    some (newChecker
      { client := b.ocspClient
        requestTimeout := b.ocspRequestTimeout
        designated := b.designatedOCSP
        nonceDisabledURLs := b.nonceDisabledOCSPURL
        allowedResponderURLs := b.allowedOCSPURLs
        allowedResponseTimeSkew := b.ocspSkew
        maxResponseThisUpdateAge := b.ocspMaxThisUpdateAge })
  else none

def build (P : Platform) (b : AuthTokenValidatorBuilder) (stores : List TrustSnapshot) :
    Except GoError (AuthTokenValidator × List TrustSnapshot) := do
  if b.origins.isEmpty then .error errOriginRequired
  let normalizedOrigins ← b.origins.mapM fun o => normalizeOrigin P o b.allowInsecureLocalhost
  let (trust, stores) ← b.buildTrust stores
  pure
    ({ origins := normalizedOrigins
       trust := trust
       ocspChecker := b.buildChecker
       disallowedPolicies := b.disallowedPolicies }, stores)

/-- What a built validator has from its builder. -/
theorem build_ok {P : Platform} {b : AuthTokenValidatorBuilder}
    {stores stores' : List TrustSnapshot} {v : AuthTokenValidator}
    (h : b.build P stores = .ok (v, stores')) :
    b.buildTrust stores = .ok (v.trust, stores') ∧ v.ocspChecker = b.buildChecker ∧
      v.disallowedPolicies = b.disallowedPolicies := by
  rw [build] at h
  split at h
  · cases h
  · obtain ⟨origins, -, h⟩ := bind_eq_ok h
    obtain ⟨⟨ref, stores''⟩, htrust, h⟩ := bind_eq_ok h
    cases h
    exact ⟨htrust, rfl, rfl⟩

end AuthTokenValidatorBuilder

end WebEid
