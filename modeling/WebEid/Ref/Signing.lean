import WebEid.Ref.Validator

/-!
# Card signing operations (`signing/`)

`prepareSigning` is the gate in front of the card: the signing certificate's
own checks, the chain and the revocation check, then the negotiation of hash
and algorithm. Like the validator it loads the trust store's cell twice.
`finalize` only parses the authentication certificate, and
`verifySignatureValue` only looks at the key, the digest and the signature:
neither repeats a check of the gate.
-/

namespace WebEid.Signing

open Lib Exceptions Ocsp

structure SignatureAlgorithm where
  cryptoAlgorithm : String
  hashFunction : String
  paddingScheme : String
  deriving DecidableEq, Repr

/-! ## hash.go -/

def supportedHashFunctions : List String :=
  ["SHA-224", "SHA-256", "SHA-384", "SHA-512",
   "SHA3-224", "SHA3-256", "SHA3-384", "SHA3-512"]

def isSupportedHashFunction (name : String) : Bool :=
  supportedHashFunctions.any (· == name)

/-- The first preference the card offers, compared in upper case. -/
def selectHashFunction (preference : List String)
    (supported : List SignatureAlgorithm) : Except GoError String :=
  let offered := supported.map fun s => Go.toUpper s.hashFunction
  match preference.find? fun want => offered.contains (Go.toUpper want) with
  | some want => .ok want
  | none => .error (.typed .errNoSupportedHashFunction)

def equalFoldHash (a b : String) : Bool := Go.equalFold a b

/-- The first offered algorithm with the hash, or one made up around it. -/
def pickAlgorithmForHash (hashFn : String)
    (supported : List SignatureAlgorithm) : SignatureAlgorithm :=
  match supported.find? fun s => equalFoldHash s.hashFunction hashFn with
  | some s => s
  | none => ⟨"", hashFn, ""⟩

/-! ## certificate.go -/

def parseSigningCertificate (P : Platform) (der : Bytes) : Except GoError Certificate :=
  (P.parseCertificate der).mapError (wrap .errSigningCertificateInvalid)

def validateSigningCertificate (cert : Certificate) (now : Time) : Except GoError Unit :=
  match cert.checkValidity now with
  | .error _ => .error (.typed .errSigningCertificateInvalid)
  | .ok () => cert.checkKeyUsageForSigning

/-! ## signer.go -/

def errNoPreference : GoError := .text "hash preference list is empty"

def errEmptySignature : GoError := .text "signature value is empty"

def errUnknownHash (name : String) : GoError :=
  .text ("unknown hash function " ++ name.quote)

structure Options where
  hashPreference : List String
  trust : Option StoreRef
  ocspChecker : Option Checker
  acceptedPolicies : List ObjectIdentifier
  deriving DecidableEq

structure Signer where
  hashPreference : List String
  trust : Option StoreRef
  ocspChecker : Option Checker
  acceptedPolicies : List ObjectIdentifier
  deriving DecidableEq

def newSigner (opts : Options) : Except GoError Signer :=
  if opts.hashPreference.isEmpty then
    .error (wrap .errNoSupportedHashFunction errNoPreference)
  else
    match opts.hashPreference.find? fun h => !isSupportedHashFunction h with
    | some h => .error (wrap .errNoSupportedHashFunction (errUnknownHash h))
    | none =>
        .ok
          { hashPreference := opts.hashPreference
            trust := opts.trust
            ocspChecker := opts.ocspChecker
            acceptedPolicies := opts.acceptedPolicies }

/-- A signer holds its options, and its preferences are all supported. -/
theorem newSigner_ok {opts : Options} {s : Signer} (h : newSigner opts = .ok s) :
    s = ⟨opts.hashPreference, opts.trust, opts.ocspChecker, opts.acceptedPolicies⟩ ∧
      ∀ name ∈ opts.hashPreference, name ∈ supportedHashFunctions := by
  rw [newSigner] at h
  split at h
  · cases h
  · split at h
    · cases h
    next hfind =>
      cases h
      refine ⟨rfl, ?_⟩
      intro name hname
      have hsupported := List.find?_eq_none.mp hfind name hname
      rw [Bool.not_eq_true, Bool.not_eq_false', isSupportedHashFunction] at hsupported
      simpa using hsupported

/-- What `PrepareSigning` answers. -/
structure Prepared where
  cert : Certificate
  algo : SignatureAlgorithm
  hashFn : String
  deriving DecidableEq

namespace Signer

/-- The checks that need the certificate alone. -/
def checkCertificate (P : Platform) (now : Time) (s : Signer) (signingCertDER : Bytes) :
    Except GoError Certificate := do
  let cert ← parseSigningCertificate P signingCertDER
  validateSigningCertificate cert now
  cert.checkAcceptedPolicies P s.acceptedPolicies
  pure cert

/-- What the revocation step makes of the issuer it found. -/
def checkIssuer (P : Platform) (env : OcspEnv) (checker : Checker) (cert : Certificate)
    (issuer : Option Certificate) : Except GoError Unit :=
  match issuer with
  | none => .error (.typed .errSigningCertificateInvalid)
  | some issuer => checker.check P env cert issuer

/-- The revocation step, inside the trust step. -/
def checkRevocation (P : Platform) (env : OcspEnv) (s : Signer) (cert : Certificate) :
    Call TrustSnapshot GoError Unit :=
  match s.ocspChecker with
  | none => pure ()
  | some checker => do
      let issuer ← TrustStore.issuerOf P cert
      checkIssuer P env checker cert issuer

/-- The chain of the signing certificate in one snapshot; the cause of a
failure is not passed on. -/
def verifyChain (P : Platform) (snap : TrustSnapshot) (cert : Certificate) (now : Time) :
    Except GoError Unit :=
  (TrustStore.verifyAgainst P snap cert now []).mapError
    fun _ => .typed .errSigningCertificateInvalid

/-- The trust step, which is skipped with the revocation step inside it when
no store is configured. -/
def checkTrust (P : Platform) (env : ValidateEnv) (s : Signer) (cert : Certificate) :
    Call TrustSnapshot GoError Unit :=
  match s.trust with
  | none => pure ()
  | some _ => do
      let snap ← Call.read
      verifyChain P snap cert env.now
      s.checkRevocation P env.ocsp cert

/-- The negotiation. -/
def negotiate (s : Signer) (cert : Certificate)
    (supported : List SignatureAlgorithm) : Except GoError Prepared := do
  let hashFn ← selectHashFunction s.hashPreference supported
  pure ⟨cert, pickAlgorithmForHash hashFn supported, hashFn⟩

def prepareSigning (P : Platform) (env : ValidateEnv) (s : Signer) (signingCertDER : Bytes)
    (supported : List SignatureAlgorithm) : Call TrustSnapshot GoError Prepared := do
  let cert ← s.checkCertificate P env.now signingCertDER
  s.checkTrust P env cert
  s.negotiate cert supported

/-- The signature value comes back unchanged, beside the parsed
authentication certificate. -/
def finalize (P : Platform) (signatureValue authCertDER : Bytes) :
    Except GoError (Certificate × Bytes) := do
  if signatureValue.isEmpty then
    .error (wrap .errSigningCertificateInvalid errEmptySignature)
  let authCert ← (P.parseCertificate authCertDER).mapError (wrap .errSigningCertificateInvalid)
  pure (authCert, signatureValue)

/-! ### The two steps of the gate that load the store -/

theorem prepareSigning_eq (P : Platform) (env : ValidateEnv) (s : Signer) (der : Bytes)
    (supported : List SignatureAlgorithm) :
    s.prepareSigning P env der supported =
      (Call.lift (s.checkCertificate P env.now der)).bind fun cert =>
        (s.checkTrust P env cert).bind fun _ => Call.lift (s.negotiate cert supported) :=
  rfl

theorem checkTrust_eq {P : Platform} {env : ValidateEnv} {s : Signer} {ref : StoreRef}
    (htrust : s.trust = some ref) (cert : Certificate) :
    s.checkTrust P env cert =
      Call.load fun snap => (Call.lift (verifyChain P snap cert env.now)).bind fun _ =>
        s.checkRevocation P env.ocsp cert := by
  unfold checkTrust
  rw [htrust]
  rfl

end Signer

/-! ## verify.go -/

def hashNameToCryptoHash : List (String × Hash) :=
  [("SHA-224", .sha224), ("SHA-256", .sha256), ("SHA-384", .sha384), ("SHA-512", .sha512)]

def errUnsupportedRSAHash : GoError :=
  .text "hash function is not supported for RSA signature verification"

def errDigestLength : GoError := .text "digest length does not match the hash function"

def errUnsupportedPubKey : GoError :=
  .text "unsupported public key type in signing certificate"

def errP1363Length : GoError :=
  .text "ECDSA signature value is not raw P1363 r||s of the expected length"

def verifySignatureValue (P : Platform) (cert : Certificate) (algo : SignatureAlgorithm)
    (digest signatureValue : Bytes) : Except GoError Unit :=
  if digest.isEmpty || signatureValue.isEmpty then
    .error (wrap .errSignatureValueInvalid errEmptySignature)
  else
    match cert.publicKey with
    | .ecdsa pub =>
        -- the digest is taken as it is, whatever hash the algorithm names
        let byteLen := (pub.curve.bitSize + 7) / 8
        if signatureValue.length ≠ 2 * byteLen then
          .error (wrap .errSignatureValueInvalid errP1363Length)
        else
          let r := Go.setBytes (signatureValue.take byteLen)
          let s := Go.setBytes (signatureValue.drop byteLen)
          if P.ecdsaVerify pub digest r s then .ok ()
          else .error (.typed .errSignatureValueInvalid)
    | .rsa pub =>
        match hashNameToCryptoHash.lookup (Go.toUpper algo.hashFunction) with
        | none => .error (wrap .errSignatureValueInvalid errUnsupportedRSAHash)
        | some h =>
            if h.size ≠ digest.length then
              .error (wrap .errSignatureValueInvalid errDigestLength)
            else if Go.equalFold algo.paddingScheme "PSS" then
              (P.rsaVerifyPSS pub h digest signatureValue).mapError
                (wrap .errSignatureValueInvalid)
            else
              (P.rsaVerifyPKCS1v15 pub h digest signatureValue).mapError
                (wrap .errSignatureValueInvalid)
    | .other _ => .error (wrap .errSignatureValueInvalid errUnsupportedPubKey)

end WebEid.Signing
