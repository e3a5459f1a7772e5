import WebEid.Lib.Fallible
import WebEid.Ref.Platform

/-!
# Identity assertions (`assertion/assertion.go`), the issuing side

An issuer turns a validated subject into a compact JWS. It refuses a subject
without a national id, which is the one check it makes of the identity; the
rest can only fail in the random source, in the encoder or in the signature
operation.
-/

namespace WebEid.Assertion

open Lib Exceptions

structure Subject where
  nationalID : String
  country : String
  givenName : String
  familyName : String
  loA : String
  deriving DecidableEq, Repr

/-- `ecdsa.PrivateKey`. -/
structure PrivateKey where
  pub : EcdsaPublicKey
  d : Nat
  deriving DecidableEq, Repr

structure SigningKey where
  kid : String
  key : PrivateKey
  deriving DecidableEq, Repr

structure Issuer where
  key : SigningKey
  iss : String
  aud : String
  ttl : Duration
  deriving DecidableEq, Repr

/-- Two minutes. -/
def defaultIssuerTTL : Duration := 120000000000

def p256ByteLen : Nat := 32

def newIssuer (key : SigningKey) (issuerURL audience : String) (ttl : Duration) :
    Except GoError Issuer :=
  if key.key.pub.curve ≠ .p256 then .error (.text "assertion: ES256 requires a P-256 key")
  else if key.kid = "" then .error (.text "assertion: a key id is required")
  else if issuerURL = "" || audience = "" then
    .error (.text "assertion: issuer and audience are required")
  else .ok ⟨key, issuerURL, audience, if ttl ≤ 0 then defaultIssuerTTL else ttl⟩

/-- What one call of `Issue` meets: the token id, the clock and the signature
operation, which draws on the random source. -/
structure IssueEnv where
  genJTI : Except GoError String
  now : Time
  ecdsaSign : PrivateKey → Bytes → Except GoError (Nat × Nat)

/-- base64url without padding. -/
def b64 (b : Bytes) : String := Base64.rawURLEncoding.encodeToString b

def sign (P : Platform) (env : IssueEnv) (key : SigningKey) (claims : Claims) :
    Except GoError String := do
  let hdr ← P.marshalHeader ⟨"ES256", "JWT", key.kid⟩
  let payload ← P.marshalClaims claims
  let signingInput := b64 hdr ++ "." ++ b64 payload
  let digest := P.hashSum .sha256 (Go.bytes signingInput)
  let (r, s) ← env.ecdsaSign key.key digest
  pure (signingInput ++ "." ++ b64 (Go.fillBytes p256ByteLen r ++ Go.fillBytes p256ByteLen s))

namespace Issuer

/-- The claims of an assertion. -/
def claims (i : Issuer) (s : Subject) (jti : String) (now : Time) : Claims where
  issuer := i.iss
  audience := i.aud
  subject := s.nationalID
  issuedAt := now.unix
  expiry := (now.add i.ttl).unix
  jwtID := jti
  nationalID := s.nationalID
  country := s.country
  givenName := s.givenName
  familyName := s.familyName
  loA := s.loA
  loginMethod := "webEid"

def errNationalIDRequired : GoError := .text "assertion: subject national id is required"

def issue (P : Platform) (env : IssueEnv) (i : Issuer) (s : Subject) :
    Except GoError String := do
  if s.nationalID = "" then .error errNationalIDRequired
  let jti ← env.genJTI
  sign P env i.key (i.claims s jti env.now)

end Issuer

end WebEid.Assertion
