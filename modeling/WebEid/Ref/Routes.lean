import WebEid.Ref.Handler

/-!
# The endpoints (`azugo/routes.go`, `session.go`, `subject.go`, `dto.go`)

A request body arrives as what `ctx.Body.JSON` made of it, a decoded value
or an error. A reply is the user the endpoint put on the request context, if
it got that far, beside the value it answered or the error it reported; the
two are separate because `SetUser` runs before the answer is decided.

`login` is cut into the pieces other requests can fall between: it takes the
nonce out of the store, reads the clock, and validates the token while the
trust store may be reloaded. The `n`-th load of the trust store finds
`trust n`.
-/

namespace WebEid.Azugo

open Lib Exceptions

/-! ## session.go -/

def errNoSession : GoError := .text "no web eid session on request"

/-- The session id `EnsureSession` left on the request, if it ran. -/
structure Context where
  sessionID : Option String
  deriving DecidableEq, Repr

def sessionKey : SessionKeyFunc Context := fun ctx =>
  match ctx.sessionID with
  | none => .error errNoSession
  | some sid => if sid = "" then .error errNoSession else .ok sid

/-- The key of a request is the session id left on it. -/
theorem sessionKey_ok {ctx : Context} {key : String} (h : sessionKey ctx = .ok key) :
    ctx.sessionID = some key := by
  obtain ⟨_ | sid⟩ := ctx
  · cases h
  · simp only [sessionKey] at h
    split at h
    · cases h
    · cases h
      rfl

/-- `NewSessionStore`. -/
def newSessionStore (cfg : Configuration) : InMemoryStore Context :=
  newInMemoryStore sessionKey cfg.nonceTTL

/-! ## dto.go -/

structure LoginRequest where
  authToken : AuthToken
  deriving DecidableEq, Repr

structure ValidateRequest where
  authToken : AuthToken
  nonce : String
  deriving DecidableEq, Repr

structure SubjectResponse where
  commonName : String
  idCode : String
  countryCode : String
  givenName : String
  surname : String
  deriving DecidableEq, Repr

/-- The two bodies a successful login can have. -/
inductive LoginResponse where
  | subject (s : SubjectResponse)
  | assertion (token : String) (s : SubjectResponse)
  deriving DecidableEq, Repr

structure SigningCertificateRequest where
  certificate : String
  supportedSignatureAlgorithms : List Signing.SignatureAlgorithm
  deriving DecidableEq, Repr

structure SigningCertificateResponse where
  signatureAlgorithm : Signing.SignatureAlgorithm
  hashFunction : String
  deriving DecidableEq, Repr

structure FinalizeRequest where
  signature : String
  signatureAlgorithm : Signing.SignatureAlgorithm
  authCertificate : String
  digest : String
  signingCertificate : String
  deriving DecidableEq, Repr

structure FinalizeResponse where
  status : String
  signature : String
  authCertificate : String
  signatureVerified : Bool
  identityBound : Bool
  deriving DecidableEq, Repr

/-- `user.User`: its claims. -/
structure User where
  claims : List (String × List String)
  deriving DecidableEq, Repr

/-- The values of one claim. -/
def User.claim (u : User) (name : String) : Option (List String) := u.claims.lookup name

structure Reply (α : Type) where
  user : Option User
  answer : Except GoError α

/-! ## subject.go -/

/-- A field that is missing is left empty. -/
def orEmpty (field : Except GoError String) : String :=
  match field with
  | .ok s => s
  | .error _ => ""

def subjectFromCertificate (cert : Certificate) : SubjectResponse where
  commonName := orEmpty cert.subjectCN
  idCode := orEmpty cert.subjectIDCode
  countryCode := orEmpty cert.subjectCountryCode
  givenName := orEmpty cert.subjectGivenName
  surname := orEmpty cert.subjectSurname

/-! ## routes.go -/

/-- The user of a subject. -/
def userOf (s : SubjectResponse) : User where
  claims :=
    [("sub", [s.idCode]), ("given_name", [s.givenName]), ("family_name", [s.surname]),
     ("name", [Certificate.titleCase (s.givenName ++ " " ++ s.surname)])]

/-- The identity an assertion is issued for. -/
def assertionSubject (s : SubjectResponse) : Assertion.Subject where
  nationalID := s.idCode
  country := s.countryCode
  givenName := s.givenName
  familyName := s.surname
  loA := "high"

/-- What `login` and `validate` both do with the validator's verdict: set the
user first, then answer with the bare subject or with an assertion. -/
def establish (P : Platform) (env : Assertion.IssueEnv)
    (assertionIssuer : Option Assertion.Issuer) (verdict : Except GoError Certificate) :
    Reply LoginResponse :=
  match verdict with
  | .error err => ⟨none, .error err⟩
  | .ok cert =>
      let subject := subjectFromCertificate cert
      match assertionIssuer with
      | none => ⟨some (userOf subject), .ok (.subject subject)⟩
      | some iss =>
          match iss.issue P env (assertionSubject subject) with
          | .error err => ⟨some (userOf subject), .error err⟩
          | .ok tok => ⟨some (userOf subject), .ok (.assertion tok subject)⟩

namespace Handler

variable {κ σ : Type}

/-- `challenge`. -/
def challenge (h : Handler) (S : ChallengeNonceStore κ σ)
    (random : Nat → Except GoError Bytes) (now putNow : Time) (ctx : κ) (st : σ) :
    Except GoError String × σ :=
  match h.generator.generateAndStoreNonce S random now putNow ctx st with
  | (.error err, st) => (.error err, st)
  | (.ok nonce, st) => (.ok nonce.base64EncodedNonce, st)

/-- `login` up to and including `GetAndRemove`. -/
def takeNonce (S : ChallengeNonceStore κ σ) (ctx : κ) (body : Except GoError LoginRequest)
    (st : σ) : Except GoError (LoginRequest × ChallengeNonce) × σ :=
  match body with
  | .error err => (.error err, st)
  | .ok req =>
      match S.getAndRemove ctx st with
      | (.error err, st) => (.error err, st)
      | (.ok stored, st) => (.ok (req, stored), st)

/-- The expiry test of `login`. -/
def checkExpiry (h : Handler) (now : Time) (stored : ChallengeNonce) :
    Except GoError Unit :=
  if stored.expired now h.config.nonceTTL then .error (.typed .errChallengeNonceExpired)
  else .ok ()

/-- The rest of `login`. -/
def finishLogin (P : Platform) (venv : ValidateEnv) (ienv : Assertion.IssueEnv) (h : Handler)
    (trust : Nat → TrustSnapshot) (req : LoginRequest) (stored : ChallengeNonce) :
    Reply LoginResponse :=
  establish P ienv h.assertionIssuer
    ((h.validator.validate P venv req.authToken stored.base64EncodedNonce).under trust)

def login (P : Platform) (venv : ValidateEnv) (ienv : Assertion.IssueEnv) (h : Handler)
    (S : ChallengeNonceStore κ σ) (timeNow : Time) (trust : Nat → TrustSnapshot) (ctx : κ)
    (body : Except GoError LoginRequest) (st : σ) : Reply LoginResponse × σ :=
  match takeNonce S ctx body st with
  | (.error err, st) => (⟨none, .error err⟩, st)
  | (.ok (req, stored), st) =>
      match h.checkExpiry timeNow stored with
      | .error err => (⟨none, .error err⟩, st)
      | .ok () => (h.finishLogin P venv ienv trust req stored, st)

/-- `validate`: `valid` is the answer of the request's own validation. -/
def validate (P : Platform) (venv : ValidateEnv) (ienv : Assertion.IssueEnv) (h : Handler)
    (trust : Nat → TrustSnapshot) (body : Except GoError ValidateRequest)
    (valid : ValidateRequest → Except GoError Unit) : Reply LoginResponse :=
  match body with
  | .error err => ⟨none, .error err⟩
  | .ok req =>
      match valid req with
      | .error err => ⟨none, .error err⟩
      | .ok () =>
          establish P ienv h.assertionIssuer
            ((h.validator.validate P venv req.authToken req.nonce).under trust)

/-- `base64.StdEncoding.DecodeString`, with the error the endpoint wraps its
failure in. -/
def decodeField (err : Error) (s : String) : Except GoError Bytes :=
  match Base64.stdEncoding.decodeString s with
  | none => .error (wrap err errCorruptInput)
  | some b => .ok b

def signingCertificate (P : Platform) (venv : ValidateEnv) (h : Handler)
    (trust : Nat → TrustSnapshot) (body : Except GoError SigningCertificateRequest) :
    Except GoError SigningCertificateResponse := do
  let req ← body
  let der ← decodeField .errSigningCertificateInvalid req.certificate
  let prepared ←
    (h.signer.prepareSigning P venv der req.supportedSignatureAlgorithms).under trust
  pure ⟨prepared.algo, prepared.hashFn⟩

def errVerifiedFinalizeNeedsBoth : GoError :=
  .text "verified finalize requires both digest and signingCertificate"

/-- The verified finalize: the two flags, when the caller supplies a digest
or a signing certificate. -/
def verifyFinalize (P : Platform) (req : FinalizeRequest) (sig : Bytes)
    (authCert : Certificate) : Except GoError (Bool × Bool) :=
  if req.digest ≠ "" || req.signingCertificate ≠ "" then
    if req.digest = "" || req.signingCertificate = "" then
      .error (wrap .errSignatureValueInvalid errVerifiedFinalizeNeedsBoth)
    else do
      let digest ← decodeField .errSignatureValueInvalid req.digest
      let signDER ← decodeField .errSigningCertificateInvalid req.signingCertificate
      let signCert ← Signing.parseSigningCertificate P signDER
      Signing.verifySignatureValue P signCert req.signatureAlgorithm digest sig
      let checked ← authCert.checkSameNaturalPerson signCert
      pure (true, checked)
  else .ok (false, false)

def finalize (P : Platform) (body : Except GoError FinalizeRequest) :
    Except GoError FinalizeResponse := do
  let req ← body
  let sig ← decodeField .errSigningCertificateInvalid req.signature
  let authDER ← decodeField .errSigningCertificateInvalid req.authCertificate
  let (authCert, signed) ← Signing.Signer.finalize P sig authDER
  let (sigVerified, identityBound) ← verifyFinalize P req sig authCert
  pure
    { status := "ok"
      signature := Base64.stdEncoding.encodeToString signed
      authCertificate := Base64.stdEncoding.encodeToString authCert.raw
      signatureVerified := sigVerified
      identityBound := identityBound }

end Handler

end WebEid.Azugo
