import WebEid.Ref.Routes

/-!
# What login and validate accept, and whom they establish

`POST /auth/login` and `POST /auth/validate` reach the validator by the same
road: the body is decoded straight into an `AuthToken`, the pipeline of
`Validate` runs, and the certificate it yields becomes the user of the request.
This file compares that road with two others.

* **`Parse`.** The strict reading of a token is `validateStructure`, and only
  `Parse` calls it. Of its five checks the pipeline makes four on its way: a
  token without certificate, signature or a known algorithm cannot verify. The
  fifth is the format, which the pipeline never reads, so an accepted token
  passes the strict reading exactly when its format does
  (`accepted_structure_iff`).

* **The identity.** The user is set from the certificate before the answer is
  decided, and the one field the user is keyed by is the one whose absence
  nobody checks. `login_verdict` and `validate_verdict` bring both endpoints
  into one form, and `user_established_iff` says when a user stands for a
  success and a real identity.
-/

namespace WebEid

open Lib Exceptions

/-! ## The strict reading of an accepted token -/

namespace AuthTokenValidator

/-- The platform's parsers and verifiers refuse an empty input. -/
structure RefusesEmpty (P : Platform) : Prop where
  certificate : ∀ c, P.parseCertificate [] ≠ .ok c
  pkcs1v15 : ∀ pub h digest, P.rsaVerifyPKCS1v15 pub h digest [] ≠ .ok ()
  pss : ∀ pub h digest, P.rsaVerifyPSS pub h digest [] ≠ .ok ()

theorem verify_nil {P : Platform} (hP : RefusesEmpty P) {cert : Certificate}
    {algorithm : String} {data : Bytes} :
    Signature.verify P cert algorithm data [] ≠ .ok () := by
  intro h
  unfold Signature.verify at h
  split at h
  · cases h
  · next hash _ =>
      simp only [] at h
      split at h
      · next pub _ =>
          split at h
          · split at h
            · cases h
            · next hok => exact hP.pss _ _ _ hok
          · split at h
            · cases h
            · next hok => exact hP.pkcs1v15 _ _ _ hok
      · next pub _ => rw [Signature.splitP1363_nil] at h; cases h
      · cases h

/-- Steps 1 to 4 parse the certificate the token carries. -/
theorem checkToken_ok {P : Platform} {env : ValidateEnv} {v : AuthTokenValidator}
    {token : AuthToken} {nonce : String} {cert : Certificate}
    (h : checkToken P env v token nonce = .ok cert) :
    ∃ der, token.decodeCertificate = .ok der ∧ P.parseCertificate der = .ok cert := by
  unfold checkToken at h
  split at h
  · cases h
  · obtain ⟨der, hder, h⟩ := bind_eq_ok h
    obtain ⟨c, hc, h⟩ := bind_eq_ok h
    obtain ⟨_, _, h⟩ := bind_eq_ok h
    obtain ⟨_, _, h⟩ := bind_eq_ok h
    obtain ⟨_, _, h⟩ := bind_eq_ok h
    cases h
    exact ⟨der, hder, mapError_eq_ok hc⟩

theorem certificate_ne_empty {P : Platform} (hP : RefusesEmpty P) {env : ValidateEnv}
    {v : AuthTokenValidator} {token : AuthToken} {nonce : String} {cert : Certificate}
    (h : checkToken P env v token nonce = .ok cert) : token.unverifiedCertificate ≠ "" := by
  intro hempty
  obtain ⟨der, hder, hparse⟩ := checkToken_ok h
  unfold AuthToken.decodeCertificate at hder
  rw [hempty, Base64.decodeString_empty] at hder
  cases hder
  exact hP.certificate cert hparse

theorem signature_ne_empty {P : Platform} (hP : RefusesEmpty P) {v : AuthTokenValidator}
    {token : AuthToken} {nonce : String} {cert : Certificate}
    (h : v.verifySignature P token cert nonce = .ok ()) : token.signature ≠ "" := by
  intro hempty
  obtain ⟨hash, sig, origin, _, hsig, _, hver⟩ := verifySignature_ok h
  unfold AuthToken.decodeSignature at hsig
  rw [hempty, Base64.decodeString_empty] at hsig
  cases hsig
  exact verify_nil hP hver

theorem algorithm_supported {P : Platform} {v : AuthTokenValidator} {token : AuthToken}
    {nonce : String} {cert : Certificate}
    (h : v.verifySignature P token cert nonce = .ok ()) :
    Signature.isSupportedAlgorithm token.algorithm = true := by
  obtain ⟨hash, _, _, hhash, _⟩ := verifySignature_ok h
  unfold Signature.isSupportedAlgorithm
  rw [show Signature.jwaToHash.lookup token.algorithm = some hash from hhash]
  rfl

/-- An accepted token passes the strict reading exactly when its format does,
and it is accepted with any other format too. -/
theorem accepted_structure_iff {P : Platform} (hP : RefusesEmpty P) {env : ValidateEnv}
    {v : AuthTokenValidator} {token : AuthToken} {nonce : String} {trust : Nat → TrustSnapshot}
    {cert : Certificate} (haccepted : (v.validate P env token nonce).under trust = .ok cert) :
    (token.validateStructure = .ok () ↔ token.validateFormat = .ok ()) ∧
      ∀ format, (v.validate P env { token with format := format } nonce).under trust =
        .ok cert := by
  refine ⟨⟨?_, ?_⟩, ?_⟩
  · intro hstructure
    exact (AuthToken.validateStructure_ok_iff.mp hstructure).2.2.2
  · intro hformat
    obtain ⟨htoken, hsig, _⟩ := validate_ok haccepted
    exact AuthToken.validateStructure_ok_iff.mpr
      ⟨certificate_ne_empty hP htoken, signature_ne_empty hP hsig,
        algorithm_supported hsig, hformat⟩
  · -- the pipeline never reads the format
    intro format
    exact haccepted

end AuthTokenValidator

/-! ### A token of no format at all -/

namespace Accepting

/-- A certificate with a common name and no serial number in its subject. -/
def cert : Certificate :=
  { (default : Certificate) with
    subject := { (default : Name) with commonName := "A" }
    notAfter := ⟨10⟩
    keyUsage := keyUsageDigitalSignature
    extKeyUsage := [.clientAuth]
    publicKey := .rsa ⟨35, 5⟩ }

/-- Every certificate parses as `cert` and every signature verifies, unless it
is empty. -/
def platform : Platform :=
  { Platform.refusing with
    parseCertificate := fun der => if der = [] then .error (.text "") else .ok cert
    verify := fun _ _ => .ok ()
    rsaVerifyPKCS1v15 := fun _ _ _ sig => if sig = [] then .error (.text "") else .ok ()
    marshalHeader := fun _ => .ok []
    marshalClaims := fun _ => .ok [] }

theorem refusesEmpty : AuthTokenValidator.RefusesEmpty platform where
  certificate := fun _ h => by cases h
  pkcs1v15 := fun _ _ _ h => by cases h
  pss := fun _ _ _ h => by cases h

def validator : AuthTokenValidator := ⟨["https://a.lv"], 0, none, []⟩

/-- The certificate and the signature are one byte each. -/
def token (format : String) : AuthToken := ⟨"AA==", "RS256", "AA==", format, ""⟩

def env : ValidateEnv := ⟨⟨0⟩, ⟨.error (.text ""), fun _ _ _ _ => .error (.text ""), ⟨0⟩⟩⟩

def trust : Nat → TrustSnapshot := fun _ => newTrustSnapshot []

end Accepting

namespace AuthTokenValidator

/-- A token of format `web-eid:1.0` is accepted, and the strict reading of it
passes. -/
theorem accepted_structure_iff_supported :
    (Accepting.validator.validate Accepting.platform Accepting.env
        (Accepting.token "web-eid:1.0") "n").under Accepting.trust = .ok Accepting.cert ∧
      (Accepting.token "web-eid:1.0").validateStructure = .ok () := by
  have haccepted : (Accepting.validator.validate Accepting.platform Accepting.env
      (Accepting.token "web-eid:1.0") "n").under Accepting.trust = .ok Accepting.cert := by rfl
  exact ⟨haccepted,
    (accepted_structure_iff Accepting.refusesEmpty haccepted).1.mpr (by decide)⟩

/-- Tokens of major version 2 and of no format at all are accepted too. -/
theorem accepted_without_format :
    (Accepting.validator.validate Accepting.platform Accepting.env
        (Accepting.token "web-eid:2.0") "n").under Accepting.trust = .ok Accepting.cert ∧
      (Accepting.token "web-eid:2.0").validateStructure ≠ .ok () ∧
      (Accepting.validator.validate Accepting.platform Accepting.env
        (Accepting.token "") "n").under Accepting.trust = .ok Accepting.cert ∧
      (Accepting.token "").validateStructure ≠ .ok () := by
  refine ⟨by rfl, by decide, by rfl, by decide⟩

end AuthTokenValidator

/-! ## The user and the answer -/

namespace Assertion.Issuer

/-- An issuer whose random source, encoder and key work. -/
structure Works (P : Platform) (env : IssueEnv) (i : Issuer) : Prop where
  jti : ∃ jti, env.genJTI = .ok jti
  header : ∃ b, P.marshalHeader ⟨"ES256", "JWT", i.key.kid⟩ = .ok b
  claims : ∀ c, ∃ b, P.marshalClaims c = .ok b
  sign : ∀ digest, ∃ rs, env.ecdsaSign i.key.key digest = .ok rs

/-- A working issuer refuses nobody but a subject without a national id. -/
theorem Works.issue {P : Platform} {env : IssueEnv} {i : Issuer} (h : i.Works P env)
    {s : Subject} (hs : s.nationalID ≠ "") : ∃ tok, i.issue P env s = .ok tok := by
  obtain ⟨jti, hjti⟩ := h.jti
  obtain ⟨hdr, hhdr⟩ := h.header
  obtain ⟨payload, hpayload⟩ := h.claims (i.claims s jti env.now)
  obtain ⟨rs, hrs⟩ := h.sign
    (P.hashSum .sha256 (Go.bytes (b64 hdr ++ "." ++ b64 payload)))
  unfold Issuer.issue Assertion.sign
  simp only [if_neg hs, hjti, hhdr, hpayload, hrs, bind_ok]
  exact ⟨_, rfl⟩

/-- What fails when there is no token for a subject with a national id: the
source of token ids, the encoding of the header or of the claims, or the
signature over the two. -/
inductive SignFails (P : Platform) (env : IssueEnv) (i : Issuer) (s : Subject) (err : GoError) :
    Prop where
  | jti (h : env.genJTI = .error err)
  | header (h : P.marshalHeader ⟨"ES256", "JWT", i.key.kid⟩ = .error err)
  | claims {jti : String} (hjti : env.genJTI = .ok jti)
      (h : P.marshalClaims (i.claims s jti env.now) = .error err)
  | signature {jti : String} {hdr payload : Bytes} (hjti : env.genJTI = .ok jti)
      (hhdr : P.marshalHeader ⟨"ES256", "JWT", i.key.kid⟩ = .ok hdr)
      (hpayload : P.marshalClaims (i.claims s jti env.now) = .ok payload)
      (h : env.ecdsaSign i.key.key
        (P.hashSum .sha256 (Go.bytes (b64 hdr ++ "." ++ b64 payload))) = .error err)

theorem issue_error {P : Platform} {env : IssueEnv} {i : Issuer} {s : Subject} {err : GoError}
    (h : i.issue P env s = .error err) :
    s.nationalID = "" ∧ err = errNationalIDRequired ∨ i.SignFails P env s err := by
  rw [issue] at h
  split at h
  next hid =>
    cases h
    exact Or.inl ⟨hid, rfl⟩
  next =>
    refine Or.inr ?_
    rcases bind_eq_error h with hjti | ⟨jti, hjti, h⟩
    · exact .jti hjti
    rcases bind_eq_error h with hhdr | ⟨hdr, hhdr, h⟩
    · exact .header hhdr
    rcases bind_eq_error h with hpayload | ⟨payload, hpayload, h⟩
    · exact .claims hjti hpayload
    rcases bind_eq_error h with hsign | ⟨rs, -, h⟩
    · exact .signature hjti hhdr hpayload hsign
    · cases h

end Assertion.Issuer

namespace Azugo

open Handler

/-- The identity code of a subject is the serial number of the certificate's
subject, empty when it is missing. -/
theorem subjectFromCertificate_idCode (cert : Certificate) :
    (subjectFromCertificate cert).idCode = cert.subject.serialNumber := by
  show orEmpty cert.subjectIDCode = _
  unfold Certificate.subjectIDCode
  split
  · next h => rw [h]; rfl
  · rfl

theorem userOf_sub (s : SubjectResponse) :
    (userOf s).claim "sub" = some [s.idCode] := rfl

/-- What the validator's verdict on a login request is, failures on the way to
the validator included. -/
def loginVerdict {κ σ : Type} (P : Platform) (venv : ValidateEnv) (h : Handler)
    (S : ChallengeNonceStore κ σ) (timeNow : Time) (trust : Nat → TrustSnapshot) (ctx : κ)
    (body : Except GoError LoginRequest) (st : σ) : Except GoError Certificate := do
  let (req, stored) ← (takeNonce S ctx body st).1
  h.checkExpiry timeNow stored
  (h.validator.validate P venv req.authToken stored.base64EncodedNonce).under trust

def validateVerdict (P : Platform) (venv : ValidateEnv) (h : Handler)
    (trust : Nat → TrustSnapshot) (body : Except GoError ValidateRequest)
    (valid : ValidateRequest → Except GoError Unit) : Except GoError Certificate := do
  let req ← body
  valid req
  (h.validator.validate P venv req.authToken req.nonce).under trust

/-- A login is its verdict, turned into a user and an answer. -/
theorem login_verdict {κ σ : Type} (P : Platform) (venv : ValidateEnv)
    (ienv : Assertion.IssueEnv) (h : Handler) (S : ChallengeNonceStore κ σ) (timeNow : Time)
    (trust : Nat → TrustSnapshot) (ctx : κ) (body : Except GoError LoginRequest) (st : σ) :
    (h.login P venv ienv S timeNow trust ctx body st).1 =
      establish P ienv h.assertionIssuer
        (loginVerdict P venv h S timeNow trust ctx body st) := by
  unfold Handler.login loginVerdict
  cases htake : takeNonce S ctx body st with
  | mk r st' =>
      cases r with
      | error err => rfl
      | ok p =>
          obtain ⟨req, stored⟩ := p
          cases hexp : h.checkExpiry timeNow stored with
          | error err => simp only [bind_ok, bind_error, hexp]; rfl
          | ok u => simp only [bind_ok, hexp]; rfl

theorem validate_verdict (P : Platform) (venv : ValidateEnv) (ienv : Assertion.IssueEnv)
    (h : Handler) (trust : Nat → TrustSnapshot) (body : Except GoError ValidateRequest)
    (valid : ValidateRequest → Except GoError Unit) :
    h.validate P venv ienv trust body valid =
      establish P ienv h.assertionIssuer (validateVerdict P venv h trust body valid) := by
  unfold Handler.validate validateVerdict
  cases body with
  | error err => rfl
  | ok req =>
      cases hvalid : valid req with
      | error err => simp only [bind_ok, bind_error, hvalid]; rfl
      | ok u => simp only [bind_ok, hvalid]

/-- A user stands for a success and for the identity of the certificate, and
success does not hang on an issuer being configured. `reply` is the request's
reply as a function of the configured issuer. -/
structure UserSound (P : Platform) (ienv : Assertion.IssueEnv)
    (assertionIssuer : Option Assertion.Issuer) (verdict : Except GoError Certificate)
    (reply : Option Assertion.Issuer → Reply LoginResponse) : Prop where
  success : ∀ u, (reply assertionIssuer).user = some u →
    ∃ resp, (reply assertionIssuer).answer = .ok resp
  identity : ∀ u, (reply assertionIssuer).user = some u →
    ∃ cert, verdict = .ok cert ∧ cert.subject.serialNumber ≠ "" ∧
      u.claim "sub" = some [cert.subject.serialNumber]
  independent : ∀ iss, Assertion.Issuer.Works P ienv iss →
    ((reply none).answer.isOk ↔ (reply (some iss)).answer.isOk)

/-- The accepted certificate names its subject, and the configured issuer, if
there is one, issues for it. -/
def Identified (P : Platform) (ienv : Assertion.IssueEnv)
    (assertionIssuer : Option Assertion.Issuer) (verdict : Except GoError Certificate) :
    Prop :=
  ∀ cert, verdict = .ok cert → cert.subject.serialNumber ≠ "" ∧
    ∀ iss, assertionIssuer = some iss →
      ∃ tok, iss.issue P ienv (assertionSubject (subjectFromCertificate cert)) = .ok tok

section

variable {P : Platform} {ienv : Assertion.IssueEnv}
  {assertionIssuer : Option Assertion.Issuer} {cert : Certificate}

/-- The user is set whatever becomes of the answer. -/
theorem establish_user :
    (establish P ienv assertionIssuer (.ok cert)).user =
      some (userOf (subjectFromCertificate cert)) := by
  unfold establish
  cases assertionIssuer with
  | none => rfl
  | some iss =>
      simp only []
      split <;> rfl

theorem establish_isOk_some {iss : Assertion.Issuer} :
    (∃ resp, (establish P ienv (some iss) (.ok cert)).answer = .ok resp) ↔
      ∃ tok, iss.issue P ienv (assertionSubject (subjectFromCertificate cert)) =
        .ok tok := by
  unfold establish
  simp only []
  cases iss.issue P ienv (assertionSubject (subjectFromCertificate cert)) with
  | error err => simp
  | ok tok => simp

theorem userSound_establish_iff (assertionIssuer : Option Assertion.Issuer)
    (verdict : Except GoError Certificate) :
    UserSound P ienv assertionIssuer verdict (fun iss => establish P ienv iss verdict) ↔
      Identified P ienv assertionIssuer verdict := by
  constructor
  · rintro ⟨hsuccess, hidentity, _⟩ cert rfl
    have huser : (establish P ienv assertionIssuer (.ok cert)).user = some _ :=
      establish_user
    obtain ⟨c, hc, hne, _⟩ := hidentity _ huser
    cases hc
    refine ⟨hne, ?_⟩
    rintro iss rfl
    exact establish_isOk_some.mp (hsuccess _ huser)
  · intro hid
    cases verdict with
    | error err =>
        refine ⟨fun u hu => ?_, fun u hu => ?_, fun iss _ => Iff.rfl⟩
        · cases hu
        · cases hu
    | ok cert =>
        obtain ⟨hne, hissues⟩ := hid cert rfl
        refine ⟨fun u _ => ?_, fun u hu => ?_, fun iss hworks => ?_⟩
        · cases assertionIssuer with
          | none => exact ⟨_, rfl⟩
          | some iss => exact establish_isOk_some.mpr (hissues iss rfl)
        · rw [establish_user] at hu
          cases hu
          refine ⟨cert, rfl, hne, ?_⟩
          rw [userOf_sub, subjectFromCertificate_idCode]
        · have hnat : (assertionSubject (subjectFromCertificate cert)).nationalID ≠ "" := by
            show (subjectFromCertificate cert).idCode ≠ ""
            rw [subjectFromCertificate_idCode]
            exact hne
          obtain ⟨resp, hresp⟩ := establish_isOk_some.mpr (hworks.issue hnat)
          rw [hresp]
          exact Iff.rfl

end

/-- Both endpoints establish a user only together with a success and a real
identity exactly when the accepted certificate has a serial number in its
subject and the configured issuer issues for it. -/
theorem user_established_iff {κ σ : Type} (P : Platform) (venv : ValidateEnv)
    (ienv : Assertion.IssueEnv) (h : Handler) (S : ChallengeNonceStore κ σ) (timeNow : Time)
    (trust : Nat → TrustSnapshot) (ctx : κ) (body : Except GoError LoginRequest) (st : σ)
    (vbody : Except GoError ValidateRequest)
    (valid : ValidateRequest → Except GoError Unit) :
    (UserSound P ienv h.assertionIssuer (loginVerdict P venv h S timeNow trust ctx body st)
        (fun iss => (Handler.login P venv ienv { h with assertionIssuer := iss } S timeNow
          trust ctx body st).1) ↔
      Identified P ienv h.assertionIssuer
        (loginVerdict P venv h S timeNow trust ctx body st)) ∧
    (UserSound P ienv h.assertionIssuer (validateVerdict P venv h trust vbody valid)
        (fun iss => Handler.validate P venv ienv { h with assertionIssuer := iss } trust
          vbody valid) ↔
      Identified P ienv h.assertionIssuer (validateVerdict P venv h trust vbody valid)) := by
  -- the verdict does not depend on the issuer
  have hlogin : (fun iss => (Handler.login P venv ienv { h with assertionIssuer := iss } S
      timeNow trust ctx body st).1) =
      fun iss => establish P ienv iss (loginVerdict P venv h S timeNow trust ctx body st) := by
    funext iss
    exact login_verdict P venv ienv { h with assertionIssuer := iss } S timeNow trust ctx
      body st
  have hvalidate : (fun iss => Handler.validate P venv ienv { h with assertionIssuer := iss }
      trust vbody valid) =
      fun iss => establish P ienv iss (validateVerdict P venv h trust vbody valid) := by
    funext iss
    exact validate_verdict P venv ienv { h with assertionIssuer := iss } trust vbody valid
  rw [hlogin, hvalidate]
  exact ⟨userSound_establish_iff _ _, userSound_establish_iff _ _⟩

/-! ### A user without an identity -/

namespace Nameless

def issuer : Assertion.Issuer := ⟨⟨"k", ⟨⟨.p256, 0, 0⟩, 0⟩⟩, "https://a.lv", "auth", 1⟩

def issueEnv : Assertion.IssueEnv := ⟨.ok "id", ⟨0⟩, fun _ _ => .ok (0, 0)⟩

def handler (assertionIssuer : Option Assertion.Issuer) : Handler where
  store := .session 5
  runtimeTrust := false
  ocspTransport := none
  assertionIssuer := assertionIssuer
  config := ⟨["https://a.lv"], "", 5, false, 0, "", [], ["SHA-256"], false, [], [], []⟩
  validator := Accepting.validator
  generator := ⟨minNonceBytes⟩
  signer := ⟨["SHA-256"], some 0, none, []⟩
  trust := 0

/-- The reply to a valid token of a certificate without a serial number. -/
def reply (assertionIssuer : Option Assertion.Issuer) : Reply LoginResponse :=
  (handler assertionIssuer).validate Accepting.platform Accepting.env issueEnv
    Accepting.trust (.ok ⟨Accepting.token "web-eid:1.0", "n"⟩) fun _ => .ok ()

end Nameless

/-- Without an issuer a user is established whose `sub` is empty; with a
working one the same request sets the user and fails. -/
theorem user_without_identity :
    (∃ u resp, Nameless.reply none = ⟨some u, .ok resp⟩ ∧ u.claim "sub" = some [""]) ∧
      Nameless.issuer.Works Accepting.platform Nameless.issueEnv ∧
      ∃ u err, Nameless.reply (some Nameless.issuer) = ⟨some u, .error err⟩ := by
  refine ⟨⟨_, _, rfl, by decide⟩, ?_, ⟨_, _, rfl⟩⟩
  exact ⟨⟨"id", rfl⟩, ⟨[], rfl⟩, fun _ => ⟨[], rfl⟩, fun _ => ⟨(0, 0), rfl⟩⟩

end Azugo

end WebEid
