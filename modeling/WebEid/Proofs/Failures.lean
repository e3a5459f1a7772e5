import WebEid.Lib.Raises
import WebEid.Proofs.HonestLogin
import WebEid.Proofs.SessionCookie
import WebEid.Proofs.TrustReads

/-!
# What a client can be told

A typed error is answered with its own status and message; anything else is an
internal error to the client. `failures_explained` says which of the two it is
for every request of every run. Each endpoint has a short list of codes
(`Site.codes`), without the two of the revocation check where that is switched
off. The library has two errors of its own without a code: the middleware's,
for a request to another host, and the issuer's, for an accepted certificate
without a serialNumber. Everything else comes from outside: the body could not
be read or is not valid, the random source failed, what is signed could not be
encoded or not be signed, or a published key has no encoding.

The lists are derived function by function, along the code (`Lib/Raises`).
-/

namespace WebEid

open Lib Exceptions Ocsp

/-- A typed error with one of these codes. -/
def Coded (codes : List Error) (err : GoError) : Prop := ∃ e ∈ codes, err.error? = some e

section Coded

variable {α : Type} {codes codes' : List Error} {e : Error}

theorem Coded.mono (hsub : codes ⊆ codes') (err : GoError) (h : Coded codes err) :
    Coded codes' err := by
  obtain ⟨e, he, herr⟩ := h
  exact ⟨e, hsub he, herr⟩

theorem raises_typed (he : e ∈ codes) :
    Raises (Coded codes) (.error (.typed e) : Except GoError α) :=
  Raises.error ⟨e, he, rfl⟩

theorem raises_wrap (he : e ∈ codes) (cause : GoError) :
    Raises (Coded codes) (.error (wrap e cause) : Except GoError α) :=
  Raises.error ⟨e, he, rfl⟩

theorem raises_mapError_wrap (he : e ∈ codes) (x : Except GoError α) :
    Raises (Coded codes) (x.mapError (wrap e)) :=
  Raises.mapError fun _ => ⟨e, he, rfl⟩

end Coded

/-- The codes of a revocation check, where there is one. -/
def revocationCodes (checker : Option Checker) : List Error :=
  if checker.isSome then [.errOCSPRequestFailed, .errCertificateRevoked] else []

theorem check_raises (P : Platform) (env : OcspEnv) (c : Checker) (cert issuer : Certificate) :
    Raises (Coded (revocationCodes (some c))) (c.check P env cert issuer) := by
  intro err h
  rcases check_error h with hfailed | hrevoked
  · exact ⟨_, List.mem_cons_self, hfailed⟩
  · exact ⟨_, List.mem_cons_of_mem _ List.mem_cons_self, hrevoked⟩

/-! ## Certificates -/

namespace Certificate

theorem checkValidity_raises (cert : Certificate) (now : Time) :
    Raises (Coded [.errCertificateNotYetValid, .errCertificateExpired])
      (cert.checkValidity now) :=
  Raises.ite (raises_typed (by simp)) (Raises.ite (raises_typed (by simp)) (Raises.ok _))

theorem checkKeyUsageForAuthentication_raises (cert : Certificate) :
    Raises (Coded [.errUserCertificateWrongPurpose]) cert.checkKeyUsageForAuthentication :=
  Raises.ite (raises_typed (by simp)) (Raises.ite (raises_typed (by simp)) (Raises.ok _))

theorem checkKeyUsageForSigning_raises (cert : Certificate) :
    Raises (Coded [.errSigningCertificateInvalid]) cert.checkKeyUsageForSigning :=
  Raises.ite (raises_typed (by simp)) (Raises.ok _)

theorem checkDisallowedPolicies_raises (P : Platform) (cert : Certificate)
    (disallowed : List ObjectIdentifier) :
    Raises (Coded [.errCertificateDisallowedPolicy])
      (cert.checkDisallowedPolicies P disallowed) := by
  refine Raises.ite (Raises.ok _) ?_
  split
  next err _ => exact raises_wrap (by simp) err
  next => exact Raises.ite (raises_typed (by simp)) (Raises.ok _)

theorem checkAcceptedPolicies_raises (P : Platform) (cert : Certificate)
    (accepted : List ObjectIdentifier) :
    Raises (Coded [.errCertificateDisallowedPolicy])
      (cert.checkAcceptedPolicies P accepted) := by
  refine Raises.ite (Raises.ok _) ?_
  split
  next err _ => exact raises_wrap (by simp) err
  next => exact Raises.ite (Raises.ok _) (raises_typed (by simp))

theorem checkSameNaturalPerson_raises (a b : Certificate) :
    Raises (Coded [.errIdentityBindingMismatch]) (a.checkSameNaturalPerson b) :=
  Raises.ite (Raises.ok _) (Raises.ite (raises_typed (by simp)) (Raises.ok _))

end Certificate

theorem verifyAgainst_raises (P : Platform) (snap : TrustSnapshot) (cert : Certificate) (now : Time)
    (usages : List ExtKeyUsage) :
    Raises (Coded [.errCertificateNotTrusted])
      (TrustStore.verifyAgainst P snap cert now usages) := by
  simp only [TrustStore.verifyAgainst]
  split
  next err _ => exact raises_wrap (by simp) err
  next => exact Raises.ok _

/-! ## The validator -/

namespace AuthTokenValidator

def codes (v : AuthTokenValidator) : List Error :=
  [.errChallengeNonceNotFound, .errTokenParse, .errTokenUnsupportedFormat,
    .errTokenSignatureInvalid, .errCertificateExpired, .errCertificateNotYetValid,
    .errCertificateNotTrusted, .errCertificateDisallowedPolicy,
    .errUserCertificateWrongPurpose] ++ revocationCodes v.ocspChecker

variable {P : Platform} {env : ValidateEnv} {v : AuthTokenValidator}

theorem decodeCertificate_raises (token : AuthToken) :
    Raises (Coded [.errTokenParse]) token.decodeCertificate := by
  rw [AuthToken.decodeCertificate]
  split
  next => exact raises_wrap (by simp) _
  next => exact Raises.ok _

theorem checkToken_raises (token : AuthToken) (nonce : String) :
    Raises (Coded v.codes) (checkToken P env v token nonce) := by
  rw [checkToken]
  split
  next => exact raises_typed (by simp [codes])
  next =>
    refine Raises.bind ((decodeCertificate_raises token).mono (Coded.mono (by simp [codes]))) ?_
    intro der
    refine Raises.bind (raises_mapError_wrap (by simp [codes]) _) ?_
    intro cert
    refine Raises.bind ((cert.checkValidity_raises _).mono (Coded.mono (by simp [codes]))) ?_
    intro _
    refine Raises.bind (cert.checkKeyUsageForAuthentication_raises.mono
      (Coded.mono (by simp [codes]))) ?_
    intro _
    refine Raises.bind ((cert.checkDisallowedPolicies_raises P _).mono
      (Coded.mono (by simp [codes]))) ?_
    intro _
    exact Raises.ok _

theorem checkRevocation_raises (cert : Certificate) (t : Nat → TrustSnapshot) :
    Raises (Coded v.codes) ((v.checkRevocation P env cert).under t) := by
  rw [checkRevocation]
  cases hchecker : v.ocspChecker with
  | none => exact Raises.ok _
  | some checker =>
      simp only [TrustStore.under_issuerOf]
      unfold checkIssuer
      split
      next => exact raises_typed (by simp [codes])
      next issuer _ =>
        refine (check_raises P env.ocsp checker cert issuer).mono (Coded.mono ?_)
        rw [codes, hchecker]
        exact List.subset_append_right _ _

theorem checkSignature_raises (token : AuthToken) (cert : Certificate) (nonce : String) :
    Raises (Coded v.codes) (v.checkSignature P token cert nonce) := by
  intro err h
  rcases checkSignature_error h with he | he | he
  · exact ⟨_, by simp [codes], he⟩
  · exact ⟨_, by simp [codes], he⟩
  · exact ⟨_, by simp [codes], he⟩

theorem validate_raises (token : AuthToken) (nonce : String) (trust : Nat → TrustSnapshot) :
    Raises (Coded v.codes) ((v.validate P env token nonce).under trust) := by
  rw [validate_under]
  refine Raises.bind (checkToken_raises token nonce) ?_
  intro cert
  refine Raises.bind ((verifyAgainst_raises P _ cert _ _).mono (Coded.mono (by simp [codes]))) ?_
  intro _
  refine Raises.bind (checkRevocation_raises cert _) ?_
  intro _
  exact checkSignature_raises token cert nonce

end AuthTokenValidator

/-! ## The signer -/

namespace Signing.Signer

def codes (s : Signer) : List Error :=
  [.errSigningCertificateInvalid, .errCertificateDisallowedPolicy,
    .errNoSupportedHashFunction] ++ revocationCodes s.ocspChecker

variable {P : Platform} {env : ValidateEnv} {s : Signer}

theorem checkCertificate_raises (der : Bytes) (now : Time) :
    Raises (Coded s.codes) (s.checkCertificate P now der) := by
  rw [checkCertificate]
  refine Raises.bind (raises_mapError_wrap (by simp [codes]) _) ?_
  intro cert
  refine Raises.bind ?_ ?_
  · rw [validateSigningCertificate]
    split
    next => exact raises_typed (by simp [codes])
    next => exact cert.checkKeyUsageForSigning_raises.mono (Coded.mono (by simp [codes]))
  · intro _
    refine Raises.bind ((cert.checkAcceptedPolicies_raises P _).mono
      (Coded.mono (by simp [codes]))) ?_
    intro _
    exact Raises.ok _

theorem checkRevocation_raises (env : OcspEnv) (cert : Certificate) (t : Nat → TrustSnapshot) :
    Raises (Coded s.codes) ((s.checkRevocation P env cert).under t) := by
  rw [checkRevocation]
  cases hchecker : s.ocspChecker with
  | none => exact Raises.ok _
  | some checker =>
      simp only [TrustStore.under_issuerOf]
      unfold checkIssuer
      split
      next => exact raises_typed (by simp [codes])
      next issuer _ =>
        refine (check_raises P env checker cert issuer).mono (Coded.mono ?_)
        rw [codes, hchecker]
        exact List.subset_append_right _ _

theorem checkTrust_raises (cert : Certificate) (trust : Nat → TrustSnapshot) :
    Raises (Coded s.codes) ((s.checkTrust P env cert).under trust) := by
  cases htrust : s.trust with
  | none =>
      rw [checkTrust, htrust]
      exact Raises.ok _
  | some ref =>
      rw [checkTrust_eq htrust, Call.under, Call.under_lift_bind]
      refine Raises.bind (Raises.mapError fun _ => ⟨_, by simp [codes], rfl⟩) ?_
      intro _
      exact checkRevocation_raises _ cert _

theorem prepareSigning_raises (der : Bytes) (supported : List SignatureAlgorithm)
    (trust : Nat → TrustSnapshot) :
    Raises (Coded s.codes) ((s.prepareSigning P env der supported).under trust) := by
  rw [prepareSigning_eq, Call.under_lift_bind]
  refine Raises.bind (checkCertificate_raises der _) ?_
  intro cert
  rw [Call.under_bind_lift]
  refine Raises.bind (checkTrust_raises cert trust) ?_
  intro _ err h
  exact ⟨_, by simp [codes], negotiate_error h⟩

end Signing.Signer

/-! ## The endpoints -/

namespace Azugo

open SessionIsolation HonestLogin

def finalizeCodes : List Error :=
  [.errSigningCertificateInvalid, .errSignatureValueInvalid, .errIdentityBindingMismatch]

theorem decodeField_raises {codes : List Error} {e : Error} (he : e ∈ codes) (text : String) :
    Raises (Coded codes) (Handler.decodeField e text) := by
  rw [Handler.decodeField]
  split
  next => exact raises_wrap he _
  next => exact Raises.ok _

theorem verifySignatureValue_raises (P : Platform) (cert : Certificate)
    (algo : Signing.SignatureAlgorithm) (digest sig : Bytes) :
    Raises (Coded finalizeCodes) (Signing.verifySignatureValue P cert algo digest sig) := by
  refine Raises.ite (raises_wrap (by simp [finalizeCodes]) _) ?_
  split
  next =>
    exact Raises.ite (raises_wrap (by simp [finalizeCodes]) _)
      (Raises.ite (Raises.ok _) (raises_typed (by simp [finalizeCodes])))
  next =>
    split
    next => exact raises_wrap (by simp [finalizeCodes]) _
    next =>
      exact Raises.ite (raises_wrap (by simp [finalizeCodes]) _)
        (Raises.ite (raises_mapError_wrap (by simp [finalizeCodes]) _)
          (raises_mapError_wrap (by simp [finalizeCodes]) _))
  next => exact raises_wrap (by simp [finalizeCodes]) _

theorem verifyFinalize_raises (P : Platform) (req : FinalizeRequest) (sig : Bytes)
    (authCert : Certificate) :
    Raises (Coded finalizeCodes) (Handler.verifyFinalize P req sig authCert) := by
  refine Raises.ite (Raises.ite (raises_wrap (by simp [finalizeCodes]) _) ?_) (Raises.ok _)
  refine Raises.bind (decodeField_raises (by simp [finalizeCodes]) _) ?_
  intro digest
  refine Raises.bind (decodeField_raises (by simp [finalizeCodes]) _) ?_
  intro der
  refine Raises.bind (raises_mapError_wrap (by simp [finalizeCodes]) _) ?_
  intro cert
  refine Raises.bind (verifySignatureValue_raises P cert _ digest sig) ?_
  intro _
  refine Raises.bind ((authCert.checkSameNaturalPerson_raises cert).mono
    (Coded.mono (by simp [finalizeCodes]))) ?_
  intro _
  exact Raises.ok _

/-- The codes an endpoint of the site answers with. -/
def Site.codes (site : Site) : Endpoint → List Error
  | .challenge => []
  | .login => .errChallengeNonceExpired :: site.handler.validator.codes
  | .validate => site.handler.validator.codes
  | .signingCertificate => site.handler.signer.codes
  | .finalize => finalizeCodes
  | .jwks => []

/-- The token of the request was accepted with the certificate. A login takes
the nonce of its session out of the store as it stands. -/
def Site.Accepts (P : Platform) (site : Site) (req : Request) (st : InMemoryStore Context)
    (cert : Certificate) : Endpoint → Prop
  | .login => ∃ sid, site.sessionOf P req = some sid ∧
      loginVerdict P req.env.validate site.handler InMemoryStore.store req.env.timeNow
        req.env.trust ⟨some sid⟩ req.body.login st = .ok cert
  | .validate => validateVerdict P req.env.validate site.handler req.env.trust req.body.validate
      req.body.valid = .ok cert
  | _ => False

/-- There is no assertion for an accepted certificate: it does not name its
subject, or signing for that subject fails. -/
def Unissued (P : Platform) (site : Site) (req : Request) (cert : Certificate) (err : GoError) :
    Prop :=
  ∃ iss, site.handler.assertionIssuer = some iss ∧
    (cert.subject.serialNumber = "" ∧ err = Assertion.Issuer.errNationalIDRequired ∨
      iss.SignFails P req.env.issue (assertionSubject (subjectFromCertificate cert)) err)

/-- What an endpoint can fail with that is not the library's. -/
def Outside (P : Platform) (site : Site) (req : Request) : Endpoint → GoError → Prop
  | .challenge, err => req.env.nonceRandom site.handler.generator.nonceSize = .error err
  | .login, err => req.body.login = .error err
  | .validate, err => req.body.validate = .error err ∨
      ∃ body, req.body.validate = .ok body ∧ req.body.valid body = .error err
  | .signingCertificate, err => req.body.signingCertificate = .error err
  | .finalize, err => req.body.finalize = .error err
  | .jwks, err => ∃ key ∈ req.env.range (site.publishedKeys.getD .empty).keys.entries,
      P.ecdsaBytes key.2 = .error err

theorem establish_error {P : Platform} {env : Assertion.IssueEnv} {ai : Option Assertion.Issuer}
    {verdict : Except GoError Certificate} {err : GoError}
    (h : (establish P env ai verdict).answer = .error err) :
    verdict = .error err ∨ ∃ cert iss, verdict = .ok cert ∧ ai = some iss ∧
      iss.issue P env (assertionSubject (subjectFromCertificate cert)) = .error err := by
  cases verdict with
  | error err' =>
      cases h
      exact Or.inl rfl
  | ok cert =>
      cases ai with
      | none => cases h
      | some iss =>
          rw [establish] at h
          split at h
          next err' hissue =>
            cases h
            exact Or.inr ⟨cert, iss, rfl, rfl, hissue⟩
          next => cases h

/-- The issuer fails on an accepted certificate. -/
theorem unissued_of_issue {P : Platform} {site : Site} {req : Request} {cert : Certificate}
    {iss : Assertion.Issuer} {err : GoError} (hiss : site.handler.assertionIssuer = some iss)
    (h : iss.issue P req.env.issue (assertionSubject (subjectFromCertificate cert)) =
      .error err) : Unissued P site req cert err := by
  refine ⟨iss, hiss, ?_⟩
  rcases Assertion.Issuer.issue_error h with ⟨hid, herr⟩ | hfails
  · refine Or.inl ⟨?_, herr⟩
    rw [← subjectFromCertificate_idCode]
    exact hid
  · exact Or.inr hfails

theorem jwks_error {P : Platform} {site : Site} {env : Surroundings} {err : GoError}
    (h : site.jwks P env = .error err) :
    ∃ key ∈ env.range (site.publishedKeys.getD .empty).keys.entries,
      P.ecdsaBytes key.2 = .error err := by
  rw [Site.jwks, Assertion.jwks] at h
  rcases bind_eq_error h with hkeys | ⟨keys, -, h⟩
  · obtain ⟨key, hkey, hfail⟩ := mapM_eq_error hkeys
    rcases bind_eq_error hfail with hbytes | ⟨raw, -, hfail⟩
    · exact ⟨key, hkey, hbytes⟩
    · cases hfail
  · cases h

section Call

variable {P : Platform} {site : Site} {req : Request} {st : InMemoryStore Context}

/-- The store itself only ever answers that there is no nonce. -/
theorem loginVerdict_raises (hst : StoreOf site st) {sid : String}
    (hkey : sessionKey ⟨some sid⟩ = .ok sid) :
    Raises (fun err => Coded (site.codes .login) err ∨ req.body.login = .error err)
      (loginVerdict P req.env.validate site.handler InMemoryStore.store req.env.timeNow
        req.env.trust ⟨some sid⟩ req.body.login st) := by
  refine Raises.bind ?_ ?_
  · rw [Handler.takeNonce.eq_def]
    cases req.body.login with
    | error err => exact Raises.error (Or.inr rfl)
    | ok body =>
        have hnone : Raises (Coded [.errChallengeNonceNotFound])
            (InMemoryStore.getAndRemove ⟨some sid⟩ st).1 := by
          cases hlook : st.entries.lookup sid with
          | none =>
              rw [InMemoryStore.getAndRemove_of_none (hst.key ▸ hkey) hlook]
              exact raises_typed (by simp)
          | some n =>
              rw [InMemoryStore.getAndRemove_of_some (hst.key ▸ hkey) hlook]
              exact Raises.ok _
        rcases hget : InMemoryStore.getAndRemove ⟨some sid⟩ st with ⟨err | stored, st'⟩
        · rw [hget] at hnone
          simp only [InMemoryStore.store, hget]
          refine Raises.error (Or.inl (Coded.mono ?_ err (hnone err rfl)))
          simp [Site.codes, AuthTokenValidator.codes]
        · simp only [InMemoryStore.store, hget]
          exact Raises.ok _
  · intro p
    refine Raises.bind ?_ ?_
    · exact Raises.ite (Raises.error (Or.inl ⟨_, List.mem_cons_self, rfl⟩)) (Raises.ok _)
    · intro _
      exact (AuthTokenValidator.validate_raises _ _ _).mono
        fun err herr => Or.inl (Coded.mono (List.subset_cons_self _ _) err herr)

theorem validateVerdict_raises :
    Raises (fun err => Coded (site.codes .validate) err ∨ req.body.validate = .error err ∨
        ∃ body, req.body.validate = .ok body ∧ req.body.valid body = .error err)
      (validateVerdict P req.env.validate site.handler req.env.trust req.body.validate
        req.body.valid) := by
  rw [validateVerdict]
  cases hbody : req.body.validate with
  | error err => exact Raises.error (Or.inr (Or.inl rfl))
  | ok body =>
      rw [bind_ok]
      cases hvalid : req.body.valid body with
      | error err => exact Raises.error (Or.inr (Or.inr ⟨body, rfl, hvalid⟩))
      | ok u =>
          rw [bind_ok]
          exact (AuthTokenValidator.validate_raises _ _ _).mono fun err herr => Or.inl herr

/-- The store takes every nonce of a session. -/
theorem challenge_raises (hst : StoreOf site st) {sid : String}
    (hkey : sessionKey ⟨some sid⟩ = .ok sid) :
    Raises (fun err => req.env.nonceRandom site.handler.generator.nonceSize = .error err)
      (site.call P InMemoryStore.store req ⟨some sid⟩ st .challenge).1.answer := by
  simp only [Site.call, Handler.challenge, ChallengeNonceGenerator.generateAndStoreNonce,
    ChallengeNonceGenerator.generate]
  cases hdraw : req.env.nonceRandom site.handler.generator.nonceSize with
  | error err => exact Raises.error rfl
  | ok buf =>
      have hput := InMemoryStore.put_of_key (hst.key ▸ hkey) req.env.putNow
        ⟨Base64.stdEncoding.encodeToString buf, req.env.now⟩
      simp only [bind_ok, pure, Except.pure, InMemoryStore.store, hput]
      exact Raises.ok _

theorem signingCertificate_raises :
    Raises (fun err => Coded site.handler.signer.codes err ∨
        req.body.signingCertificate = .error err)
      (site.handler.signingCertificate P req.env.validate req.env.trust
        req.body.signingCertificate) := by
  refine Raises.bind (fun err hbody => Or.inr hbody) ?_
  intro body
  refine Raises.mono (C := Coded site.handler.signer.codes) ?_ fun err hcoded => Or.inl hcoded
  refine Raises.bind (decodeField_raises (by simp [Signing.Signer.codes]) _) ?_
  intro der
  refine Raises.bind (Signing.Signer.prepareSigning_raises der _ _) ?_
  intro prepared
  exact Raises.ok _

theorem finalize_raises :
    Raises (fun err => Coded finalizeCodes err ∨ req.body.finalize = .error err)
      (Handler.finalize P req.body.finalize) := by
  refine Raises.bind (fun err hbody => Or.inr hbody) ?_
  intro body
  refine Raises.mono (C := Coded finalizeCodes) ?_ fun err hcoded => Or.inl hcoded
  refine Raises.bind (decodeField_raises (by simp [finalizeCodes]) _) ?_
  intro sig
  refine Raises.bind (decodeField_raises (by simp [finalizeCodes]) _) ?_
  intro der
  refine Raises.bind ?_ ?_
  · refine Raises.ite (raises_wrap (by simp [finalizeCodes]) _) ?_
    refine Raises.bind (raises_mapError_wrap (by simp [finalizeCodes]) _) ?_
    intro cert
    exact Raises.ok _
  · intro p
    refine Raises.bind (verifyFinalize_raises P body sig p.1) ?_
    intro flags
    exact Raises.ok _

/-- An endpoint fails with one of its codes, for want of an assertion, or with
something outside. -/
theorem call_explained (hst : StoreOf site st) {ctx : Context} {e : Endpoint}
    (hctx : e = .challenge ∨ e = .login → ∃ sid, ctx = ⟨some sid⟩ ∧
      sessionKey ⟨some sid⟩ = .ok sid ∧ site.sessionOf P req = some sid)
    {err : GoError} (h : (site.call P InMemoryStore.store req ctx st e).1.answer = .error err) :
    Coded (site.codes e) err ∨
      (∃ cert, site.Accepts P req st cert e ∧ Unissued P site req cert err) ∨
      Outside P site req e err := by
  cases e with
  | challenge =>
      obtain ⟨sid, rfl, hkey, -⟩ := hctx (Or.inl rfl)
      exact Or.inr (Or.inr (challenge_raises hst hkey err h))
  | login =>
      obtain ⟨sid, rfl, hkey, hsid⟩ := hctx (Or.inr rfl)
      simp only [Site.call, login_verdict] at h
      rcases establish_error (map_eq_error h) with hverdict | ⟨cert, iss, hcert, hiss, hissue⟩
      · rcases loginVerdict_raises hst hkey err hverdict with hcoded | hbody
        · exact Or.inl hcoded
        · exact Or.inr (Or.inr hbody)
      · exact Or.inr (Or.inl ⟨cert, ⟨sid, hsid, hcert⟩, unissued_of_issue hiss hissue⟩)
  | validate =>
      simp only [Site.call, validate_verdict] at h
      rcases establish_error (map_eq_error h) with hverdict | ⟨cert, iss, hcert, hiss, hissue⟩
      · rcases validateVerdict_raises err hverdict with hcoded | hbody
        · exact Or.inl hcoded
        · exact Or.inr (Or.inr hbody)
      · exact Or.inr (Or.inl ⟨cert, hcert, unissued_of_issue hiss hissue⟩)
  | signingCertificate =>
      rcases signingCertificate_raises err (map_eq_error h) with hcoded | hbody
      · exact Or.inl hcoded
      · exact Or.inr (Or.inr hbody)
  | finalize =>
      rcases finalize_raises err (map_eq_error h) with hcoded | hbody
      · exact Or.inl hcoded
      · exact Or.inr (Or.inr hbody)
  | jwks => exact Or.inr (Or.inr (jwks_error (map_eq_error h)))

end Call

/-! ## The service -/

theorem ensureSession_error {P : Platform} {cfg : SiteConfiguration} {host cookie : String}
    {random : Nat → Except GoError Bytes} {err : GoError}
    (h : ensureSession P cfg host cookie random = .error err) :
    err = errHostMismatch ∨ random sessionIDBytes = .error err := by
  rcases bind_eq_error h with hhost | ⟨u, -, h⟩
  · refine Or.inl ?_
    rw [checkHost] at hhost
    split at hhost
    · cases hhost
      rfl
    · cases hhost
  · refine Or.inr ?_
    split at h
    · cases h
    · rcases bind_eq_error h with hid | ⟨id, -, h⟩
      · rcases bind_eq_error hid with hrandom | ⟨buf, -, hid⟩
        · exact hrandom
        · cases hid
      · cases h

/-- A session that was ensured has a key, when the random source fills what it
is asked to fill. -/
theorem ensureSession_key {P : Platform} {cfg : SiteConfiguration} {host cookie sid : String}
    {random : Nat → Except GoError Bytes} {set : Option SetCookie}
    (hrandom : ∀ n b, random n = .ok b → b.length = n)
    (h : ensureSession P cfg host cookie random = .ok (sid, set)) :
    sessionKey ⟨some sid⟩ = .ok sid := by
  refine SessionCookie.sessionKey_of_valid ?_
  obtain ⟨-, ⟨hvalid, rfl, -⟩ | ⟨-, hid, -⟩⟩ := ensureSession_ok h
  · exact hvalid
  · exact validSessionID_newSessionID hrandom hid

/-- On every run of a site with the in-process store, a request that fails was
refused by the middleware, for its host or for want of a session id; or it
fails with a code of its endpoint; or its token was accepted and the issuer has
no assertion for the certificate; or what failed is outside the library. -/
theorem failures_explained (P : Platform) (site : Site) (past : List Request) {req : Request}
    (hrandom : ∀ n b, req.env.sessionRandom n = .ok b → b.length = n) {st : InMemoryStore Context}
    (hpast : site.serveAll P InMemoryStore.store past (newSessionStore site.handler.config) = st)
    {resp : Response} {err : GoError}
    (hserve : (site.serve P InMemoryStore.store req st).1 = some resp)
    (herr : resp.answer = .error err) :
    ∃ route, site.route req = some route ∧
      (route.ensureSession = true ∧
          (err = errHostMismatch ∨ req.env.sessionRandom sessionIDBytes = .error err) ∨
        Coded (site.codes route.endpoint) err ∨
        (∃ cert, site.Accepts P req st cert route.endpoint ∧ Unissued P site req cert err) ∨
        Outside P site req route.endpoint err) := by
  have hst := serveAll_storeOf (P := P) past (storeOf_newSessionStore site)
  rw [hpast] at hst
  cases hroute : site.route req with
  | none =>
      simp only [Site.serve, hroute] at hserve
      cases hserve
  | some route =>
      refine ⟨route, rfl, ?_⟩
      cases hguard : route.ensureSession with
      | false =>
          rw [Site.serve_open hroute hguard] at hserve
          cases hserve
          refine Or.inr (call_explained hst ?_ herr)
          intro he
          rcases Site.unguarded_endpoint hroute hguard with hopen | hopen <;> simp [hopen] at he
      | true =>
          cases hsession : ensureSession P site.config req.host req.cookie
              req.env.sessionRandom with
          | error err' =>
              rw [Site.serve_refused hroute hguard hsession] at hserve
              cases hserve
              cases herr
              exact Or.inl ⟨rfl, ensureSession_error hsession⟩
          | ok r =>
              obtain ⟨sid, set⟩ := r
              rw [Site.serve_session hroute hguard hsession] at hserve
              cases hserve
              have hsid : site.sessionOf P req = some sid := by
                simp only [Site.sessionOf, hroute, hguard, hsession, if_true]
                rfl
              exact Or.inr (call_explained hst
                (fun _ => ⟨sid, rfl, ensureSession_key hrandom hsession, hsid⟩) herr)

def unchallenged : Request := sampleRequest .post "/auth/login" "AAAA" ⟨0⟩

/-- A login without a challenge before it. -/
theorem failures_explained_no_challenge :
    ∃ resp, (sampleSite.serve Platform.refusing InMemoryStore.store unchallenged
        (newSessionStore sampleSite.handler.config)).1 = some resp ∧
      resp.answer = .error (.typed .errChallengeNonceNotFound) ∧
      ∃ route, sampleSite.route unchallenged = some route ∧
        (Coded (sampleSite.codes route.endpoint) (.typed .errChallengeNonceNotFound) ∨
          (∃ cert, sampleSite.Accepts Platform.refusing unchallenged
              (newSessionStore sampleSite.handler.config) cert route.endpoint ∧
            Unissued Platform.refusing sampleSite unchallenged cert
              (.typed .errChallengeNonceNotFound)) ∨
          Outside Platform.refusing sampleSite unchallenged route.endpoint
            (.typed .errChallengeNonceNotFound)) := by
  have hserve : (sampleSite.serve Platform.refusing InMemoryStore.store unchallenged
      (newSessionStore sampleSite.handler.config)).1 =
      some ⟨none, none, .error (.typed .errChallengeNonceNotFound)⟩ := rfl
  have hrandom : ∀ n b, unchallenged.env.sessionRandom n = .ok b → b.length = n := by
    intro n b h
    cases h
    exact List.length_replicate
  refine ⟨_, hserve, rfl, ?_⟩
  obtain ⟨route, hroute, ⟨-, hhost | hfailed⟩ | hrest⟩ :=
    failures_explained Platform.refusing sampleSite [] hrandom rfl hserve rfl
  · cases hhost
  · cases hfailed
  · exact ⟨route, hroute, hrest⟩

end Azugo

end WebEid
