import WebEid.Proofs.Login
import WebEid.Proofs.SigningGates

/-!
# What the two pipelines accept

`Validate` and `PrepareSigning` are sequences of checks that stop at the first
failure, and each of them loads the trust store as it goes along. `Accepts`
and `Signing.Prepares` say what the sequences amount to, check by check and in
terms of the inputs. The order of the checks does not show in them: it decides
only which error is reported.

* **The endpoints** (`endpoints_accept_iff`). Who is established by a login or a
  validation, and which signing certificates are prepared, read off the request
  and the surroundings.

* **Relaxing a configuration** (`relaxed_accepts`). More origins, fewer
  forbidden policies or no revocation check never lock a card out. The list of
  accepted signing policies is the one to look out for, because it means
  everything while it is empty (`policy_lists_iff`).
-/

namespace WebEid

open Lib Exceptions Ocsp

/-! ## The checks of a certificate -/

namespace Certificate

theorem checkKeyUsageForAuthentication_ok_iff {cert : Certificate} :
    checkKeyUsageForAuthentication cert = .ok () ↔
      cert.keyUsage &&& keyUsageDigitalSignature ≠ 0 ∧
        ∃ eku ∈ cert.extKeyUsage, eku = .clientAuth ∨ eku = .any := by
  have hext : hasExtKeyUsage cert .clientAuth = true ↔
      ∃ eku ∈ cert.extKeyUsage, eku = .clientAuth ∨ eku = .any := by
    simp [hasExtKeyUsage, List.any_eq_true]
  rw [← hext, checkKeyUsageForAuthentication]
  split
  next h => simp [h]
  next h =>
    split
    next hno =>
      refine iff_of_false (by simp) ?_
      intro h
      rw [h.2] at hno
      cases hno
    next hyes => exact iff_of_true rfl ⟨h, by simpa using hyes⟩

/-- Without a list nothing is read; with one, the extension has to be
readable. -/
theorem checkDisallowedPolicies_ok_iff {P : Platform} {cert : Certificate}
    {disallowed : List ObjectIdentifier} :
    checkDisallowedPolicies P cert disallowed = .ok () ↔
      disallowed = [] ∨ ∃ present, extractPolicies P cert = .ok present ∧
        ∀ policy ∈ present, policy ∉ disallowed := by
  rw [checkDisallowedPolicies]
  split
  next hempty => exact iff_of_true rfl (Or.inl (List.isEmpty_iff.mp hempty))
  next hne =>
    have hlist : disallowed ≠ [] := fun h => hne (List.isEmpty_iff.mpr h)
    cases hextract : extractPolicies P cert with
    | error err => simp [hlist]
    | ok present =>
        simp only []
        split
        next hany =>
          refine iff_of_false (by simp) ?_
          simp only [List.any_eq_true, beq_iff_eq] at hany
          obtain ⟨policy, hpresent, bad, hbad, rfl⟩ := hany
          simp only [hlist, Except.ok.injEq, exists_eq_left', false_or]
          intro hall
          exact hall policy hpresent hbad
        next hnone =>
          refine iff_of_true rfl (Or.inr ⟨present, rfl, ?_⟩)
          intro policy hpresent hbad
          refine hnone (List.any_eq_true.mpr ⟨policy, hpresent, ?_⟩)
          exact List.any_eq_true.mpr ⟨policy, hbad, beq_self_eq_true _⟩

theorem checkAcceptedPolicies_ok_iff {P : Platform} {cert : Certificate}
    {accepted : List ObjectIdentifier} :
    checkAcceptedPolicies P cert accepted = .ok () ↔
      accepted = [] ∨ ∃ present, extractPolicies P cert = .ok present ∧
        ∃ policy ∈ present, policy ∈ accepted := by
  rw [checkAcceptedPolicies]
  split
  next hempty => exact iff_of_true rfl (Or.inl (List.isEmpty_iff.mp hempty))
  next hne =>
    have hlist : accepted ≠ [] := fun h => hne (List.isEmpty_iff.mpr h)
    cases hextract : extractPolicies P cert with
    | error err => simp [hlist]
    | ok present =>
        simp only []
        split
        next hany =>
          refine iff_of_true rfl (Or.inr ⟨present, rfl, ?_⟩)
          simp only [List.any_eq_true, beq_iff_eq] at hany
          obtain ⟨want, haccepted, policy, hpresent, rfl⟩ := hany
          exact ⟨policy, hpresent, haccepted⟩
        next hnone =>
          refine iff_of_false (by simp) ?_
          simp only [hlist, Except.ok.injEq, exists_eq_left', false_or]
          intro h
          obtain ⟨policy, hpresent, haccepted⟩ := h
          refine hnone (List.any_eq_true.mpr ⟨policy, haccepted, ?_⟩)
          exact List.any_eq_true.mpr ⟨policy, hpresent, beq_self_eq_true _⟩

theorem subjectCN_ok_iff {cert : Certificate} :
    (∃ cn, subjectCN cert = .ok cn) ↔ cert.subject.commonName ≠ "" := by
  rw [subjectCN]
  split
  next h => simp [h]
  next h => simp [h]

end Certificate

/-- A chain from the certificate to the snapshot, for this usage. -/
def TrustSnapshot.Trusts (P : Platform) (snap : TrustSnapshot) (cert : Certificate) (now : Time)
    (usage : ExtKeyUsage) : Prop :=
  P.verify cert ⟨snap.pool, snap.pool, now, [usage]⟩ = .ok ()

theorem TrustStore.verifyAgainst_ok_iff {P : Platform} {snap : TrustSnapshot} {cert : Certificate}
    {now : Time} {usage : ExtKeyUsage} {usages : List ExtKeyUsage}
    (husages : (if usages.isEmpty then [.any] else usages) = [usage]) :
    verifyAgainst P snap cert now usages = .ok () ↔ snap.Trusts P cert now usage := by
  simp only [verifyAgainst, husages, TrustSnapshot.Trusts]
  cases P.verify cert ⟨snap.pool, snap.pool, now, [usage]⟩ with
  | error err => simp
  | ok u => simp

theorem TrustStore.under_issuerOf {α : Type} (P : Platform) (cert : Certificate)
    (f : Option Certificate → Except GoError α) (t : Nat → TrustSnapshot) :
    (issuerOf P cert >>= fun issuer => (liftM (f issuer) : Call TrustSnapshot GoError α)).under t =
      f (findIssuer P (t 0) cert) :=
  Call.under_lift _ _

/-- The issuer the snapshot gives for the certificate vouches for it. -/
def Unrevoked (P : Platform) (env : OcspEnv) (checker : Checker) (snap : TrustSnapshot)
    (cert : Certificate) : Prop :=
  ∃ issuer, TrustStore.findIssuer P snap cert = some issuer ∧
    checker.check P env cert issuer = .ok ()

/-! ## Authentication -/

namespace AuthTokenValidator

/-- Fit to log in with at this moment, whoever presents it. The chain is built
to one load of the trust store and the issuer looked up in the next. -/
structure Eligible (P : Platform) (env : ValidateEnv) (v : AuthTokenValidator)
    (trust : Nat → TrustSnapshot) (cert : Certificate) : Prop where
  valid : cert.notBefore.ns ≤ env.now.ns ∧ env.now.ns ≤ cert.notAfter.ns
  purpose : cert.keyUsage &&& keyUsageDigitalSignature ≠ 0 ∧
    ∃ eku ∈ cert.extKeyUsage, eku = .clientAuth ∨ eku = .any
  policies : v.disallowedPolicies = [] ∨ ∃ present, cert.extractPolicies P = .ok present ∧
    ∀ policy ∈ present, policy ∉ v.disallowedPolicies
  trusted : (trust 0).Trusts P cert env.now .clientAuth
  unrevoked : ∀ checker, v.ocspChecker = some checker →
    Unrevoked P env.ocsp checker (trust 1) cert
  named : cert.subject.commonName ≠ ""

/-- The certificate has signed the nonce for one of the origins. -/
def Signed (P : Platform) (v : AuthTokenValidator) (token : AuthToken) (nonce : String)
    (cert : Certificate) : Prop :=
  ∃ hash sig, Signature.hashFor token.algorithm = some hash ∧
    Base64.stdEncoding.decodeString token.signature = some sig ∧ ∃ origin ∈ v.origins,
      Signature.verify P cert token.algorithm
        (P.hashSum hash (Go.bytes origin) ++ P.hashSum hash (Go.bytes nonce)) sig = .ok ()

/-- What `Validate` accepts, with the certificate it returns. -/
structure Accepts (P : Platform) (env : ValidateEnv) (v : AuthTokenValidator)
    (trust : Nat → TrustSnapshot) (token : AuthToken) (nonce : String)
    (cert : Certificate) : Prop extends Eligible P env v trust cert where
  nonce_ne : nonce ≠ ""
  carried : ∃ der, Base64.stdEncoding.decodeString token.unverifiedCertificate = some der ∧
    P.parseCertificate der = .ok cert
  signed : Signed P v token nonce cert

variable {P : Platform} {env : ValidateEnv} {v : AuthTokenValidator}
  {trust : Nat → TrustSnapshot} {token : AuthToken} {nonce : String} {cert : Certificate}

theorem checkToken_ok_iff :
    checkToken P env v token nonce = .ok cert ↔
      nonce ≠ "" ∧ (∃ der, token.decodeCertificate = .ok der ∧ P.parseCertificate der = .ok cert) ∧
        cert.checkValidity env.now = .ok () ∧ cert.checkKeyUsageForAuthentication = .ok () ∧
        cert.checkDisallowedPolicies P v.disallowedPolicies = .ok () := by
  rw [checkToken]
  split
  next hnonce => simp [hnonce]
  next hnonce =>
    refine ⟨?_, ?_⟩
    · intro h
      obtain ⟨der, hder, h⟩ := bind_eq_ok h
      obtain ⟨c, hc, h⟩ := bind_eq_ok h
      obtain ⟨⟨⟩, hvalid, h⟩ := bind_eq_ok h
      obtain ⟨⟨⟩, hpurpose, h⟩ := bind_eq_ok h
      obtain ⟨⟨⟩, hpolicies, h⟩ := bind_eq_ok h
      cases h
      exact ⟨hnonce, ⟨der, hder, mapError_eq_ok hc⟩, hvalid, hpurpose, hpolicies⟩
    · intro h
      obtain ⟨-, ⟨der, hder, hparse⟩, hvalid, hpurpose, hpolicies⟩ := h
      rw [hder, bind_ok, hparse]
      simp only [Except.mapError, bind_ok, hvalid, hpurpose, hpolicies]
      rfl

theorem decodeCertificate_ok_iff {der : Bytes} :
    token.decodeCertificate = .ok der ↔
      Base64.stdEncoding.decodeString token.unverifiedCertificate = some der := by
  rw [AuthToken.decodeCertificate]
  cases Base64.stdEncoding.decodeString token.unverifiedCertificate with
  | none => simp
  | some der' => simp

theorem verifySignature_ok_iff :
    v.verifySignature P token cert nonce = .ok () ↔ Signed P v token nonce cert := by
  refine ⟨?_, ?_⟩
  · intro h
    obtain ⟨hash, sig, origin, hhash, hsig, horigin, hverify⟩ := verifySignature_ok h
    refine ⟨hash, sig, hhash, ?_, origin, horigin, hverify⟩
    rw [AuthToken.decodeSignature] at hsig
    split at hsig
    next => cases hsig
    next sig' hdecode => rw [hdecode, Except.ok.inj hsig]
  · intro h
    obtain ⟨hash, sig, hhash, hsig, origin, horigin, hverify⟩ := h
    rw [verifySignature, hhash]
    simp only [AuthToken.decodeSignature, hsig]
    rw [if_pos]
    exact List.any_eq_true.mpr ⟨origin, horigin, by rw [hverify]; rfl⟩

theorem checkSignature_ok_iff {cert' : Certificate} :
    v.checkSignature P token cert nonce = .ok cert' ↔
      cert' = cert ∧ Signed P v token nonce cert ∧ cert.subject.commonName ≠ "" := by
  rw [← verifySignature_ok_iff, ← Certificate.subjectCN_ok_iff, checkSignature]
  refine ⟨?_, ?_⟩
  · intro h
    obtain ⟨⟨⟩, hsigned, h⟩ := bind_eq_ok h
    obtain ⟨cn, hcn, h⟩ := bind_eq_ok h
    cases h
    exact ⟨rfl, hsigned, cn, mapError_eq_ok hcn⟩
  · intro h
    obtain ⟨rfl, hsigned, cn, hcn⟩ := h
    rw [hsigned, bind_ok, hcn]
    rfl

theorem checkRevocation_ok_iff {t : Nat → TrustSnapshot} :
    (v.checkRevocation P env cert).under t = .ok () ↔
      ∀ checker, v.ocspChecker = some checker → Unrevoked P env.ocsp checker (t 0) cert := by
  rw [checkRevocation]
  cases v.ocspChecker with
  | none => simp [Call.under]
  | some checker =>
      simp only [TrustStore.under_issuerOf, Option.some.injEq, forall_eq', Unrevoked]
      cases TrustStore.findIssuer P (t 0) cert with
      | none => simp [checkIssuer]
      | some issuer => simp [checkIssuer]

/-- The pipeline step by step, with the load each step makes. -/
theorem validate_under :
    (v.validate P env token nonce).under trust =
      (checkToken P env v token nonce >>= fun cert =>
        TrustStore.verifyAgainst P (trust 0) cert env.now [.clientAuth] >>= fun _ =>
          ((v.checkRevocation P env cert).under fun n => trust (n + 1)) >>= fun _ =>
            v.checkSignature P token cert nonce) := by
  rw [validate_eq, Call.under_lift_bind]
  cases checkToken P env v token nonce with
  | error err => rfl
  | ok cert =>
      rw [bind_ok, bind_ok]
      show (((Call.lift (TrustStore.verifyAgainst P (trust 0) cert env.now [.clientAuth])).bind
        fun _ => (v.checkRevocation P env cert).bind fun _ =>
          Call.lift (v.checkSignature P token cert nonce)).under fun n => trust (n + 1)) = _
      rw [Call.under_lift_bind]
      cases TrustStore.verifyAgainst P (trust 0) cert env.now [.clientAuth] with
      | error err => rfl
      | ok u =>
          rw [bind_ok, bind_ok]
          exact Call.under_bind_lift _ _ _

/-- `Validate` accepts exactly the tokens that carry an eligible certificate
and its signature of the nonce for one of the origins. -/
theorem validate_iff :
    (v.validate P env token nonce).under trust = .ok cert ↔
      Accepts P env v trust token nonce cert := by
  rw [validate_under]
  refine ⟨?_, ?_⟩
  · intro h
    obtain ⟨c, htoken, h⟩ := bind_eq_ok h
    obtain ⟨⟨⟩, htrust, h⟩ := bind_eq_ok h
    obtain ⟨⟨⟩, hrevoked, h⟩ := bind_eq_ok h
    obtain ⟨rfl, hsigned, hnamed⟩ := checkSignature_ok_iff.mp h
    obtain ⟨hnonce, ⟨der, hder, hparse⟩, hvalid, hpurpose, hpolicies⟩ :=
      checkToken_ok_iff.mp htoken
    exact
      { valid := Certificate.checkValidity_ok_iff.mp hvalid
        purpose := Certificate.checkKeyUsageForAuthentication_ok_iff.mp hpurpose
        policies := Certificate.checkDisallowedPolicies_ok_iff.mp hpolicies
        trusted := (TrustStore.verifyAgainst_ok_iff rfl).mp htrust
        unrevoked := checkRevocation_ok_iff.mp hrevoked
        named := hnamed
        nonce_ne := hnonce
        carried := ⟨der, decodeCertificate_ok_iff.mp hder, hparse⟩
        signed := hsigned }
  · intro h
    obtain ⟨der, hder, hparse⟩ := h.carried
    have htoken : checkToken P env v token nonce = .ok cert :=
      checkToken_ok_iff.mpr ⟨h.nonce_ne, ⟨der, decodeCertificate_ok_iff.mpr hder, hparse⟩,
        Certificate.checkValidity_ok_iff.mpr h.valid,
        Certificate.checkKeyUsageForAuthentication_ok_iff.mpr h.purpose,
        Certificate.checkDisallowedPolicies_ok_iff.mpr h.policies⟩
    rw [htoken, bind_ok, (TrustStore.verifyAgainst_ok_iff rfl).mpr h.trusted, bind_ok,
      checkRevocation_ok_iff.mpr h.unrevoked, bind_ok]
    exact checkSignature_ok_iff.mpr ⟨rfl, h.signed, h.named⟩

end AuthTokenValidator

/-! ## Signing -/

namespace Signing

/-- What `PrepareSigning` accepts, with its answer. Without a trust store there
is neither a chain nor a revocation check. -/
structure Prepares (P : Platform) (env : ValidateEnv) (s : Signer) (trust : Nat → TrustSnapshot)
    (der : Bytes) (supported : List SignatureAlgorithm) (prepared : Prepared) : Prop where
  carried : P.parseCertificate der = .ok prepared.cert
  valid : prepared.cert.notBefore.ns ≤ env.now.ns ∧ env.now.ns ≤ prepared.cert.notAfter.ns
  purpose : prepared.cert.keyUsage &&& keyUsageContentCommitment ≠ 0
  policies : s.acceptedPolicies = [] ∨ ∃ present, prepared.cert.extractPolicies P = .ok present ∧
    ∃ policy ∈ present, policy ∈ s.acceptedPolicies
  trusted : s.trust ≠ none → (trust 0).Trusts P prepared.cert env.now .any
  unrevoked : s.trust ≠ none → ∀ checker, s.ocspChecker = some checker →
    Unrevoked P env.ocsp checker (trust 1) prepared.cert
  hash : selectHashFunction s.hashPreference supported = .ok prepared.hashFn
  algorithm : prepared.algo = pickAlgorithmForHash prepared.hashFn supported

namespace Signer

variable {P : Platform} {env : ValidateEnv} {s : Signer} {trust : Nat → TrustSnapshot}
  {der : Bytes} {supported : List SignatureAlgorithm} {cert : Certificate} {prepared : Prepared}

theorem checkCertificate_ok_iff :
    s.checkCertificate P env.now der = .ok cert ↔
      P.parseCertificate der = .ok cert ∧ cert.checkValidity env.now = .ok () ∧
        cert.checkKeyUsageForSigning = .ok () ∧
        cert.checkAcceptedPolicies P s.acceptedPolicies = .ok () := by
  rw [checkCertificate, parseSigningCertificate]
  refine ⟨?_, ?_⟩
  · intro h
    obtain ⟨c, hc, h⟩ := bind_eq_ok h
    obtain ⟨⟨⟩, hvalid, h⟩ := bind_eq_ok h
    obtain ⟨⟨⟩, hpolicies, h⟩ := bind_eq_ok h
    cases h
    rw [validateSigningCertificate] at hvalid
    split at hvalid
    next => cases hvalid
    next hwindow => exact ⟨mapError_eq_ok hc, hwindow, hvalid, hpolicies⟩
  · intro h
    obtain ⟨hparse, hwindow, hpurpose, hpolicies⟩ := h
    simp only [hparse, Except.mapError, bind_ok, validateSigningCertificate, hwindow, hpurpose,
      hpolicies]
    rfl

theorem verifyChain_ok_iff {snap : TrustSnapshot} {now : Time} :
    verifyChain P snap cert now = .ok () ↔ snap.Trusts P cert now .any := by
  rw [verifyChain, mapError_eq_ok_iff, TrustStore.verifyAgainst_ok_iff rfl]

theorem checkRevocation_ok_iff {env : OcspEnv} {t : Nat → TrustSnapshot} :
    (s.checkRevocation P env cert).under t = .ok () ↔
      ∀ checker, s.ocspChecker = some checker → Unrevoked P env checker (t 0) cert := by
  rw [checkRevocation]
  cases s.ocspChecker with
  | none => simp [Call.under]
  | some checker =>
      simp only [TrustStore.under_issuerOf, Option.some.injEq, forall_eq', Unrevoked]
      cases TrustStore.findIssuer P (t 0) cert with
      | none => simp [checkIssuer]
      | some issuer => simp [checkIssuer]

theorem checkTrust_ok_iff :
    (s.checkTrust P env cert).under trust = .ok () ↔
      (s.trust ≠ none → (trust 0).Trusts P cert env.now .any) ∧
        (s.trust ≠ none → ∀ checker, s.ocspChecker = some checker →
          Unrevoked P env.ocsp checker (trust 1) cert) := by
  cases htrust : s.trust with
  | none => simp [checkTrust, htrust, Call.under]
  | some ref =>
      have hsome : some ref ≠ none := Option.some_ne_none ref
      rw [checkTrust_eq htrust, Call.under, Call.under_lift_bind]
      refine ⟨?_, ?_⟩
      · intro h
        obtain ⟨⟨⟩, hchain, hrevoked⟩ := bind_eq_ok h
        exact ⟨fun _ => verifyChain_ok_iff.mp hchain, fun _ => checkRevocation_ok_iff.mp hrevoked⟩
      · intro h
        rw [verifyChain_ok_iff.mpr (h.1 hsome), bind_ok]
        exact checkRevocation_ok_iff.mpr (h.2 hsome)

theorem negotiate_ok_iff :
    s.negotiate cert supported = .ok prepared ↔
      prepared.cert = cert ∧
        selectHashFunction s.hashPreference supported = .ok prepared.hashFn ∧
        prepared.algo = pickAlgorithmForHash prepared.hashFn supported := by
  rw [negotiate]
  refine ⟨?_, ?_⟩
  · intro h
    obtain ⟨hashFn, hhash, h⟩ := bind_eq_ok h
    cases h
    exact ⟨rfl, hhash, rfl⟩
  · intro h
    obtain ⟨rfl, hhash, halgo⟩ := h
    rw [hhash, bind_ok, ← halgo]
    rfl

/-- `PrepareSigning` accepts exactly the certificates that pass its gates, on a
hash the card and the service share. -/
theorem prepareSigning_iff :
    (s.prepareSigning P env der supported).under trust = .ok prepared ↔
      Prepares P env s trust der supported prepared := by
  rw [prepareSigning_eq, Call.under_lift_bind]
  refine ⟨?_, ?_⟩
  · intro h
    obtain ⟨c, hcert, h⟩ := bind_eq_ok h
    rw [Call.under_bind_lift] at h
    obtain ⟨⟨⟩, htrust, h⟩ := bind_eq_ok h
    obtain ⟨rfl, hhash, halgo⟩ := negotiate_ok_iff.mp h
    obtain ⟨hparse, hwindow, hpurpose, hpolicies⟩ := checkCertificate_ok_iff.mp hcert
    obtain ⟨htrusted, hunrevoked⟩ := checkTrust_ok_iff.mp htrust
    exact ⟨hparse, Certificate.checkValidity_ok_iff.mp hwindow,
      Certificate.checkKeyUsageForSigning_ok_iff.mp hpurpose,
      Certificate.checkAcceptedPolicies_ok_iff.mp hpolicies, htrusted, hunrevoked, hhash, halgo⟩
  · intro h
    have hcert : s.checkCertificate P env.now der = .ok prepared.cert :=
      checkCertificate_ok_iff.mpr ⟨h.carried, Certificate.checkValidity_ok_iff.mpr h.valid,
        Certificate.checkKeyUsageForSigning_ok_iff.mpr h.purpose,
        Certificate.checkAcceptedPolicies_ok_iff.mpr h.policies⟩
    rw [hcert, bind_ok, Call.under_bind_lift, checkTrust_ok_iff.mpr ⟨h.trusted, h.unrevoked⟩,
      bind_ok]
    exact negotiate_ok_iff.mpr ⟨rfl, h.hash, h.algorithm⟩

end Signer

end Signing

/-! ## The endpoints -/

namespace Azugo

open AuthTokenValidator Signing

theorem decodeField_ok_iff {err : Error} {text : String} {b : Bytes} :
    Handler.decodeField err text = .ok b ↔ Base64.stdEncoding.decodeString text = some b := by
  rw [Handler.decodeField]
  cases Base64.stdEncoding.decodeString text with
  | none => simp
  | some b' => simp

/-- A user is set exactly when the verdict is a certificate, and is its
subject. -/
theorem establish_user_iff {P : Platform} {ienv : Assertion.IssueEnv}
    {issuer : Option Assertion.Issuer} {verdict : Except GoError Certificate} {u : User} :
    (establish P ienv issuer verdict).user = some u ↔
      ∃ cert, verdict = .ok cert ∧ u = userOf (subjectFromCertificate cert) := by
  cases verdict with
  | error err => simp [establish]
  | ok cert => simp [establish_user, eq_comm]

section Endpoints

variable {P : Platform} {venv : ValidateEnv} {h : Handler} {trust : Nat → TrustSnapshot}

theorem loginVerdict_ok_iff {κ σ : Type} {S : ChallengeNonceStore κ σ} {timeNow : Time} {ctx : κ}
    {body : Except GoError LoginRequest} {st : σ} {cert : Certificate} :
    loginVerdict P venv h S timeNow trust ctx body st = .ok cert ↔
      ∃ req stored, body = .ok req ∧ (S.getAndRemove ctx st).1 = .ok stored ∧
        stored.expired timeNow h.config.nonceTTL = false ∧
        Accepts P venv h.validator trust req.authToken stored.base64EncodedNonce cert := by
  rw [loginVerdict]
  cases body with
  | error err => simp [Handler.takeNonce]
  | ok req =>
      simp only [Handler.takeNonce, Except.ok.injEq]
      rcases S.getAndRemove ctx st with ⟨err | stored, st'⟩
      · simp
      · simp only [bind_ok, Handler.checkExpiry]
        cases hexp : stored.expired timeNow h.config.nonceTTL with
        | true => simp [hexp]
        | false => simp [hexp, validate_iff]

theorem validateVerdict_ok_iff {body : Except GoError ValidateRequest}
    {valid : ValidateRequest → Except GoError Unit} {cert : Certificate} :
    validateVerdict P venv h trust body valid = .ok cert ↔
      ∃ req, body = .ok req ∧ valid req = .ok () ∧
        Accepts P venv h.validator trust req.authToken req.nonce cert := by
  rw [validateVerdict]
  cases body with
  | error err => simp
  | ok req =>
      cases hvalid : valid req with
      | error err => simp [hvalid]
      | ok u => simp [hvalid, validate_iff]

theorem signingCertificate_ok_iff {body : Except GoError SigningCertificateRequest}
    {resp : SigningCertificateResponse} :
    h.signingCertificate P venv trust body = .ok resp ↔
      ∃ req der prepared, body = .ok req ∧
        Base64.stdEncoding.decodeString req.certificate = some der ∧
        Prepares P venv h.signer trust der req.supportedSignatureAlgorithms prepared ∧
        resp = ⟨prepared.algo, prepared.hashFn⟩ := by
  rw [Handler.signingCertificate]
  refine ⟨?_, ?_⟩
  · intro hok
    obtain ⟨req, hreq, hok⟩ := bind_eq_ok hok
    obtain ⟨der, hder, hok⟩ := bind_eq_ok hok
    obtain ⟨prepared, hprepared, hok⟩ := bind_eq_ok hok
    cases hok
    exact ⟨req, der, prepared, hreq, decodeField_ok_iff.mp hder,
      Signer.prepareSigning_iff.mp hprepared, rfl⟩
  · intro hok
    obtain ⟨req, der, prepared, hreq, hder, hprepared, rfl⟩ := hok
    rw [hreq, bind_ok, decodeField_ok_iff.mpr hder, bind_ok,
      Signer.prepareSigning_iff.mpr hprepared, bind_ok]
    rfl

/-- What the three endpoints that look at a card's certificate accept: who is
established by a login and by a stateless validation, and what a signing
certificate is answered with. -/
theorem endpoints_accept_iff (P : Platform) (venv : ValidateEnv) (ienv : Assertion.IssueEnv)
    (h : Handler) (trust : Nat → TrustSnapshot) :
    (∀ {κ σ : Type} (S : ChallengeNonceStore κ σ) timeNow ctx body st u,
      (h.login P venv ienv S timeNow trust ctx body st).1.user = some u ↔
        ∃ req stored cert, body = .ok req ∧ (S.getAndRemove ctx st).1 = .ok stored ∧
          stored.expired timeNow h.config.nonceTTL = false ∧
          Accepts P venv h.validator trust req.authToken stored.base64EncodedNonce cert ∧
          u = userOf (subjectFromCertificate cert)) ∧
    (∀ body valid u, (h.validate P venv ienv trust body valid).user = some u ↔
        ∃ req cert, body = .ok req ∧ valid req = .ok () ∧
          Accepts P venv h.validator trust req.authToken req.nonce cert ∧
          u = userOf (subjectFromCertificate cert)) ∧
    ∀ body resp, h.signingCertificate P venv trust body = .ok resp ↔
        ∃ req der prepared, body = .ok req ∧
          Base64.stdEncoding.decodeString req.certificate = some der ∧
          Prepares P venv h.signer trust der req.supportedSignatureAlgorithms prepared ∧
          resp = ⟨prepared.algo, prepared.hashFn⟩ := by
  refine ⟨?_, ?_, fun _ _ => signingCertificate_ok_iff⟩
  · intro κ σ S timeNow ctx body st u
    rw [login_verdict, establish_user_iff]
    refine ⟨?_, ?_⟩
    · intro hu
      obtain ⟨cert, hverdict, hu⟩ := hu
      obtain ⟨req, stored, hbody, htake, hexp, haccepts⟩ := loginVerdict_ok_iff.mp hverdict
      exact ⟨req, stored, cert, hbody, htake, hexp, haccepts, hu⟩
    · intro hu
      obtain ⟨req, stored, cert, hbody, htake, hexp, haccepts, hu⟩ := hu
      exact ⟨cert, loginVerdict_ok_iff.mpr ⟨req, stored, hbody, htake, hexp, haccepts⟩, hu⟩
  · intro body valid u
    rw [validate_verdict, establish_user_iff]
    refine ⟨?_, ?_⟩
    · intro hu
      obtain ⟨cert, hverdict, hu⟩ := hu
      obtain ⟨req, hbody, hvalid, haccepts⟩ := validateVerdict_ok_iff.mp hverdict
      exact ⟨req, cert, hbody, hvalid, haccepts, hu⟩
    · intro hu
      obtain ⟨req, cert, hbody, hvalid, haccepts, hu⟩ := hu
      exact ⟨cert, validateVerdict_ok_iff.mpr ⟨req, hbody, hvalid, haccepts⟩, hu⟩

end Endpoints

end Azugo

/-! ## Relaxing a configuration -/

/-- At least the origins, at most the forbidden policies, and the same checker
or none. -/
structure AuthTokenValidator.Relaxes (v' v : AuthTokenValidator) : Prop where
  origins : ∀ origin ∈ v.origins, origin ∈ v'.origins
  policies : ∀ policy ∈ v'.disallowedPolicies, policy ∈ v.disallowedPolicies
  checker : v'.ocspChecker = none ∨ v'.ocspChecker = v.ocspChecker

/-- At least the accepted policies, where an empty list is all of them, at least
the hashes, and no gate that was not there. -/
structure Signing.Signer.Relaxes (s' s : Signing.Signer) : Prop where
  policies : s'.acceptedPolicies = [] ∨
    s.acceptedPolicies ≠ [] ∧ ∀ policy ∈ s.acceptedPolicies, policy ∈ s'.acceptedPolicies
  hashes : ∀ name ∈ s.hashPreference, name ∈ s'.hashPreference
  trust : s'.trust ≠ none → s.trust ≠ none
  checker : s'.ocspChecker = none ∨ s'.ocspChecker = s.ocspChecker

theorem AuthTokenValidator.Accepts.relax {P : Platform} {env : ValidateEnv}
    {v v' : AuthTokenValidator} {trust : Nat → TrustSnapshot} {token : AuthToken} {nonce : String}
    {cert : Certificate} (h : Accepts P env v trust token nonce cert) (hv : v'.Relaxes v) :
    Accepts P env v' trust token nonce cert := by
  refine { h with policies := ?_, unrevoked := ?_, signed := ?_ }
  · rcases h.policies with hnone | ⟨present, hextract, hclear⟩
    · refine Or.inl (List.eq_nil_iff_forall_not_mem.mpr ?_)
      intro policy hpolicy
      have hmem := hv.policies policy hpolicy
      rw [hnone] at hmem
      cases hmem
    · refine Or.inr ⟨present, hextract, ?_⟩
      intro policy hpresent hbad
      exact hclear policy hpresent (hv.policies policy hbad)
  · intro checker hchecker
    rcases hv.checker with hnone | hsame
    · rw [hnone] at hchecker
      cases hchecker
    · exact h.unrevoked checker (hsame.symm.trans hchecker)
  · obtain ⟨hash, sig, hhash, hsig, origin, horigin, hverify⟩ := h.signed
    exact ⟨hash, sig, hhash, hsig, origin, hv.origins origin horigin, hverify⟩

theorem Signing.selectHashFunction_relax {prefs prefs' : List String}
    {supported : List SignatureAlgorithm} {hashFn : String}
    (hsub : ∀ name ∈ prefs, name ∈ prefs')
    (h : selectHashFunction prefs supported = .ok hashFn) :
    ∃ hashFn', selectHashFunction prefs' supported = .ok hashFn' := by
  rw [selectHashFunction] at h
  split at h
  next want hfind =>
    have hoffered := List.find?_some hfind
    have hsome : (prefs'.find? fun want => (supported.map fun s =>
        Go.toUpper s.hashFunction).contains (Go.toUpper want)).isSome = true :=
      List.find?_isSome.mpr ⟨want, hsub want (List.mem_of_find?_eq_some hfind), hoffered⟩
    obtain ⟨name, hname⟩ := Option.isSome_iff_exists.mp hsome
    refine ⟨name, ?_⟩
    simp only [selectHashFunction, hname]
  next => cases h

theorem Signing.Prepares.relax {P : Platform} {env : ValidateEnv} {s s' : Signer}
    {trust : Nat → TrustSnapshot} {der : Bytes} {supported : List SignatureAlgorithm}
    {prepared : Prepared} (h : Prepares P env s trust der supported prepared)
    (hs : s'.Relaxes s) :
    ∃ prepared', Prepares P env s' trust der supported prepared' ∧
      prepared'.cert = prepared.cert := by
  obtain ⟨hashFn', hhash'⟩ := selectHashFunction_relax hs.hashes h.hash
  refine ⟨⟨prepared.cert, pickAlgorithmForHash hashFn' supported, hashFn'⟩,
    { carried := h.carried
      valid := h.valid
      purpose := h.purpose
      policies := ?_
      trusted := fun htrust => h.trusted (hs.trust htrust)
      unrevoked := ?_
      hash := hhash'
      algorithm := rfl }, rfl⟩
  · rcases hs.policies with hall | ⟨hne, hsub⟩
    · exact Or.inl hall
    · rcases h.policies with hempty | ⟨present, hextract, policy, hpresent, haccepted⟩
      · exact absurd hempty hne
      · exact Or.inr ⟨present, hextract, policy, hpresent, hsub policy haccepted⟩
  · intro htrust checker hchecker
    rcases hs.checker with hnone | hsame
    · rw [hnone] at hchecker
      cases hchecker
    · exact h.unrevoked (hs.trust htrust) checker (hsame.symm.trans hchecker)

/-- A relaxed validator accepts what was accepted, with the same certificate,
and a relaxed signer prepares what was prepared, possibly on another hash. -/
theorem relaxed_accepts {v v' : AuthTokenValidator} {s s' : Signing.Signer} (hv : v'.Relaxes v)
    (hs : s'.Relaxes s) (P : Platform) (env : ValidateEnv) (trust : Nat → TrustSnapshot) :
    (∀ token nonce cert, (v.validate P env token nonce).under trust = .ok cert →
      (v'.validate P env token nonce).under trust = .ok cert) ∧
    ∀ der supported prepared, (s.prepareSigning P env der supported).under trust = .ok prepared →
      ∃ prepared', (s'.prepareSigning P env der supported).under trust = .ok prepared' ∧
        prepared'.cert = prepared.cert := by
  refine ⟨?_, ?_⟩
  · intro token nonce cert h
    rw [AuthTokenValidator.validate_iff] at h ⊢
    exact h.relax hv
  · intro der supported prepared h
    obtain ⟨prepared', hprepares, hcert⟩ := (Signing.Signer.prepareSigning_iff.mp h).relax hs
    exact ⟨prepared', Signing.Signer.prepareSigning_iff.mpr hprepares, hcert⟩

/-! A login page that gets a second origin and gives up its blocklist, while the
signing side gives up its gates. -/

def strictValidator : AuthTokenValidator :=
  { Accepting.validator with disallowedPolicies := [[1, 3, 6, 1, 4, 1, 10015, 1, 3]] }

def relaxedValidator : AuthTokenValidator :=
  { Accepting.validator with origins := ["https://b.lv", "https://a.lv"] }

theorem relaxed_accepts_second_origin :
    (relaxedValidator.validate Accepting.platform Accepting.env (Accepting.token "web-eid:1.0")
        "n").under Accepting.trust = .ok Accepting.cert ∧
      ∃ prepared, ((Signing.cardSigner none none).prepareSigning Signing.cardPlatform
          Signing.cardEnv [] Signing.cardAlgorithms).under Signing.emptyTrust = .ok prepared ∧
        prepared.cert = Signing.cardCertificate := by
  have hv : relaxedValidator.Relaxes strictValidator := ⟨by decide, by decide, Or.inl rfl⟩
  have hs : (Signing.cardSigner none none).Relaxes (Signing.cardSigner (some 0) none) :=
    ⟨Or.inl rfl, by decide, by decide, Or.inl rfl⟩
  have hvalidate : (strictValidator.validate Accepting.platform Accepting.env
      (Accepting.token "web-eid:1.0") "n").under Accepting.trust = .ok Accepting.cert := by rfl
  have hprepare : ((Signing.cardSigner (some 0) none).prepareSigning Signing.cardPlatform
      Signing.cardEnv [] Signing.cardAlgorithms).under Signing.emptyTrust =
        .ok Signing.cardPrepared := by decide +kernel
  exact ⟨(relaxed_accepts hv hs _ _ _).1 _ _ _ hvalidate,
    (relaxed_accepts hv hs _ _ _).2 _ _ _ hprepare⟩

/-! ## The two policy lists -/

namespace Certificate

/-- A value of the extension asserts the policy. Not every identifier a list
can have is one that `encoding/asn1` reads: it knows no first component but 0, 1
and 2, and `ParseOID` takes any. -/
def Assertable (P : Platform) (policy : ObjectIdentifier) : Prop :=
  ∃ value present, P.unmarshalPolicies value = .ok present ∧ policy ∈ present

/-- What `encoding/asn1` makes of the extension: an entry can stand on its own,
and some values are malformed. -/
structure PolicyLaws (P : Platform) : Prop where
  alone : ∀ policy, Assertable P policy → ∃ value, P.unmarshalPolicies value = .ok [policy]
  malformed : ∃ value err, P.unmarshalPolicies value = .error err

/-- A certificate with this Certificate Policies extension and no other. -/
def asserting (value : Bytes) : Certificate :=
  { (default : Certificate) with extensions := [⟨oidCertificatePolicies, false, value⟩] }

theorem extractPolicies_asserting (P : Platform) (value : Bytes) :
    extractPolicies P (asserting value) = P.unmarshalPolicies value := rfl

theorem assertable_of_extract {P : Platform} {cert : Certificate} {present : List ObjectIdentifier}
    {policy : ObjectIdentifier} (h : extractPolicies P cert = .ok present)
    (hmem : policy ∈ present) : Assertable P policy := by
  rw [extractPolicies] at h
  split at h
  · cases h
    cases hmem
  next ext _ => exact ⟨ext.value, present, h, hmem⟩

section

variable {P : Platform} (hlaws : PolicyLaws P) (a b : List ObjectIdentifier)
include hlaws

theorem disallowed_lists_iff :
    (∀ cert, checkDisallowedPolicies P cert a = .ok () →
      checkDisallowedPolicies P cert b = .ok ()) ↔
      (a = [] → b = []) ∧ ∀ policy ∈ b, Assertable P policy → policy ∈ a := by
  refine ⟨?_, ?_⟩
  · intro hpass
    refine ⟨?_, ?_⟩
    · intro ha
      -- nobody reads a malformed extension while the list is empty
      obtain ⟨value, err, herr⟩ := hlaws.malformed
      have hother := hpass (asserting value) (checkDisallowedPolicies_ok_iff.mpr (Or.inl ha))
      rcases checkDisallowedPolicies_ok_iff.mp hother with hnil | ⟨present, hpresent, -⟩
      · exact hnil
      · rw [extractPolicies_asserting, herr] at hpresent
        cases hpresent
    · intro policy hb hassertable
      by_contra ha
      obtain ⟨value, halone⟩ := hlaws.alone policy hassertable
      have hother := hpass (asserting value) (checkDisallowedPolicies_ok_iff.mpr
        (Or.inr ⟨[policy], halone, by simpa using ha⟩))
      rcases checkDisallowedPolicies_ok_iff.mp hother with hnil | ⟨present, hpresent, hclear⟩
      · rw [hnil] at hb
        cases hb
      · rw [extractPolicies_asserting, halone] at hpresent
        cases hpresent
        exact hclear policy (List.mem_singleton.mpr rfl) hb
  · rintro ⟨hempty, hsub⟩ cert hpass
    rw [checkDisallowedPolicies_ok_iff] at hpass ⊢
    rcases hpass with hnil | ⟨present, hpresent, hclear⟩
    · exact Or.inl (hempty hnil)
    · refine Or.inr ⟨present, hpresent, ?_⟩
      intro policy hmem hbad
      exact hclear policy hmem (hsub policy hbad (assertable_of_extract hpresent hmem))

theorem accepted_lists_iff :
    (∀ cert, checkAcceptedPolicies P cert a = .ok () →
      checkAcceptedPolicies P cert b = .ok ()) ↔
      b = [] ∨ a ≠ [] ∧ ∀ policy ∈ a, Assertable P policy → policy ∈ b := by
  refine ⟨?_, ?_⟩
  · intro hpass
    by_cases hb : b = []
    · exact Or.inl hb
    refine Or.inr ⟨?_, ?_⟩
    · intro ha
      -- a certificate without the extension
      have hother := hpass default (checkAcceptedPolicies_ok_iff.mpr (Or.inl ha))
      rcases checkAcceptedPolicies_ok_iff.mp hother with
        hnil | ⟨present, hpresent, policy, hmem, -⟩
      · exact hb hnil
      · cases hpresent
        cases hmem
    · intro policy ha hassertable
      obtain ⟨value, halone⟩ := hlaws.alone policy hassertable
      have hother := hpass (asserting value) (checkAcceptedPolicies_ok_iff.mpr (Or.inr
        ⟨[policy], halone, policy, List.mem_singleton.mpr rfl, ha⟩))
      rcases checkAcceptedPolicies_ok_iff.mp hother with
        hnil | ⟨present, hpresent, policy', hmem, haccepted⟩
      · exact absurd hnil hb
      · rw [extractPolicies_asserting, halone] at hpresent
        cases hpresent
        rwa [List.mem_singleton.mp hmem] at haccepted
  · intro horder cert hpass
    rw [checkAcceptedPolicies_ok_iff] at hpass ⊢
    rcases horder with hnil | ⟨ha, hsub⟩
    · exact Or.inl hnil
    · rcases hpass with hnil | ⟨present, hpresent, policy, hmem, haccepted⟩
      · exact absurd hnil ha
      · exact Or.inr ⟨present, hpresent, policy, hmem,
          hsub policy haccepted (assertable_of_extract hpresent hmem)⟩

/-- When one list of policies lets through every certificate another does. Of
two lists of forbidden policies the second must forbid nothing a certificate
can assert that the first does not, and must be empty if the first is, because
an empty list does not read the extension. Of two lists of accepted ones the
second must be empty, or accept what the first does of the policies a
certificate can assert; an empty first list accepts everything. -/
theorem policy_lists_iff :
    ((∀ cert, checkDisallowedPolicies P cert a = .ok () →
        checkDisallowedPolicies P cert b = .ok ()) ↔
      (a = [] → b = []) ∧ ∀ policy ∈ b, Assertable P policy → policy ∈ a) ∧
    ((∀ cert, checkAcceptedPolicies P cert a = .ok () →
        checkAcceptedPolicies P cert b = .ok ()) ↔
      b = [] ∨ a ≠ [] ∧ ∀ policy ∈ a, Assertable P policy → policy ∈ b) :=
  ⟨disallowed_lists_iff hlaws a b, accepted_lists_iff hlaws a b⟩

end

/-! The policy of a Latvian card and an identifier no certificate asserts. -/

def cardPolicy : ObjectIdentifier := [1, 3, 6, 1, 4, 1, 32061, 2, 1, 2, 1]

/-- The DER of an extension that asserts the card's policy. -/
def cardExtension : Bytes :=
  [48, 16, 48, 14, 6, 12, 43, 6, 1, 4, 1, 129, 250, 61, 2, 1, 2, 1]

def cardPolicyPlatform : Platform :=
  { Platform.refusing with
    unmarshalPolicies := fun value =>
      if value = cardExtension then .ok [cardPolicy]
      else .error (.text "asn1: syntax error: sequence truncated") }

theorem unmarshal_cardExtension :
    cardPolicyPlatform.unmarshalPolicies cardExtension = .ok [cardPolicy] := by rfl

theorem assertable_card_iff {policy : ObjectIdentifier} :
    Assertable cardPolicyPlatform policy ↔ policy = cardPolicy := by
  refine ⟨?_, ?_⟩
  · rintro ⟨value, present, hvalue, hmem⟩
    simp only [cardPolicyPlatform] at hvalue
    split at hvalue
    · cases hvalue
      exact List.mem_singleton.mp hmem
    · cases hvalue
  · rintro rfl
    exact ⟨cardExtension, [cardPolicy], unmarshal_cardExtension, List.mem_singleton.mpr rfl⟩

theorem cardPolicyPlatform_laws : PolicyLaws cardPolicyPlatform where
  alone := by
    intro policy hassertable
    rw [assertable_card_iff.mp hassertable]
    exact ⟨cardExtension, unmarshal_cardExtension⟩
  malformed := ⟨[], _, rfl⟩

/-- To accept `9.9` as well changes nothing for any certificate, and to accept
nothing else locks the card out. -/
theorem policy_lists_card :
    (∀ cert, checkAcceptedPolicies cardPolicyPlatform cert [cardPolicy, [9, 9]] = .ok () →
        checkAcceptedPolicies cardPolicyPlatform cert [cardPolicy] = .ok ()) ∧
      ¬ ∀ cert, checkAcceptedPolicies cardPolicyPlatform cert [cardPolicy] = .ok () →
        checkAcceptedPolicies cardPolicyPlatform cert [[9, 9]] = .ok () := by
  refine ⟨(policy_lists_iff cardPolicyPlatform_laws _ _).2.mpr (Or.inr ⟨by decide, ?_⟩), ?_⟩
  · intro policy _ hassertable
    rw [assertable_card_iff.mp hassertable]
    exact List.mem_singleton.mpr rfl
  · rw [(policy_lists_iff cardPolicyPlatform_laws _ _).2]
    rintro (hnil | ⟨-, hsub⟩)
    · cases hnil
    · have hmem := hsub cardPolicy (List.mem_singleton.mpr rfl) (assertable_card_iff.mpr rfl)
      exact absurd hmem (by decide)

end Certificate

end WebEid
