import WebEid.Lib.Reread
import WebEid.Ref.Signing

/-!
# Which trusted set a check is made against

`TrustStore` promises its readers a consistent view: each method loads the
snapshot once. The two pipelines use two of its methods, though. They verify
the chain against one snapshot, and look the issuer for the revocation check up
in the snapshot they find next; a `Reload` can fall in between.

Both pipelines are a `reread` of the store's cell (`validate_reread`,
`prepareSigning_reread`), and the errors of the revocation step are not errors
of what follows it, so the general result about rereads applies as an
equivalence: a call that overlaps reloads ends as it would alone with the set
it met first exactly when the revocation step says the same under both sets it
met (`trust_reads_iff`).
-/

namespace WebEid

open Lib Exceptions Ocsp

/-- `Reload` seen from the store's cell: a refused one leaves the snapshot. -/
def TrustStore.swap (snap : TrustSnapshot) (cas : List Certificate) : TrustSnapshot :=
  match TrustStore.reload cas with
  | .error _ => snap
  | .ok snap' => snap'

/-! ## The errors of the revocation step -/

/-- The two kinds of error a revocation check fails with. -/
def IsRevocationError (e : GoError) : Prop :=
  e.error? = some .errOCSPRequestFailed ∨ e.error? = some .errCertificateRevoked

theorem isRevocationError_wrap (e : GoError) : IsRevocationError (wrapOCSPError e) :=
  Or.inl rfl

theorem fetch_error {P : Platform} {env : OcspEnv} {c : Checker}
    {cert issuer : Certificate} {e : GoError} (h : c.fetch P env cert issuer = .error e) :
    IsRevocationError e := by
  unfold Checker.fetch at h
  rcases bind_eq_error h with h | ⟨r, _, h⟩
  · unfold Checker.resolveResponder at h
    split at h
    · cases h
    · split at h
      · cases h; exact isRevocationError_wrap _
      · split at h
        · cases h; exact isRevocationError_wrap _
        · cases h
  rcases bind_eq_error h with h | ⟨nonce, _, h⟩
  · unfold requestNonce at h
    split at h
    · cases h
    · split at h
      · cases h; exact isRevocationError_wrap _
      · cases h
  rcases bind_eq_error h with h | ⟨req, _, h⟩
  · obtain ⟨e', _, rfl⟩ := mapError_eq_error h
    exact isRevocationError_wrap e'
  rcases bind_eq_error h with h | ⟨resp, _, h⟩
  · obtain ⟨e', _, rfl⟩ := mapError_eq_error h
    exact isRevocationError_wrap e'
  rcases bind_eq_error h with h | ⟨r, _, h⟩
  · obtain ⟨e', _, rfl⟩ := mapError_eq_error h
    exact isRevocationError_wrap e'
  · cases h

theorem check_error {P : Platform} {env : OcspEnv} {c : Checker}
    {cert issuer : Certificate} {e : GoError} (h : c.check P env cert issuer = .error e) :
    IsRevocationError e := by
  unfold Checker.check at h
  rcases bind_eq_error h with h | ⟨x, _, h⟩
  · exact fetch_error h
  rcases bind_eq_error h with h | ⟨_, _, h⟩
  · unfold checkNonce at h
    split at h
    · split at h
      · cases h; exact isRevocationError_wrap _
      · cases h
    · cases h
  rcases bind_eq_error h with h | ⟨_, _, h⟩
  · unfold Checker.checkFreshness at h
    simp only [] at h
    split at h
    · cases h; exact isRevocationError_wrap _
    · split at h
      · cases h; exact isRevocationError_wrap _
      · split at h
        · cases h; exact isRevocationError_wrap _
        · cases h
  · unfold checkStatus at h
    split at h
    · cases h
    · cases h; exact Or.inr rfl
    · cases h; exact isRevocationError_wrap _

/-! ## The validator -/

namespace AuthTokenValidator

variable {P : Platform} {env : ValidateEnv} {v : AuthTokenValidator} {token : AuthToken}
  {nonce : String} {checker : Checker}

/-- Step 6 against one snapshot. -/
def revocationStep (P : Platform) (env : ValidateEnv) (checker : Checker)
    (snap : TrustSnapshot) (cert : Certificate) : Except GoError Unit :=
  checkIssuer P env checker cert (TrustStore.findIssuer P snap cert)

/-- With revocation checking on, the pipeline loads the store twice. -/
theorem validate_reread (hocsp : v.ocspChecker = some checker) :
    v.validate P env token nonce =
      Call.reread (checkToken P env v token nonce)
        (fun snap cert => TrustStore.verifyAgainst P snap cert env.now [.clientAuth])
        (revocationStep P env checker)
        (fun cert => v.checkSignature P token cert nonce) := by
  have hrev : ∀ cert, v.checkRevocation P env cert =
      Call.load fun snap => Call.lift (revocationStep P env checker snap cert) := by
    intro cert
    unfold checkRevocation
    rw [hocsp]
    rfl
  rw [validate_eq]
  simp only [hrev]
  rfl

theorem checkIssuer_error {cert : Certificate} {issuer : Option Certificate} {e : GoError}
    (h : checkIssuer P env checker cert issuer = .error e) :
    e.error? = some .errCertificateNotTrusted ∨ IsRevocationError e := by
  unfold checkIssuer at h
  split at h
  · cases h; exact Or.inl rfl
  · exact Or.inr (check_error h)

theorem checkSignature_error {cert : Certificate} {e : GoError}
    (h : v.checkSignature P token cert nonce = .error e) :
    e.error? = some .errTokenUnsupportedFormat ∨ e.error? = some .errTokenParse ∨
      e.error? = some .errTokenSignatureInvalid := by
  unfold checkSignature at h
  rcases bind_eq_error h with h | ⟨_, _, h⟩
  · unfold verifySignature at h
    split at h
    · cases h; exact Or.inl rfl
    · split at h
      · next err hdec =>
          cases h
          unfold AuthToken.decodeSignature at hdec
          split at hdec
          · cases hdec; exact Or.inr (Or.inl rfl)
          · cases hdec
      · simp only [] at h
        split at h
        · cases h
        · cases h; exact Or.inr (Or.inr rfl)
  rcases bind_eq_error h with h | ⟨_, _, h⟩
  · obtain ⟨e', _, rfl⟩ := mapError_eq_error h
    exact Or.inr (Or.inl rfl)
  · cases h

/-- The revocation step and the signature step never fail alike. -/
theorem revocationStep_disjoint {snap : TrustSnapshot} {cert : Certificate} {e : GoError}
    (h : revocationStep P env checker snap cert = .error e) :
    v.checkSignature P token cert nonce ≠ .error e := by
  intro h'
  have hl := checkIssuer_error h
  have hr := checkSignature_error h'
  unfold IsRevocationError at hl
  rcases hl with hl | hl | hl <;> rw [hl] at hr <;> simp at hr

end AuthTokenValidator

/-! ## The signer -/

namespace Signing.Signer

variable {P : Platform} {env : ValidateEnv} {s : Signer} {der : Bytes}
  {supported : List SignatureAlgorithm} {checker : Checker} {ref : StoreRef}

/-- The revocation step against one snapshot. -/
def revocationStep (P : Platform) (env : ValidateEnv) (checker : Checker)
    (snap : TrustSnapshot) (cert : Certificate) : Except GoError Unit :=
  checkIssuer P env.ocsp checker cert (TrustStore.findIssuer P snap cert)

/-- With trust and revocation checking set, so does the gate in front of the
card. -/
theorem prepareSigning_reread (htrust : s.trust = some ref)
    (hocsp : s.ocspChecker = some checker) :
    s.prepareSigning P env der supported =
      Call.reread (s.checkCertificate P env.now der)
        (fun snap cert => verifyChain P snap cert env.now)
        (revocationStep P env checker)
        (fun cert => s.negotiate cert supported) := by
  have hrev : ∀ cert, s.checkRevocation P env.ocsp cert =
      Call.load fun snap => Call.lift (revocationStep P env checker snap cert) := by
    intro cert
    unfold checkRevocation
    rw [hocsp]
    rfl
  rw [prepareSigning_eq]
  unfold Call.reread
  congr 1
  funext cert
  rw [checkTrust_eq htrust, hrev, Call.load_bind]
  congr 1
  funext snap
  rw [Call.bind_assoc]
  rfl

theorem checkIssuer_error {cert : Certificate} {issuer : Option Certificate} {e : GoError}
    (h : checkIssuer P env.ocsp checker cert issuer = .error e) :
    e.error? = some .errSigningCertificateInvalid ∨ IsRevocationError e := by
  unfold checkIssuer at h
  split at h
  · cases h; exact Or.inl rfl
  · exact Or.inr (check_error h)

theorem negotiate_error {cert : Certificate} {e : GoError}
    (h : s.negotiate cert supported = .error e) :
    e.error? = some .errNoSupportedHashFunction := by
  unfold negotiate at h
  rcases bind_eq_error h with h | ⟨_, _, h⟩
  · unfold selectHashFunction at h
    simp only [] at h
    split at h
    · cases h
    · cases h; rfl
  · cases h

theorem revocationStep_disjoint {snap : TrustSnapshot} {cert : Certificate} {e : GoError}
    (h : revocationStep P env checker snap cert = .error e) :
    s.negotiate cert supported ≠ .error e := by
  intro h'
  have hl := checkIssuer_error h
  have hr := negotiate_error h'
  unfold IsRevocationError at hl
  rcases hl with hl | hl | hl <;> rw [hl] at hr <;> simp at hr

end Signing.Signer

/-! ## Overlapping reloads -/

/-- Along the schedule the call ends as it would alone with the first set it
loaded. -/
def EndsAsFirst {α : Type} (evs : List (Call.Event (List Certificate)))
    (snap : TrustSnapshot) (c : Call TrustSnapshot GoError α) (r : Except GoError α) : Prop :=
  ∀ first, (Call.loads TrustStore.swap evs snap c).head? = some first → c.alone first = r

/-- A call that overlaps reloads and ends with `r` ends as it would alone with
the set it met first exactly when the revocation step says the same of the
certificate under the two sets it met. -/
theorem trust_reads_iff (P : Platform) (env : ValidateEnv)
    (evs : List (Call.Event (List Certificate))) (snap : TrustSnapshot) :
    (∀ (v : AuthTokenValidator) (checker : Checker) (token : AuthToken) (nonce : String)
        (r : Except GoError Certificate), v.ocspChecker = some checker →
        (Call.run TrustStore.swap evs snap (v.validate P env token nonce)).2 = Call.lift r →
        (EndsAsFirst evs snap (v.validate P env token nonce) r ↔
          ∀ cert t t', AuthTokenValidator.checkToken P env v token nonce = .ok cert →
            Call.loads TrustStore.swap evs snap (v.validate P env token nonce) = [t, t'] →
            AuthTokenValidator.revocationStep P env checker t cert =
              AuthTokenValidator.revocationStep P env checker t' cert)) ∧
      ∀ (s : Signing.Signer) (ref : StoreRef) (checker : Checker) (der : Bytes)
        (supported : List Signing.SignatureAlgorithm) (r : Except GoError Signing.Prepared),
        s.trust = some ref → s.ocspChecker = some checker →
        (Call.run TrustStore.swap evs snap (s.prepareSigning P env der supported)).2 =
          Call.lift r →
        (EndsAsFirst evs snap (s.prepareSigning P env der supported) r ↔
          ∀ cert t t', s.checkCertificate P env.now der = .ok cert →
            Call.loads TrustStore.swap evs snap (s.prepareSigning P env der supported) =
              [t, t'] →
            Signing.Signer.revocationStep P env checker t cert =
              Signing.Signer.revocationStep P env checker t' cert) := by
  refine ⟨?_, ?_⟩
  · intro v checker token nonce r hocsp hrun
    unfold EndsAsFirst
    rw [AuthTokenValidator.validate_reread hocsp] at hrun ⊢
    exact Call.reread_outcome_iff
      (fun _ _ _ _ h => AuthTokenValidator.revocationStep_disjoint h) hrun
  · intro s ref checker der supported r htrust hocsp hrun
    unfold EndsAsFirst
    rw [Signing.Signer.prepareSigning_reread htrust hocsp] at hrun ⊢
    exact Call.reread_outcome_iff
      (fun _ _ _ _ h => Signing.Signer.revocationStep_disjoint h) hrun

/-! ### A reload between the two reads -/

namespace Reloaded

/-- The CA that issued the user's certificate, and another one. -/
def ca : Certificate := { (default : Certificate) with raw := [1] }

def other : Certificate := { (default : Certificate) with raw := [2] }

def cert : Certificate :=
  { (default : Certificate) with
    subject := { (default : Name) with commonName := "A" }
    notAfter := ⟨10⟩
    keyUsage := keyUsageDigitalSignature
    extKeyUsage := [.clientAuth]
    ocspServer := ["http://ocsp.example"]
    publicKey := .rsa ⟨35, 5⟩ }

/-- The chain is always found, `ca` alone issued the certificate, and the
responder says good. -/
def platform : Platform :=
  { Platform.refusing with
    parseCertificate := fun _ => .ok cert
    verify := fun _ _ => .ok ()
    checkSignatureFrom := fun _ issuer => if issuer = ca then .ok () else .error (.text "")
    unmarshalPublicKey := fun _ => .ok []
    marshalRequest := fun _ => .ok []
    parseResponse := fun _ _ => .ok ⟨.good, 0, ⟨0⟩, ⟨0⟩, [], none⟩
    rsaVerifyPKCS1v15 := fun _ _ _ _ => .ok () }

def validator : AuthTokenValidator :=
  ⟨["https://a.lv"], 0, some (newChecker defaultOptions), []⟩

def env : ValidateEnv := ⟨⟨0⟩, ⟨.ok [7], fun _ _ _ _ => .ok [], ⟨0⟩⟩⟩

def call : Call TrustSnapshot GoError Certificate :=
  validator.validate platform env ⟨"AA==", "RS256", "AA==", "web-eid:1.0", ""⟩ "n"

/-- The chain is verified, the set is replaced, the issuer is looked up. -/
def schedule : List (Call.Event (List Certificate)) := [.step, .store [other], .step]

end Reloaded

/-- The call alone with the set it started with accepts the token; with a
reload between its two reads it refuses the certificate as untrusted. -/
theorem validate_reloaded :
    (Call.run TrustStore.swap Reloaded.schedule (newTrustSnapshot [Reloaded.ca])
        Reloaded.call).2 = Call.lift (.error (.typed .errCertificateNotTrusted)) ∧
      (Call.loads TrustStore.swap Reloaded.schedule (newTrustSnapshot [Reloaded.ca])
        Reloaded.call).head? = some (newTrustSnapshot [Reloaded.ca]) ∧
      Reloaded.call.alone (newTrustSnapshot [Reloaded.ca]) = .ok Reloaded.cert := by
  refine ⟨by rfl, by rfl, by rfl⟩

end WebEid
