import WebEid.Proofs.Finalize

/-!
# The gates in front of the card

`Options` offers three optional gates for a signing certificate: a trust
store, an OCSP checker and a list of accepted policies. `PrepareSigning` asks
the checker inside the branch that has a trust store, so a checker configured
without one is never asked. `signing_gates_iff` says that this is the only
gate that can be skipped, and exactly when it is.

Whether the checker was asked cannot be read off the answer. The logged
variants below are `PrepareSigning` with a list of the calls of `Check` that
returned nil; without the list they are the functions of the source
(`prepareSigningLogged_erase`).
-/

namespace WebEid.Signing

open Lib Exceptions Ocsp

/-- A call of `Check` that returned nil. -/
structure CheckCall where
  checker : Checker
  cert : Certificate
  issuer : Certificate
  deriving DecidableEq

namespace Signer

def checkIssuerLogged (P : Platform) (env : OcspEnv) (checker : Checker) (cert : Certificate)
    (issuer : Option Certificate) : Except GoError (List CheckCall) :=
  match issuer with
  | none => .error (.typed .errSigningCertificateInvalid)
  | some issuer => do
      checker.check P env cert issuer
      pure [⟨checker, cert, issuer⟩]

def checkRevocationLogged (P : Platform) (env : OcspEnv) (s : Signer) (cert : Certificate) :
    Call TrustSnapshot GoError (List CheckCall) :=
  match s.ocspChecker with
  | none => pure []
  | some checker => do
      let issuer ← TrustStore.issuerOf P cert
      checkIssuerLogged P env checker cert issuer

def checkTrustLogged (P : Platform) (env : ValidateEnv) (s : Signer) (cert : Certificate) :
    Call TrustSnapshot GoError (List CheckCall) :=
  match s.trust with
  | none => pure []
  | some _ => do
      let snap ← Call.read
      verifyChain P snap cert env.now
      s.checkRevocationLogged P env.ocsp cert

def prepareSigningLogged (P : Platform) (env : ValidateEnv) (s : Signer)
    (signingCertDER : Bytes) (supported : List SignatureAlgorithm) :
    Call TrustSnapshot GoError (Prepared × List CheckCall) := do
  let cert ← s.checkCertificate P env.now signingCertDER
  let log ← s.checkTrustLogged P env cert
  let prepared ← s.negotiate cert supported
  pure (prepared, log)

/-! ### Without the log -/

theorem checkIssuerLogged_erase (P : Platform) (env : OcspEnv) (checker : Checker)
    (cert : Certificate) (issuer : Option Certificate) :
    (checkIssuerLogged P env checker cert issuer).map (fun _ => ()) =
      checkIssuer P env checker cert issuer := by
  cases issuer with
  | none => rfl
  | some issuer =>
      rw [checkIssuerLogged, checkIssuer]
      cases checker.check P env cert issuer <;> rfl

theorem checkRevocationLogged_erase (P : Platform) (env : OcspEnv) (s : Signer)
    (cert : Certificate) :
    ((s.checkRevocationLogged P env cert).bind fun _ => .ok ()) =
      s.checkRevocation P env cert := by
  rw [checkRevocationLogged, checkRevocation]
  cases s.ocspChecker with
  | none => rfl
  | some checker =>
      show (Call.load fun snap => (Call.lift (checkIssuerLogged P env checker cert
          (TrustStore.findIssuer P snap cert))).bind fun _ => .ok ()) =
        Call.load fun snap => Call.lift (checkIssuer P env checker cert
          (TrustStore.findIssuer P snap cert))
      congr 1
      funext snap
      rw [← checkIssuerLogged_erase]
      cases checkIssuerLogged P env checker cert (TrustStore.findIssuer P snap cert) <;> rfl

theorem checkTrustLogged_erase (P : Platform) (env : ValidateEnv) (s : Signer)
    (cert : Certificate) :
    ((s.checkTrustLogged P env cert).bind fun _ => .ok ()) = s.checkTrust P env cert := by
  rw [checkTrustLogged, checkTrust]
  cases s.trust with
  | none => rfl
  | some ref =>
      show (Call.load fun snap => ((Call.lift (verifyChain P snap cert env.now)).bind fun _ =>
          s.checkRevocationLogged P env.ocsp cert).bind fun _ => .ok ()) =
        Call.load fun snap => (Call.lift (verifyChain P snap cert env.now)).bind fun _ =>
          s.checkRevocation P env.ocsp cert
      congr 1
      funext snap
      rw [Call.bind_assoc]
      congr 1
      funext _
      exact checkRevocationLogged_erase P env.ocsp s cert

theorem prepareSigningLogged_erase (P : Platform) (env : ValidateEnv) (s : Signer)
    (der : Bytes) (supported : List SignatureAlgorithm) :
    ((s.prepareSigningLogged P env der supported).bind fun r => .ok r.1) =
      s.prepareSigning P env der supported := by
  rw [prepareSigning_eq]
  show ((Call.lift (s.checkCertificate P env.now der)).bind fun cert =>
      (s.checkTrustLogged P env cert).bind fun log =>
        (Call.lift (s.negotiate cert supported)).bind fun prepared =>
          .ok (prepared, log)).bind (fun r => .ok r.1) = _
  rw [Call.bind_assoc]
  congr 1
  funext cert
  rw [← checkTrustLogged_erase, Call.bind_assoc, Call.bind_assoc]
  congr 1
  funext log
  cases s.negotiate cert supported <;> rfl

/-! ### What a preparation that succeeded went through -/

/-- Every preparation that succeeds has a log, and passed its three steps. -/
theorem prepareSigning_ok {P : Platform} {env : ValidateEnv} {s : Signer} {der : Bytes}
    {supported : List SignatureAlgorithm} {f : Nat → TrustSnapshot} {prepared : Prepared}
    (h : (s.prepareSigning P env der supported).under f = .ok prepared) :
    ∃ log, (s.prepareSigningLogged P env der supported).under f = .ok (prepared, log) ∧
      s.checkCertificate P env.now der = .ok prepared.cert ∧
      (s.checkTrustLogged P env prepared.cert).under f = .ok log ∧
      s.negotiate prepared.cert supported = .ok prepared := by
  rw [← prepareSigningLogged_erase, Call.under_bind_pure] at h
  cases hlogged : (s.prepareSigningLogged P env der supported).under f with
  | error err =>
      rw [hlogged] at h
      cases h
  | ok r =>
      obtain ⟨result, log⟩ := r
      rw [hlogged] at h
      cases h
      refine ⟨log, rfl, ?_⟩
      have hrun : ((Call.lift (s.checkCertificate P env.now der)).bind fun cert =>
          (s.checkTrustLogged P env cert).bind fun log =>
            (Call.lift (s.negotiate cert supported)).bind fun prepared =>
              .ok (prepared, log)).under f = .ok (result, log) := hlogged
      rw [Call.under_lift_bind] at hrun
      obtain ⟨cert, hcert, hrun⟩ := bind_eq_ok hrun
      obtain ⟨log', f', hlog, hrun⟩ := Call.under_bind_ok hrun
      rw [Call.under_lift_bind] at hrun
      obtain ⟨negotiated, hneg, hrun⟩ := bind_eq_ok hrun
      cases hrun
      obtain rfl : result.cert = cert := by
        obtain ⟨hashFn, -, hneg⟩ := bind_eq_ok hneg
        cases hneg
        rfl
      exact ⟨hcert, hlog, hneg⟩

end Signer

/-- Every gate the options configure was passed by this certificate: the two
that are always there, then the three optional ones. `snap` is the trusted set
the chain was verified against. -/
structure AllGates (P : Platform) (env : ValidateEnv) (opts : Options) (snap : TrustSnapshot)
    (cert : Certificate) (log : List CheckCall) : Prop where
  valid : cert.notBefore.ns ≤ env.now.ns ∧ env.now.ns ≤ cert.notAfter.ns
  commits : cert.keyUsage &&& keyUsageContentCommitment ≠ 0
  policies : opts.acceptedPolicies ≠ [] → ∃ present, cert.extractPolicies P = .ok present ∧
    ∃ oid ∈ opts.acceptedPolicies, oid ∈ present
  chain : opts.trust.isSome = true → TrustStore.verifyAgainst P snap cert env.now [] = .ok ()
  revocation : ∀ checker, opts.ocspChecker = some checker →
    ∃ issuer, ⟨checker, cert, issuer⟩ ∈ log ∧ checker.check P env.ocsp cert issuer = .ok ()

theorem checkAcceptedPolicies_ok {P : Platform} {cert : Certificate}
    {accepted : List ObjectIdentifier} (h : cert.checkAcceptedPolicies P accepted = .ok ())
    (hne : accepted ≠ []) :
    ∃ present, cert.extractPolicies P = .ok present ∧ ∃ oid ∈ accepted, oid ∈ present := by
  rw [Certificate.checkAcceptedPolicies, if_neg (by simpa using hne)] at h
  split at h
  · cases h
  next present hpresent =>
    split at h
    next hany =>
      refine ⟨present, hpresent, ?_⟩
      simpa using hany
    next => cases h

/-- The trust step with a store: the chain held in the first set it loaded, and
a configured checker was asked about the certificate and did not object. -/
theorem checkTrustLogged_some {P : Platform} {env : ValidateEnv} {s : Signer} {ref : StoreRef}
    {cert : Certificate} {f : Nat → TrustSnapshot} {log : List CheckCall}
    (htrust : s.trust = some ref) (h : (s.checkTrustLogged P env cert).under f = .ok log) :
    TrustStore.verifyAgainst P (f 0) cert env.now [] = .ok () ∧
      ∀ checker, s.ocspChecker = some checker → ∃ issuer, ⟨checker, cert, issuer⟩ ∈ log ∧
        checker.check P env.ocsp cert issuer = .ok () := by
  rw [Signer.checkTrustLogged, htrust] at h
  change ((Call.lift (Signer.verifyChain P (f 0) cert env.now)).bind fun _ =>
    s.checkRevocationLogged P env.ocsp cert).under (fun n => f (n + 1)) = .ok log at h
  rw [Call.under_lift_bind] at h
  obtain ⟨_, hchain, h⟩ := bind_eq_ok h
  refine ⟨mapError_eq_ok hchain, ?_⟩
  intro checker hchecker
  rw [Signer.checkRevocationLogged, hchecker] at h
  change (Call.lift (Signer.checkIssuerLogged P env.ocsp checker cert
    (TrustStore.findIssuer P (f 1) cert))).under _ = .ok log at h
  rw [Call.under_lift] at h
  cases hissuer : TrustStore.findIssuer P (f 1) cert with
  | none =>
      rw [hissuer] at h
      cases h
  | some issuer =>
      rw [hissuer, Signer.checkIssuerLogged] at h
      obtain ⟨_, hcheck, h⟩ := bind_eq_ok h
      cases h
      exact ⟨issuer, by simp, hcheck⟩

/-- Of a preparation that succeeds, every configured gate was passed exactly
when no OCSP checker is configured without a trust store. -/
theorem signing_gates_iff {P : Platform} {env : ValidateEnv} {opts : Options} {s : Signer}
    {der : Bytes} {supported : List SignatureAlgorithm} {f : Nat → TrustSnapshot}
    {prepared : Prepared} (hnew : newSigner opts = .ok s)
    (h : (s.prepareSigning P env der supported).under f = .ok prepared) :
    ∃ log, (s.prepareSigningLogged P env der supported).under f = .ok (prepared, log) ∧
      (AllGates P env opts (f 0) prepared.cert log ↔
        (opts.ocspChecker.isSome = true → opts.trust.isSome = true)) := by
  obtain ⟨rfl, -⟩ := newSigner_ok hnew
  obtain ⟨log, hlogged, hcert, hlog, -⟩ := Signer.prepareSigning_ok h
  refine ⟨log, hlogged, ?_⟩
  constructor
  · intro hgates hchecker
    obtain ⟨checker, hchecker⟩ := Option.isSome_iff_exists.mp hchecker
    obtain ⟨issuer, hmem, -⟩ := hgates.revocation checker hchecker
    -- without a store nothing was logged
    cases htrust : opts.trust with
    | none =>
        rw [Signer.checkTrustLogged, htrust] at hlog
        cases hlog
        cases hmem
    | some ref => rfl
  · intro hconfigured
    obtain ⟨c, hparse, hrest⟩ := bind_eq_ok hcert
    obtain ⟨_, hvalid, hrest⟩ := bind_eq_ok hrest
    obtain ⟨_, hpolicies, hrest⟩ := bind_eq_ok hrest
    cases hrest
    obtain ⟨hwindow, hcommits⟩ := Azugo.validateSigningCertificate_ok hvalid
    refine ⟨hwindow, hcommits, checkAcceptedPolicies_ok hpolicies, ?_, ?_⟩
    · intro htrust
      obtain ⟨ref, htrust⟩ := Option.isSome_iff_exists.mp htrust
      exact (checkTrustLogged_some htrust hlog).1
    · intro checker hchecker
      obtain ⟨ref, htrust⟩ := Option.isSome_iff_exists.mp
        (hconfigured (by rw [hchecker]; rfl))
      exact (checkTrustLogged_some htrust hlog).2 checker hchecker

/-! A card that offers SHA-256, and a responder that would refuse it. -/

def cardCertificate : Certificate :=
  { (default : Certificate) with notAfter := ⟨2⟩, keyUsage := keyUsageContentCommitment }

def cardPlatform : Platform :=
  { Platform.refusing with
    parseCertificate := fun _ => .ok cardCertificate
    verify := fun _ _ => .ok () }

def cardEnv : ValidateEnv :=
  ⟨⟨1⟩, ⟨.ok [], fun _ _ _ _ => .error (.text "connection refused"), ⟨1⟩⟩⟩

def cardAlgorithms : List SignatureAlgorithm := [⟨"RSA", "SHA-256", "PKCS1.5"⟩]

def cardPrepared : Prepared := ⟨cardCertificate, ⟨"RSA", "SHA-256", "PKCS1.5"⟩, "SHA-256"⟩

def cardOptions (trust : Option StoreRef) (checker : Option Checker) : Options :=
  ⟨["SHA-256"], trust, checker, []⟩

def cardSigner (trust : Option StoreRef) (checker : Option Checker) : Signer :=
  ⟨["SHA-256"], trust, checker, []⟩

def emptyTrust : Nat → TrustSnapshot := fun _ => newTrustSnapshot []

/-- With a trust store and no checker, the gates are the chain's. -/
theorem signing_gates_trusted :
    ∃ log, ((cardSigner (some 0) none).prepareSigningLogged cardPlatform cardEnv []
        cardAlgorithms).under emptyTrust = .ok (cardPrepared, log) ∧
      AllGates cardPlatform cardEnv (cardOptions (some 0) none) (emptyTrust 0)
        cardCertificate log := by
  obtain ⟨log, hlogged, hiff⟩ := signing_gates_iff (P := cardPlatform)
    (s := cardSigner (some 0) none)
    (show newSigner (cardOptions (some 0) none) = .ok _ by decide +kernel)
    (show ((cardSigner (some 0) none).prepareSigning cardPlatform cardEnv [] cardAlgorithms).under
      emptyTrust = .ok cardPrepared by decide +kernel)
  exact ⟨log, hlogged, hiff.mpr (by decide)⟩

/-- With a checker and no trust store, nobody asks the checker. -/
theorem signing_gates_skipped :
    newSigner (cardOptions none (some ⟨defaultOptions⟩)) =
        .ok (cardSigner none (some ⟨defaultOptions⟩)) ∧
      ((cardSigner none (some ⟨defaultOptions⟩)).prepareSigningLogged cardPlatform cardEnv []
        cardAlgorithms).under emptyTrust = .ok (cardPrepared, []) ∧
      ¬ AllGates cardPlatform cardEnv (cardOptions none (some ⟨defaultOptions⟩)) (emptyTrust 0)
        cardCertificate [] := by
  refine ⟨by decide +kernel, by decide +kernel, ?_⟩
  intro hgates
  obtain ⟨issuer, hmem, -⟩ := hgates.revocation ⟨defaultOptions⟩ rfl
  cases hmem

end WebEid.Signing
