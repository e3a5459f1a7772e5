import WebEid.Proofs.SignatureBinding
import WebEid.Ref.Routes

/-!
# What the flags of a verified finalize vouch for

`POST /sign/certificate` puts a signing certificate through a gate: it is valid
now, may commit to content, asserts an accepted policy and chains to the trust
store. `POST /sign/finalize` comes later, gets the certificate sent again, and
reports with two flags that the signature value verified and that the signing
and the authentication certificate belong to one person.

`finalize_verified_iff` says exactly when a flag is set: what the request holds
decodes and parses, the signature value verifies with the key of the supplied
signing certificate, and the two serial numbers do not name two persons. None
of the gate is among these conditions, and the authentication certificate is
only parsed. Whoever holds the key of a signing certificate can therefore have
a flag set with it, and sooner or later the certificate has expired: over all
times and requests the flags vouch for the gate only where they cannot be set
at all (`finalize_vouches_iff`).

As a report on the request itself the answer is exact. `finalize_exact` goes
through the exits: which requests are answered at all, which flag is set for
which of them, and that the echoed fields are the decoded ones.
-/

namespace WebEid.Azugo

open Lib Exceptions

/-! ## The gate -/

/-- What `PrepareSigning` checks of a certificate at one time and against one
trusted set, revocation apart. -/
structure Gate (P : Platform) (signer : Signing.Signer) (snap : TrustSnapshot) (now : Time)
    (cert : Certificate) : Prop where
  valid : cert.notBefore.ns ≤ now.ns ∧ now.ns ≤ cert.notAfter.ns
  commits : cert.keyUsage &&& keyUsageContentCommitment ≠ 0
  policies : cert.checkAcceptedPolicies P signer.acceptedPolicies = .ok ()
  chain : TrustStore.verifyAgainst P snap cert now [] = .ok ()

def Chains (P : Platform) (snap : TrustSnapshot) (now : Time) (cert : Certificate) : Prop :=
  TrustStore.verifyAgainst P snap cert now [] = .ok ()

theorem validateSigningCertificate_ok {cert : Certificate} {now : Time}
    (h : Signing.validateSigningCertificate cert now = .ok ()) :
    (cert.notBefore.ns ≤ now.ns ∧ now.ns ≤ cert.notAfter.ns) ∧
      cert.keyUsage &&& keyUsageContentCommitment ≠ 0 := by
  unfold Signing.validateSigningCertificate at h
  split at h
  · cases h
  · next hval =>
      exact ⟨Certificate.checkValidity_ok_iff.mp hval,
        Certificate.checkKeyUsageForSigning_ok_iff.mp h⟩

/-! ## When a flag is set -/

/-- A request of which every part decodes and parses, and whose signature value
verifies with the signing certificate it supplies. -/
structure VerifiedInputs (P : Platform) (req : FinalizeRequest)
    (authCert signCert : Certificate) : Prop where
  digest_ne : req.digest ≠ ""
  signing_ne : req.signingCertificate ≠ ""
  auth : ∃ der, Base64.stdEncoding.decodeString req.authCertificate = some der ∧
    P.parseCertificate der = .ok authCert
  signing : ∃ der, Base64.stdEncoding.decodeString req.signingCertificate = some der ∧
    P.parseCertificate der = .ok signCert
  value : ∃ sig digest, Base64.stdEncoding.decodeString req.signature = some sig ∧
    sig ≠ [] ∧ Base64.stdEncoding.decodeString req.digest = some digest ∧
    Signing.verifySignatureValue P signCert req.signatureAlgorithm digest sig = .ok ()

theorem decodeField_ok {err : Error} {s : String} {b : Bytes} :
    Handler.decodeField err s = .ok b ↔ Base64.stdEncoding.decodeString s = some b := by
  unfold Handler.decodeField
  cases Base64.stdEncoding.decodeString s with
  | none => simp
  | some b' => simp

/-- The verified part of the endpoint: both flags off without its inputs. -/
theorem verifyFinalize_ok_iff {P : Platform} {req : FinalizeRequest} {sig : Bytes}
    {authCert : Certificate} {verified bound : Bool} :
    Handler.verifyFinalize P req sig authCert = .ok (verified, bound) ↔
      (req.digest = "" ∧ req.signingCertificate = "" ∧ verified = false ∧ bound = false) ∨
      (req.digest ≠ "" ∧ req.signingCertificate ≠ "" ∧ verified = true ∧
        ∃ digest der signCert, Base64.stdEncoding.decodeString req.digest = some digest ∧
          Base64.stdEncoding.decodeString req.signingCertificate = some der ∧
          P.parseCertificate der = .ok signCert ∧
          Signing.verifySignatureValue P signCert req.signatureAlgorithm digest sig = .ok () ∧
          authCert.checkSameNaturalPerson signCert = .ok bound) := by
  simp only [Handler.verifyFinalize, Bool.or_eq_true, decide_eq_true_eq]
  by_cases hd : req.digest = "" <;> by_cases hs : req.signingCertificate = ""
  · rw [if_neg (by rintro (h | h); exacts [h hd, h hs])]
    constructor
    · intro h
      cases h
      exact .inl ⟨hd, hs, rfl, rfl⟩
    · rintro (⟨-, -, rfl, rfl⟩ | ⟨hne, -⟩)
      · rfl
      · exact absurd hd hne
  · rw [if_pos (.inr hs), if_pos (.inl hd)]
    exact ⟨nofun, by rintro (⟨-, h, -⟩ | ⟨hne, -⟩); exacts [absurd h hs, absurd hd hne]⟩
  · rw [if_pos (.inl hd), if_pos (.inr hs)]
    exact ⟨nofun, by rintro (⟨h, -⟩ | ⟨-, hne, -⟩); exacts [absurd h hd, absurd hs hne]⟩
  · rw [if_pos (.inl hd), if_neg (by rintro (h | h); exacts [hd h, hs h])]
    simp only [bind_eq_ok_iff, decodeField_ok, Signing.parseSigningCertificate,
      mapError_eq_ok_iff]
    constructor
    · rintro ⟨digest, hdigest, der, hder, signCert, hcert, _, hver, checked, hsame, h⟩
      cases h
      exact Or.inr ⟨hd, hs, rfl, digest, der, signCert, hdigest, hder, hcert, hver, hsame⟩
    · rintro (⟨h, _⟩ | ⟨_, _, rfl, digest, der, signCert, hdigest, hder, hcert, hver, hsame⟩)
      · exact absurd h hd
      · exact ⟨digest, hdigest, der, hder, signCert, hcert, (), hver, bound, hsame, rfl⟩

/-- The endpoint answers when signature value and authentication certificate
decode and the verified part does, with the two encoded again. -/
theorem finalize_ok_iff {P : Platform} {req : FinalizeRequest} {resp : FinalizeResponse} :
    Handler.finalize P (.ok req) = .ok resp ↔
      ∃ sig der authCert, Base64.stdEncoding.decodeString req.signature = some sig ∧
        sig ≠ [] ∧ Base64.stdEncoding.decodeString req.authCertificate = some der ∧
        P.parseCertificate der = .ok authCert ∧
        Handler.verifyFinalize P req sig authCert =
          .ok (resp.signatureVerified, resp.identityBound) ∧
        resp.status = "ok" ∧ resp.signature = Base64.stdEncoding.encodeToString sig ∧
        resp.authCertificate = Base64.stdEncoding.encodeToString authCert.raw := by
  unfold Handler.finalize
  constructor
  · intro h
    obtain ⟨_, hreq, h⟩ := bind_eq_ok h
    cases hreq
    obtain ⟨sig, hsig, h⟩ := bind_eq_ok h
    obtain ⟨der, hder, h⟩ := bind_eq_ok h
    obtain ⟨⟨authCert, signed⟩, hfin, h⟩ := bind_eq_ok h
    obtain ⟨⟨verified, bound⟩, hver, h⟩ := bind_eq_ok h
    unfold Signing.Signer.finalize at hfin
    split at hfin
    · cases hfin
    · next hne =>
        obtain ⟨c, hc, hfin⟩ := bind_eq_ok hfin
        cases hfin
        cases h
        exact ⟨sig, der, authCert, decodeField_ok.mp hsig, by simpa using hne,
          decodeField_ok.mp hder, mapError_eq_ok hc, hver, rfl, rfl, rfl⟩
  · rintro ⟨sig, der, authCert, hsig, hne, hder, hcert, hver, hstatus, hecho, hecho'⟩
    have hfin : Signing.Signer.finalize P sig der = .ok (authCert, sig) := by
      unfold Signing.Signer.finalize
      rw [if_neg (by simpa using hne), hcert]
      rfl
    simp only [bind_ok, decodeField_ok.mpr hsig, decodeField_ok.mpr hder, hfin, hver,
      ← hstatus, ← hecho, ← hecho']
    rfl

/-- A flag is set exactly by a request with verified inputs; the second says
what the comparison of the serial numbers said. -/
theorem finalize_verified_iff {P : Platform} {req : FinalizeRequest} {bound : Bool} :
    (∃ resp, Handler.finalize P (.ok req) = .ok resp ∧ resp.signatureVerified = true ∧
        resp.identityBound = bound) ↔
      ∃ authCert signCert, VerifiedInputs P req authCert signCert ∧
        authCert.checkSameNaturalPerson signCert = .ok bound := by
  constructor
  · rintro ⟨resp, hresp, hverified, rfl⟩
    obtain ⟨sig, der, authCert, hsig, hne, hder, hcert, hver, -⟩ := finalize_ok_iff.mp hresp
    rw [hverified] at hver
    rcases verifyFinalize_ok_iff.mp hver with ⟨_, _, hfalse, _⟩ |
      ⟨hd, hs, _, digest, sder, signCert, hdigest, hsder, hscert, hvalue, hsame⟩
    · cases hfalse
    · exact ⟨authCert, signCert, ⟨hd, hs, ⟨der, hder, hcert⟩, ⟨sder, hsder, hscert⟩,
        sig, digest, hsig, hne, hdigest, hvalue⟩, hsame⟩
  · rintro ⟨authCert, signCert, ⟨hd, hs, ⟨der, hder, hcert⟩, ⟨sder, hsder, hscert⟩, sig,
      digest, hsig, hne, hdigest, hvalue⟩, hsame⟩
    have hver : Handler.verifyFinalize P req sig authCert = .ok (true, bound) :=
      verifyFinalize_ok_iff.mpr (Or.inr
        ⟨hd, hs, rfl, digest, sder, signCert, hdigest, hsder, hscert, hvalue, hsame⟩)
    exact ⟨⟨_, _, _, true, bound⟩, finalize_ok_iff.mpr
      ⟨sig, der, authCert, hsig, hne, hder, hcert, hver, rfl, rfl, rfl⟩, rfl, rfl⟩

/-- The person binding is never reported without a verified signature. -/
theorem finalize_bound_verified {P : Platform} {req : FinalizeRequest}
    {resp : FinalizeResponse} (h : Handler.finalize P (.ok req) = .ok resp)
    (hbound : resp.identityBound = true) : resp.signatureVerified = true := by
  obtain ⟨_, _, _, _, _, _, _, hver, -⟩ := finalize_ok_iff.mp h
  rcases verifyFinalize_ok_iff.mp hver with ⟨_, _, _, hfalse⟩ | ⟨_, _, htrue, _⟩
  · rw [hbound] at hfalse
    cases hfalse
  · exact htrue

/-! ## What a flag vouches for -/

/-- Both certificates name a natural person. -/
def NaturalPersons (a b : Certificate) : Prop :=
  Go.hasPrefix a.subject.serialNumber Certificate.naturalPersonIDPrefix = true ∧
    Go.hasPrefix b.subject.serialNumber Certificate.naturalPersonIDPrefix = true

def SamePerson (a b : Certificate) : Prop :=
  NaturalPersons a b ∧ a.subject.serialNumber = b.subject.serialNumber

def TwoPersons (a b : Certificate) : Prop :=
  NaturalPersons a b ∧ a.subject.serialNumber ≠ b.subject.serialNumber

theorem checkSameNaturalPerson_ok_iff {a b : Certificate} {bound : Bool} :
    a.checkSameNaturalPerson b = .ok bound ↔
      ¬ TwoPersons a b ∧ (bound = true ↔ SamePerson a b) := by
  rw [Certificate.checkSameNaturalPerson]
  simp only [Bool.or_eq_true, Bool.not_eq_true']
  split
  · next hnot =>
      have hpersons : ¬ NaturalPersons a b := by
        rintro ⟨ha, hb⟩
        rw [ha, hb] at hnot
        simp at hnot
      have htwo : ¬ TwoPersons a b := fun h => hpersons h.1
      have hsame : ¬ SamePerson a b := fun h => hpersons h.1
      simp [htwo, hsame, eq_comm]
  · next hnot =>
      have hpersons : NaturalPersons a b := by
        rw [not_or, Bool.not_eq_false, Bool.not_eq_false] at hnot
        exact hnot
      split
      · next hne =>
          refine iff_of_false (by simp) ?_
          rintro ⟨htwo, -⟩
          exact htwo ⟨hpersons, hne⟩
      · next heq =>
          have htwo : ¬ TwoPersons a b := fun h => heq h.2
          have hsame : SamePerson a b := ⟨hpersons, not_not.mp heq⟩
          simp [htwo, hsame, eq_comm]

/-- The certificates of a request, as the endpoint parses them. -/
def Supplies (P : Platform) (req : FinalizeRequest) (authCert signCert : Certificate) :
    Prop :=
  (∃ der, Base64.stdEncoding.decodeString req.authCertificate = some der ∧
    P.parseCertificate der = .ok authCert) ∧
  ∃ der, Base64.stdEncoding.decodeString req.signingCertificate = some der ∧
    P.parseCertificate der = .ok signCert

theorem Supplies.unique {P : Platform} {req : FinalizeRequest} {a a' s s' : Certificate}
    (h : Supplies P req a s) (h' : Supplies P req a' s') : a = a' ∧ s = s' := by
  obtain ⟨⟨d₁, h₁, hp₁⟩, d₂, h₂, hp₂⟩ := h
  obtain ⟨⟨d₁', h₁', hp₁'⟩, d₂', h₂', hp₂'⟩ := h'
  rw [h₁] at h₁'
  rw [h₂] at h₂'
  cases h₁'
  cases h₂'
  rw [hp₁] at hp₁'
  rw [hp₂] at hp₂'
  exact ⟨Except.ok.inj hp₁', Except.ok.inj hp₂'⟩

/-- A true flag of this request vouches for the gate at this time, and for the
chain of the authentication certificate when the person is bound. -/
def Vouches (P : Platform) (h : Handler) (snap : TrustSnapshot) (now : Time)
    (req : FinalizeRequest) : Prop :=
  ∀ resp, Handler.finalize P (.ok req) = .ok resp →
    resp.signatureVerified = true ∨ resp.identityBound = true →
    ∃ authCert signCert, Supplies P req authCert signCert ∧
      Gate P h.signer snap now signCert ∧
      (resp.identityBound = true → Chains P snap now authCert)

/-- A certificate as a field of a request. -/
def CertificateText (P : Platform) (text : String) (cert : Certificate) : Prop :=
  text ≠ "" ∧ ∃ der, Base64.stdEncoding.decodeString text = some der ∧
    P.parseCertificate der = .ok cert

section

variable {P : Platform} {authText signText : String} {authCert signCert : Certificate}

theorem supplies_of_text {req : FinalizeRequest} (hauth : CertificateText P authText authCert)
    (hsign : CertificateText P signText signCert) (ha : req.authCertificate = authText)
    (hs : req.signingCertificate = signText) : Supplies P req authCert signCert := by
  subst ha hs
  exact ⟨hauth.2, hsign.2⟩

/-- A flag needs a key the endpoint can verify with, and certificates that do
not name two persons. -/
theorem flag_needs {req : FinalizeRequest} (hsupplies : Supplies P req authCert signCert)
    {resp : FinalizeResponse} (hresp : Handler.finalize P (.ok req) = .ok resp)
    (hflag : resp.signatureVerified = true ∨ resp.identityBound = true) :
    (∀ raw, signCert.publicKey ≠ .other raw) ∧ ¬ TwoPersons authCert signCert ∧
      (resp.identityBound = true ↔ SamePerson authCert signCert) := by
  have hverified : resp.signatureVerified = true := by
    rcases hflag with hv | hb
    · exact hv
    · exact finalize_bound_verified hresp hb
  obtain ⟨a, s, hin, hsame⟩ := finalize_verified_iff.mp ⟨resp, hresp, hverified, rfl⟩
  obtain ⟨rfl, rfl⟩ := hsupplies.unique ⟨hin.auth, hin.signing⟩
  obtain ⟨sig, digest, -, -, -, hvalue⟩ := hin.value
  exact ⟨Signing.verifySignatureValue_kind hvalue, checkSameNaturalPerson_ok_iff.mp hsame⟩

/-- The holder of such a key makes a request with it that has a flag set. -/
theorem flag_obtained (hauth : CertificateText P authText authCert)
    (hsign : CertificateText P signText signCert) (hheld : Signature.Held P signCert.publicKey)
    (hkind : ∀ raw, signCert.publicKey ≠ .other raw) (htwo : ¬ TwoPersons authCert signCert) :
    ∃ req resp, req.authCertificate = authText ∧ req.signingCertificate = signText ∧
      Handler.finalize P (.ok req) = .ok resp ∧ resp.signatureVerified = true := by
  obtain ⟨algo, digest, sig, hvalue⟩ := Signing.verifySignatureValue_exists hheld hkind
  obtain ⟨hdigest, hsig⟩ := Signing.verifySignatureValue_nonempty hvalue
  have hdecode : ∀ b, Base64.stdEncoding.decodeString (Base64.stdEncoding.encodeToString b) =
      some b := Base64.decodeString_encodeToString Base64.sound_stdEncoding
  let req : FinalizeRequest :=
    { signature := Base64.stdEncoding.encodeToString sig
      signatureAlgorithm := algo
      authCertificate := authText
      digest := Base64.stdEncoding.encodeToString digest
      signingCertificate := signText }
  have hne : req.digest ≠ "" := by
    intro hempty
    have hdigest' := hdecode digest
    rw [show Base64.stdEncoding.encodeToString digest = "" from hempty,
      Base64.decodeString_empty] at hdigest'
    exact hdigest (Option.some.inj hdigest').symm
  have hin : VerifiedInputs P req authCert signCert :=
    ⟨hne, hsign.1, hauth.2, hsign.2, sig, digest, hdecode sig, hsig, hdecode digest, hvalue⟩
  -- whatever the comparison of the persons says, it does not fail
  obtain ⟨bound, hbound⟩ : ∃ bound, authCert.checkSameNaturalPerson signCert = .ok bound := by
    by_cases hsame : SamePerson authCert signCert
    · exact ⟨true, checkSameNaturalPerson_ok_iff.mpr ⟨htwo, iff_of_true rfl hsame⟩⟩
    · exact ⟨false, checkSameNaturalPerson_ok_iff.mpr ⟨htwo, iff_of_false (by simp) hsame⟩⟩
  obtain ⟨resp, hresp, hverified, -⟩ :=
    finalize_verified_iff.mpr ⟨authCert, signCert, hin, hbound⟩
  exact ⟨req, resp, rfl, rfl, hresp, hverified⟩

/-- The flags vouch for the gate at one time, whatever the request says about
the two certificates, when no flag can be set with them or when they pass. -/
theorem vouches_at_iff (h : Handler) (snap : TrustSnapshot) (now : Time)
    (hauth : CertificateText P authText authCert) (hsign : CertificateText P signText signCert)
    (hheld : Signature.Held P signCert.publicKey) :
    (∀ req : FinalizeRequest, req.authCertificate = authText → req.signingCertificate = signText →
        Vouches P h snap now req) ↔
      (∃ raw, signCert.publicKey = .other raw) ∨ TwoPersons authCert signCert ∨
        Gate P h.signer snap now signCert ∧
          (SamePerson authCert signCert → Chains P snap now authCert) := by
  constructor
  · intro hvouches
    by_cases hkind : ∃ raw, signCert.publicKey = .other raw
    · exact .inl hkind
    by_cases htwo : TwoPersons authCert signCert
    · exact .inr (.inl htwo)
    obtain ⟨req, resp, ha, hs, hresp, hverified⟩ :=
      flag_obtained hauth hsign hheld (not_exists.mp hkind) htwo
    have hsupplies := supplies_of_text hauth hsign ha hs
    obtain ⟨a, s, hsup, hgate, hchain⟩ := hvouches req ha hs resp hresp (.inl hverified)
    obtain ⟨rfl, rfl⟩ := hsup.unique hsupplies
    obtain ⟨-, -, hbound⟩ := flag_needs hsupplies hresp (.inl hverified)
    exact .inr (.inr ⟨hgate, fun hsame => hchain (hbound.mpr hsame)⟩)
  · intro hcond req ha hs resp hresp hflag
    have hsupplies := supplies_of_text hauth hsign ha hs
    obtain ⟨hkind, htwo, hbound⟩ := flag_needs hsupplies hresp hflag
    rcases hcond with ⟨raw, hraw⟩ | htwo' | ⟨hgate, hchain⟩
    · exact absurd hraw (hkind raw)
    · exact absurd htwo' htwo
    · exact ⟨authCert, signCert, hsupplies, hgate, fun h => hchain (hbound.mp h)⟩

/-- For certificates whose signing key someone holds, in every configuration
and with every trusted set: the flags vouch for the gate at all times exactly
when the key is neither an RSA nor an ECDSA key or the certificates name two
persons, so that no flag is ever set. At one time they also do where both
certificates pass at that time what the endpoint leaves out. -/
theorem finalize_vouches_iff (h : Handler) (snap : TrustSnapshot)
    (hauth : CertificateText P authText authCert) (hsign : CertificateText P signText signCert)
    (hheld : Signature.Held P signCert.publicKey) :
    ((∀ now (req : FinalizeRequest), req.authCertificate = authText →
        req.signingCertificate = signText → Vouches P h snap now req) ↔
      (∃ raw, signCert.publicKey = .other raw) ∨ TwoPersons authCert signCert) ∧
    ∀ now, (∀ req : FinalizeRequest, req.authCertificate = authText →
        req.signingCertificate = signText → Vouches P h snap now req) ↔
      (∃ raw, signCert.publicKey = .other raw) ∨ TwoPersons authCert signCert ∨
        Gate P h.signer snap now signCert ∧
          (SamePerson authCert signCert → Chains P snap now authCert) := by
  have hat := fun now => vouches_at_iff h snap now hauth hsign hheld
  refine ⟨⟨?_, ?_⟩, hat⟩
  · intro hvouches
    -- a nanosecond after its end the certificate passes no gate
    rcases (hat ⟨signCert.notAfter.ns + 1⟩).mp (hvouches _) with hkind | htwo | ⟨hgate, -⟩
    · exact .inl hkind
    · exact .inr htwo
    · exact absurd hgate.valid.2 (Int.not_le.mpr (Int.lt_succ signCert.notAfter.ns))
  · intro hcond now
    rcases hcond with hkind | htwo
    · exact (hat now).mpr (.inl hkind)
    · exact (hat now).mpr (.inr (.inl htwo))

end

/-! ### A self-signed certificate -/

namespace SelfSigned

/-- A certificate anyone can make: the serial number of another person, no
content commitment, and expired. -/
def cert : Certificate :=
  { (default : Certificate) with
    subject := { (default : Name) with serialNumber := "PNOLV-010101-11111" }
    publicKey := Signing.ecdsaCertificate.publicKey }

/-- Everything parses as `cert`, its key verifies, and no chain is found. -/
def platform : Platform :=
  { Signing.truncatingPlatform with parseCertificate := fun _ => .ok cert }

/-- A signature whose two halves are 1, over a digest of the byte 1. -/
def request : FinalizeRequest where
  signature :=
    "AAAAAAAAAAAAAAAAAAAAAAAAAAAAAAAAAAAAAAAAAAEAAAAAAAAAAAAAAAAAAAAAAAAAAAAAAAAAAAAAAAAAAQ=="
  signatureAlgorithm := ⟨"ECC", "SHA-256", "NONE"⟩
  authCertificate := "AA=="
  digest := "AQ=="
  signingCertificate := "AA=="

theorem signature_decodes :
    Base64.stdEncoding.decodeString request.signature =
      some (Go.fillBytes 32 1 ++ Go.fillBytes 32 1) := by
  rw [Base64.Encoding.decodeString, request, String.toList_ofList]
  decide +kernel

theorem digest_decodes : Base64.stdEncoding.decodeString request.digest = some [1] := by decide

theorem value_verifies {P : Platform} (hP : P.ecdsaVerify = platform.ecdsaVerify) (raw : Bytes) :
    Signing.verifySignatureValue P { cert with raw := raw } request.signatureAlgorithm [1]
      (Go.fillBytes 32 1 ++ Go.fillBytes 32 1) = .ok () := by
  have hkey : ({ cert with raw := raw } : Certificate).publicKey = .ecdsa ⟨.p256, 1, 2⟩ := rfl
  have hverify : P.ecdsaVerify ⟨.p256, 1, 2⟩ [1] 1 1 = true := by
    rw [hP]
    decide +kernel
  exact (Signing.verifySignatureValue_ecdsa_iff hkey).mpr
    (Signing.p1363Verifies_fillBytes (by decide) (by decide) (by decide) hverify)

theorem certificate_decodes : Base64.stdEncoding.decodeString "AA==" = some [0] := by decide

theorem certificate_text : CertificateText platform "AA==" cert :=
  ⟨by decide, [0], certificate_decodes, rfl⟩

theorem cert_held : Signature.Held platform cert.publicKey := Signing.ecdsaCertificate_held

/-- The same with an Ed25519 key. -/
def ed25519Platform : Platform :=
  { platform with parseCertificate := fun _ => .ok { cert with publicKey := .other [1] } }

theorem ed25519_text :
    CertificateText ed25519Platform "AA==" { cert with publicKey := .other [1] } :=
  ⟨by decide, [0], certificate_decodes, rfl⟩

end SelfSigned

/-- With the self-signed certificate a flag is set that does not hold; a
certificate of a kind of key the endpoint cannot verify with gets none. -/
theorem finalize_vouches_kinds :
    (∀ h snap, ¬ ∀ now (req : FinalizeRequest), req.authCertificate = "AA==" →
      req.signingCertificate = "AA==" → Vouches SelfSigned.platform h snap now req) ∧
    ∀ h snap now (req : FinalizeRequest), req.authCertificate = "AA==" →
      req.signingCertificate = "AA==" → Vouches SelfSigned.ed25519Platform h snap now req := by
  refine ⟨?_, ?_⟩
  · intro h snap
    rw [(finalize_vouches_iff h snap SelfSigned.certificate_text SelfSigned.certificate_text
      SelfSigned.cert_held).1, not_or]
    exact ⟨nofun, fun htwo => htwo.2 rfl⟩
  · intro h snap
    exact (finalize_vouches_iff h snap SelfSigned.ed25519_text SelfSigned.ed25519_text
      trivial).1.mpr (.inl ⟨[1], rfl⟩)

/-- The endpoint reports both flags for a self-signed certificate that chains
nowhere, may not commit to content and is not valid. -/
theorem finalize_self_signed :
    (∃ resp, Handler.finalize SelfSigned.platform (.ok SelfSigned.request) = .ok resp ∧
        resp.signatureVerified = true ∧ resp.identityBound = true) ∧
      Supplies SelfSigned.platform SelfSigned.request SelfSigned.cert SelfSigned.cert ∧
      ∀ signer snap now, ¬Gate SelfSigned.platform signer snap now SelfSigned.cert ∧
        ¬Chains SelfSigned.platform snap now SelfSigned.cert := by
  refine ⟨?_, ?_, fun signer snap now => ⟨fun hgate => ?_, fun hchain => ?_⟩⟩
  · rw [finalize_verified_iff]
    refine ⟨SelfSigned.cert, SelfSigned.cert, ⟨by decide, by decide,
      ⟨[0], SelfSigned.certificate_decodes, rfl⟩, ⟨[0], SelfSigned.certificate_decodes, rfl⟩,
      _, [1], SelfSigned.signature_decodes, by decide, SelfSigned.digest_decodes,
      SelfSigned.value_verifies rfl []⟩, by decide +kernel⟩
  · exact ⟨⟨[0], SelfSigned.certificate_decodes, rfl⟩, [0], SelfSigned.certificate_decodes, rfl⟩
  · exact hgate.commits (by decide)
  · cases hchain

/-! ## The whole answer -/

/-- `ParseCertificate` keeps the bytes it parsed, and parses them all. -/
def KeepsRaw (P : Platform) : Prop :=
  ∀ der cert, P.parseCertificate der = .ok cert → cert.raw = der

/-- What every answer needs: a signature value that is not empty, and an
authentication certificate. -/
def Echoable (P : Platform) (req : FinalizeRequest) : Prop :=
  (∃ sig, Base64.stdEncoding.decodeString req.signature = some sig ∧ sig ≠ []) ∧
    ∃ der authCert, Base64.stdEncoding.decodeString req.authCertificate = some der ∧
      P.parseCertificate der = .ok authCert

/-- Neither of the two optional fields is there. -/
def Unverified (req : FinalizeRequest) : Prop := req.digest = "" ∧ req.signingCertificate = ""

/-- Both are, everything verifies, and the certificates do not name two
persons. -/
def Verified (P : Platform) (req : FinalizeRequest) : Prop :=
  ∃ authCert signCert, VerifiedInputs P req authCert signCert ∧ ¬ TwoPersons authCert signCert

section

variable {P : Platform} {req : FinalizeRequest}

theorem verified_iff : Verified P req ↔
    ∃ authCert signCert bound, VerifiedInputs P req authCert signCert ∧
      authCert.checkSameNaturalPerson signCert = .ok bound := by
  simp only [checkSameNaturalPerson_ok_iff]
  constructor
  · rintro ⟨authCert, signCert, hin, htwo⟩
    by_cases hsame : SamePerson authCert signCert
    · exact ⟨authCert, signCert, true, hin, htwo, by simp [hsame]⟩
    · exact ⟨authCert, signCert, false, hin, htwo, by simp [hsame]⟩
  · rintro ⟨authCert, signCert, bound, hin, htwo, -⟩
    exact ⟨authCert, signCert, hin, htwo⟩

theorem signatureVerified_iff {resp : FinalizeResponse}
    (h : Handler.finalize P (.ok req) = .ok resp) :
    resp.signatureVerified = true ↔ Verified P req := by
  rw [verified_iff]
  constructor
  · intro hverified
    obtain ⟨authCert, signCert, hin, hsame⟩ :=
      finalize_verified_iff.mp ⟨resp, h, hverified, rfl⟩
    exact ⟨authCert, signCert, _, hin, hsame⟩
  · rintro ⟨authCert, signCert, bound, hin, hsame⟩
    obtain ⟨resp', h', hverified, -⟩ :=
      finalize_verified_iff.mpr ⟨authCert, signCert, hin, hsame⟩
    rw [h] at h'
    cases h'
    exact hverified

theorem identityBound_iff {resp : FinalizeResponse}
    (h : Handler.finalize P (.ok req) = .ok resp) :
    resp.identityBound = true ↔ ∃ authCert signCert, VerifiedInputs P req authCert signCert ∧
      SamePerson authCert signCert := by
  constructor
  · intro hbound
    obtain ⟨authCert, signCert, hin, hsame⟩ :=
      finalize_verified_iff.mp ⟨resp, h, finalize_bound_verified h hbound, rfl⟩
    exact ⟨authCert, signCert, hin, (checkSameNaturalPerson_ok_iff.mp hsame).2.mp hbound⟩
  · rintro ⟨authCert, signCert, hin, hsame⟩
    have htwo : ¬ TwoPersons authCert signCert := fun h => h.2 hsame.2
    obtain ⟨resp', h', -, hbound⟩ := finalize_verified_iff.mpr ⟨authCert, signCert, hin,
      checkSameNaturalPerson_ok_iff.mpr ⟨htwo, iff_of_true rfl hsame⟩⟩
    rw [h] at h'
    cases h'
    exact hbound

/-- The two cases of an answer. -/
theorem finalize_isOk_iff : (∃ resp, Handler.finalize P (.ok req) = .ok resp) ↔
    Echoable P req ∧ (Unverified req ∨ Verified P req) := by
  constructor
  · rintro ⟨resp, h⟩
    obtain ⟨sig, der, authCert, hsig, hne, hder, hcert, hver, -⟩ := finalize_ok_iff.mp h
    refine ⟨⟨⟨sig, hsig, hne⟩, der, authCert, hder, hcert⟩, ?_⟩
    rcases verifyFinalize_ok_iff.mp hver with ⟨hd, hs, -⟩ | ⟨-, -, hverified, -⟩
    · exact .inl ⟨hd, hs⟩
    · exact .inr ((signatureVerified_iff h).mp hverified)
  · rintro ⟨⟨⟨sig, hsig, hne⟩, der, authCert, hder, hcert⟩, ⟨hd, hs⟩ | hverified⟩
    · have hver : Handler.verifyFinalize P req sig authCert = .ok (false, false) :=
        verifyFinalize_ok_iff.mpr (.inl ⟨hd, hs, rfl, rfl⟩)
      exact ⟨⟨_, _, _, false, false⟩, finalize_ok_iff.mpr
        ⟨sig, der, authCert, hsig, hne, hder, hcert, hver, rfl, rfl, rfl⟩⟩
    · obtain ⟨authCert, signCert, bound, hin, hsame⟩ := verified_iff.mp hverified
      obtain ⟨resp, h, -⟩ := finalize_verified_iff.mpr ⟨authCert, signCert, hin, hsame⟩
      exact ⟨resp, h⟩

theorem finalize_echoes (hraw : KeepsRaw P) {resp : FinalizeResponse}
    (h : Handler.finalize P (.ok req) = .ok resp) :
    ∃ sig der, Base64.stdEncoding.decodeString req.signature = some sig ∧
      Base64.stdEncoding.decodeString req.authCertificate = some der ∧
      resp.signature = Base64.stdEncoding.encodeToString sig ∧
      resp.authCertificate = Base64.stdEncoding.encodeToString der := by
  obtain ⟨sig, der, authCert, hsig, -, hder, hcert, -, -, hecho, hecho'⟩ :=
    finalize_ok_iff.mp h
  rw [hraw der authCert hcert] at hecho'
  exact ⟨sig, der, hsig, hder, hecho, hecho'⟩

end

/-- For every request: the endpoint answers exactly in the two cases, each
flag is set exactly where it should be, what is echoed is what the request
decodes to, and otherwise there is an error and nothing else. -/
theorem finalize_exact {P : Platform} (hraw : KeepsRaw P) (req : FinalizeRequest) :
    ((∃ resp, Handler.finalize P (.ok req) = .ok resp) ↔
      Echoable P req ∧ (Unverified req ∨ Verified P req)) ∧
    (∀ resp, Handler.finalize P (.ok req) = .ok resp →
      (resp.signatureVerified = true ↔ Verified P req) ∧
      (resp.identityBound = true ↔
        ∃ authCert signCert, VerifiedInputs P req authCert signCert ∧
          SamePerson authCert signCert) ∧
      (resp.identityBound = true → resp.signatureVerified = true) ∧
      ∃ sig der, Base64.stdEncoding.decodeString req.signature = some sig ∧
        Base64.stdEncoding.decodeString req.authCertificate = some der ∧
        resp.signature = Base64.stdEncoding.encodeToString sig ∧
        resp.authCertificate = Base64.stdEncoding.encodeToString der) ∧
    (¬ (Echoable P req ∧ (Unverified req ∨ Verified P req)) →
      ∃ err, Handler.finalize P (.ok req) = .error err) := by
  refine ⟨finalize_isOk_iff, ?_, ?_⟩
  · intro resp h
    exact ⟨signatureVerified_iff h, identityBound_iff h, finalize_bound_verified h,
      finalize_echoes hraw h⟩
  · intro hnot
    cases h : Handler.finalize P (.ok req) with
    | error err => exact ⟨err, rfl⟩
    | ok resp => exact absurd (finalize_isOk_iff.mp ⟨resp, h⟩) hnot

/-- Every certificate parses as the self-signed one, with its own bytes. -/
def rawPlatform : Platform :=
  { SelfSigned.platform with
    parseCertificate := fun der => .ok { SelfSigned.cert with raw := der } }

theorem finalize_exact_self_signed :
    ∃ resp, Handler.finalize rawPlatform (.ok SelfSigned.request) = .ok resp ∧
      resp.identityBound = true ∧ resp.authCertificate = "AA==" := by
  have hraw : KeepsRaw rawPlatform := by
    intro der cert h
    cases h
    rfl
  let cert : Certificate := { SelfSigned.cert with raw := [0] }
  have hder : Base64.stdEncoding.decodeString SelfSigned.request.authCertificate = some [0] :=
    SelfSigned.certificate_decodes
  have hvalue := SelfSigned.value_verifies (P := rawPlatform) rfl [0]
  have hin : VerifiedInputs rawPlatform SelfSigned.request cert cert :=
    ⟨by decide, by decide, ⟨[0], hder, rfl⟩, ⟨[0], hder, rfl⟩,
      _, [1], SelfSigned.signature_decodes, by decide, SelfSigned.digest_decodes, hvalue⟩
  have hsame : SamePerson cert cert := ⟨⟨by decide, by decide⟩, rfl⟩
  obtain ⟨sig, _, hsig, hne, -⟩ := hin.value
  obtain ⟨hok, hanswer, -⟩ := finalize_exact hraw SelfSigned.request
  obtain ⟨resp, h⟩ := hok.mpr
    ⟨⟨⟨sig, hsig, hne⟩, [0], cert, hder, rfl⟩, .inr ⟨cert, cert, hin, fun h => h.2 rfl⟩⟩
  obtain ⟨-, hbound, -, _, der, -, hder', -, hecho⟩ := hanswer resp h
  refine ⟨resp, h, hbound.mpr ⟨cert, cert, hin, hsame⟩, ?_⟩
  rw [hder] at hder'
  cases hder'
  rw [hecho]
  decide

end WebEid.Azugo
