import WebEid.Proofs.SignatureBinding

/-!
# The two signature verifiers agree

`signature.Verify` serves the authentication token and reads a JWA name;
`VerifySignatureValue` serves the signing operation and reads the three
fields web-eid.js reports. They were written apart, with a table of hashes, a
padding test and a splitting of `r ‖ s` each.

Given the description of an algorithm and the digest its hash makes of the
data, the second verifier accepts what the first one does, on every key and
every byte string. Both dispatch on the key first, so they agree also where
the algorithm does not fit the key: an RSA key takes both the ES names and the
padding `NONE` for PKCS#1 v1.5, and an ECDSA key reads neither name.
-/

namespace WebEid.Signing

open Lib Exceptions Signature

/-- How web-eid.js describes each algorithm of the token format. -/
def webEidJs : List (String × SignatureAlgorithm) :=
  [("RS256", ⟨"RSA", "SHA-256", "PKCS1.5"⟩), ("RS384", ⟨"RSA", "SHA-384", "PKCS1.5"⟩),
   ("RS512", ⟨"RSA", "SHA-512", "PKCS1.5"⟩), ("PS256", ⟨"RSA", "SHA-256", "PSS"⟩),
   ("PS384", ⟨"RSA", "SHA-384", "PSS"⟩), ("PS512", ⟨"RSA", "SHA-512", "PSS"⟩),
   ("ES256", ⟨"ECC", "SHA-256", "NONE"⟩), ("ES384", ⟨"ECC", "SHA-384", "NONE"⟩),
   ("ES512", ⟨"ECC", "SHA-512", "NONE"⟩)]

/-- `crypto/rsa` accepts no empty signature. -/
def RefusesEmptyRsa (P : Platform) : Prop :=
  ∀ pub h digest, P.rsaVerifyPKCS1v15 pub h digest [] ≠ .ok () ∧
    P.rsaVerifyPSS pub h digest [] ≠ .ok ()

/-! ## The description of an algorithm -/

/-- The description names the hash of the algorithm, and PSS exactly when the
algorithm's name starts with `PS`. -/
theorem webEidJs_of_hashFor {algorithm : String} {h : Hash}
    (hsupported : hashFor algorithm = some h) :
    ∃ a, webEidJs.lookup algorithm = some a ∧ a.hashFunction ∈ supportedHashFunctions ∧
      hashNameToCryptoHash.lookup a.hashFunction = some h ∧
      Go.equalFold a.paddingScheme "PSS" = Go.hasPrefix algorithm "PS" := by
  have hpss : Go.equalFold "PSS" "PSS" = true := by decide +kernel
  have hpkcs : Go.equalFold "PKCS1.5" "PSS" = false := by decide +kernel
  have hnone : Go.equalFold "NONE" "PSS" = false := by decide +kernel
  have hmem : (algorithm, h) ∈ jwaToHash := mem_of_lookup hsupported
  simp only [jwaToHash, List.mem_cons, Prod.mk.injEq, List.not_mem_nil, or_false] at hmem
  rcases hmem with ⟨rfl, rfl⟩ | ⟨rfl, rfl⟩ | ⟨rfl, rfl⟩ | ⟨rfl, rfl⟩ | ⟨rfl, rfl⟩ |
    ⟨rfl, rfl⟩ | ⟨rfl, rfl⟩ | ⟨rfl, rfl⟩ | ⟨rfl, rfl⟩
  case inl | inr.inl | inr.inr.inl => exact ⟨_, rfl, by decide, rfl, hpkcs⟩
  case inr.inr.inr.inl | inr.inr.inr.inr.inl | inr.inr.inr.inr.inr.inl =>
    exact ⟨_, rfl, by decide, rfl, hpss⟩
  all_goals exact ⟨_, rfl, by decide, rfl, hnone⟩

/-! ## Key by key -/

section

variable {P : Platform} {cert : Certificate} {algorithm : String} {a : SignatureAlgorithm}
  {h : Hash} {data sig : Bytes}

theorem hashSum_ne_nil (P : Platform) (h : Hash) (data : Bytes) : P.hashSum h data ≠ [] := by
  intro hnil
  have hlength := P.hashSum_length h data
  rw [hnil] at hlength
  cases h <;> cases hlength

/-- Both verifiers split the signature in the same place. -/
theorem agree_ecdsa {pub : EcdsaPublicKey} (hkey : cert.publicKey = .ecdsa pub)
    (hsupported : hashFor algorithm = some h) :
    verify P cert algorithm data sig = .ok () ↔
      verifySignatureValue P cert a (P.hashSum h data) sig = .ok () := by
  rw [verify_ok_iff, verifySignatureValue_ecdsa_iff hkey, P1363Verifies, hkey]
  constructor
  · rintro ⟨h', prim, hlookup, happlied, haccepts⟩
    cases happlied
    obtain rfl : h' = h := Option.some.inj (hlookup.symm.trans hsupported)
    obtain ⟨r, s, hsplit, hverify⟩ := haccepts
    rw [splitP1363] at hsplit
    split at hsplit
    · cases hsplit
    · next hlen =>
        cases hsplit
        exact ⟨hashSum_ne_nil P h' data, not_not.mp hlen, hverify⟩
  · rintro ⟨-, hlen, hverify⟩
    refine ⟨h, .ecdsa, hsupported, rfl, _, _, ?_, hverify⟩
    rw [splitP1363, if_neg (not_not.mpr hlen)]

/-- The algorithm's family picks the primitive. -/
theorem verify_rsa_iff {pub : RsaPublicKey} (hkey : cert.publicKey = .rsa pub)
    (hsupported : hashFor algorithm = some h) :
    verify P cert algorithm data sig = .ok () ↔
      (if Go.hasPrefix algorithm "PS" then P.rsaVerifyPSS pub h (P.hashSum h data) sig
        else P.rsaVerifyPKCS1v15 pub h (P.hashSum h data) sig) = .ok () := by
  rw [verify_ok_iff, hkey]
  constructor
  · rintro ⟨h', prim, hlookup, happlied, haccepts⟩
    obtain rfl : h' = h := Option.some.inj (hlookup.symm.trans hsupported)
    rw [applied] at happlied
    split at happlied
    · next hps =>
        cases happlied
        rw [if_pos hps]
        exact haccepts
    · next hps =>
        cases happlied
        rw [if_neg hps]
        exact haccepts
  · intro haccepts
    split at haccepts
    · next hps => exact ⟨h, .pss, hsupported, by rw [applied, if_pos hps], haccepts⟩
    · next hps => exact ⟨h, .pkcs1v15, hsupported, by rw [applied, if_neg hps], haccepts⟩

/-- Both verifiers hand the same hash and digest to the same primitive. -/
theorem agree_rsa (hempty : RefusesEmptyRsa P) {pub : RsaPublicKey}
    (hkey : cert.publicKey = .rsa pub) (hsupported : hashFor algorithm = some h)
    (hname : hashNameToCryptoHash.lookup (Go.toUpper a.hashFunction) = some h)
    (hpadding : Go.equalFold a.paddingScheme "PSS" = Go.hasPrefix algorithm "PS") :
    verify P cert algorithm data sig = .ok () ↔
      verifySignatureValue P cert a (P.hashSum h data) sig = .ok () := by
  rw [verify_rsa_iff hkey hsupported, verifySignatureValue_rsa_iff hkey, RsaVerifies, hpadding]
  constructor
  · intro haccepts
    refine ⟨hashSum_ne_nil P h data, ?_, h, hname, (P.hashSum_length h data).symm, haccepts⟩
    rintro rfl
    split at haccepts
    · exact (hempty pub h _).2 haccepts
    · exact (hempty pub h _).1 haccepts
  · rintro ⟨-, -, h', hname', -, haccepts⟩
    obtain rfl : h' = h := Option.some.inj (hname'.symm.trans hname)
    exact haccepts

/-- Neither verifier knows any other kind of key. -/
theorem agree_other {raw : Bytes} (hkey : cert.publicKey = .other raw) :
    verify P cert algorithm data sig = .ok () ↔
      verifySignatureValue P cert a (P.hashSum h data) sig = .ok () := by
  refine iff_of_false ?_ ?_
  · rw [verify_ok_iff, hkey]
    rintro ⟨h', prim, -, happlied, -⟩
    cases happlied
  · rw [verifySignatureValue, hkey]
    split <;> intro hok <;> cases hok

end

/-- For each of the nine algorithms and its description, every certificate,
all data and every signature: one verifier accepts exactly when the other
does. -/
theorem verifiers_agree {P : Platform} (hempty : RefusesEmptyRsa P) {algorithm : String}
    {h : Hash} (hsupported : hashFor algorithm = some h) :
    ∃ a, webEidJs.lookup algorithm = some a ∧ ∀ cert data sig,
      verify P cert algorithm data sig = .ok () ↔
        verifySignatureValue P cert a (P.hashSum h data) sig = .ok () := by
  obtain ⟨a, ha, hmem, hhash, hpadding⟩ := webEidJs_of_hashFor hsupported
  refine ⟨a, ha, ?_⟩
  intro cert data sig
  rw [← toUpper_hashName hmem] at hhash
  cases hkey : cert.publicKey with
  | rsa pub => exact agree_rsa hempty hkey hsupported hhash hpadding
  | ecdsa pub => exact agree_ecdsa hkey hsupported
  | other raw => exact agree_other hkey

/-- An RSA key that accepts one signature, asked under a name of the ES
family. -/
theorem verifiers_agree_es256 :
    verifySignatureValue rsaPlatform rsaCertificate ⟨"ECC", "SHA-256", "NONE"⟩
      (rsaPlatform.hashSum .sha256 []) [7] = .ok () := by
  have hempty : RefusesEmptyRsa rsaPlatform := by
    intro pub h digest
    refine ⟨?_, ?_⟩ <;> intro hok <;> cases hok
  obtain ⟨a, ha, hagree⟩ :=
    verifiers_agree hempty (show hashFor "ES256" = some .sha256 from rfl)
  cases ha
  exact (hagree rsaCertificate [] [7]).mp rfl

end WebEid.Signing
