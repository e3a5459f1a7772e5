import WebEid.Ref.Signing

/-!
# What a verified signature is bound to

Both verifiers of the library take a description of the algorithm from the
client, and both look at the certificate's key before they look at the
description. What the description says and the branch does not read is then
not enforced.

In `signature.Verify` the branch of an RSA key reads the padding off the
prefix `PS` and the branch of an ECDSA key reads nothing, so an RSA key
verifies `ES256` as PKCS#1 v1.5 and an ECDSA key verifies `RS256` as ECDSA.
In `VerifySignatureValue` the branch of an ECDSA key reads neither the hash
name nor the digest's length. For every key somebody
can sign with, `algorithm_bound_iff` says under which names such confusions
are impossible, and `hash_bound_iff` that they are impossible under any
description or under none, by the kind of the key.
-/

namespace WebEid.Signature

open Lib Exceptions

/-! ## The algorithm and the key -/

inductive Primitive where
  | pkcs1v15
  | pss
  | ecdsa
  deriving DecidableEq, Repr

/-- The primitive each algorithm of the token format names. -/
def jwaToPrimitive : List (String × Primitive) :=
  [("RS256", .pkcs1v15), ("RS384", .pkcs1v15), ("RS512", .pkcs1v15),
   ("PS256", .pss), ("PS384", .pss), ("PS512", .pss),
   ("ES256", .ecdsa), ("ES384", .ecdsa), ("ES512", .ecdsa)]

def named (algorithm : String) : Option Primitive := jwaToPrimitive.lookup algorithm

namespace Primitive

def Matches : Primitive → PublicKey → Prop
  | pkcs1v15, .rsa _ => True
  | pss, .rsa _ => True
  | ecdsa, .ecdsa _ => True
  | _, _ => False

def Accepts (P : Platform) (h : Hash) (digest signature : Bytes) : Primitive → PublicKey → Prop
  | pkcs1v15, .rsa pub => P.rsaVerifyPKCS1v15 pub h digest signature = .ok ()
  | pss, .rsa pub => P.rsaVerifyPSS pub h digest signature = .ok ()
  | ecdsa, .ecdsa pub => ∃ r s, splitP1363 signature pub = .ok (r, s) ∧
      P.ecdsaVerify pub digest r s = true
  | _, _ => False

end Primitive

/-- The primitive `Verify` applies. -/
def applied (algorithm : String) : PublicKey → Option Primitive
  | .rsa _ => if Go.hasPrefix algorithm "PS" then some .pss else some .pkcs1v15
  | .ecdsa _ => some .ecdsa
  | .other _ => none

/-- With the hash of its name found, `Verify` is the verdict of the applied
primitive. -/
theorem verify_ok_iff_of_lookup {P : Platform} {cert : Certificate} {algorithm : String}
    {signedData signature : Bytes} {h : Hash} (hlookup : jwaToHash.lookup algorithm = some h) :
    verify P cert algorithm signedData signature = .ok () ↔
      ∃ prim, applied algorithm cert.publicKey = some prim ∧
        prim.Accepts P h (P.hashSum h signedData) signature cert.publicKey := by
  rw [verify, hlookup]
  cases cert.publicKey with
  | rsa pub =>
      by_cases hps : Go.hasPrefix algorithm "PS" = true
      · simp only [applied, if_pos hps, Option.some.injEq, exists_eq_left', Primitive.Accepts]
        cases P.rsaVerifyPSS pub h (P.hashSum h signedData) signature with
        | error err => simp only [reduceCtorEq]
        | ok u => simp only
      · simp only [applied, if_neg hps, Option.some.injEq, exists_eq_left', Primitive.Accepts]
        cases P.rsaVerifyPKCS1v15 pub h (P.hashSum h signedData) signature with
        | error err => simp only [reduceCtorEq]
        | ok u => simp only
  | ecdsa pub =>
      simp only [applied, Option.some.injEq, exists_eq_left', Primitive.Accepts]
      cases splitP1363 signature pub with
      | error err => simp only [reduceCtorEq, false_and, exists_false]
      | ok rs =>
          obtain ⟨r, s⟩ := rs
          simp only [Except.ok.injEq, Prod.mk.injEq, and_assoc, exists_eq_left', exists_and_left]
          by_cases hverify : P.ecdsaVerify pub (P.hashSum h signedData) r s = true
          · simp only [hverify, if_true]
          · simp only [hverify, if_false, reduceCtorEq, Bool.false_eq_true]
  | other raw => simp only [applied, reduceCtorEq, false_and, exists_false]

/-- `Verify` is the verdict of the applied primitive on the hashed data. -/
theorem verify_ok_iff {P : Platform} {cert : Certificate} {algorithm : String}
    {signedData signature : Bytes} :
    verify P cert algorithm signedData signature = .ok () ↔
      ∃ h prim, jwaToHash.lookup algorithm = some h ∧
        applied algorithm cert.publicKey = some prim ∧
        prim.Accepts P h (P.hashSum h signedData) signature cert.publicKey := by
  cases hlookup : jwaToHash.lookup algorithm with
  | none => simp only [verify, hlookup, reduceCtorEq, false_and, exists_false]
  | some h =>
      simp only [verify_ok_iff_of_lookup hlookup, Option.some.injEq, exists_and_left,
        exists_eq_left']

theorem mem_of_lookup {α β : Type} [BEq α] [LawfulBEq α] {table : List (α × β)} {a : α} {b : β}
    (h : table.lookup a = some b) : (a, b) ∈ table := by
  obtain ⟨before, after, rfl, -⟩ := List.lookup_eq_some_iff.mp h
  exact List.mem_append_right _ List.mem_cons_self

/-- Every algorithm that has a hash names a primitive, and the prefix tells
PSS from the rest. -/
theorem named_of_lookup {algorithm : String} {h : Hash}
    (hlookup : jwaToHash.lookup algorithm = some h) :
    ∃ prim, named algorithm = some prim ∧
      (Go.hasPrefix algorithm "PS" = true ↔ prim = .pss) := by
  have hmem := mem_of_lookup hlookup
  simp only [jwaToHash, List.mem_cons, Prod.mk.injEq, List.not_mem_nil, or_false] at hmem
  rcases hmem with ⟨rfl, -⟩ | ⟨rfl, -⟩ | ⟨rfl, -⟩ | ⟨rfl, -⟩ | ⟨rfl, -⟩ | ⟨rfl, -⟩ |
    ⟨rfl, -⟩ | ⟨rfl, -⟩ | ⟨rfl, -⟩ <;>
    exact ⟨_, rfl, by rw [Go.hasPrefix, String.toList_ofList, String.toList_ofList]; decide⟩

/-- And no other text names one. -/
theorem lookup_of_named {algorithm : String} {prim : Primitive}
    (hnamed : named algorithm = some prim) :
    ∃ h, jwaToHash.lookup algorithm = some h ∧
      (Go.hasPrefix algorithm "PS" = true ↔ prim = .pss) := by
  have hmem := mem_of_lookup hnamed
  simp only [jwaToPrimitive, List.mem_cons, Prod.mk.injEq, List.not_mem_nil, or_false] at hmem
  rcases hmem with ⟨rfl, rfl⟩ | ⟨rfl, rfl⟩ | ⟨rfl, rfl⟩ | ⟨rfl, rfl⟩ | ⟨rfl, rfl⟩ | ⟨rfl, rfl⟩ |
    ⟨rfl, rfl⟩ | ⟨rfl, rfl⟩ | ⟨rfl, rfl⟩ <;>
    exact ⟨_, rfl, by rw [Go.hasPrefix, String.toList_ofList, String.toList_ofList]; decide⟩

/-- The algorithm is bound to the key: where `Verify` succeeds, the key is of
the family the algorithm names and the primitive applied is the named one. -/
def AlgorithmBound (P : Platform) (cert : Certificate) (algorithm : String)
    (signedData signature : Bytes) : Prop :=
  verify P cert algorithm signedData signature = .ok () →
    ∃ prim, named algorithm = some prim ∧ prim.Matches cert.publicKey ∧
      applied algorithm cert.publicKey = some prim

/-- Someone holds the private key and can sign with it: whatever digest an RSA
key is asked about there is a PKCS#1 v1.5 signature that `crypto/rsa` accepts,
and whatever digest an ECDSA key is asked about there is a pair that
`crypto/ecdsa` accepts. -/
def Held (P : Platform) : PublicKey → Prop
  | .rsa pub => ∀ (h : Hash) (digest : Bytes), digest.length = h.size →
      ∃ sig, sig ≠ [] ∧ P.rsaVerifyPKCS1v15 pub h digest sig = .ok ()
  | .ecdsa pub => ∀ digest, ∃ r s, r < 256 ^ ((pub.curve.bitSize + 7) / 8) ∧
      s < 256 ^ ((pub.curve.bitSize + 7) / 8) ∧ P.ecdsaVerify pub digest r s = true
  | .other _ => True

theorem splitP1363_fillBytes {pub : EcdsaPublicKey} {r s : Nat}
    (hr : r < 256 ^ ((pub.curve.bitSize + 7) / 8)) (hs : s < 256 ^ ((pub.curve.bitSize + 7) / 8)) :
    splitP1363 (Go.fillBytes ((pub.curve.bitSize + 7) / 8) r ++
      Go.fillBytes ((pub.curve.bitSize + 7) / 8) s) pub = .ok (r, s) := by
  have hlength : (Go.fillBytes ((pub.curve.bitSize + 7) / 8) r ++
      Go.fillBytes ((pub.curve.bitSize + 7) / 8) s).length =
        2 * ((pub.curve.bitSize + 7) / 8) := by
    rw [List.length_append, Go.length_fillBytes, Go.length_fillBytes]
    omega
  rw [splitP1363, if_neg (not_not.mpr hlength), List.take_left' (Go.length_fillBytes _ _),
    List.drop_left' (Go.length_fillBytes _ _), Go.setBytes_fillBytes hr, Go.setBytes_fillBytes hs]

section

variable {P : Platform} {cert : Certificate} {algorithm : String} {prim : Primitive}

/-- On a key of its family, the algorithm gets the primitive it names. -/
theorem applied_of_matches (hnamed : named algorithm = some prim)
    (hmatch : prim.Matches cert.publicKey) : applied algorithm cert.publicKey = some prim := by
  obtain ⟨-, -, hps⟩ := lookup_of_named hnamed
  cases hkey : cert.publicKey with
  | rsa pub =>
      rw [hkey] at hmatch
      cases prim with
      | pkcs1v15 => rw [applied, if_neg (fun h => nomatch hps.mp h)]
      | pss => rw [applied, if_pos (hps.mpr rfl)]
      | ecdsa => exact hmatch.elim
  | ecdsa pub =>
      rw [hkey] at hmatch
      cases prim with
      | pkcs1v15 => exact hmatch.elim
      | pss => exact hmatch.elim
      | ecdsa => rfl
  | other raw =>
      rw [hkey] at hmatch
      cases prim <;> exact hmatch.elim

/-- The holder of a key that does not fit the name still has a signature
accepted under it. -/
theorem verify_mismatched (hheld : Held P cert.publicKey) (hnamed : named algorithm = some prim)
    (hkind : ∀ raw, cert.publicKey ≠ .other raw) (hmatch : ¬ prim.Matches cert.publicKey)
    (signedData : Bytes) : ∃ signature, verify P cert algorithm signedData signature = .ok () := by
  obtain ⟨h, hlookup, hps⟩ := lookup_of_named hnamed
  simp only [verify_ok_iff]
  cases hkey : cert.publicKey with
  | rsa pub =>
      rw [hkey] at hheld hmatch
      have hes : prim = .ecdsa := by
        cases prim with
        | pkcs1v15 => exact absurd trivial hmatch
        | pss => exact absurd trivial hmatch
        | ecdsa => rfl
      have hplain : ¬ Go.hasPrefix algorithm "PS" = true := by
        rw [hps, hes]
        exact nofun
      obtain ⟨sig, -, hverify⟩ := hheld h (P.hashSum h signedData) (P.hashSum_length h signedData)
      exact ⟨sig, h, .pkcs1v15, hlookup, by rw [applied, if_neg hplain], hverify⟩
  | ecdsa pub =>
      rw [hkey] at hheld
      obtain ⟨r, s, hr, hs, hverify⟩ := hheld (P.hashSum h signedData)
      exact ⟨_, h, .ecdsa, hlookup, rfl, r, s, splitP1363_fillBytes hr hs, hverify⟩
  | other raw => exact absurd hkey (hkind raw)

end

/-- An algorithm name is bound to a key that can sign, for all data and all
signatures, exactly when the name is not one of the nine, the key is of the
family it names, or the key is neither an RSA nor an ECDSA key. -/
theorem algorithm_bound_iff {P : Platform} {cert : Certificate} (hheld : Held P cert.publicKey)
    (algorithm : String) :
    (∀ signedData signature, AlgorithmBound P cert algorithm signedData signature) ↔
      ∀ prim, named algorithm = some prim →
        prim.Matches cert.publicKey ∨ ∃ raw, cert.publicKey = .other raw := by
  refine ⟨fun hbound prim hnamed => ?_, fun hfits signedData signature hverify => ?_⟩
  · by_contra hneither
    rw [not_or, not_exists] at hneither
    obtain ⟨signature, hverify⟩ := verify_mismatched hheld hnamed hneither.2 hneither.1 []
    obtain ⟨prim', hnamed', hmatch, -⟩ := hbound [] signature hverify
    rw [hnamed] at hnamed'
    cases hnamed'
    exact hneither.1 hmatch
  · obtain ⟨h, applied', hlookup, happlied, -⟩ := verify_ok_iff.mp hverify
    obtain ⟨prim, hnamed, -⟩ := named_of_lookup hlookup
    rcases hfits prim hnamed with hmatch | ⟨raw, hkey⟩
    · exact ⟨prim, hnamed, hmatch, applied_of_matches hnamed hmatch⟩
    · rw [hkey] at happlied
      cases happlied

/-- A platform with an RSA key that accepts one PKCS#1 v1.5 signature. -/
def rsaPlatform : Platform :=
  { Platform.refusing with
    rsaVerifyPKCS1v15 := fun _ _ _ signature =>
      if signature = [7] then .ok () else .error (.text "crypto/rsa: verification error") }

def rsaCertificate : Certificate := { (default : Certificate) with publicKey := .rsa ⟨35, 5⟩ }

theorem rsaCertificate_held : Held rsaPlatform rsaCertificate.publicKey :=
  fun _ _ _ => ⟨[7], by simp, rfl⟩

/-- An RSA key is bound under RS256 and not under ES256. -/
theorem algorithm_bound_rs256 :
    (∀ signedData signature,
        AlgorithmBound rsaPlatform rsaCertificate "RS256" signedData signature) ∧
      ¬ ∀ signedData signature,
        AlgorithmBound rsaPlatform rsaCertificate "ES256" signedData signature := by
  refine ⟨(algorithm_bound_iff rsaCertificate_held "RS256").mpr ?_, ?_⟩
  · intro prim hnamed
    cases hnamed
    exact .inl trivial
  · rw [algorithm_bound_iff rsaCertificate_held "ES256"]
    intro hfits
    rcases hfits .ecdsa rfl with hmatch | ⟨raw, hraw⟩
    · exact hmatch
    · cases hraw

/-- An RSA key passes for an ES256 token. -/
theorem algorithm_confused :
    verify rsaPlatform rsaCertificate "ES256" [] [7] = .ok () ∧
      ¬ AlgorithmBound rsaPlatform rsaCertificate "ES256" [] [7] := by
  have hverify : verify rsaPlatform rsaCertificate "ES256" [] [7] = .ok () := rfl
  refine ⟨hverify, ?_⟩
  intro hbound
  obtain ⟨prim, hnamed, hmatch, -⟩ := hbound hverify
  cases hnamed
  exact hmatch

end WebEid.Signature

namespace WebEid.Signing

open Lib Exceptions

/-! ## The declared hash and the digest -/

/-- The output length of each hash the client may report, in bytes. -/
def hashSizes : List (String × Nat) :=
  [("SHA-224", 28), ("SHA-256", 32), ("SHA-384", 48), ("SHA-512", 64),
   ("SHA3-224", 28), ("SHA3-256", 32), ("SHA3-384", 48), ("SHA3-512", 64)]

theorem toUpper_hashName {name : String} (hname : name ∈ supportedHashFunctions) :
    Go.toUpper name = name := by
  simp only [supportedHashFunctions, List.mem_cons, List.not_mem_nil, or_false] at hname
  rcases hname with rfl | rfl | rfl | rfl | rfl | rfl | rfl | rfl <;>
    rw [Go.toUpper, ← String.toList_inj, String.toList_map, String.toList_ofList] <;> rfl

/-- The declared name is one of the supported hashes in some letter case, and
the digest has its length. -/
def NamesHashOf (algo : SignatureAlgorithm) (digest : Bytes) : Prop :=
  Go.toUpper algo.hashFunction ∈ supportedHashFunctions ∧
    hashSizes.lookup (Go.toUpper algo.hashFunction) = some digest.length

def HashBound (P : Platform) (cert : Certificate) (algo : SignatureAlgorithm)
    (digest signatureValue : Bytes) : Prop :=
  verifySignatureValue P cert algo digest signatureValue = .ok () → NamesHashOf algo digest

/-- What an ECDSA key answers for: the digest as it is and the two halves of
the signature value. -/
def P1363Verifies (P : Platform) (pub : EcdsaPublicKey) (digest signatureValue : Bytes) : Prop :=
  digest ≠ [] ∧ signatureValue.length = 2 * ((pub.curve.bitSize + 7) / 8) ∧
    P.ecdsaVerify pub digest
      (Go.setBytes (signatureValue.take ((pub.curve.bitSize + 7) / 8)))
      (Go.setBytes (signatureValue.drop ((pub.curve.bitSize + 7) / 8))) = true

/-- What an RSA key answers for: the name maps to a hash of the digest's length
and the padding's primitive accepts. -/
def RsaVerifies (P : Platform) (pub : RsaPublicKey) (algo : SignatureAlgorithm)
    (digest signatureValue : Bytes) : Prop :=
  digest ≠ [] ∧ signatureValue ≠ [] ∧
    ∃ h, hashNameToCryptoHash.lookup (Go.toUpper algo.hashFunction) = some h ∧
      h.size = digest.length ∧
      (if Go.equalFold algo.paddingScheme "PSS" then P.rsaVerifyPSS pub h digest signatureValue
        else P.rsaVerifyPKCS1v15 pub h digest signatureValue) = .ok ()

theorem p1363Verifies_fillBytes {P : Platform} {pub : EcdsaPublicKey} {digest : Bytes} {r s : Nat}
    (hdigest : digest ≠ []) (hr : r < 256 ^ ((pub.curve.bitSize + 7) / 8))
    (hs : s < 256 ^ ((pub.curve.bitSize + 7) / 8)) (hverify : P.ecdsaVerify pub digest r s = true) :
    P1363Verifies P pub digest (Go.fillBytes ((pub.curve.bitSize + 7) / 8) r ++
      Go.fillBytes ((pub.curve.bitSize + 7) / 8) s) := by
  refine ⟨hdigest, ?_, ?_⟩
  · rw [List.length_append, Go.length_fillBytes, Go.length_fillBytes]
    omega
  · rw [List.take_left' (Go.length_fillBytes _ _), List.drop_left' (Go.length_fillBytes _ _),
      Go.setBytes_fillBytes hr, Go.setBytes_fillBytes hs]
    exact hverify

theorem verifySignatureValue_ecdsa_iff {P : Platform} {cert : Certificate}
    {algo : SignatureAlgorithm} {digest signatureValue : Bytes} {pub : EcdsaPublicKey}
    (hkey : cert.publicKey = .ecdsa pub) :
    verifySignatureValue P cert algo digest signatureValue = .ok () ↔
      P1363Verifies P pub digest signatureValue := by
  -- the halves of a signature value of the right length are not empty
  have hwidth : 0 < (pub.curve.bitSize + 7) / 8 := by cases pub.curve <;> decide
  rw [verifySignatureValue, hkey, P1363Verifies]
  cases digest with
  | nil => simp
  | cons d digest =>
      cases signatureValue with
      | nil =>
          simp only [List.isEmpty_cons, List.isEmpty_nil, Bool.or_true, if_true, List.length_nil]
          constructor
          · intro h
            cases h
          · rintro ⟨-, hlen, -⟩
            omega
      | cons v sig =>
          simp only [List.isEmpty_cons, Bool.or_false, Bool.false_eq_true, if_false]
          by_cases hlen : (v :: sig).length = 2 * ((pub.curve.bitSize + 7) / 8)
          · rw [if_neg (not_not.mpr hlen)]
            split
            next hverify => simp [hlen, hverify]
            next hverify => simp [hverify]
          · rw [if_pos hlen]
            constructor
            · intro h
              cases h
            · rintro ⟨-, hlen', -⟩
              exact absurd hlen' hlen

theorem verifySignatureValue_rsa_iff {P : Platform} {cert : Certificate}
    {algo : SignatureAlgorithm} {digest signatureValue : Bytes} {pub : RsaPublicKey}
    (hkey : cert.publicKey = .rsa pub) :
    verifySignatureValue P cert algo digest signatureValue = .ok () ↔
      RsaVerifies P pub algo digest signatureValue := by
  rw [verifySignatureValue, hkey, RsaVerifies]
  cases digest with
  | nil => simp
  | cons d digest =>
      cases signatureValue with
      | nil => simp
      | cons v sig =>
          simp only [List.isEmpty_cons, Bool.or_false, Bool.false_eq_true, if_false]
          cases hlookup : hashNameToCryptoHash.lookup (Go.toUpper algo.hashFunction) with
          | none => simp
          | some h =>
              by_cases hsize : h.size = (d :: digest).length
              · simp only [hsize, ne_eq, not_true_eq_false, if_false]
                split
                next hpss => simp [mapError_eq_ok_iff, hsize]
                next hpss => simp [mapError_eq_ok_iff, hsize]
              · simp only [ne_eq, hsize, not_false_eq_true, if_true]
                constructor
                · intro h
                  cases h
                · rintro ⟨-, -, h', hh', hsize', -⟩
                  cases hh'
                  exact absurd hsize' hsize

theorem hashSizes_of_lookup {name : String} {h : Hash}
    (hlookup : hashNameToCryptoHash.lookup name = some h) :
    name ∈ supportedHashFunctions ∧ hashSizes.lookup name = some h.size := by
  have hmem := Signature.mem_of_lookup hlookup
  simp only [hashNameToCryptoHash, List.mem_cons, Prod.mk.injEq, List.not_mem_nil,
    or_false] at hmem
  rcases hmem with ⟨rfl, rfl⟩ | ⟨rfl, rfl⟩ | ⟨rfl, rfl⟩ | ⟨rfl, rfl⟩ <;>
    exact ⟨by decide, rfl⟩

theorem verifySignatureValue_nonempty {P : Platform} {cert : Certificate}
    {algo : SignatureAlgorithm} {digest signatureValue : Bytes}
    (hverify : verifySignatureValue P cert algo digest signatureValue = .ok ()) :
    digest ≠ [] ∧ signatureValue ≠ [] := by
  rw [verifySignatureValue] at hverify
  split at hverify
  · cases hverify
  next hne => simpa using hne

theorem verifySignatureValue_kind {P : Platform} {cert : Certificate}
    {algo : SignatureAlgorithm} {digest signatureValue : Bytes}
    (hverify : verifySignatureValue P cert algo digest signatureValue = .ok ()) (raw : Bytes) :
    cert.publicKey ≠ .other raw := by
  intro hkey
  rw [verifySignatureValue, hkey] at hverify
  split at hverify <;> cases hverify

/-- An RSA key binds the signature value to the declared hash, and another kind
of key verifies nothing. -/
theorem hashBound_of_not_ecdsa {P : Platform} {cert : Certificate}
    (hkind : ∀ pub, cert.publicKey ≠ .ecdsa pub) (algo : SignatureAlgorithm)
    (digest signatureValue : Bytes) : HashBound P cert algo digest signatureValue := by
  intro hverify
  cases hkey : cert.publicKey with
  | ecdsa pub => exact absurd hkey (hkind pub)
  | rsa pub =>
      obtain ⟨-, -, h, hlookup, hsize, -⟩ := (verifySignatureValue_rsa_iff hkey).mp hverify
      obtain ⟨hmem, hlength⟩ := hashSizes_of_lookup hlookup
      exact ⟨hmem, by rw [hlength, hsize]⟩
  | other raw => exact absurd hkey (verifySignatureValue_kind hverify raw)

/-- The holder of an ECDSA key has a signature value verified for any digest
that is not empty, whatever the description says. -/
theorem verifySignatureValue_held {P : Platform} {cert : Certificate} {pub : EcdsaPublicKey}
    (hheld : Signature.Held P cert.publicKey) (hkey : cert.publicKey = .ecdsa pub)
    (algo : SignatureAlgorithm) {digest : Bytes} (hdigest : digest ≠ []) :
    ∃ signatureValue, verifySignatureValue P cert algo digest signatureValue = .ok () := by
  rw [hkey] at hheld
  obtain ⟨r, s, hr, hs, hverify⟩ := hheld digest
  simp only [verifySignatureValue_ecdsa_iff hkey]
  exact ⟨_, p1363Verifies_fillBytes hdigest hr hs hverify⟩

/-- The holder of an RSA or an ECDSA key has some signature value verified. -/
theorem verifySignatureValue_exists {P : Platform} {cert : Certificate}
    (hheld : Signature.Held P cert.publicKey) (hkind : ∀ raw, cert.publicKey ≠ .other raw) :
    ∃ algo digest signatureValue,
      verifySignatureValue P cert algo digest signatureValue = .ok () := by
  cases hkey : cert.publicKey with
  | ecdsa pub =>
      exact ⟨⟨"ECC", "SHA-256", "NONE"⟩, [0],
        verifySignatureValue_held hheld hkey _ (List.cons_ne_nil 0 [])⟩
  | rsa pub =>
      rw [hkey] at hheld
      obtain ⟨sig, hne, hverify⟩ := hheld .sha256 (List.replicate 32 0) rfl
      refine ⟨⟨"RSA", "SHA-256", "PKCS1.5"⟩, List.replicate 32 0, sig,
        (verifySignatureValue_rsa_iff hkey).mpr ⟨by decide, hne, .sha256, ?_, rfl, ?_⟩⟩
      · rw [toUpper_hashName (by decide)]
        rfl
      · rw [if_neg (by decide +kernel)]
        exact hverify
  | other raw => exact absurd hkey (hkind raw)

/-- No hash has an output of one byte. -/
theorem not_namesHashOf_singleton (algo : SignatureAlgorithm) (b : UInt8) :
    ¬ NamesHashOf algo [b] := by
  intro h
  have hmem := Signature.mem_of_lookup h.2
  simp [hashSizes] at hmem

/-- For a key that can sign and whatever the description: the digest and the
declared hash are bound, for all digests and signature values, exactly when the
key is not an ECDSA key. -/
theorem hash_bound_iff {P : Platform} {cert : Certificate}
    (hheld : Signature.Held P cert.publicKey) (algo : SignatureAlgorithm) :
    (∀ digest signatureValue, HashBound P cert algo digest signatureValue) ↔
      ∀ pub, cert.publicKey ≠ .ecdsa pub := by
  refine ⟨fun hbound pub hkey => ?_, fun hkind => hashBound_of_not_ecdsa hkind algo⟩
  obtain ⟨signatureValue, hverify⟩ :=
    verifySignatureValue_held hheld hkey algo (List.cons_ne_nil 0 [])
  exact not_namesHashOf_singleton algo 0 (hbound [0] signatureValue hverify)

/-- A platform with a P-256 key that has one signature value for each digest.
As in `crypto/ecdsa`, only the leftmost 32 bytes of a digest count. -/
def truncatingPlatform : Platform :=
  { Platform.refusing with
    ecdsaVerify := fun _ digest r s => decide (r = 1 ∧ s = Go.setBytes (digest.take 32)) }

def ecdsaCertificate : Certificate :=
  { (default : Certificate) with publicKey := .ecdsa ⟨.p256, 1, 2⟩ }

theorem ecdsaCertificate_held : Signature.Held truncatingPlatform ecdsaCertificate.publicKey := by
  intro digest
  refine ⟨1, Go.setBytes (digest.take 32), by decide, ?_, by simp [truncatingPlatform]⟩
  calc Go.setBytes (digest.take 32) < 256 ^ (digest.take 32).length := Go.setBytes_lt _
    _ ≤ 256 ^ 32 := Nat.pow_le_pow_right (by decide) (List.length_take_le 32 digest)

/-- Under one description an RSA key binds and a P-256 key does not. -/
theorem hash_bound_md5 :
    (∀ digest signatureValue, HashBound Signature.rsaPlatform Signature.rsaCertificate
        ⟨"ECC", "MD5", "NONE"⟩ digest signatureValue) ∧
      ¬ ∀ digest signatureValue, HashBound truncatingPlatform ecdsaCertificate
        ⟨"ECC", "MD5", "NONE"⟩ digest signatureValue := by
  refine ⟨(hash_bound_iff Signature.rsaCertificate_held _).mpr nofun, ?_⟩
  rw [hash_bound_iff ecdsaCertificate_held]
  intro hkind
  exact hkind _ rfl

/-- The signature value of a digest of 32 bytes is reported as verified for 33
of them, under the name of a hash nobody supports. -/
theorem hash_unbound :
    verifySignatureValue truncatingPlatform ecdsaCertificate ⟨"ECC", "SHA-256", "NONE"⟩
        (List.replicate 32 1) (Go.fillBytes 32 1 ++ List.replicate 32 1) = .ok () ∧
      verifySignatureValue truncatingPlatform ecdsaCertificate ⟨"ECC", "MD5", "NONE"⟩
        (List.replicate 33 1) (Go.fillBytes 32 1 ++ List.replicate 32 1) = .ok () ∧
      ¬ HashBound truncatingPlatform ecdsaCertificate ⟨"ECC", "MD5", "NONE"⟩
        (List.replicate 33 1) (Go.fillBytes 32 1 ++ List.replicate 32 1) := by
  have hverify : verifySignatureValue truncatingPlatform ecdsaCertificate ⟨"ECC", "MD5", "NONE"⟩
      (List.replicate 33 1) (Go.fillBytes 32 1 ++ List.replicate 32 1) = .ok () := by
    decide +kernel
  refine ⟨by decide +kernel, hverify, ?_⟩
  intro hbound
  obtain ⟨hmem, -⟩ := hbound hverify
  exact absurd hmem (by decide +kernel)

end WebEid.Signing
