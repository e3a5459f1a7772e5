import Mathlib.Data.List.AList
import WebEid.Ref.Assertion

/-!
# Identity assertions (`assertion/assertion.go`), the verifying side

The consumer of an assertion holds a set of public keys, most often read from
the issuer's published JWKS document, and a verifier over it. `verify` reads
the token strictly from the left: the header chooses the key, the key judges
the signature over the first two segments as they stand in the token, and
only then is the payload decoded and its claims compared.

A Go map is ranged over in no fixed order, so the document a key set
publishes is a function of the order the range met its entries in.
-/

namespace WebEid.Assertion

open Lib Exceptions

/-! ## The sentinel errors -/

def errInvalidToken : GoError := .text "assertion: malformed token"

def errAlgorithm : GoError := .text "assertion: unexpected algorithm"

def errUnknownKey : GoError := .text "assertion: unknown signing key id"

def errSignature : GoError := .text "assertion: signature verification failed"

def errIssuer : GoError := .text "assertion: unexpected issuer"

def errAudience : GoError := .text "assertion: unexpected audience"

def errExpired : GoError := .text "assertion: assertion has expired"

def errNotYetValid : GoError := .text "assertion: assertion is not yet valid"

/-- `base64.RawURLEncoding.DecodeString`, every failure a malformed token. -/
def decodeSegment (s : String) : Except GoError Bytes :=
  match Base64.rawURLEncoding.decodeString s with
  | none => .error errInvalidToken
  | some b => .ok b

theorem decodeSegment_b64 (b : Bytes) : decodeSegment (b64 b) = .ok b := by
  rw [decodeSegment, b64,
    Base64.decodeString_encodeToString Base64.sound_rawURLEncoding b]

/-! ## Key sets -/

structure KeySet where
  keys : AList fun _ : String => EcdsaPublicKey
  deriving DecidableEq

namespace KeySet

def empty : KeySet := ⟨∅⟩

/-- `ks.Add(kid, pub)`; the key is `none` for a nil pointer. -/
def add (ks : KeySet) (kid : String) (pub : Option EcdsaPublicKey) : KeySet :=
  match pub with
  | none => ks
  | some pub => if kid = "" then ks else ⟨ks.keys.insert kid pub⟩

def get (ks : KeySet) (kid : String) : Option EcdsaPublicKey := ks.keys.lookup kid

theorem get_add_some {ks : KeySet} {kid : String} (hkid : kid ≠ "") (pub : EcdsaPublicKey)
    (k : String) : (ks.add kid (some pub)).get k = if k = kid then some pub else ks.get k := by
  rw [add, if_neg hkid, get, get]
  by_cases hk : k = kid
  · subst hk
    rw [if_pos rfl, AList.lookup_insert]
  · rw [if_neg hk, AList.lookup_insert_ne hk]

end KeySet

/-- An entry of the map, as a range over it meets it. -/
abbrev KeyEntry := Sigma fun _ : String => EcdsaPublicKey

def jwkFromPublic (P : Platform) (kid : String) (pub : EcdsaPublicKey) :
    Except GoError JWK := do
  let raw ← P.ecdsaBytes pub
  let byteLen := (pub.curve.bitSize + 7) / 8
  let x := (raw.drop 1).take byteLen
  let y := raw.drop (1 + byteLen)
  pure ⟨"EC", "P-256", b64 x, b64 y, kid, "sig", "ES256"⟩

/-- `ks.JWKS()` when the range meets the entries in this order. -/
def jwks (P : Platform) (order : List KeyEntry) : Except GoError JWKS := do
  let keys ← order.mapM fun e => jwkFromPublic P e.1 e.2
  pure ⟨keys⟩

/-- `ks.MarshalJWKS()` when the range meets the entries in this order. -/
def marshalJWKS (P : Platform) (order : List KeyEntry) : Except GoError Bytes := do
  let doc ← jwks P order
  P.marshalJWKS doc

def p256PublicKey (P : Platform) (xb yb : Bytes) : Except GoError EcdsaPublicKey :=
  if p256ByteLen < xb.length || p256ByteLen < yb.length then .error errInvalidToken
  else
    let buf := (List.replicate (1 + 2 * p256ByteLen) (0 : UInt8)).set 0 4
    let buf := Go.copyAt buf (1 + p256ByteLen - xb.length) xb
    let buf := Go.copyAt buf (1 + 2 * p256ByteLen - yb.length) yb
    P.parseUncompressedPublicKey .p256 buf

/-- One round of the loop in `KeySetFromJWKS`. -/
def addJWK (P : Platform) (ks : KeySet) (k : JWK) : Except GoError KeySet :=
  if k.kty ≠ "EC" || k.crv ≠ "P-256" then .ok ks
  else do
    let xb ← decodeSegment k.x
    let yb ← decodeSegment k.y
    let pub ← (p256PublicKey P xb yb).mapError fun _ => errInvalidToken
    pure (ks.add k.kid (some pub))

def keySetFromJWKS (P : Platform) (data : Bytes) : Except GoError KeySet := do
  let doc ← P.unmarshalJWKS data
  doc.keys.foldlM (addJWK P) KeySet.empty

def Issuer.keySet (i : Issuer) : KeySet :=
  KeySet.empty.add i.key.kid (some i.key.key.pub)

/-! ## The verifier -/

structure Verifier where
  keys : KeySet
  iss : String
  aud : String
  leeway : Duration

inductive VerifierOption where
  | withLeeway (d : Duration)
  deriving DecidableEq, Repr

def VerifierOption.apply (v : Verifier) : VerifierOption → Verifier
  | withLeeway d => if 0 ≤ d then { v with leeway := d } else v

/-- Thirty seconds. -/
def defaultLeeway : Duration := 30000000000

def newVerifier (keys : Option KeySet) (issuerURL audience : String)
    (opts : List VerifierOption) : Except GoError Verifier :=
  match keys with
  | none => .error (.text "assertion: a key set is required")
  | some keys =>
      if issuerURL = "" || audience = "" then
        .error (.text "assertion: issuer and audience are required")
      else .ok (opts.foldl VerifierOption.apply ⟨keys, issuerURL, audience, defaultLeeway⟩)

def decodeHeader (P : Platform) (segment : String) : Except GoError JwsHeader := do
  let hdrBytes ← decodeSegment segment
  (P.unmarshalHeader hdrBytes).mapError fun _ => errInvalidToken

def decodeClaims (P : Platform) (segment : String) : Except GoError Claims := do
  let payload ← decodeSegment segment
  (P.unmarshalClaims payload).mapError fun _ => errInvalidToken

namespace Verifier

def keyOf (v : Verifier) (hdr : JwsHeader) : Except GoError EcdsaPublicKey :=
  if hdr.alg ≠ "ES256" then .error errAlgorithm
  else
    match v.keys.get hdr.kid with
    | none => .error errUnknownKey
    | some pub => .ok pub

/-- The third segment as a signature over the first two. -/
def checkSignature (P : Platform) (pub : EcdsaPublicKey) (signed segment : String) :
    Except GoError Unit :=
  match Base64.rawURLEncoding.decodeString segment with
  | none => .error errInvalidToken
  | some sig =>
      if sig.length ≠ 2 * p256ByteLen then .error errInvalidToken
      else
        let digest := P.hashSum .sha256 (Go.bytes signed)
        let r := Go.setBytes (sig.take p256ByteLen)
        let s := Go.setBytes (sig.drop p256ByteLen)
        if P.ecdsaVerify pub digest r s then .ok () else .error errSignature

/-- Issuer, audience, expiry and issue time, in that order. A time of zero is
an absent claim and is not tested. -/
def checkClaims (v : Verifier) (now : Time) (claims : Claims) : Except GoError Claims :=
  if claims.issuer ≠ v.iss then .error errIssuer
  else if claims.audience ≠ v.aud then .error errAudience
  else if claims.expiry ≠ 0 && now.after ((Time.ofUnix claims.expiry).add v.leeway) then
    .error errExpired
  else if claims.issuedAt ≠ 0 && (now.add v.leeway).before (Time.ofUnix claims.issuedAt) then
    .error errNotYetValid
  else .ok claims

def verify (P : Platform) (v : Verifier) (now : Time) (token : String) :
    Except GoError Claims :=
  match Go.split token '.' with
  | [header, payload, signature] => do
      let hdr ← decodeHeader P header
      let pub ← v.keyOf hdr
      checkSignature P pub (header ++ "." ++ payload) signature
      let claims ← decodeClaims P payload
      v.checkClaims now claims
  | _ => .error errInvalidToken

theorem keyOf_ok_iff {v : Verifier} {hdr : JwsHeader} {pub : EcdsaPublicKey} :
    v.keyOf hdr = .ok pub ↔ hdr.alg = "ES256" ∧ v.keys.get hdr.kid = some pub := by
  rw [keyOf]
  split
  next halg => simp [halg]
  next halg =>
    rw [Decidable.not_not] at halg
    cases hkey : v.keys.get hdr.kid with
    | none => simp
    | some pub' => simp [halg]

/-- What a signature that passed says: the key answered for the digest of the
signed text. -/
theorem checkSignature_ok {P : Platform} {pub : EcdsaPublicKey} {signed segment : String}
    (h : checkSignature P pub signed segment = .ok ()) :
    ∃ r s, P.ecdsaVerify pub (P.hashSum .sha256 (Go.bytes signed)) r s = true := by
  rw [checkSignature] at h
  split at h
  · cases h
  · split at h
    · cases h
    · simp only [] at h
      split at h
      next hverify => exact ⟨_, _, hverify⟩
      next => cases h

/-- The four tests in plain numbers. -/
theorem checkClaims_ok_iff {v : Verifier} {now : Time} {claims c : Claims} :
    v.checkClaims now claims = .ok c ↔ c = claims ∧ c.issuer = v.iss ∧ c.audience = v.aud ∧
      (c.expiry ≠ 0 → now.ns ≤ (Time.ofUnix c.expiry).ns + v.leeway.toInt) ∧
      (c.issuedAt ≠ 0 → (Time.ofUnix c.issuedAt).ns ≤ now.ns + v.leeway.toInt) := by
  simp only [checkClaims, Bool.and_eq_true, decide_eq_true_eq, Time.after_iff, Time.before_iff,
    Time.add_ns]
  split
  next hiss =>
    refine iff_of_false (by simp) ?_
    rintro ⟨rfl, h, -⟩
    exact hiss h
  next hiss =>
    split
    next haud =>
      refine iff_of_false (by simp) ?_
      rintro ⟨rfl, -, h, -⟩
      exact haud h
    next haud =>
      split
      next hexp =>
        refine iff_of_false (by simp) ?_
        rintro ⟨rfl, -, -, h, -⟩
        exact absurd (h hexp.1) (Int.not_le.mpr hexp.2)
      next hexp =>
        split
        next hiat =>
          refine iff_of_false (by simp) ?_
          rintro ⟨rfl, -, -, -, h⟩
          exact absurd (h hiat.1) (Int.not_le.mpr hiat.2)
        next hiat =>
          rw [Except.ok.injEq, eq_comm]
          refine (and_iff_left_of_imp ?_).symm
          rintro rfl
          refine ⟨Decidable.not_not.mp hiss, Decidable.not_not.mp haud, ?_, ?_⟩
          · intro hne
            exact Int.not_lt.mp (fun hlt => hexp ⟨hne, hlt⟩)
          · intro hne
            exact Int.not_lt.mp (fun hlt => hiat ⟨hne, hlt⟩)

/-- A token that was accepted has three segments, and each passed its step. -/
theorem verify_ok {P : Platform} {v : Verifier} {now : Time} {token : String} {c : Claims}
    (h : v.verify P now token = .ok c) :
    ∃ header payload signature hdr pub,
      Go.split token '.' = [header, payload, signature] ∧
      decodeHeader P header = .ok hdr ∧ v.keyOf hdr = .ok pub ∧
      checkSignature P pub (header ++ "." ++ payload) signature = .ok () ∧
      decodeClaims P payload = .ok c ∧ v.checkClaims now c = .ok c := by
  rw [verify] at h
  split at h
  next header payload signature hsplit =>
    obtain ⟨hdr, hhdr, h⟩ := bind_eq_ok h
    obtain ⟨pub, hpub, h⟩ := bind_eq_ok h
    obtain ⟨⟨⟩, hsig, h⟩ := bind_eq_ok h
    obtain ⟨claims, hclaims, h⟩ := bind_eq_ok h
    obtain ⟨rfl, -⟩ := checkClaims_ok_iff.mp h
    exact ⟨header, payload, signature, hdr, pub, hsplit, hhdr, hpub, hsig, hclaims, h⟩
  next => cases h

end Verifier

end WebEid.Assertion
