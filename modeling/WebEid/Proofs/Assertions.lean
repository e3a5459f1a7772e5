import WebEid.Ref.Verifier

/-!
# What an accepted assertion proves

The consumer of an assertion never sees a certificate; all it knows of a login
is a token that `Verify` accepted. Two results say what that is worth.

`assertion_authentic` is about every token there is, whoever built it: the
claims that come back are the claims of some `Issue` call made with the key
the header names. The argument does not need the encoding to be canonical.
The signature covers the first two segments as text, no segment of a split
holds a dot and neither does anything `b64` writes, so equal signed texts are
equal segment by segment, and what is decoded from them afterwards is what
`Issue` encoded.

`issue_verify_window` is about the tokens `Issue` returns: they are accepted
from the second they were issued in to the second they expire in, each end
widened by the leeway, and outside the error says on which side.
-/

namespace WebEid.Assertion

open Lib Exceptions

/-! ## Segments -/

theorem dot_notMem_b64 (b : Bytes) : '.' ∉ (b64 b).toList := by
  intro hdot
  rw [b64, Base64.Encoding.encodeToString, String.toList_ofList] at hdot
  have hall : ∀ c ∈ Base64.encodeBytes Base64.rawURLEncoding b, c ≠ '.' :=
    Base64.forall_mem_encodeBytes (by decide) (by decide) b
  exact hall '.' hdot rfl

theorem split_signed {a b : String} (ha : '.' ∉ a.toList) (hb : '.' ∉ b.toList) :
    Go.split (a ++ "." ++ b) '.' = [a, b] :=
  Go.split_of_intercalate (by simp [List.intercalate]) (by simp [ha, hb]) (by simp)

theorem split_compact {a b c : String} (ha : '.' ∉ a.toList) (hb : '.' ∉ b.toList)
    (hc : '.' ∉ c.toList) : Go.split (a ++ "." ++ b ++ "." ++ c) '.' = [a, b, c] :=
  Go.split_of_intercalate (by simp [List.intercalate]) (by simp [ha, hb, hc]) (by simp)

theorem signed_inj {a b a' b' : String} (ha : '.' ∉ a.toList) (hb : '.' ∉ b.toList)
    (ha' : '.' ∉ a'.toList) (hb' : '.' ∉ b'.toList)
    (h : a ++ "." ++ b = a' ++ "." ++ b') : a = a' ∧ b = b' := by
  have hparts : [a, b] = [a', b'] := by
    rw [← split_signed ha hb, h, split_signed ha' hb']
  simpa using hparts

/-! ## Calls of `Issue` -/

structure IssueCall where
  issuer : Issuer
  subject : Subject
  env : IssueEnv

namespace IssueCall

def header (call : IssueCall) : JwsHeader := ⟨"ES256", "JWT", call.issuer.key.kid⟩

def pub (call : IssueCall) : EcdsaPublicKey := call.issuer.key.key.pub

/-- The call returned a token, having built these claims and signed this text. -/
structure Produced (P : Platform) (call : IssueCall) (claims : Claims) (signed : String) :
    Prop where
  issued : ∃ token, call.issuer.issue P call.env call.subject = .ok token
  built : ∃ jti, call.env.genJTI = .ok jti ∧
    claims = call.issuer.claims call.subject jti call.env.now
  encoded : ∃ hdr payload, P.marshalHeader call.header = .ok hdr ∧
    P.marshalClaims claims = .ok payload ∧ signed = b64 hdr ++ "." ++ b64 payload

end IssueCall

/-- The keys of the set are used by these calls only: a digest that one of them
answers for is the digest of a text such a call signed with it. -/
def SignedOnlyBy (P : Platform) (calls : List IssueCall) (keys : KeySet) : Prop :=
  ∀ kid pub digest r s, keys.get kid = some pub → P.ecdsaVerify pub digest r s = true →
    ∃ call ∈ calls, ∃ claims signed, call.Produced P claims signed ∧ call.pub = pub ∧
      digest = P.hashSum .sha256 (Go.bytes signed)

/-- The decoder reads what the encoder wrote for these calls. -/
def DecodesIssued (P : Platform) (calls : List IssueCall) : Prop :=
  ∀ call ∈ calls, ∀ claims signed, call.Produced P claims signed →
    (∀ b, P.marshalHeader call.header = .ok b → P.unmarshalHeader b = .ok call.header) ∧
    ∀ b, P.marshalClaims claims = .ok b → P.unmarshalClaims b = .ok claims

/-- The token does not exhibit a collision of SHA-256 with an issued text. No
hash has none at all, so freedom of collisions is a fact about the texts that
occur. -/
def CollisionFree (P : Platform) (calls : List IssueCall) (token : String) : Prop :=
  ∀ header payload signature, Go.split token '.' = [header, payload, signature] →
    ∀ call ∈ calls, ∀ claims signed, call.Produced P claims signed →
      P.hashSum .sha256 (Go.bytes (header ++ "." ++ payload)) =
        P.hashSum .sha256 (Go.bytes signed) →
      Go.bytes (header ++ "." ++ payload) = Go.bytes signed

def tokenHeader (P : Platform) (token : String) : Option JwsHeader :=
  match Go.split token '.' with
  | [header, _, _] => (decodeHeader P header).toOption
  | _ => none

theorem decodeHeader_b64 (P : Platform) (b : Bytes) :
    decodeHeader P (b64 b) = (P.unmarshalHeader b).mapError fun _ => errInvalidToken := by
  rw [decodeHeader, decodeSegment_b64, bind_ok]

theorem decodeClaims_b64 (P : Platform) (b : Bytes) :
    decodeClaims P (b64 b) = (P.unmarshalClaims b).mapError fun _ => errInvalidToken := by
  rw [decodeClaims, decodeSegment_b64, bind_ok]

/-- A verifier never returns claims that nobody issued. -/
theorem assertion_authentic {P : Platform} {calls : List IssueCall} {v : Verifier}
    (hkeys : SignedOnlyBy P calls v.keys) (hjson : DecodesIssued P calls) {token : String}
    (hhash : CollisionFree P calls token) {now : Time} {c : Claims}
    (h : v.verify P now token = .ok c) :
    ∃ hdr, tokenHeader P token = some hdr ∧
      ∃ call ∈ calls, v.keys.get hdr.kid = some call.pub ∧ call.issuer.key.kid = hdr.kid ∧
        (∃ signed, call.Produced P c signed) ∧ c.issuer = v.iss ∧ c.audience = v.aud := by
  obtain ⟨header, payload, signature, hdr, pub, hsplit, hhdr, hpub, hsig, hclaims, hcheck⟩ :=
    Verifier.verify_ok h
  obtain ⟨-, hkey⟩ := Verifier.keyOf_ok_iff.mp hpub
  obtain ⟨r, s, hverify⟩ := Verifier.checkSignature_ok hsig
  obtain ⟨call, hcall, claims, signed, hproduced, rfl, hdigest⟩ :=
    hkeys hdr.kid pub _ r s hkey hverify
  -- the signed text is the issued one, and so are the segments it is made of
  have htext : header ++ "." ++ payload = signed :=
    Go.bytes_injective (hhash _ _ _ hsplit call hcall claims signed hproduced hdigest)
  obtain ⟨hdrBytes, payloadBytes, hmarshalHdr, hmarshalClaims, rfl⟩ := hproduced.encoded
  have hmem : ∀ p ∈ [header, payload, signature], '.' ∉ p.toList := by
    intro p hp
    exact Go.notMem_of_mem_split (hsplit ▸ hp)
  obtain ⟨rfl, rfl⟩ := signed_inj (hmem header (by simp)) (hmem payload (by simp))
    (dot_notMem_b64 _) (dot_notMem_b64 _) htext
  obtain ⟨hreadHdr, hreadClaims⟩ := hjson call hcall claims _ hproduced
  have hheader : hdr = call.header := by
    rw [decodeHeader_b64, hreadHdr _ hmarshalHdr] at hhdr
    cases hhdr
    rfl
  have hpayload : c = claims := by
    rw [decodeClaims_b64, hreadClaims _ hmarshalClaims] at hclaims
    cases hclaims
    rfl
  subst hheader hpayload
  obtain ⟨-, hiss, haud, -⟩ := Verifier.checkClaims_ok_iff.mp hcheck
  refine ⟨call.header, ?_, call, hcall, hkey, rfl, ⟨_, hproduced⟩, hiss, haud⟩
  rw [tokenHeader, hsplit]
  show (decodeHeader P (b64 hdrBytes)).toOption = some call.header
  rw [hhdr]
  rfl

theorem checkSignature_fillBytes {P : Platform} {pub : EcdsaPublicKey} {signed : String}
    {r s : Nat} (hr : r < 2 ^ 256) (hs : s < 2 ^ 256)
    (hverify : P.ecdsaVerify pub (P.hashSum .sha256 (Go.bytes signed)) r s = true) :
    Verifier.checkSignature P pub signed
      (b64 (Go.fillBytes p256ByteLen r ++ Go.fillBytes p256ByteLen s)) = .ok () := by
  have hwidth : (256 : Nat) ^ p256ByteLen = 2 ^ 256 := by decide
  rw [Verifier.checkSignature, b64,
    Base64.decodeString_encodeToString Base64.sound_rawURLEncoding]
  simp only [List.length_append, Go.length_fillBytes]
  rw [if_neg (by omega), List.take_left' (Go.length_fillBytes _ _),
    List.drop_left' (Go.length_fillBytes _ _), Go.setBytes_fillBytes (by omega),
    Go.setBytes_fillBytes (by omega), hverify]
  rfl

/-- On a token its key signed, `verify` comes down to the claims. -/
theorem verify_signed {P : Platform} {v : Verifier} {now : Time} {hdr : JwsHeader}
    {pub : EcdsaPublicKey} {hdrBytes payload : Bytes} {claims : Claims} {r s : Nat}
    (hhdr : P.unmarshalHeader hdrBytes = .ok hdr) (hkey : v.keyOf hdr = .ok pub)
    (hclaims : P.unmarshalClaims payload = .ok claims) (hr : r < 2 ^ 256) (hs : s < 2 ^ 256)
    (hverify : P.ecdsaVerify pub
      (P.hashSum .sha256 (Go.bytes (b64 hdrBytes ++ "." ++ b64 payload))) r s = true) :
    v.verify P now (b64 hdrBytes ++ "." ++ b64 payload ++ "." ++
      b64 (Go.fillBytes p256ByteLen r ++ Go.fillBytes p256ByteLen s)) =
      v.checkClaims now claims := by
  rw [Verifier.verify,
    split_compact (dot_notMem_b64 _) (dot_notMem_b64 _) (dot_notMem_b64 _)]
  simp only [decodeHeader_b64, decodeClaims_b64, hhdr, hclaims, Except.mapError, bind_ok, hkey,
    checkSignature_fillBytes hr hs hverify]

/-! One login, on a platform that encodes and signs for it and for nothing
else. -/

def sampleKey : SigningKey := ⟨"2026-06", ⟨.p256, 1, 2⟩, 3⟩

/-- Issued half a second into the fifth second after the epoch. -/
def sampleCall : IssueCall where
  issuer := ⟨sampleKey, "https://web-eid.internal", "svc:auth", 120000000000⟩
  subject := ⟨"PNOLV-32345678901", "LV", "", "", "high"⟩
  env := ⟨.ok "jti", ⟨62135596805500000000⟩, fun _ _ => .ok (7, 9)⟩

def sampleClaims : Claims :=
  sampleCall.issuer.claims sampleCall.subject "jti" sampleCall.env.now

def sampleSigned : String := b64 [1] ++ "." ++ b64 [2]

def samplePlatform : Platform :=
  { Platform.refusing with
    hashSum := fun h m => List.replicate h.size (if m = Go.bytes sampleSigned then 0 else 1)
    hashSum_length := fun _ _ => List.length_replicate
    marshalHeader := fun _ => .ok [1]
    unmarshalHeader := fun _ => .ok sampleCall.header
    marshalClaims := fun _ => .ok [2]
    unmarshalClaims := fun _ => .ok sampleClaims
    ecdsaVerify := fun _ digest r s => decide (digest = List.replicate 32 0 ∧ r = 7 ∧ s = 9) }

def sampleToken : String :=
  sampleSigned ++ "." ++ b64 (Go.fillBytes 32 7 ++ Go.fillBytes 32 9)

def sampleVerifier : Verifier :=
  ⟨sampleCall.issuer.keySet, "https://web-eid.internal", "svc:auth", defaultLeeway⟩

theorem sampleCall_produced : sampleCall.Produced samplePlatform sampleClaims sampleSigned where
  issued := ⟨sampleToken, rfl⟩
  built := ⟨"jti", rfl, rfl⟩
  encoded := ⟨[1], [2], rfl, rfl, rfl⟩

theorem sampleCall_produced_eq {claims : Claims} {signed : String}
    (h : sampleCall.Produced samplePlatform claims signed) :
    claims = sampleClaims ∧ signed = sampleSigned := by
  obtain ⟨-, ⟨jti, hjti, rfl⟩, ⟨hdr, payload, hhdr, hpayload, rfl⟩⟩ := h
  cases hjti
  cases hhdr
  cases hpayload
  exact ⟨rfl, rfl⟩

/-- Whatever claims the payload decodes to, the token's signature is good. -/
theorem verify_sampleToken (now : Time) (claims : Claims) :
    sampleVerifier.verify { samplePlatform with unmarshalClaims := fun _ => .ok claims } now
      sampleToken = sampleVerifier.checkClaims now claims := by
  have hkey : sampleVerifier.keyOf sampleCall.header = .ok sampleKey.key.pub := by decide
  refine verify_signed rfl hkey rfl (by decide) (by decide) ?_
  simp [samplePlatform, sampleSigned, Hash.size]

theorem sampleToken_verified :
    sampleVerifier.verify samplePlatform ⟨62135596806000000000⟩ sampleToken =
      .ok sampleClaims :=
  (verify_sampleToken _ sampleClaims).trans (by decide +kernel)

/-- The login's own token, accepted a second later, leads back to the login. -/
theorem assertion_authentic_sample :
    ∃ hdr, tokenHeader samplePlatform sampleToken = some hdr ∧
      ∃ call ∈ [sampleCall], sampleVerifier.keys.get hdr.kid = some call.pub ∧
        call.issuer.key.kid = hdr.kid ∧
        (∃ signed, call.Produced samplePlatform sampleClaims signed) ∧
        sampleClaims.issuer = sampleVerifier.iss ∧
        sampleClaims.audience = sampleVerifier.aud := by
  refine assertion_authentic ?_ ?_ ?_ sampleToken_verified
  · intro kid pub digest r s hget hverify
    obtain ⟨hdigest, -, -⟩ := of_decide_eq_true hverify
    refine ⟨sampleCall, by simp, sampleClaims, sampleSigned, sampleCall_produced, ?_, ?_⟩
    · rw [sampleVerifier, Issuer.keySet, KeySet.get_add_some (by decide)] at hget
      split at hget
      · exact Option.some.inj hget
      · cases hget
    · rw [hdigest]
      show _ = List.replicate 32 (if Go.bytes sampleSigned = Go.bytes sampleSigned then 0 else 1)
      rw [if_pos rfl]
  · intro call hcall claims signed hproduced
    obtain rfl := List.mem_singleton.mp hcall
    obtain ⟨rfl, rfl⟩ := sampleCall_produced_eq hproduced
    exact ⟨fun _ _ => rfl, fun _ _ => rfl⟩
  · intro header payload signature _ call hcall claims signed hproduced hhash
    obtain rfl := List.mem_singleton.mp hcall
    obtain ⟨rfl, rfl⟩ := sampleCall_produced_eq hproduced
    -- every other text has the other digest
    by_contra hne
    simp only [samplePlatform, if_neg hne, if_pos] at hhash
    exact absurd hhash (by decide)

/-! ## The window in which a token is accepted -/

/-- The key signs every digest, in numbers of its width, and answers for what
it signed. -/
def SignsAll (P : Platform) (env : IssueEnv) (key : PrivateKey) : Prop :=
  ∀ digest, ∃ r s, env.ecdsaSign key digest = .ok (r, s) ∧ r < 2 ^ 256 ∧ s < 2 ^ 256 ∧
    P.ecdsaVerify key.pub digest r s = true

/-- The two tests of the clock, in plain numbers. -/
theorem checkClaims_times {v : Verifier} {now : Time} {c : Claims} (hiss : c.issuer = v.iss)
    (haud : c.audience = v.aud) (hexp : c.expiry ≠ 0) (hiat : c.issuedAt ≠ 0) :
    v.checkClaims now c =
      if (Time.ofUnix c.expiry).ns + v.leeway.toInt < now.ns then .error errExpired
      else if now.ns + v.leeway.toInt < (Time.ofUnix c.issuedAt).ns then .error errNotYetValid
      else .ok c := by
  simp [Verifier.checkClaims, hiss, haud, hexp, hiat, Time.after_iff, Time.before_iff,
    Time.add_ns]

theorem checkClaims_claims {i : Issuer} {v : Verifier} {s : Subject} {jti : String}
    {t now : Time} (hiss : i.iss = v.iss) (haud : i.aud = v.aud) (httl : 0 < i.ttl)
    (ht : 1 ≤ t.unix) (hfits : (t.add i.ttl).Fits) :
    v.checkClaims now (i.claims s jti t) =
      if (t.add i.ttl).floorSecond.ns + v.leeway.toInt < now.ns then .error errExpired
      else if now.ns + v.leeway.toInt < t.floorSecond.ns then .error errNotYetValid
      else .ok (i.claims s jti t) := by
  have httl' : 0 < i.ttl.toInt := Int64.lt_iff_toInt_lt.mp httl
  have hexp : 1 ≤ (t.add i.ttl).unix := by
    simp only [Time.unix, Time.add] at ht ⊢
    omega
  have htfits : t.Fits := by
    simp only [Time.Fits, Time.add, Time.unix] at ht hfits ⊢
    omega
  rw [← Time.ofUnix_unix hfits, ← Time.ofUnix_unix htfits]
  exact checkClaims_times hiss haud (show (t.add i.ttl).unix ≠ 0 by omega)
    (show t.unix ≠ 0 by omega)

theorem newIssuer_ok {key : SigningKey} {iss aud : String} {ttl : Duration}
    (hcurve : key.key.pub.curve = .p256) (hkid : key.kid ≠ "") (hiss : iss ≠ "")
    (haud : aud ≠ "") (httl : 0 < ttl) : newIssuer key iss aud ttl = .ok ⟨key, iss, aud, ttl⟩ := by
  have hpos : ¬ ttl ≤ 0 := Int64.not_le.mpr httl
  simp [newIssuer, hcurve, hkid, hiss, haud, hpos]

theorem newVerifier_ok {keys : KeySet} {iss aud : String} {leeway : Duration} (hiss : iss ≠ "")
    (haud : aud ≠ "") (hleeway : 0 ≤ leeway) :
    newVerifier (some keys) iss aud [.withLeeway leeway] = .ok ⟨keys, iss, aud, leeway⟩ := by
  simp [newVerifier, VerifierOption.apply, hiss, haud, hleeway]

theorem issue_ok {P : Platform} {env : IssueEnv} {i : Issuer} {s : Subject} {jti : String}
    {hdrBytes payload : Bytes} {r s' : Nat} (hs : s.nationalID ≠ "")
    (hjti : env.genJTI = .ok jti)
    (hhdr : P.marshalHeader ⟨"ES256", "JWT", i.key.kid⟩ = .ok hdrBytes)
    (hclaims : P.marshalClaims (i.claims s jti env.now) = .ok payload)
    (hsign : env.ecdsaSign i.key.key
      (P.hashSum .sha256 (Go.bytes (b64 hdrBytes ++ "." ++ b64 payload))) = .ok (r, s')) :
    i.issue P env s = .ok (b64 hdrBytes ++ "." ++ b64 payload ++ "." ++
      b64 (Go.fillBytes p256ByteLen r ++ Go.fillBytes p256ByteLen s')) := by
  rw [Issuer.issue, if_neg hs, hjti]
  simp only [sign, hhdr, hclaims, bind_ok, hsign]
  rfl

/-- The verdicts of the two tests, one for each side of a window that is not
empty. -/
theorem window_verdicts {verdict : Except GoError Claims} {c : Claims} {lo hi l now : Int}
    (hverdict : verdict = if hi + l < now then .error errExpired
      else if now + l < lo then .error errNotYetValid else .ok c)
    (hl : 0 ≤ l) (hordered : lo ≤ hi) :
    ((∃ c', verdict = .ok c') ↔ lo - l ≤ now ∧ now ≤ hi + l) ∧
      (∀ c', verdict = .ok c' → c' = c) ∧
      (now < lo - l → verdict = .error errNotYetValid) ∧
      (hi + l < now → verdict = .error errExpired) := by
  subst hverdict
  by_cases hafter : hi + l < now
  · rw [if_pos hafter]
    refine ⟨⟨?_, by omega⟩, ?_, by omega, fun _ => rfl⟩
    · rintro ⟨c', hc'⟩
      cases hc'
    · intro c' hc'
      cases hc'
  · rw [if_neg hafter]
    by_cases hbefore : now + l < lo
    · rw [if_pos hbefore]
      refine ⟨⟨?_, by omega⟩, ?_, fun _ => rfl, by omega⟩
      · rintro ⟨c', hc'⟩
        cases hc'
      · intro c' hc'
        cases hc'
    · rw [if_neg hbefore]
      refine ⟨⟨fun _ => by omega, fun _ => ⟨c, rfl⟩⟩, ?_, by omega, by omega⟩
      intro c' hc'
      exact (Except.ok.inj hc').symm

/-- The tokens of `Issue` are accepted from the second of their issue to the
second of their expiry, give or take the leeway, and with the claims as built.
The expiry has to be an instant that `time.Time` can hold. -/
theorem issue_verify_window {P : Platform} {env : IssueEnv} {key : SigningKey}
    {iss aud jti : String} {ttl leeway : Duration} {s : Subject} {keys : KeySet}
    (hcurve : key.key.pub.curve = .p256) (hkid : key.kid ≠ "") (hiss : iss ≠ "")
    (haud : aud ≠ "") (httl : 0 < ttl) (hleeway : 0 ≤ leeway) (hs : s.nationalID ≠ "")
    (ht : 1 ≤ env.now.unix) (hfits : (env.now.add ttl).Fits)
    (hkeys : keys.get key.kid = some key.key.pub) (hjti : env.genJTI = .ok jti)
    (hsign : SignsAll P env key.key)
    (hhdr : Encodes P.marshalHeader P.unmarshalHeader ⟨"ES256", "JWT", key.kid⟩)
    (hclaims : Encodes P.marshalClaims P.unmarshalClaims
      (Issuer.claims ⟨key, iss, aud, ttl⟩ s jti env.now)) :
    ∃ i v token, newIssuer key iss aud ttl = .ok i ∧
      newVerifier (some keys) iss aud [.withLeeway leeway] = .ok v ∧
      i.issue P env s = .ok token ∧ ∀ now : Time,
        ((∃ c, v.verify P now token = .ok c) ↔
          env.now.floorSecond.ns - leeway.toInt ≤ now.ns ∧
            now.ns ≤ (env.now.add ttl).floorSecond.ns + leeway.toInt) ∧
        (∀ c, v.verify P now token = .ok c → c = i.claims s jti env.now) ∧
        (now.ns < env.now.floorSecond.ns - leeway.toInt →
          v.verify P now token = .error errNotYetValid) ∧
        ((env.now.add ttl).floorSecond.ns + leeway.toInt < now.ns →
          v.verify P now token = .error errExpired) := by
  obtain ⟨hdrBytes, hmarshalHdr, hreadHdr⟩ := hhdr
  obtain ⟨payload, hmarshalClaims, hreadClaims⟩ := hclaims
  obtain ⟨r, s', hrs, hr, hs', hverify⟩ :=
    hsign (P.hashSum .sha256 (Go.bytes (b64 hdrBytes ++ "." ++ b64 payload)))
  refine ⟨⟨key, iss, aud, ttl⟩, ⟨keys, iss, aud, leeway⟩, _,
    newIssuer_ok hcurve hkid hiss haud httl, newVerifier_ok hiss haud hleeway,
    issue_ok hs hjti hmarshalHdr hmarshalClaims hrs, ?_⟩
  intro now
  refine window_verdicts ?_ (Int64.le_iff_toInt_le.mp hleeway) ?_
  · have hkey : Verifier.keyOf ⟨keys, iss, aud, leeway⟩ ⟨"ES256", "JWT", key.kid⟩ =
        .ok key.key.pub := Verifier.keyOf_ok_iff.mpr ⟨rfl, hkeys⟩
    rw [verify_signed hreadHdr hkey hreadClaims hr hs' hverify]
    exact checkClaims_claims rfl rfl httl ht hfits
  · have httl' : 0 < ttl.toInt := Int64.lt_iff_toInt_lt.mp httl
    simp only [Time.floorSecond, Time.add]
    omega

def signingPlatform : Platform :=
  { samplePlatform with ecdsaVerify := fun _ _ r s => decide (r = 7 ∧ s = 9) }

/-- Issued at 5.5 s for two minutes: with a leeway of half a minute the token
is good until 155 s sharp. -/
theorem issue_verify_window_sample :
    ∃ i v token, newIssuer sampleKey "https://web-eid.internal" "svc:auth" 120000000000 = .ok i ∧
      newVerifier (some sampleCall.issuer.keySet) "https://web-eid.internal" "svc:auth"
        [.withLeeway 30000000000] = .ok v ∧
      i.issue signingPlatform sampleCall.env sampleCall.subject = .ok token ∧
      (∃ c, v.verify signingPlatform ⟨62135596955000000000⟩ token = .ok c) ∧
      v.verify signingPlatform ⟨62135596955000000001⟩ token = .error errExpired := by
  have hsign : SignsAll signingPlatform sampleCall.env sampleKey.key := by
    intro digest
    exact ⟨7, 9, rfl, by decide, by decide, rfl⟩
  obtain ⟨i, v, token, hi, hv, htoken, hwindow⟩ :=
    issue_verify_window (P := signingPlatform) (s := sampleCall.subject) rfl (by decide)
      (by decide) (by decide) (by decide) (show (0 : Duration) ≤ 30000000000 by decide)
      (by decide) (by decide) (by constructor <;> decide)
      (show sampleCall.issuer.keySet.get sampleKey.kid = some sampleKey.key.pub by decide)
      rfl hsign ⟨[1], rfl, rfl⟩ ⟨[2], rfl, rfl⟩
  refine ⟨i, v, token, hi, hv, htoken, ?_, ?_⟩
  · exact (hwindow _).1.mpr (by decide)
  · exact (hwindow _).2.2.2 (by decide)

end WebEid.Assertion
