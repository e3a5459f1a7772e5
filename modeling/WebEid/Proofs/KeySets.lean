import Mathlib.Data.List.Permutation
import Mathlib.Data.List.Sigma
import WebEid.Ref.Verifier

/-!
# Publishing a key set and reading it back

A service publishes its keys with `MarshalJWKS` and a consumer reads them with
`KeySetFromJWKS`. `Add` takes a key of any curve and any point; the encoder
writes `P-256` beside each of them; and the decoder gives up on the whole
document at the first entry that is no point of P-256. The way there and back
is the identity exactly when every key of the set is a valid P-256 key
(`jwks_round_trip_iff`): one key of another curve, and the consumer is left
without any.
-/

namespace WebEid.Assertion

open Lib Exceptions

/-! ## Sets reachable by `Add` -/

/-- `NewKeySet` and these calls of `Add`, in turn. -/
def KeySet.ofAdds (adds : List (String × Option EcdsaPublicKey)) : KeySet :=
  adds.foldl (fun ks a => ks.add a.1 a.2) KeySet.empty

theorem KeySet.get_ofAdds_empty (adds : List (String × Option EcdsaPublicKey)) :
    (KeySet.ofAdds adds).get "" = none := by
  have hinv : ∀ ks : KeySet, ks.get "" = none →
      (adds.foldl (fun ks a => ks.add a.1 a.2) ks).get "" = none := by
    induction adds with
    | nil => exact fun ks hks => hks
    | cons a adds ih =>
        intro ks hks
        refine ih (ks.add a.1 a.2) ?_
        obtain ⟨kid, pub | pub⟩ := a
        · exact hks
        · by_cases hkid : kid = ""
          · rw [KeySet.add, if_pos hkid]
            exact hks
          · rw [KeySet.get_add_some hkid, if_neg (Ne.symm hkid)]
            exact hks
  exact hinv KeySet.empty rfl

/-! ## Points -/

/-- What `crypto/ecdsa` promises of the uncompressed encoding: a valid key is
written as a marker and two coordinates of the curve's width, and reading
accepts exactly what was written for a key of the curve. -/
structure PointEncoding (P : Platform) : Prop where
  bytes_eq : ∀ pub raw, P.ecdsaBytes pub = .ok raw → ∃ xs ys, raw = 4 :: (xs ++ ys) ∧
    xs.length = (pub.curve.bitSize + 7) / 8 ∧ ys.length = (pub.curve.bitSize + 7) / 8
  parse_iff : ∀ curve raw pub, P.parseUncompressedPublicKey curve raw = .ok pub ↔
    pub.curve = curve ∧ P.ecdsaBytes pub = .ok raw

/-- The decoder hands the parser the two coordinates, each in its own slot. -/
theorem p256PublicKey_eq (P : Platform) {xb yb : Bytes} (hx : xb.length ≤ p256ByteLen)
    (hy : yb.length ≤ p256ByteLen) :
    p256PublicKey P xb yb = P.parseUncompressedPublicKey .p256
      (4 :: (Go.leftPad p256ByteLen xb ++ Go.leftPad p256ByteLen yb)) := by
  have hlen :
      ¬ ((decide (p256ByteLen < xb.length) || decide (p256ByteLen < yb.length)) = true) := by
    simp only [Bool.or_eq_true, decide_eq_true_eq]
    omega
  -- the zeroed buffer, cut where the two copies go
  have hbuf : (List.replicate (1 + 2 * p256ByteLen) (0 : UInt8)).set 0 4 =
      (4 :: List.replicate (p256ByteLen - xb.length) 0) ++
        (List.replicate xb.length 0 ++ List.replicate p256ByteLen 0) := by
    rw [List.cons_append, ← List.append_assoc, List.replicate_append_replicate,
      List.replicate_append_replicate]
    have hwidth : p256ByteLen - xb.length + xb.length + p256ByteLen = 2 * p256ByteLen := by omega
    rw [hwidth, Nat.add_comm, List.replicate_succ, List.set_cons_zero]
  have hoffX : 1 + p256ByteLen - xb.length =
      (4 :: List.replicate (p256ByteLen - xb.length) (0 : UInt8)).length := by
    rw [List.length_cons, List.length_replicate]
    omega
  have hmid : (4 :: List.replicate (p256ByteLen - xb.length) (0 : UInt8)) ++
        (xb ++ List.replicate p256ByteLen 0) =
      (4 :: (Go.leftPad p256ByteLen xb ++ List.replicate (p256ByteLen - yb.length) 0)) ++
        (List.replicate yb.length 0 ++ []) := by
    rw [Go.leftPad, List.append_nil]
    simp only [List.cons_append, List.append_assoc, List.replicate_append_replicate]
    rw [Nat.sub_add_cancel hy]
  have hoffY : 1 + 2 * p256ByteLen - yb.length =
      (4 :: (Go.leftPad p256ByteLen xb ++
        List.replicate (p256ByteLen - yb.length) (0 : UInt8))).length := by
    rw [List.length_cons, List.length_append, Go.length_leftPad hx, List.length_replicate]
    omega
  rw [p256PublicKey, if_neg hlen]
  simp only []
  rw [hbuf, hoffX, Go.copyAt_append _ _ List.length_replicate, hmid, hoffY,
    Go.copyAt_append _ _ List.length_replicate, List.append_nil]
  simp only [Go.leftPad, List.cons_append, List.append_assoc]

theorem leftPad_of_length {b : Bytes} {n : Nat} (h : b.length = n) : Go.leftPad n b = b := by
  rw [Go.leftPad, h, Nat.sub_self]
  rfl

/-- The same coordinate, up to zeros in front of it. -/
def SameDigits (b b' : Bytes) : Prop :=
  ∃ m m' c, b = List.replicate m 0 ++ c ∧ b' = List.replicate m' 0 ++ c

theorem leftPad_of_sameDigits {n : Nat} {b b' : Bytes} (h : SameDigits b b') (hb : b.length ≤ n)
    (hb' : b'.length ≤ n) : Go.leftPad n b' = Go.leftPad n b := by
  obtain ⟨m, m', c, rfl, rfl⟩ := h
  rw [List.length_append, List.length_replicate] at hb hb'
  rw [Go.leftPad_replicate_append hb, Go.leftPad_replicate_append hb']

/-- A coordinate that is too long is refused. Otherwise the parser gets the
marker and two slots of 32 bytes, each with the value of its own coordinate and
nothing of the other one, so zeros in front of a coordinate make no
difference. -/
theorem p256PublicKey_padded (x y : Bytes) :
    (p256ByteLen < x.length ∨ p256ByteLen < y.length →
      ∀ P, p256PublicKey P x y = .error errInvalidToken) ∧
    (x.length ≤ p256ByteLen → y.length ≤ p256ByteLen →
      ∃ X Y, X.length = 32 ∧ Y.length = 32 ∧ Go.setBytes X = Go.setBytes x ∧
        Go.setBytes Y = Go.setBytes y ∧ (4 :: (X ++ Y)).length = 65 ∧
        (∀ P, p256PublicKey P x y = P.parseUncompressedPublicKey .p256 (4 :: (X ++ Y))) ∧
        ∀ P x' y' key, p256PublicKey P x y = .ok key → SameDigits x x' → SameDigits y y' →
          x'.length ≤ p256ByteLen → y'.length ≤ p256ByteLen →
          p256PublicKey P x' y' = .ok key) := by
  refine ⟨?_, ?_⟩
  · intro hlong P
    have htest : (decide (p256ByteLen < x.length) || decide (p256ByteLen < y.length)) = true := by
      rw [Bool.or_eq_true, decide_eq_true_eq, decide_eq_true_eq]
      exact hlong
    rw [p256PublicKey, if_pos htest]
  · intro hx hy
    have hX : (Go.leftPad p256ByteLen x).length = 32 := Go.length_leftPad hx
    have hY : (Go.leftPad p256ByteLen y).length = 32 := Go.length_leftPad hy
    refine ⟨Go.leftPad p256ByteLen x, Go.leftPad p256ByteLen y, hX, hY, Go.setBytes_leftPad _ _,
      Go.setBytes_leftPad _ _, ?_, fun P => p256PublicKey_eq P hx hy, ?_⟩
    · rw [List.length_cons, List.length_append, hX, hY]
    · intro P x' y' key hkey hsameX hsameY hx' hy'
      rw [p256PublicKey_eq P hx hy] at hkey
      rw [p256PublicKey_eq P hx' hy', leftPad_of_sameDigits hsameX hx hx',
        leftPad_of_sameDigits hsameY hy hy']
      exact hkey

/-! ## One entry -/

def Publishable (P : Platform) (pub : EcdsaPublicKey) : Prop :=
  pub.curve = .p256 ∧ ∃ raw, P.ecdsaBytes pub = .ok raw

theorem addJWK_jwkFromPublic {P : Platform} (hpoint : PointEncoding P) {pub : EcdsaPublicKey}
    (hpub : Publishable P pub) (kid : String) :
    ∃ jwk, jwkFromPublic P kid pub = .ok jwk ∧
      ∀ ks : KeySet, addJWK P ks jwk = .ok (ks.add kid (some pub)) := by
  obtain ⟨hcurve, raw, hraw⟩ := hpub
  obtain ⟨xs, ys, rfl, hxs, hys⟩ := hpoint.bytes_eq pub raw hraw
  have hwidth : (pub.curve.bitSize + 7) / 8 = p256ByteLen := by rw [hcurve]; rfl
  rw [hwidth] at hxs hys
  refine ⟨⟨"EC", "P-256", b64 xs, b64 ys, kid, "sig", "ES256"⟩, ?_, ?_⟩
  · rw [jwkFromPublic, hraw, bind_ok, hwidth]
    simp only []
    rw [Nat.add_comm 1 p256ByteLen, List.drop_succ_cons, List.drop_succ_cons, List.drop_zero,
      List.take_left' hxs, List.drop_left' hxs]
    rfl
  · intro ks
    have hparse : p256PublicKey P xs ys = .ok pub := by
      rw [p256PublicKey_eq P (by omega) (by omega), leftPad_of_length hxs, leftPad_of_length hys]
      exact (hpoint.parse_iff _ _ _).mpr ⟨hcurve, hraw⟩
    rw [addJWK, if_neg (by simp), decodeSegment_b64, decodeSegment_b64, bind_ok, bind_ok, hparse]
    rfl

/-- Whatever the document says, only P-256 keys get into the set. -/
theorem curve_of_keySetFromJWKS {P : Platform} (hpoint : PointEncoding P) {data : Bytes}
    {ks : KeySet} (h : keySetFromJWKS P data = .ok ks) {kid : String} {pub : EcdsaPublicKey}
    (hget : ks.get kid = some pub) : pub.curve = .p256 := by
  obtain ⟨doc, -, hfold⟩ := bind_eq_ok h
  have hinv : ∀ kid pub, ks.get kid = some pub → pub.curve = .p256 := by
    refine foldlM_invariant (I := fun ks : KeySet => ∀ kid pub, ks.get kid = some pub →
      pub.curve = .p256) ?_ doc.keys ?_ hfold
    · intro ks jwk ks' hks hadd kid pub hget
      rw [addJWK] at hadd
      split at hadd
      · cases hadd
        exact hks kid pub hget
      · obtain ⟨xb, -, hadd⟩ := bind_eq_ok hadd
        obtain ⟨yb, -, hadd⟩ := bind_eq_ok hadd
        obtain ⟨pub', hpub', hadd⟩ := bind_eq_ok hadd
        cases hadd
        have hcurve : pub'.curve = .p256 := by
          have hparse := mapError_eq_ok hpub'
          rw [p256PublicKey] at hparse
          split at hparse
          · cases hparse
          · exact ((hpoint.parse_iff _ _ _).mp hparse).1
        by_cases hkid : jwk.kid = ""
        · rw [KeySet.add, if_pos hkid] at hget
          exact hks kid pub hget
        · rw [KeySet.get_add_some hkid] at hget
          split at hget
          · cases hget
            exact hcurve
          · exact hks kid pub hget
    · intro kid pub hget
      cases hget
  exact hinv kid pub hget

/-! ## The whole document -/

/-- Publishable entries under distinct ids are written as a document that adds
each of them to the set it is read into. -/
theorem foldlM_addJWK {P : Platform} (hpoint : PointEncoding P) (order : List KeyEntry)
    (hpub : ∀ e ∈ order, e.1 ≠ "" ∧ Publishable P e.2) (hnodup : order.NodupKeys) :
    ∃ doc, jwks P order = .ok doc ∧ ∀ ks : KeySet, ∃ ks', doc.keys.foldlM (addJWK P) ks = .ok ks' ∧
      ∀ kid, ks'.get kid = (order.dlookup kid).or (ks.get kid) := by
  induction order with
  | nil => exact ⟨⟨[]⟩, rfl, fun ks => ⟨ks, rfl, fun _ => rfl⟩⟩
  | cons e order ih =>
      rw [List.nodupKeys_cons] at hnodup
      obtain ⟨hkid, hkey⟩ := hpub e (by simp)
      obtain ⟨jwk, hjwk, hadd⟩ := addJWK_jwkFromPublic hpoint hkey e.1
      obtain ⟨doc, hdoc, hfold⟩ := ih (fun e' he' => hpub e' (by simp [he'])) hnodup.2
      refine ⟨⟨jwk :: doc.keys⟩, ?_, ?_⟩
      · obtain ⟨keys, hkeys, hdoc⟩ := bind_eq_ok hdoc
        cases hdoc
        rw [jwks, List.mapM_cons, hjwk, bind_ok, hkeys]
        rfl
      · intro ks
        obtain ⟨ks', hks', hget⟩ := hfold (ks.add e.1 (some e.2))
        refine ⟨ks', ?_, ?_⟩
        · rw [List.foldlM_cons, hadd, bind_ok]
          exact hks'
        · intro kid
          rw [hget, KeySet.get_add_some hkid]
          by_cases hk : kid = e.1
          · subst hk
            rw [if_pos rfl, List.dlookup_eq_none.mpr hnodup.1]
            obtain ⟨k, p⟩ := e
            rw [List.dlookup_cons_eq]
            rfl
          · rw [if_neg hk]
            obtain ⟨k, p⟩ := e
            rw [List.dlookup_cons_ne _ _ hk]

/-- Whatever order the range takes, the published document is read back as the
same mapping. -/
def RoundTrips (P : Platform) (ks : KeySet) : Prop :=
  ∀ order, order.Perm ks.keys.entries → ∃ data ks', marshalJWKS P order = .ok data ∧
    keySetFromJWKS P data = .ok ks' ∧ ∀ kid, ks'.get kid = ks.get kid

/-- `encoding/json` reads back the documents the set publishes. -/
def EncodesPublished (P : Platform) (ks : KeySet) : Prop :=
  ∀ order doc, order.Perm ks.keys.entries → jwks P order = .ok doc →
    Encodes P.marshalJWKS P.unmarshalJWKS doc

theorem roundTrips_of_publishable {P : Platform} (hpoint : PointEncoding P) {ks : KeySet}
    (hjson : EncodesPublished P ks) (hempty : ks.get "" = none)
    (hpub : ∀ kid pub, ks.get kid = some pub → Publishable P pub) : RoundTrips P ks := by
  intro order horder
  have hmem : ∀ e ∈ order, ks.get e.1 = some e.2 := by
    intro e he
    exact AList.mem_lookup_iff.mpr (horder.subset he)
  have hentries : ∀ e ∈ order, e.1 ≠ "" ∧ Publishable P e.2 := by
    intro e he
    refine ⟨?_, hpub e.1 e.2 (hmem e he)⟩
    intro hkid
    have hsome := hmem e he
    rw [hkid, hempty] at hsome
    cases hsome
  have hnodup : order.NodupKeys := (List.perm_nodupKeys horder).mpr ks.keys.nodupKeys
  obtain ⟨doc, hdoc, hfold⟩ := foldlM_addJWK hpoint order hentries hnodup
  obtain ⟨data, hdata, hread⟩ := hjson order doc horder hdoc
  obtain ⟨ks', hks', hget⟩ := hfold KeySet.empty
  refine ⟨data, ks', ?_, ?_, ?_⟩
  · rw [marshalJWKS, hdoc, bind_ok]
    exact hdata
  · rw [keySetFromJWKS, hread, bind_ok]
    exact hks'
  · intro kid
    rw [hget, List.perm_dlookup kid hnodup horder]
    exact Option.or_none

/-- A key set survives being published and read exactly when each of its keys
is a valid key of P-256. -/
theorem jwks_round_trip_iff {P : Platform} (hpoint : PointEncoding P)
    (adds : List (String × Option EcdsaPublicKey))
    (hjson : EncodesPublished P (KeySet.ofAdds adds)) :
    RoundTrips P (KeySet.ofAdds adds) ↔
      ∀ kid pub, (KeySet.ofAdds adds).get kid = some pub →
        pub.curve = .p256 ∧ ∃ raw, P.ecdsaBytes pub = .ok raw := by
  constructor
  · intro hround kid pub hget
    obtain ⟨data, ks', hdata, hks', hsame⟩ := hround _ (List.Perm.refl _)
    obtain ⟨doc, hdoc, -⟩ := bind_eq_ok hdata
    obtain ⟨keys, hkeys, -⟩ := bind_eq_ok hdoc
    have hmem : (⟨kid, pub⟩ : KeyEntry) ∈ (KeySet.ofAdds adds).keys.entries :=
      AList.mem_lookup_iff.mp hget
    obtain ⟨jwk, hjwk⟩ := mapM_ok_of_mem hkeys hmem
    obtain ⟨raw, hraw, -⟩ := bind_eq_ok hjwk
    exact ⟨curve_of_keySetFromJWKS hpoint hks' ((hsame kid).trans hget), raw, hraw⟩
  · intro hpub
    exact roundTrips_of_publishable hpoint hjson (KeySet.get_ofAdds_empty adds) hpub

/-! A service with one P-256 key, which publishes a P-384 key beside it. -/

def p256Key : EcdsaPublicKey := ⟨.p256, 1, 2⟩

def p384Key : EcdsaPublicKey := ⟨.p384, 1, 2⟩

def p256Point : Bytes := 4 :: (Go.fillBytes 32 1 ++ Go.fillBytes 32 2)

def p384Point : Bytes := 4 :: (Go.fillBytes 48 1 ++ Go.fillBytes 48 2)

/-- The entry of the P-256 key, or else the one the P-384 key is given. -/
def publishedJWK (p256 : Bool) : JWK :=
  if p256 then
    ⟨"EC", "P-256", b64 (Go.fillBytes 32 1), b64 (Go.fillBytes 32 2), "2026-06", "sig", "ES256"⟩
  else
    ⟨"EC", "P-256", b64 (Go.fillBytes 48 1), b64 (Go.fillBytes 48 2), "2026-07", "sig", "ES256"⟩

/-- The two keys are the valid ones, and a document is written as the list of
which of the two entries it holds. -/
def publishingPlatform : Platform :=
  { Platform.refusing with
    ecdsaBytes := fun pub =>
      if pub = p256Key then .ok p256Point
      else if pub = p384Key then .ok p384Point
      else .error (.text "ecdsa: invalid public key")
    parseUncompressedPublicKey := fun curve raw =>
      if curve = .p256 ∧ raw = p256Point then .ok p256Key
      else if curve = .p384 ∧ raw = p384Point then .ok p384Key
      else .error (.text "ecdsa: invalid public key")
    marshalJWKS := fun doc =>
      .ok (doc.keys.map fun k => if k = publishedJWK true then 1 else 0)
    unmarshalJWKS := fun b => .ok ⟨b.map fun n => publishedJWK (n == 1)⟩ }

theorem either_ok_iff {α ε : Type} {p q : Prop} [Decidable p] [Decidable q] {a b c : α} {e : ε} :
    (if p then .ok a else if q then .ok b else .error e : Except ε α) = .ok c ↔
      (p ∧ c = a) ∨ (¬ p ∧ q ∧ c = b) := by
  by_cases hp : p <;> by_cases hq : q <;> simp [hp, hq, eq_comm]

theorem publishingPlatform_points : PointEncoding publishingPlatform where
  bytes_eq := by
    intro pub raw h
    rcases either_ok_iff.mp h with ⟨rfl, rfl⟩ | ⟨-, rfl, rfl⟩
    · exact ⟨Go.fillBytes 32 1, Go.fillBytes 32 2, rfl, rfl, rfl⟩
    · exact ⟨Go.fillBytes 48 1, Go.fillBytes 48 2, rfl, rfl, rfl⟩
  parse_iff := by
    intro curve raw pub
    simp only [publishingPlatform, either_ok_iff]
    constructor
    · rintro (⟨⟨rfl, rfl⟩, rfl⟩ | ⟨-, ⟨rfl, rfl⟩, rfl⟩)
      · exact ⟨rfl, .inl ⟨rfl, rfl⟩⟩
      · exact ⟨rfl, .inr ⟨by decide, rfl, rfl⟩⟩
    · rintro ⟨rfl, ⟨rfl, rfl⟩ | ⟨-, rfl, rfl⟩⟩
      · exact .inl ⟨⟨rfl, rfl⟩, rfl⟩
      · exact .inr ⟨by decide, ⟨rfl, rfl⟩, rfl⟩

theorem publishedJWK_ne : publishedJWK false ≠ publishedJWK true := by
  intro h
  have hkid : (publishedJWK false).kid = (publishedJWK true).kid := congrArg JWK.kid h
  exact absurd hkid (by decide)

/-- Documents are read back where each of their keys has its own mark. -/
theorem encodes_marked {P : Platform} {mark : JWK → UInt8} {entry : UInt8 → JWK}
    (hmarshal : ∀ doc, P.marshalJWKS doc = .ok (doc.keys.map mark))
    (hunmarshal : ∀ b, P.unmarshalJWKS b = .ok ⟨b.map entry⟩) {keys : List JWK}
    (hkeys : ∀ k ∈ keys, entry (mark k) = k) : Encodes P.marshalJWKS P.unmarshalJWKS ⟨keys⟩ := by
  refine ⟨keys.map mark, hmarshal _, ?_⟩
  rw [hunmarshal, List.map_map]
  have hread : keys.map (entry ∘ mark) = keys :=
    (List.map_congr_left hkeys).trans (List.map_id' keys)
  rw [hread]

theorem encodes_published (entries : List Bool) :
    Encodes publishingPlatform.marshalJWKS publishingPlatform.unmarshalJWKS
      ⟨entries.map publishedJWK⟩ := by
  refine encodes_marked (fun _ => rfl) (fun _ => rfl) ?_
  intro k hk
  obtain ⟨p256, -, rfl⟩ := List.mem_map.mp hk
  cases p256 with
  | true =>
      rw [if_pos rfl]
      rfl
  | false =>
      rw [if_neg publishedJWK_ne]
      rfl

theorem addJWK_p384 (P : Platform) (ks : KeySet) :
    addJWK P ks (publishedJWK false) = .error errInvalidToken := by
  have hlong : p256PublicKey P (Go.fillBytes 48 1) (Go.fillBytes 48 2) =
      .error errInvalidToken := by
    rw [p256PublicKey, Go.length_fillBytes, Go.length_fillBytes]
    rfl
  rw [addJWK, if_neg (by decide), publishedJWK, if_neg (by decide)]
  simp only [decodeSegment_b64, bind_ok, hlong]
  rfl

theorem jwkFromPublic_p256 :
    jwkFromPublic publishingPlatform "2026-06" p256Key = .ok (publishedJWK true) := rfl

theorem jwkFromPublic_p384 :
    jwkFromPublic publishingPlatform "2026-07" p384Key = .ok (publishedJWK false) := rfl

theorem jwks_round_trip_p256 :
    RoundTrips publishingPlatform (KeySet.ofAdds [("2026-06", some p256Key)]) := by
  have hjson : EncodesPublished publishingPlatform
      (KeySet.ofAdds [("2026-06", some p256Key)]) := by
    intro order doc horder hdoc
    obtain rfl := List.perm_singleton.mp horder
    cases hdoc
    exact encodes_published [true]
  refine (jwks_round_trip_iff publishingPlatform_points _ hjson).mpr ?_
  intro kid pub hget
  have hkey : pub = p256Key := by
    rw [KeySet.ofAdds, List.foldl_cons, List.foldl_nil, KeySet.get_add_some (by decide)] at hget
    split at hget
    · exact (Option.some.inj hget).symm
    · cases hget
  subst hkey
  exact ⟨rfl, p256Point, rfl⟩

/-- Beside a P-384 key, the P-256 key is published but no consumer can read it. -/
theorem jwks_round_trip_p384 :
    PointEncoding publishingPlatform ∧
      EncodesPublished publishingPlatform
        (KeySet.ofAdds [("2026-06", some p256Key), ("2026-07", some p384Key)]) ∧
      (∃ data, marshalJWKS publishingPlatform
          [⟨"2026-06", p256Key⟩, ⟨"2026-07", p384Key⟩] = .ok data ∧
        keySetFromJWKS publishingPlatform data = .error errInvalidToken) ∧
      ¬ RoundTrips publishingPlatform
        (KeySet.ofAdds [("2026-06", some p256Key), ("2026-07", some p384Key)]) := by
  refine ⟨publishingPlatform_points, ?_, ?_, ?_⟩
  · intro order doc horder hdoc
    obtain rfl | rfl := List.perm_pair.mp horder
    · cases hdoc
      exact encodes_published [false, true]
    · cases hdoc
      exact encodes_published [true, false]
  · obtain ⟨data, hdata, hread⟩ := encodes_published [true, false]
    refine ⟨data, ?_, ?_⟩
    · have hdoc : jwks publishingPlatform [⟨"2026-06", p256Key⟩, ⟨"2026-07", p384Key⟩] =
          .ok ⟨[true, false].map publishedJWK⟩ := by
        simp only [jwks, List.mapM_cons, List.mapM_nil, jwkFromPublic_p256, jwkFromPublic_p384,
          bind_ok]
        rfl
      rw [marshalJWKS, hdoc, bind_ok, hdata]
    · obtain ⟨jwk, hjwk, hadd⟩ := addJWK_jwkFromPublic publishingPlatform_points
        (⟨rfl, p256Point, rfl⟩ : Publishable publishingPlatform p256Key) "2026-06"
      cases jwkFromPublic_p256.symm.trans hjwk
      rw [keySetFromJWKS, hread, bind_ok, List.map_cons, List.foldlM_cons, hadd, bind_ok,
        List.map_singleton, List.foldlM_cons, addJWK_p384, bind_error]
  · intro hround
    obtain ⟨data, ks', -, hks', hsame⟩ := hround _ (List.Perm.refl _)
    have hget : ks'.get "2026-07" = some p384Key := (hsame "2026-07").trans rfl
    exact absurd (curve_of_keySetFromJWKS publishingPlatform_points hks' hget) (by decide)

end WebEid.Assertion
