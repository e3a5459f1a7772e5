import WebEid.Proofs.SignatureBinding
import WebEid.Proofs.SigningGates

/-!
# The negotiation, and what the finalisation makes of it

Three tables of hash names meet in a signing operation. `NewSigner` accepts
the eight names of `SupportedHashFunctions`, the card offers names in any
letter case, and `VerifySignatureValue` maps the upper-cased name of the
algorithm to one of four hashes, if the key is an RSA key. The spelling is no
obstacle: every name that `EqualFold` identifies with a supported one
upper-cases to it. The SHA-3 half of the first table is one. A preparation may
settle on SHA3-256 with an RSA key, and no signature value will ever be
verified for it (`negotiated_verifies_iff`).

The negotiation itself compares twice, in upper case to select the hash and
by folding to pick the algorithm. On the names a signer can prefer the two
comparisons are one, so the hash selected is always one that an algorithm is
picked for, and the made-up algorithm at the end of the pick is never used
(`negotiation_best`).
-/

namespace WebEid.Signing

open Lib Exceptions

/-! ## Letter case

The hash names are written in ASCII, without the two letters at which Unicode
makes a difference between folding and upper-casing. The long s is none: it
folds with S and upper-cases to S. -/

section

variable {s name : String}

theorem hashName_letters (hname : name ∈ supportedHashFunctions) :
    ∀ c ∈ name.toList, c.toNat < 128 ∧ Unicode.toUpper c ≠ 'I' ∧ Unicode.toUpper c ≠ 'K' := by
  have hall : supportedHashFunctions.all (fun name => name.toList.all fun c =>
      decide (c.toNat < 128 ∧ Unicode.toUpper c ≠ 'I' ∧ Unicode.toUpper c ≠ 'K')) = true := by
    decide +kernel
  intro c hc
  exact of_decide_eq_true (List.all_eq_true.mp (List.all_eq_true.mp hall name hname) c hc)

/-- The two comparisons of the negotiation agree on the names a signer can
prefer. -/
theorem toUpper_eq_iff_equalFold (hname : name ∈ supportedHashFunctions) :
    Go.toUpper s = Go.toUpper name ↔ Go.equalFold s name = true :=
  (Go.equalFold_iff_toUpper (hashName_letters hname)).symm

theorem toUpper_of_equalFold (hname : name ∈ supportedHashFunctions)
    (h : Go.equalFold s name = true) : Go.toUpper s = name := by
  rw [(toUpper_eq_iff_equalFold hname).mpr h, toUpper_hashName hname]

end

/-! ## The negotiated algorithm -/

/-- The negotiation settles on a preference, and on an algorithm whose hash is
that preference in upper case. -/
theorem negotiate_ok {s : Signer} {cert : Certificate}
    {supported : List SignatureAlgorithm} {prepared : Prepared}
    (hpref : ∀ name ∈ s.hashPreference, name ∈ supportedHashFunctions)
    (h : s.negotiate cert supported = .ok prepared) :
    prepared.hashFn ∈ supportedHashFunctions ∧
      Go.toUpper prepared.algo.hashFunction = prepared.hashFn := by
  obtain ⟨hashFn, hselect, h⟩ := bind_eq_ok h
  cases h
  have hmem : hashFn ∈ supportedHashFunctions := by
    rw [selectHashFunction] at hselect
    split at hselect
    next want hfind =>
      cases hselect
      exact hpref _ (List.mem_of_find?_eq_some hfind)
    next => cases hselect
  refine ⟨hmem, ?_⟩
  show Go.toUpper (pickAlgorithmForHash hashFn supported).hashFunction = hashFn
  rw [pickAlgorithmForHash]
  split
  next algo hfind =>
    have hequal : equalFoldHash algo.hashFunction hashFn = true := by
      have hsome := List.find?_some hfind
      exact hsome
    exact toUpper_of_equalFold hmem hequal
  next =>
    refine toUpper_of_equalFold hmem ?_
    exact beq_self_eq_true _

/-! ## The choice among the preferences -/

/-- Some supported algorithm has this hash, in any letter case. -/
def Offers (supported : List SignatureAlgorithm) (want : String) : Prop :=
  ∃ algo ∈ supported, Go.equalFold algo.hashFunction want = true

/-- The hash is the earliest preference on offer, and the algorithm one that
offers it. -/
structure BestChoice (preference : List String) (supported : List SignatureAlgorithm)
    (prepared : Prepared) : Prop where
  earliest : ∃ pre post, preference = pre ++ prepared.hashFn :: post ∧
    ∀ want ∈ pre, ¬ Offers supported want
  supported : prepared.algo ∈ supported
  same_hash : Go.equalFold prepared.algo.hashFunction prepared.hashFn = true

section

variable {supported : List SignatureAlgorithm} {preference : List String}

theorem contains_toUpper_iff {want : String} (hwant : want ∈ supportedHashFunctions) :
    (supported.map fun s => Go.toUpper s.hashFunction).contains (Go.toUpper want) = true ↔
      Offers supported want := by
  rw [List.contains_iff_mem, List.mem_map]
  exact exists_congr (fun algo => and_congr_right (fun _ =>
    toUpper_eq_iff_equalFold hwant))

/-- Either nothing preferred is on offer, or the earliest that is gets
selected. -/
theorem selectHashFunction_cases (hpref : ∀ name ∈ preference, name ∈ supportedHashFunctions) :
    ((∀ want ∈ preference, ¬ Offers supported want) ∧
      selectHashFunction preference supported =
        .error (.typed .errNoSupportedHashFunction)) ∨
    ∃ pre want post, preference = pre ++ want :: post ∧ Offers supported want ∧
      (∀ x ∈ pre, ¬ Offers supported x) ∧
      selectHashFunction preference supported = .ok want := by
  rw [selectHashFunction]
  split
  · next want hfind =>
      obtain ⟨hwant, pre, post, hsplit, hpre⟩ := List.find?_eq_some_iff_append.mp hfind
      have hmem : ∀ x ∈ pre, x ∈ preference := by
        intro x hx
        rw [hsplit]
        exact List.mem_append_left _ hx
      refine .inr ⟨pre, want, post, hsplit, ?_, ?_, rfl⟩
      · exact (contains_toUpper_iff
          (hpref want (List.mem_of_find?_eq_some hfind))).mp hwant
      · intro x hx hoffers
        have hmiss := hpre x hx
        rw [(contains_toUpper_iff (hpref x (hmem x hx))).mpr hoffers] at hmiss
        cases hmiss
  · next hfind =>
      refine .inl ⟨?_, rfl⟩
      intro want hwant hoffers
      exact List.find?_eq_none.mp hfind want hwant
        ((contains_toUpper_iff (hpref want hwant)).mpr hoffers)

/-- What is on offer is found, and the synthetic algorithm is not reached. -/
theorem pickAlgorithmForHash_mem {hashFn : String} (h : Offers supported hashFn) :
    pickAlgorithmForHash hashFn supported ∈ supported ∧
      Go.equalFold (pickAlgorithmForHash hashFn supported).hashFunction hashFn = true := by
  rw [pickAlgorithmForHash]
  split
  · next algo hfind =>
      have hequal : equalFoldHash algo.hashFunction hashFn = true := by
        have hsome := List.find?_some hfind
        exact hsome
      exact ⟨List.mem_of_find?_eq_some hfind, hequal⟩
  · next hfind =>
      obtain ⟨algo, halgo, hequal⟩ := h
      exact absurd hequal (List.find?_eq_none.mp hfind algo halgo)

/-- The selection sees only which upper-cased names are on offer. -/
theorem selectHashFunction_congr {supported' : List SignatureAlgorithm}
    (hsame : ∀ algo, algo ∈ supported' ↔ algo ∈ supported) :
    selectHashFunction preference supported' = selectHashFunction preference supported := by
  have hcontains : ∀ name : String,
      (supported'.map fun s => Go.toUpper s.hashFunction).contains name =
        (supported.map fun s => Go.toUpper s.hashFunction).contains name := by
    intro name
    rw [Bool.eq_iff_iff, List.contains_iff_mem, List.contains_iff_mem, List.mem_map,
      List.mem_map]
    exact exists_congr (fun algo => and_congr_left' (hsame algo))
  simp only [selectHashFunction, hcontains]

end

/-- Past the gates, the answer is the negotiation's. -/
theorem prepareSigning_negotiates {P : Platform} {env : ValidateEnv} {s : Signer} {der : Bytes}
    {cert : Certificate} {f : Nat → TrustSnapshot}
    (hcert : s.checkCertificate P env.now der = .ok cert)
    (htrust : (s.checkTrust P env cert).under f = .ok ())
    (supported : List SignatureAlgorithm) :
    (s.prepareSigning P env der supported).under f = s.negotiate cert supported := by
  rw [Signer.prepareSigning_eq, hcert, Call.under_lift_bind, bind_ok, Call.under_bind_lift,
    htrust, bind_ok]

/-- For every signer and every offer, past the gates: the preparation fails
for want of a hash exactly when no preference is on offer, otherwise its
choice is the best one, and the hash depends on nothing but the set of
algorithms offered. -/
theorem negotiation_best {P : Platform} {opts : Options} {s : Signer}
    (hnew : newSigner opts = .ok s) {env : ValidateEnv} {der : Bytes} {cert : Certificate}
    {f : Nat → TrustSnapshot}
    (hcert : s.checkCertificate P env.now der = .ok cert)
    (htrust : (s.checkTrust P env cert).under f = .ok ())
    (supported : List SignatureAlgorithm) :
    ((s.prepareSigning P env der supported).under f =
        .error (.typed .errNoSupportedHashFunction) ↔
      ∀ want ∈ s.hashPreference, ¬ Offers supported want) ∧
    ((∃ want ∈ s.hashPreference, Offers supported want) →
      ∃ prepared, (s.prepareSigning P env der supported).under f = .ok prepared ∧
        BestChoice s.hashPreference supported prepared) ∧
    ∀ supported', (∀ algo, algo ∈ supported' ↔ algo ∈ supported) →
      ((s.prepareSigning P env der supported').under f).map (·.hashFn) =
        ((s.prepareSigning P env der supported).under f).map (·.hashFn) := by
  obtain ⟨rfl, hpref⟩ := newSigner_ok hnew
  simp only [prepareSigning_negotiates hcert htrust, Signer.negotiate]
  refine ⟨?_, ?_, ?_⟩
  · rcases selectHashFunction_cases hpref with
      ⟨hnone, herror⟩ | ⟨pre, want, post, hsplit, hoffers, -, hok⟩
    · rw [herror]
      exact iff_of_true rfl hnone
    · rw [hok]
      refine iff_of_false (by simp) ?_
      intro hnone
      exact hnone want (by simp [hsplit]) hoffers
  · rintro ⟨want, hwant, hoffers⟩
    rcases selectHashFunction_cases hpref with
      ⟨hnone, -⟩ | ⟨pre, best, post, hsplit, hbest, hpre, hok⟩
    · exact absurd hoffers (hnone want hwant)
    · obtain ⟨hmem, hequal⟩ := pickAlgorithmForHash_mem hbest
      refine ⟨_, by rw [hok]; rfl, ⟨pre, post, hsplit, hpre⟩, hmem, hequal⟩
  · intro supported' hsame
    rw [selectHashFunction_congr hsame]
    cases selectHashFunction opts.hashPreference supported with
    | error e => rfl
    | ok hashFn => rfl

/-- A card that writes its hash names with the long s. -/
theorem negotiation_best_long_s :
    ∃ prepared, ((⟨["SHA-384", "SHA-256"], some 0, none, []⟩ : Signer).prepareSigning
        cardPlatform cardEnv [] [⟨"RSA", "ſha-256", "PSS"⟩]).under emptyTrust = .ok prepared ∧
      BestChoice ["SHA-384", "SHA-256"] [⟨"RSA", "ſha-256", "PSS"⟩] prepared := by
  have hcert : (⟨["SHA-384", "SHA-256"], some 0, none, []⟩ : Signer).checkCertificate
      cardPlatform cardEnv.now [] = .ok cardCertificate := by
    decide +kernel
  have hlong : Go.equalFold "ſha-256" "SHA-256" = true := by
    rw [Go.equalFold, beq_iff_eq, Go.map_eq_map_iff]
    decide +kernel
  refine (negotiation_best
    (show newSigner ⟨["SHA-384", "SHA-256"], some 0, none, []⟩ = .ok _ by decide +kernel)
    hcert (by decide +kernel) _).2.1 ?_
  exact ⟨"SHA-256", by simp, ⟨"RSA", "ſha-256", "PSS"⟩, by simp, hlong⟩

/-! ## Honest signature values -/

/-- The hashes and the private keys on the other side: `hash` by name, the
pairs `r, s` an ECDSA key produces for a digest, and the values an RSA key
produces, with PSS or not, for the digest of a named hash. -/
structure Card where
  hash : String → Bytes → Bytes
  ecdsa : EcdsaPublicKey → Bytes → Nat → Nat → Prop
  rsa : RsaPublicKey → Bool → String → Bytes → Bytes → Prop

/-- Hashes have their lengths and the platform accepts what a key produced. -/
structure Card.Correct (P : Platform) (card : Card) : Prop where
  hash_length : ∀ name data size, hashSizes.lookup name = some size →
    (card.hash name data).length = size
  ecdsa_verifies : ∀ pub digest r s, card.ecdsa pub digest r s →
    r < 256 ^ ((pub.curve.bitSize + 7) / 8) ∧ s < 256 ^ ((pub.curve.bitSize + 7) / 8) ∧
      P.ecdsaVerify pub digest r s = true
  rsa_verifies : ∀ pub pss name h digest sig, card.rsa pub pss name digest sig →
    hashNameToCryptoHash.lookup name = some h → sig ≠ [] ∧
      (if pss then P.rsaVerifyPSS pub h digest sig
        else P.rsaVerifyPKCS1v15 pub h digest sig) = .ok ()

/-- The signature value was produced by the certificate's key over a digest of
the negotiated hash, in the encoding the verifier expects. -/
def Card.Produced (card : Card) (prepared : Prepared) (data sig : Bytes) : Prop :=
  match prepared.cert.publicKey with
  | .ecdsa pub => ∃ r s, card.ecdsa pub (card.hash prepared.hashFn data) r s ∧
      sig = Go.fillBytes ((pub.curve.bitSize + 7) / 8) r ++
        Go.fillBytes ((pub.curve.bitSize + 7) / 8) s
  | .rsa pub => card.rsa pub (Go.equalFold prepared.algo.paddingScheme "PSS") prepared.hashFn
      (card.hash prepared.hashFn data) sig
  | .other _ => False

theorem hash_ne_nil {P : Platform} {card : Card} (hcard : card.Correct P) {name : String}
    (hname : name ∈ supportedHashFunctions) (data : Bytes) : card.hash name data ≠ [] := by
  have hsize : ∃ size, hashSizes.lookup name = some (size + 1) := by
    simp only [supportedHashFunctions, List.mem_cons, List.not_mem_nil, or_false] at hname
    rcases hname with rfl | rfl | rfl | rfl | rfl | rfl | rfl | rfl <;> exact ⟨_, rfl⟩
  obtain ⟨size, hsize⟩ := hsize
  have hlength := hcard.hash_length name data (size + 1) hsize
  intro hnil
  rw [hnil] at hlength
  cases hlength

/-- An honest signature value for what was negotiated is accepted exactly when
the key is an ECDSA key or the hash is one the RSA branch can name. -/
theorem negotiated_verifies_iff {P : Platform} {card : Card}
    (hcard : card.Correct P) {opts : Options} {s : Signer} (hnew : newSigner opts = .ok s)
    {env : ValidateEnv} {der : Bytes} {supported : List SignatureAlgorithm}
    {f : Nat → TrustSnapshot} {prepared : Prepared}
    (hprepare : (s.prepareSigning P env der supported).under f = .ok prepared)
    {data sig : Bytes} (hsig : card.Produced prepared data sig) :
    verifySignatureValue P prepared.cert prepared.algo (card.hash prepared.hashFn data) sig =
        .ok () ↔
      (∃ pub, prepared.cert.publicKey = .ecdsa pub) ∨
        (hashNameToCryptoHash.lookup prepared.hashFn).isSome = true := by
  obtain ⟨rfl, hpref⟩ := newSigner_ok hnew
  obtain ⟨-, -, -, -, hneg⟩ := Signer.prepareSigning_ok hprepare
  obtain ⟨hmem, hupper⟩ := negotiate_ok hpref hneg
  have hdigest := hash_ne_nil hcard hmem data
  rw [Card.Produced] at hsig
  cases hkey : prepared.cert.publicKey with
  | ecdsa pub =>
      rw [hkey] at hsig
      obtain ⟨r, s, hrs, rfl⟩ := hsig
      obtain ⟨hr, hs, hverify⟩ := hcard.ecdsa_verifies pub _ r s hrs
      rw [verifySignatureValue_ecdsa_iff hkey]
      exact ⟨fun _ => Or.inl ⟨pub, rfl⟩, fun _ => p1363Verifies_fillBytes hdigest hr hs hverify⟩
  | rsa pub =>
      rw [hkey] at hsig
      rw [verifySignatureValue_rsa_iff hkey, RsaVerifies, hupper]
      constructor
      · rintro ⟨-, -, h, hlookup, -⟩
        exact Or.inr (by rw [hlookup]; rfl)
      · rintro (⟨pub', hpub'⟩ | hsome)
        · cases hpub'
        · obtain ⟨h, hlookup⟩ := Option.isSome_iff_exists.mp hsome
          obtain ⟨hne, hverify⟩ := hcard.rsa_verifies pub _ prepared.hashFn h _ sig hsig hlookup
          obtain ⟨-, hsize⟩ := hashSizes_of_lookup hlookup
          exact ⟨hdigest, hne, h, hlookup, (hcard.hash_length _ data _ hsize).symm, hverify⟩
  | other raw =>
      rw [hkey] at hsig
      exact hsig.elim

/-! An RSA card that offers one hash, and a service that prefers it. -/

def rsaCard : Card where
  hash := fun name _ => List.replicate ((hashSizes.lookup name).getD 0) 0
  ecdsa := fun _ _ _ _ => False
  rsa := fun _ _ _ _ sig => sig = [7]

def rsaCardCertificate : Certificate := { cardCertificate with publicKey := .rsa ⟨35, 5⟩ }

def rsaCardPlatform : Platform :=
  { Platform.refusing with
    parseCertificate := fun _ => .ok rsaCardCertificate
    rsaVerifyPKCS1v15 := fun _ _ _ sig => if sig = [7] then .ok () else .error (.text "")
    rsaVerifyPSS := fun _ _ _ sig => if sig = [7] then .ok () else .error (.text "") }

def rsaCardPrepared (name : String) : Prepared :=
  ⟨rsaCardCertificate, ⟨"RSA", name, "PKCS1.5"⟩, name⟩

theorem rsaCard_correct : rsaCard.Correct rsaCardPlatform where
  hash_length := by
    intro name data size hsize
    show (List.replicate ((hashSizes.lookup name).getD 0) 0).length = size
    rw [List.length_replicate, hsize]
    rfl
  ecdsa_verifies := by
    intro pub digest r s h
    exact h.elim
  rsa_verifies := by
    rintro pub pss name h digest sig rfl -
    refine ⟨by simp, ?_⟩
    cases pss <;> rfl

theorem negotiated_verifies_sha256 :
    verifySignatureValue rsaCardPlatform rsaCardCertificate ⟨"RSA", "SHA-256", "PKCS1.5"⟩
      (rsaCard.hash "SHA-256" []) [7] = .ok () := by
  have hprepare : ((⟨["SHA-256"], none, none, []⟩ : Signer).prepareSigning rsaCardPlatform cardEnv
      [] [⟨"RSA", "SHA-256", "PKCS1.5"⟩]).under emptyTrust = .ok (rsaCardPrepared "SHA-256") := by
    decide +kernel
  have hsig : rsaCard.Produced (rsaCardPrepared "SHA-256") [] [7] := rfl
  exact (negotiated_verifies_iff rsaCard_correct
    (show newSigner ⟨["SHA-256"], none, none, []⟩ = .ok _ by decide +kernel) hprepare hsig).mpr
      (Or.inr (by decide +kernel))

/-- SHA3-256 is preferred, offered and negotiated, and then not verified. -/
theorem negotiated_unverifiable_sha3 :
    newSigner ⟨["SHA3-256"], none, none, []⟩ = .ok ⟨["SHA3-256"], none, none, []⟩ ∧
      ((⟨["SHA3-256"], none, none, []⟩ : Signer).prepareSigning rsaCardPlatform cardEnv []
        [⟨"RSA", "SHA3-256", "PKCS1.5"⟩]).under emptyTrust = .ok (rsaCardPrepared "SHA3-256") ∧
      rsaCard.Correct rsaCardPlatform ∧
      rsaCard.Produced (rsaCardPrepared "SHA3-256") [] [7] ∧
      verifySignatureValue rsaCardPlatform rsaCardCertificate ⟨"RSA", "SHA3-256", "PKCS1.5"⟩
        (rsaCard.hash "SHA3-256" []) [7] =
          .error (wrap .errSignatureValueInvalid errUnsupportedRSAHash) :=
  ⟨by decide +kernel, by decide +kernel, rsaCard_correct, rfl, by decide +kernel⟩

end WebEid.Signing
