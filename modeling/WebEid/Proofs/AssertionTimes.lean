import WebEid.Lib.ReplayCache
import WebEid.Proofs.Assertions

/-!
# How long an assertion is good for

The times of a token are whatever its signer wrote: any int64 in `exp` and
`iat`, or nothing. `Verify` decodes them into plain integers, where nothing
and zero are the same, skips the test of a zero, and computes the instant of
every other number with `time.Unix`, whose shift to the year 1 wraps.

A wrapped `exp` is an instant of the far past and is only ever refused. A
wrapped `iat` is one too, and passes. So an accepted token is within its
times except in the cases `Slips` lists.

The second half is about the consumer, who is told to enforce single use of
the `jti`. Remembering it until the expiry is enough exactly when every
accepted token has one: a zero expiry is in the past as soon as it is read,
and the token behind it never stops being accepted.
-/

namespace WebEid.Assertion

open Lib Exceptions

/-- `exp` and `iat` as they stand in a payload. -/
structure Times where
  exp : Option Int64
  iat : Option Int64

/-- The decoder leaves a zero where the payload has no number. -/
def ReadsTimes (P : Platform) (written : Bytes → Times) : Prop :=
  ∀ b c, P.unmarshalClaims b = .ok c →
    c.expiry = ((written b).exp.getD 0).toInt ∧ c.issuedAt = ((written b).iat.getD 0).toInt

def tokenTimes (written : Bytes → Times) (token : String) : Times :=
  match Go.split token '.' with
  | [_, payload, _] => (Base64.rawURLEncoding.decodeString payload).elim ⟨none, none⟩ written
  | _ => ⟨none, none⟩

/-- The instant of a Unix time, not wrapped. -/
def unixNs (sec : Int) : Int := (sec + 62135596800) * 1000000000

/-- Within the times of the token, which has an expiry. -/
def Timely (t : Times) (now : Time) (leeway : Duration) : Prop :=
  (∃ e, t.exp = some e ∧ now.ns ≤ unixNs e.toInt + leeway.toInt) ∧
    ∀ i, t.iat = some i → unixNs i.toInt ≤ now.ns + leeway.toInt

/-- The ways past the two tests: no expiry, a zero expiry that has passed, and
an issue time in the future that is zero or wraps. -/
def Slips (t : Times) (now : Time) (leeway : Duration) : Prop :=
  t.exp = none ∨ (t.exp = some 0 ∧ unixNs 0 + leeway.toInt < now.ns) ∨
    ∃ i, t.iat = some i ∧ (i = 0 ∨ 2 ^ 63 ≤ i.toInt + 62135596800) ∧
      now.ns + leeway.toInt < unixNs i.toInt

/-! ## The clock tests in exact numbers -/

theorem ofUnix_of_lt {i : Int64} (h : i.toInt + 62135596800 < 2 ^ 63) :
    (Time.ofUnix i.toInt).ns = unixNs i.toInt := by
  have hlo := Int64.le_toInt i
  rw [Time.ofUnix, unixNs, Int64.toInt_ofInt_of_le (by omega) h]

theorem ofUnix_le (i : Int64) : (Time.ofUnix i.toInt).ns ≤ unixNs i.toInt := by
  have hlo := Int64.le_toInt i
  have hsize : ((Int64.size : Nat) : Int) = 2 ^ 64 := rfl
  show (Int64.ofInt (i.toInt + 62135596800)).toInt * 1000000000 ≤ _
  rw [unixNs, Int64.toInt_ofInt, Int.bmod_def, hsize]
  omega

section

variable {P : Platform} {written : Bytes → Times} {v : Verifier} {now : Time} {token : String}
  {c : Claims}

/-- The claims of an accepted token carry its times, and passed the tests. -/
theorem verify_times (hread : ReadsTimes P written) (h : v.verify P now token = .ok c) :
    c.expiry = ((tokenTimes written token).exp.getD 0).toInt ∧
      c.issuedAt = ((tokenTimes written token).iat.getD 0).toInt ∧
      v.checkClaims now c = .ok c := by
  obtain ⟨header, payload, signature, -, -, hsplit, -, -, -, hclaims, hcheck⟩ :=
    Verifier.verify_ok h
  obtain ⟨b, hb, hunmarshal⟩ := bind_eq_ok hclaims
  have hdecode : Base64.rawURLEncoding.decodeString payload = some b := by
    rw [decodeSegment] at hb
    split at hb
    · cases hb
    · next hdecode =>
        cases hb
        exact hdecode
  have htimes : tokenTimes written token = written b := by
    rw [tokenTimes, hsplit]
    show (Base64.rawURLEncoding.decodeString payload).elim _ _ = _
    rw [hdecode]
    rfl
  obtain ⟨hexp, hiat⟩ := hread b c (mapError_eq_ok hunmarshal)
  rw [htimes]
  exact ⟨hexp, hiat, hcheck⟩

theorem timely_of_accepted (hread : ReadsTimes P written)
    (h : v.verify P now token = .ok c) :
    Timely (tokenTimes written token) now v.leeway ↔
      ¬ Slips (tokenTimes written token) now v.leeway := by
  obtain ⟨hexp, hiat, hcheck⟩ := verify_times hread h
  obtain ⟨-, -, -, hbefore, hafter⟩ := Verifier.checkClaims_ok_iff.mp hcheck
  rw [hexp] at hbefore
  rw [hiat] at hafter
  constructor
  · rintro ⟨⟨e, he, hle⟩, hissue⟩ (hnone | ⟨hzero, hpast⟩ | ⟨i, hi, -, hfuture⟩)
    · rw [he] at hnone
      cases hnone
    · rw [he] at hzero
      cases hzero
      exact absurd hle (Int.not_le.mpr hpast)
    · exact absurd (hissue i hi) (Int.not_le.mpr hfuture)
  · intro hslips
    refine ⟨?_, ?_⟩
    · cases he : (tokenTimes written token).exp with
      | none => exact absurd (.inl he) hslips
      | some e =>
          refine ⟨e, rfl, ?_⟩
          by_cases hzero : e = 0
          · subst hzero
            exact Int.not_lt.mp (fun hpast => hslips (.inr (.inl ⟨he, hpast⟩)))
          · rw [he] at hbefore
            have hne : e.toInt ≠ 0 := fun h => hzero (Int64.toInt_inj.mp h)
            exact Int.le_trans (hbefore hne) (Int.add_le_add_right (ofUnix_le e) _)
    · intro i hi
      by_contra hfuture
      refine hslips (.inr (.inr ⟨i, hi, ?_, Int.not_le.mp hfuture⟩))
      by_contra hgood
      obtain ⟨hzero, hwrap⟩ := not_or.mp hgood
      rw [hi] at hafter
      have hne : i.toInt ≠ 0 := fun h => hzero (Int64.toInt_inj.mp h)
      have hle := hafter hne
      rw [Option.getD_some, ofUnix_of_lt (Int.not_le.mp hwrap)] at hle
      exact hfuture hle

/-! ## The consumer -/

/-- A token that passed stays accepted as long as its expiry is zero. -/
theorem verify_later (hzero : c.expiry = 0) (h : v.verify P now token = .ok c) {later : Time}
    (hle : now.ns ≤ later.ns) : v.verify P later token = .ok c := by
  obtain ⟨header, payload, signature, hdr, pub, hsplit, hhdr, hpub, hsig, hclaims, hcheck⟩ :=
    Verifier.verify_ok h
  obtain ⟨-, hiss, haud, -, hiat⟩ := Verifier.checkClaims_ok_iff.mp hcheck
  have hlater : v.checkClaims later c = .ok c := by
    refine Verifier.checkClaims_ok_iff.mpr ⟨rfl, hiss, haud, fun hne => absurd hzero hne, ?_⟩
    intro hne
    exact Int.le_trans (hiat hne) (Int.add_le_add_right hle _)
  rw [Verifier.verify, hsplit]
  simp only [hhdr, hpub, hsig, hclaims, bind_ok, hlater]

end

/-- The consumer that remembers every `jti` until expiry and leeway. -/
def consumer (P : Platform) (v : Verifier) : ReplayCache.Policy String Claims String where
  check now token := (v.verify P ⟨now⟩ token).toOption
  name c := c.jwtID
  keep c := unixNs c.expiry + v.leeway.toInt

theorem consumer_check {P : Platform} {v : Verifier} {now : Int} {token : String} {c : Claims} :
    (consumer P v).check now token = some c ↔ v.verify P ⟨now⟩ token = .ok c := by
  show (v.verify P ⟨now⟩ token).toOption = some c ↔ _
  cases v.verify P ⟨now⟩ token with
  | error e => simp [Except.toOption]
  | ok c' => simp [Except.toOption]

theorem consumer_bounded_iff {P : Platform} {written : Bytes → Times}
    (hread : ReadsTimes P written) (v : Verifier) :
    ReplayCache.Bounded (consumer P v) ↔
      ∀ now token c, v.verify P now token = .ok c → c.expiry ≠ 0 := by
  constructor
  · intro hbounded now token c h hzero
    -- accepted now, and again any time after a zero expiry is past
    have hagain : v.verify P ⟨max now.ns (unixNs c.expiry + v.leeway.toInt + 1)⟩ token =
        .ok c := verify_later hzero h (Int.le_max_left _ _)
    have hkeep := hbounded _ _ _ _ c (consumer_check.mpr h) (consumer_check.mpr hagain)
      (Int.le_max_left _ _)
    have hpast : max now.ns (unixNs c.expiry + v.leeway.toInt + 1) ≤
      unixNs c.expiry + v.leeway.toInt := hkeep
    omega
  · intro hexp t t' x x' c _ h' _
    have h := consumer_check.mp h'
    obtain ⟨hwritten, -, hcheck⟩ := verify_times hread h
    obtain ⟨-, -, -, hbefore, -⟩ := Verifier.checkClaims_ok_iff.mp hcheck
    have hle := hbefore (hexp _ _ _ h)
    have hwrap := ofUnix_le ((tokenTimes written x').exp.getD 0)
    rw [← hwritten] at hwrap
    show t' ≤ unixNs c.expiry + v.leeway.toInt
    exact Int.le_trans hle (Int.add_le_add_right hwrap _)

/-- Every token a verifier accepts is within its times unless it slips past
the tests in one of three ways, and remembering each `jti` until the expiry
keeps every run of the consumer free of replays exactly when no token without
an expiry is accepted. -/
theorem accepted_timely_iff {P : Platform} {written : Bytes → Times}
    (hread : ReadsTimes P written) (v : Verifier) :
    (∀ now token c, v.verify P now token = .ok c →
      (Timely (tokenTimes written token) now v.leeway ↔
        ¬ Slips (tokenTimes written token) now v.leeway)) ∧
    ((∀ s, (ReplayCache.machine (consumer P v)).Reach s → s.accepted.Nodup) ↔
      ∀ now token c, v.verify P now token = .ok c → c.expiry ≠ 0) := by
  refine ⟨?_, ?_⟩
  · intro now token c h
    exact timely_of_accepted hread h
  · rw [ReplayCache.nodup_iff]
    exact consumer_bounded_iff hread v

/-- A token with both its times, and no other, on the sample platform. -/
theorem accepted_timely_sample :
    Timely ⟨some 125, some 5⟩ ⟨62135596806000000000⟩ defaultLeeway ∧
      ∀ s, (ReplayCache.machine (consumer samplePlatform sampleVerifier)).Reach s →
        s.accepted.Nodup := by
  have hread : ReadsTimes samplePlatform fun _ => ⟨some 125, some 5⟩ := by
    intro b c hc
    cases hc
    exact ⟨rfl, rfl⟩
  have htimes : tokenTimes (fun _ => ⟨some 125, some 5⟩) sampleToken = ⟨some 125, some 5⟩ := by
    rw [tokenTimes, sampleToken, sampleSigned,
      split_compact (dot_notMem_b64 _) (dot_notMem_b64 _) (dot_notMem_b64 _)]
    show (Base64.rawURLEncoding.decodeString (b64 _)).elim _ _ = _
    rw [b64, Base64.decodeString_encodeToString Base64.sound_rawURLEncoding]
    rfl
  obtain ⟨htimely, hreplay⟩ := accepted_timely_iff hread sampleVerifier
  rw [← htimes]
  refine ⟨(htimely _ _ _ sampleToken_verified).mpr ?_, hreplay.mpr ?_⟩
  · rw [htimes]
    rintro (hnone | ⟨hzero, -⟩ | ⟨i, hi, -, hfuture⟩)
    · cases hnone
    · cases hzero
    · cases hi
      exact absurd hfuture (by decide)
  · intro now token c h
    obtain ⟨_, _, _, _, _, -, -, -, -, hclaims, -⟩ := Verifier.verify_ok h
    obtain ⟨b, -, hunmarshal⟩ := bind_eq_ok hclaims
    cases mapError_eq_ok hunmarshal
    decide

/-- The sample login again, with a payload that has no `exp` and an `iat` at
the end of int64. -/
def timelessClaims : Claims := { sampleClaims with expiry := 0, issuedAt := 2 ^ 63 - 1 }

def timelessPlatform : Platform :=
  { samplePlatform with unmarshalClaims := fun _ => .ok timelessClaims }

/-- It is accepted half a century later, from a future that has not come, and
a second time by the consumer who forgot it. -/
theorem accepted_timeless :
    sampleVerifier.verify timelessPlatform ⟨63700000000000000000⟩ sampleToken =
        .ok timelessClaims ∧
      ¬ Timely ⟨none, some Int64.maxValue⟩ ⟨63700000000000000000⟩ defaultLeeway ∧
      ∃ s, (ReplayCache.machine (consumer timelessPlatform sampleVerifier)).Reach s ∧
        s.accepted = [timelessClaims, timelessClaims] := by
  have hverify : sampleVerifier.verify timelessPlatform ⟨63700000000000000000⟩ sampleToken =
      .ok timelessClaims :=
    (verify_sampleToken _ timelessClaims).trans (by decide +kernel)
  refine ⟨hverify, ?_, ?_⟩
  · rintro ⟨⟨e, he, -⟩, -⟩
    cases he
  · exact ReplayCache.reach_twice (consumer_check.mpr hverify) (consumer_check.mpr hverify)
      (Int.le_refl _) (by decide)

end WebEid.Assertion
