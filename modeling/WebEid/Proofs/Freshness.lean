import WebEid.Ref.Ocsp

/-!
# The freshness window of an OCSP response

`checkFreshness` makes three comparisons. Two are between instants and are
exact. The third compares a difference of instants, which Go clamps to int64,
with a sum of durations, which Go wraps. Both durations come from the
options, and nothing there limits them from above.

So the window is the intended one as long as the sum of maximum age and skew
stays below the largest duration. At the largest duration the clamped age can
no longer exceed it and a response of any age passes; above it the sum is
negative, and a response made this very moment is refused as too old. In all
three ranges each comparison is monotone in the clock, which is enough for
the other half: the instants that accept a response have no gap, and none of
them comes after the response has gone stale.
-/

namespace WebEid.Ocsp

open Lib Exceptions

/-- The intended window, in exact numbers. -/
def InWindow (skew maxAge : Int) (resp : OcspResponse) (now : Time) : Prop :=
  resp.thisUpdate.ns ≤ now.ns + skew ∧ now.ns - resp.thisUpdate.ns ≤ maxAge + skew ∧
    (resp.nextUpdate.isZero = true ∨ now.ns - skew ≤ resp.nextUpdate.ns)

/-- Refused for its age or for its `nextUpdate`. -/
def Stale (c : Checker) (resp : OcspResponse) (now : Time) : Prop :=
  c.checkFreshness resp now = .error (wrapOCSPError errResponseExpired) ∨
    c.checkFreshness resp now = .error (wrapOCSPError errThisUpdateTooOld)

/-- A default in place of what is not positive. -/
theorem defaulted_pos {d standard : Duration} (h : 0 < standard) :
    0 < (if d ≤ 0 then standard else d).toInt := by
  refine Int64.lt_iff_toInt_lt.mp (?_ : 0 < if d ≤ 0 then standard else d)
  split
  · exact h
  · next hd => exact Int64.not_le.mp hd

theorem newChecker_skew_pos (opts : Options) :
    0 < (newChecker opts).opts.allowedResponseTimeSkew.toInt :=
  defaulted_pos (by decide)

theorem newChecker_maxAge_pos (opts : Options) :
    0 < (newChecker opts).opts.maxResponseThisUpdateAge.toInt :=
  defaulted_pos (by decide)

section

variable {c : Checker} {resp : OcspResponse}

/-- The two exact comparisons, and the third as Go computes it. -/
theorem checkFreshness_ok_iff (hskew : 0 < c.opts.allowedResponseTimeSkew.toInt) {now : Time} :
    c.checkFreshness resp now = .ok () ↔
      resp.thisUpdate.ns ≤ now.ns + c.opts.allowedResponseTimeSkew.toInt ∧
      (resp.nextUpdate.isZero = true ∨
        now.ns - c.opts.allowedResponseTimeSkew.toInt ≤ resp.nextUpdate.ns) ∧
      now.sub resp.thisUpdate ≤
        c.opts.maxResponseThisUpdateAge + c.opts.allowedResponseTimeSkew := by
  simp only [Checker.checkFreshness, Time.after_iff, Time.before_iff, Time.add_ns,
    toInt_neg_of_pos hskew, Bool.and_eq_true, Bool.not_eq_true']
  split
  · next hfuture =>
      refine iff_of_false (by simp) ?_
      intro h
      omega
  · next hfuture =>
      split
      · next hexpired =>
          refine iff_of_false (by simp) ?_
          rintro ⟨-, hnext, -⟩
          rcases hnext with hzero | hnext
          · rw [hexpired.1] at hzero
            cases hzero
          · omega
      · next hexpired =>
          have hnext : resp.nextUpdate.isZero = true ∨
              now.ns - c.opts.allowedResponseTimeSkew.toInt ≤ resp.nextUpdate.ns := by
            cases hzero : resp.nextUpdate.isZero with
            | true => exact .inl rfl
            | false =>
                refine .inr (Int.not_lt.mp ?_)
                intro hlt
                exact hexpired ⟨hzero, by omega⟩
          split
          · next hold =>
              refine iff_of_false (by simp) ?_
              rintro ⟨-, -, hage⟩
              exact absurd hold (Int64.not_lt.mpr hage)
          · next hold =>
              exact iff_of_true rfl ⟨by omega, hnext, Int64.not_lt.mp hold⟩

theorem accepts_between (hskew : 0 < c.opts.allowedResponseTimeSkew.toInt) {a b t : Time}
    (ha : c.checkFreshness resp a = .ok ()) (ht : c.checkFreshness resp t = .ok ())
    (hab : a.ns ≤ b.ns) (hbt : b.ns ≤ t.ns) : c.checkFreshness resp b = .ok () := by
  obtain ⟨hfuture, -, -⟩ := (checkFreshness_ok_iff hskew).mp ha
  obtain ⟨-, hnext, hage⟩ := (checkFreshness_ok_iff hskew).mp ht
  refine (checkFreshness_ok_iff hskew).mpr ⟨by omega, ?_, ?_⟩
  · exact hnext.imp_right (fun hnext => by omega)
  · exact Int64.le_trans (Time.sub_le_sub hbt _) hage

/-- A stale refusal comes from one of the two tests that only get harder as
the clock moves on. -/
theorem not_accepts_after_stale (hskew : 0 < c.opts.allowedResponseTimeSkew.toInt)
    {a b : Time} (hstale : Stale c resp a) (hab : a.ns ≤ b.ns) :
    c.checkFreshness resp b ≠ .ok () := by
  intro hb
  obtain ⟨-, hnext, hage⟩ := (checkFreshness_ok_iff hskew).mp hb
  have hnext' := hnext.imp_right (fun h => Int.le_trans (Int.sub_le_sub_right hab _) h)
  have hage' := Int64.le_trans (Time.sub_le_sub hab resp.thisUpdate) hage
  by_cases hfuture : resp.thisUpdate.ns ≤ a.ns + c.opts.allowedResponseTimeSkew.toInt
  · -- Only the stale tests are left, and both pass: it was accepted.
    have ha := (checkFreshness_ok_iff hskew).mpr ⟨hfuture, hnext', hage'⟩
    rcases hstale with h | h <;> rw [ha] at h <;> cases h
  · -- The first test answers, with its own error.
    have hafter : resp.thisUpdate.after (a.add c.opts.allowedResponseTimeSkew) = true := by
      rw [Time.after_iff, Time.add_ns]
      omega
    have ha : c.checkFreshness resp a = .error (wrapOCSPError errThisUpdateInFuture) := by
      simp only [Checker.checkFreshness, hafter, if_true]
    rcases hstale with h | h <;> rw [ha] at h <;> exact absurd h (by decide)

/-- A sum below the largest duration is exact, and no clamped age is mistaken
for a smaller one. -/
theorem checkFreshness_inWindow (hskew : 0 < c.opts.allowedResponseTimeSkew.toInt)
    (hage : 0 < c.opts.maxResponseThisUpdateAge.toInt)
    (hsum : c.opts.maxResponseThisUpdateAge.toInt + c.opts.allowedResponseTimeSkew.toInt <
      2 ^ 63 - 1) {now : Time} :
    c.checkFreshness resp now = .ok () ↔
      InWindow c.opts.allowedResponseTimeSkew.toInt c.opts.maxResponseThisUpdateAge.toInt
        resp now := by
  have hexact := toInt_add_of_lt (Int.le_of_lt hage) (Int.le_of_lt hskew) (by omega)
  rw [checkFreshness_ok_iff hskew, Time.sub_le_iff (by omega), hexact, InWindow]
  exact and_congr_right (fun _ => and_comm)

end

/-- A response without `nextUpdate`. -/
def openResponse (thisUpdate : Time) : OcspResponse :=
  ⟨.good, 0, thisUpdate, ⟨0⟩, [], none⟩

section

variable {c : Checker}

/-- At the largest duration the age test passes whatever the age. -/
theorem accepts_any_age (hskew : 0 < c.opts.allowedResponseTimeSkew.toInt)
    (hage : 0 < c.opts.maxResponseThisUpdateAge.toInt)
    (hsum : c.opts.maxResponseThisUpdateAge.toInt + c.opts.allowedResponseTimeSkew.toInt =
      2 ^ 63 - 1) {t now : Time} (hle : t.ns ≤ now.ns) :
    c.checkFreshness (openResponse t) now = .ok () := by
  have hexact := toInt_add_of_lt (Int.le_of_lt hage) (Int.le_of_lt hskew) (by omega)
  refine (checkFreshness_ok_iff hskew).mpr ⟨?_, .inl rfl, ?_⟩
  · show t.ns ≤ now.ns + c.opts.allowedResponseTimeSkew.toInt
    omega
  · rw [Int64.le_iff_toInt_le, Time.toInt_sub_clamped, hexact]
    omega

/-- Above it the sum is negative, and no response is young enough. -/
theorem refuses_new_response (hskew : 0 < c.opts.allowedResponseTimeSkew.toInt)
    (hsum : 2 ^ 63 ≤
      c.opts.maxResponseThisUpdateAge.toInt + c.opts.allowedResponseTimeSkew.toInt)
    (now : Time) : c.checkFreshness (openResponse now) now ≠ .ok () := by
  intro h
  have hage := ((checkFreshness_ok_iff hskew).mp h).2.2
  have h₁ := Int64.toInt_lt c.opts.maxResponseThisUpdateAge
  have h₂ := Int64.toInt_lt c.opts.allowedResponseTimeSkew
  rw [Int64.le_iff_toInt_le, Time.toInt_sub_clamped, toInt_add_of_le hsum] at hage
  have hzero : now.ns - (openResponse now).thisUpdate.ns = 0 := Int.sub_self _
  omega

end

/-- For every setting of the options, the check is the intended window on all
responses and clocks exactly when maximum age and skew add up to less than
the largest duration. Whatever the setting, the accepting instants have no
gap and a stale response stays refused. -/
theorem freshness_window_iff (opts : Options) :
    ((∀ resp now, (newChecker opts).checkFreshness resp now = .ok () ↔
        InWindow (newChecker opts).opts.allowedResponseTimeSkew.toInt
          (newChecker opts).opts.maxResponseThisUpdateAge.toInt resp now) ↔
      (newChecker opts).opts.maxResponseThisUpdateAge.toInt +
        (newChecker opts).opts.allowedResponseTimeSkew.toInt < 2 ^ 63 - 1) ∧
    (∀ resp a b t, (newChecker opts).checkFreshness resp a = .ok () →
      (newChecker opts).checkFreshness resp t = .ok () → a.ns ≤ b.ns → b.ns ≤ t.ns →
      (newChecker opts).checkFreshness resp b = .ok ()) ∧
    ∀ resp a b, Stale (newChecker opts) resp a → a.ns ≤ b.ns →
      (newChecker opts).checkFreshness resp b ≠ .ok () := by
  have hskew := newChecker_skew_pos opts
  have hage := newChecker_maxAge_pos opts
  refine ⟨⟨?_, ?_⟩, ?_, ?_⟩
  · intro hall
    by_contra hsum
    rcases Int.lt_or_eq_of_le (Int.not_lt.mp hsum) with habove | hat
    · refine refuses_new_response hskew (by omega) ⟨0⟩ ((hall _ _).mpr ⟨?_, ?_, .inl rfl⟩)
      · show (0 : Int) ≤ 0 + _
        omega
      · show (0 : Int) - 0 ≤ _
        omega
    · -- One nanosecond more than the limit, and still accepted.
      have haccept :
          (newChecker opts).checkFreshness (openResponse ⟨0⟩) ⟨2 ^ 63⟩ = .ok () :=
        accepts_any_age hskew hage hat.symm (by decide)
      have hwindow : (2 : Int) ^ 63 - 0 ≤ _ := ((hall _ _).mp haccept).2.1
      omega
  · intro hsum resp now
    exact checkFreshness_inWindow hskew hage hsum
  · intro resp a b t ha ht hab hbt
    exact accepts_between hskew ha ht hab hbt
  · intro resp a b hstale hab
    exact not_accepts_after_stale hskew hstale hab

/-- A maximum age of the largest duration, with the default skew: a response
made this moment is too old. -/
theorem freshness_window_overflow :
    (newChecker { defaultOptions with maxResponseThisUpdateAge := Int64.maxValue }).checkFreshness
        (openResponse ⟨0⟩) ⟨0⟩ = .error (wrapOCSPError errThisUpdateTooOld) ∧
      InWindow defaultOptions.allowedResponseTimeSkew.toInt Int64.maxValue.toInt
        (openResponse ⟨0⟩) ⟨0⟩ := by
  refine ⟨by decide +kernel, by decide, by decide, .inl rfl⟩

end WebEid.Ocsp
