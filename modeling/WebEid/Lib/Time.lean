import Mathlib.Algebra.Ring.Int.Defs
import Mathlib.Algebra.Ring.Nat
import Mathlib.Tactic.Common

/-!
# Instants and durations, as Go's `time` package computes them

A duration is an int64 of nanoseconds and wraps like one. An instant is an
exact count of nanoseconds since the zero time, so comparing two instants is
exact, but the difference of two instants is a duration again and saturates
at the two ends of int64. The instants themselves are not bounded here: Go
holds their seconds in an int64, so its own `Add` stops at the end of that
range, 292 billion years out, where `add` goes on.

`Uptime` is the other clock of a Go process: the monotonic reading that
`time.Now` attaches, nanoseconds since the process started, held in an int64.
Two instants of one process are therefore less than `2 ^ 63` nanoseconds
apart, and on such a pair `sub` is the exact difference. `sub_instant` says
so, and it is the only fact about saturation the nonce proofs need.
-/

namespace WebEid.Lib

/-- `time.Duration`. -/
abbrev Duration := Int64

/-- `time.Time`: nanoseconds since January 1, year 1 UTC. -/
structure Time where
  ns : Int
  deriving DecidableEq, Repr, Inhabited

namespace Time

/-- `t.IsZero()`. -/
def isZero (t : Time) : Bool := t.ns == 0

/-- `t.Before(u)`. -/
def before (t u : Time) : Bool := decide (t.ns < u.ns)

/-- `t.After(u)`. -/
def after (t u : Time) : Bool := decide (u.ns < t.ns)

/-- `t.Add(d)`. -/
def add (t : Time) (d : Duration) : Time := ⟨t.ns + d.toInt⟩

/-- `t.Sub(u)`: the difference, clamped to what a duration can hold. -/
def sub (t u : Time) : Duration :=
  if t.ns - u.ns < Int64.minValue.toInt then Int64.minValue
  else if Int64.maxValue.toInt < t.ns - u.ns then Int64.maxValue
  else Int64.ofInt (t.ns - u.ns)

/-- `t.Unix()`: whole seconds since January 1, 1970 UTC, rounded down. -/
def unix (t : Time) : Int := (t.ns - 62135596800000000000) / 1000000000

/-- `time.Unix(sec, 0)`. The seconds are moved to the year 1 in int64, where
the sum wraps. -/
def ofUnix (sec : Int) : Time := ⟨(Int64.ofInt (sec + 62135596800)).toInt * 1000000000⟩

theorem before_iff {t u : Time} : t.before u = true ↔ t.ns < u.ns := decide_eq_true_iff

theorem after_iff {t u : Time} : t.after u = true ↔ u.ns < t.ns := decide_eq_true_iff

theorem add_ns (t : Time) (d : Duration) : (t.add d).ns = t.ns + d.toInt := rfl

/-- The instants whose seconds an int64 can count, which is what `time.Time`
can hold. -/
def Fits (t : Time) : Prop :=
  -2 ^ 63 ≤ t.ns / 1000000000 ∧ t.ns / 1000000000 < 2 ^ 63

def floorSecond (t : Time) : Time := ⟨t.ns / 1000000000 * 1000000000⟩

/-- Seconds read off an instant lead back to it, up to the fraction. -/
theorem ofUnix_unix {t : Time} (h : t.Fits) : ofUnix t.unix = t.floorSecond := by
  have hsec : t.unix + 62135596800 = t.ns / 1000000000 := by
    rw [unix]
    omega
  rw [ofUnix, floorSecond, hsec, Int64.toInt_ofInt_of_le h.1 h.2]

theorem toInt_sub {t u : Time} (hlo : -2 ^ 63 ≤ t.ns - u.ns)
    (hhi : t.ns - u.ns < 2 ^ 63) : (t.sub u).toInt = t.ns - u.ns := by
  unfold sub
  rw [Int64.toInt_minValue, Int64.toInt_maxValue, if_neg (by omega),
    if_neg (by omega)]
  exact Int64.toInt_ofInt_of_le hlo hhi

theorem toInt_sub_clamped (t u : Time) :
    (t.sub u).toInt = max (-2 ^ 63) (min (2 ^ 63 - 1) (t.ns - u.ns)) := by
  unfold sub
  rw [Int64.toInt_minValue, Int64.toInt_maxValue]
  split
  · rw [Int64.toInt_minValue]
    omega
  · split
    · rw [Int64.toInt_maxValue]
      omega
    · rw [Int64.toInt_ofInt_of_le (by omega) (by omega)]
      omega

/-- A later instant is not nearer, clamped or not. -/
theorem sub_le_sub {t t' : Time} (h : t.ns ≤ t'.ns) (u : Time) : t.sub u ≤ t'.sub u := by
  rw [Int64.le_iff_toInt_le, toInt_sub_clamped, toInt_sub_clamped]
  omega

/-- Against a bound below the largest duration, clamping cannot be seen. -/
theorem sub_le_iff {t u : Time} {d : Duration} (hd : d.toInt < 2 ^ 63 - 1) :
    t.sub u ≤ d ↔ t.ns - u.ns ≤ d.toInt := by
  have hlo := Int64.le_toInt d
  rw [Int64.le_iff_toInt_le, toInt_sub_clamped]
  omega

end Time

/-! ## Sums of durations -/

theorem toInt_add_of_lt {a b : Duration} (ha : 0 ≤ a.toInt) (hb : 0 ≤ b.toInt)
    (h : a.toInt + b.toInt < 2 ^ 63) : (a + b).toInt = a.toInt + b.toInt := by
  rw [Int64.toInt_add]
  exact Int.bmod_eq_of_le (by omega) (by omega)

theorem toInt_add_of_le {a b : Duration} (h : 2 ^ 63 ≤ a.toInt + b.toInt) :
    (a + b).toInt = a.toInt + b.toInt - 2 ^ 64 := by
  have ha := Int64.toInt_lt a
  have hb := Int64.toInt_lt b
  rw [Int64.toInt_add, Int.bmod_def]
  omega

theorem toInt_neg_of_pos {d : Duration} (h : 0 < d.toInt) : (-d).toInt = -d.toInt := by
  have hlt := Int64.toInt_lt d
  rw [Int64.toInt_neg]
  exact Int.bmod_eq_of_le (by omega) (by omega)

/-! ## Whole seconds

`Seconds` computes in float64, so a long duration may come out as more whole
seconds than it has. -/

/-- `d.Seconds()`. -/
def seconds (d : Duration) : Float :=
  Float.ofInt (d / 1000000000).toInt + Float.ofInt (d % 1000000000).toInt / 1000000000

/-- `int(x)`: the fraction is dropped. -/
def truncate (x : Float) : Int :=
  match x.toModel.unpack with
  | .finite sign mantissa exponent _ =>
      sign.apply (mantissa <<< exponent.toNat >>> (-exponent).toNat : Nat)
  | _ => 0

/-- `int(d.Seconds())`. -/
def wholeSeconds (d : Duration) : Int := truncate (seconds d)

example : wholeSeconds 300999999999 = 300 := by decide

example : wholeSeconds 8999999999999999900 = 9000000000 := by decide

/-! ## One process -/

/-- The monotonic reading of a process's clock. The runtime keeps it in an
int64, so no reading reaches `2 ^ 63`. -/
structure Uptime where
  ns : Nat
  fits : ns < 2 ^ 63
  deriving DecidableEq

namespace Uptime

theorem zero_fits : 0 < 2 ^ 63 := Nat.two_pow_pos 63

/-- The reading at the start of the process. -/
def zero : Uptime := ⟨0, zero_fits⟩

/-- The reading `d` nanoseconds later, while the counter can hold it. -/
def advance (u : Uptime) (d : Nat) : Option Uptime :=
  if h : u.ns + d < 2 ^ 63 then some ⟨u.ns + d, h⟩ else none

/-- The instant a reading stands for in a process started at `start`. -/
def instant (start : Time) (u : Uptime) : Time := ⟨start.ns + u.ns⟩

theorem advance_eq_some {u v : Uptime} {d : Nat} (h : u.advance d = some v) :
    v.ns = u.ns + d := by
  unfold advance at h
  split at h
  · injection h with h
    subst h
    rfl
  · cases h

/-- Between two readings of one process no difference is clamped. -/
theorem sub_instant (start : Time) (u v : Uptime) :
    ((v.instant start).sub (u.instant start)).toInt = (v.ns : Int) - u.ns := by
  have hu := u.fits
  have hv := v.fits
  rw [Time.toInt_sub] <;> simp only [instant] <;> omega

/-- The age test of one process, in plain numbers. -/
theorem lt_sub_instant {start : Time} {u v : Uptime} {ttl : Duration} :
    ttl < (v.instant start).sub (u.instant start) ↔
      ttl.toInt < (v.ns : Int) - u.ns := by
  rw [Int64.lt_iff_toInt_lt, sub_instant]

end Uptime

end WebEid.Lib
