import Mathlib.Data.List.Forall2
import WebEid.Lib.Fallible
import WebEid.Ref.Certificate

/-!
# Which spellings of an object identifier are accepted

`ParseOID` splits at the dots and hands every component to `strconv.Atoi`. The
canonical text of an identifier comes back as that identifier. The number
parser accepts more than canonical numerals, though: a plus sign, a minus sign
in front of a zero, and any number of leading zeros. A text is the dotted form
of what was read exactly when none of its components is spelled that way
(`parseOID_canonical_iff`).
-/

namespace WebEid.Certificate

open Lib Exceptions

/-- `asn1.ObjectIdentifier.String`. -/
def dotted (oid : ObjectIdentifier) : String := ".".intercalate (oid.map toString)

/-- A component as it is printed: a zero alone, or a digit other than zero in
front. -/
def Numeral (p : String) : Prop :=
  p = "0" ∨ ∃ c cs, p.toList = c :: cs ∧ c.isDigit = true ∧ c ≠ '0'

/-! ## Printing -/

theorem toList_toString (n : Nat) : (toString n).toList = Nat.toDigits 10 n := Nat.toList_repr

theorem isDigit_of_mem_toString {n : Nat} {c : Char} (hc : c ∈ (toString n).toList) :
    c.isDigit = true := by
  rw [toList_toString] at hc
  exact Nat.isDigit_of_mem_toDigits (by decide) (by decide) hc

theorem toList_dotted (oid : ObjectIdentifier) :
    (dotted oid).toList = ['.'].intercalate ((oid.map toString).map String.toList) :=
  String.toList_intercalate

theorem split_dotted {oid : ObjectIdentifier} (hne : oid ≠ []) :
    Go.split (dotted oid) '.' = oid.map toString := by
  refine Go.split_of_intercalate (toList_dotted oid) ?_ (by simpa using hne)
  intro p hp hdot
  obtain ⟨n, -, rfl⟩ := List.mem_map.mp hp
  cases isDigit_of_mem_toString hdot

theorem trimSpace_dotted (oid : ObjectIdentifier) :
    Go.trimSpace (dotted oid) = dotted oid := by
  refine Go.trimSpace_eq_self ?_
  intro c hc
  rw [toList_dotted] at hc
  rcases Go.mem_intercalate hc with rfl | ⟨l, hl, hc⟩
  · rfl
  · simp only [List.map_map, List.mem_map] at hl
    obtain ⟨n, -, rfl⟩ := hl
    exact Go.isSpace_of_isDigit (isDigit_of_mem_toString hc)

/-- What is printed is a numeral. -/
theorem numeral_toString (n : Nat) : Numeral (toString n) := by
  rcases Nat.eq_zero_or_pos n with rfl | hpos
  · exact Or.inl rfl
  · right
    cases hlist : (toString n).toList with
    | nil => exact absurd (toList_toString n ▸ hlist) Nat.toDigits_ne_nil
    | cons c cs =>
        refine ⟨c, cs, rfl, isDigit_of_mem_toString (n := n) (by rw [hlist]; simp), ?_⟩
        rintro rfl
        refine Go.head?_toDigits hpos ?_
        rw [← toList_toString, hlist]
        rfl

/-- A numeral that reads as a number is its print. -/
theorem toString_of_numeral {p : String} (hp : Numeral p) {n : Nat}
    (h : Go.atoi p = some (n : Int)) : toString n = p := by
  rcases hp with rfl | ⟨c, cs, hlist, hdigit, hzero⟩
  · have hn : (0 : Int) = n := Option.some.inj (show some (0 : Int) = some (n : Int) from h)
    obtain rfl : n = 0 := by omega
    rfl
  · have hsign : p.toList.head? ≠ some '-' ∧ p.toList.head? ≠ some '+' := by
      rw [hlist]
      constructor
      · rintro ⟨⟩
        cases hdigit
      · rintro ⟨⟩
        cases hdigit
    obtain ⟨m, hm, hnm⟩ := Go.digits?_of_atoi h hsign
    obtain rfl : n = m := by exact_mod_cast hnm
    obtain ⟨hne, hdigits, rfl⟩ := Go.digits?_eq_some.mp hm
    rw [← String.toList_inj, toList_toString]
    refine (Go.toDigits_ofDigitChars hdigits hne ?_).2
    rw [hlist]
    rintro ⟨⟩
    exact hzero rfl

/-! ## Reading -/

/-- Every component was read as a number that is not negative. -/
theorem parseOIDParts_ok_iff {s : String} {parts : List String} {oid : ObjectIdentifier} :
    parseOIDParts s parts = .ok oid ↔
      List.Forall₂ (fun p n => Go.atoi p = some ((n : Nat) : Int)) parts oid := by
  induction parts generalizing oid with
  | nil =>
      rw [parseOIDParts, List.forall₂_nil_left_iff, Except.ok.injEq, eq_comm]
  | cons p ps ih =>
      rw [parseOIDParts, List.forall₂_cons_left_iff]
      cases hread : Go.atoi p with
      | none => simp
      | some n =>
          simp only []
          split
          next hneg =>
            constructor
            · intro h
              cases h
            · rintro ⟨m, -, hm, -⟩
              have := Option.some.inj hm
              omega
          next hpos =>
            rw [bind_eq_ok_iff]
            constructor
            · rintro ⟨rest, hrest, h⟩
              cases h
              exact ⟨n.toNat, rest, by rw [Int.toNat_of_nonneg (by omega)], ih.mp hrest, rfl⟩
            · rintro ⟨m, rest, hm, hrest, rfl⟩
              cases hm
              exact ⟨rest, ih.mpr hrest, rfl⟩

theorem parseOID_ok_iff {s : String} {oid : ObjectIdentifier} :
    parseOID s = .ok oid ↔ 2 ≤ oid.length ∧
      List.Forall₂ (fun p n => Go.atoi p = some ((n : Nat) : Int))
        (Go.split (Go.trimSpace s) '.') oid := by
  rw [parseOID]
  split
  next hshort =>
    constructor
    · intro h
      cases h
    · rintro ⟨hlong, hparts⟩
      rw [hparts.length_eq] at hshort
      omega
  next hlong =>
    rw [parseOIDParts_ok_iff]
    constructor
    · intro hparts
      exact ⟨by rw [← hparts.length_eq]; omega, hparts⟩
    · exact fun h => h.2

theorem eq_map_toString {parts : List String} {oid : ObjectIdentifier}
    (h : List.Forall₂ (fun p n => Go.atoi p = some ((n : Nat) : Int)) parts oid)
    (hnumerals : ∀ p ∈ parts, Numeral p) : parts = oid.map toString := by
  induction h with
  | nil => rfl
  | cons hread _ ih =>
      rw [List.map_cons, toString_of_numeral (hnumerals _ List.mem_cons_self) hread,
        ← ih fun p hp => hnumerals p (List.mem_cons_of_mem _ hp)]

/-- The dotted form of an identifier in range is read as the identifier. What
else is read was its dotted form, up to white space, exactly when every
component of it is a numeral. -/
theorem parseOID_canonical_iff (oid : ObjectIdentifier) (s : String) :
    (2 ≤ oid.length → (∀ n ∈ oid, n < 2 ^ 63) → parseOID (dotted oid) = .ok oid) ∧
    (parseOID s = .ok oid →
      (dotted oid = Go.trimSpace s ↔ ∀ p ∈ Go.split (Go.trimSpace s) '.', Numeral p)) := by
  refine ⟨?_, ?_⟩
  · intro hlen hrange
    have hne : oid ≠ [] := by
      rintro rfl
      cases hlen
    rw [parseOID_ok_iff, trimSpace_dotted, split_dotted hne, List.forall₂_map_left_iff,
      List.forall₂_same]
    refine ⟨hlen, ?_⟩
    intro n hn
    exact Go.atoi_toDigits (toList_toString n) (hrange n hn)
  · intro h
    obtain ⟨hlen, hparts⟩ := parseOID_ok_iff.mp h
    have hne : oid ≠ [] := by
      rintro rfl
      cases hlen
    constructor
    · intro hprint p hp
      rw [← hprint, split_dotted hne] at hp
      obtain ⟨n, -, rfl⟩ := List.mem_map.mp hp
      exact numeral_toString n
    · intro hnumerals
      rw [← String.toList_inj, toList_dotted, ← eq_map_toString hparts hnumerals]
      exact Go.intercalate_split _ _

/-- A sign and a leading zero are read and not printed. -/
theorem parseOID_accepts_signed :
    parseOID "1.+3" = .ok [1, 3] ∧ dotted [1, 3] ≠ Go.trimSpace "1.+3" ∧
      parseOID "1.-0" = .ok [1, 0] ∧ dotted [1, 0] ≠ Go.trimSpace "1.-0" ∧
      parseOID "1.03" = .ok [1, 3] ∧ dotted [1, 3] ≠ Go.trimSpace "1.03" := by
  decide +kernel

end WebEid.Certificate
