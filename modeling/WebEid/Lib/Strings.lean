import Mathlib.Algebra.Ring.Int.Defs
import Mathlib.Algebra.Ring.Nat
import Mathlib.Data.List.DropRight
import Mathlib.Data.List.Infix
import WebEid.Lib.Base64
import WebEid.Lib.Unicode

/-!
# The string functions of Go's standard library

Text is a Lean `String`, so every function here works on its characters.
Go's own versions work on bytes, which makes no difference for the
operations below: all of them cut at ASCII characters or at white space, and
neither can occur inside the encoding of another character. Letter case is
that of `unicode`, rune by rune.
-/

namespace WebEid.Lib.Go

/-- `[]byte(s)`. -/
def bytes (s : String) : Bytes := s.toList.flatMap String.utf8EncodeChar

/-- `strings.HasPrefix(s, p)`. -/
def hasPrefix (s p : String) : Bool := p.toList.isPrefixOf s.toList

/-- `strings.HasSuffix(s, p)`. -/
def hasSuffix (s p : String) : Bool := p.toList.isSuffixOf s.toList

/-- `strings.TrimPrefix(s, p)`. -/
def trimPrefix (s p : String) : String :=
  if hasPrefix s p then String.ofList (s.toList.drop p.length) else s

/-- `strings.TrimSuffix(s, p)`. -/
def trimSuffix (s p : String) : String :=
  if p.toList.isSuffixOf s.toList then
    String.ofList (s.toList.take (s.length - p.length))
  else s

/-- `strings.Contains(s, sub)`. -/
def contains (s sub : String) : Bool := s.toList.tails.any sub.toList.isPrefixOf

/-- The part of `strings.Cut(s, sep)` before the separator: the whole text
when there is none. -/
def cutBefore (s : String) (sep : Char) : String :=
  String.ofList (s.toList.takeWhile (· ≠ sep))

/-- The parts around the last separator, where `strings.LastIndex` finds one. -/
def lastCut (s : String) (sep : Char) : Option (String × String) :=
  let after := s.toList.rtakeWhile (· ≠ sep)
  if after.length = s.length then none
  else some (String.ofList (s.toList.take (s.length - after.length - 1)), String.ofList after)

/-- `unicode.IsSpace`. -/
def isSpace (c : Char) : Bool :=
  c.toNat ∈ [0x09, 0x0a, 0x0b, 0x0c, 0x0d, 0x20, 0x85, 0xa0, 0x1680, 0x2028, 0x2029,
    0x202f, 0x205f, 0x3000] || (0x2000 ≤ c.toNat && c.toNat ≤ 0x200a)

/-- `strings.TrimSpace(s)`. -/
def trimSpace (s : String) : String :=
  String.ofList ((s.toList.dropWhile isSpace).rdropWhile isSpace)

/-- `strings.ToUpper(s)`. -/
def toUpper (s : String) : String := s.map Unicode.toUpper

/-- `strings.ToLower(s)`. -/
def toLower (s : String) : String := s.map Unicode.toLower

/-- `strings.EqualFold(s, t)`. -/
def equalFold (s t : String) : Bool := s.map Unicode.fold == t.map Unicode.fold

/-- `strings.Split(s, sep)` for a one-character separator: never empty. -/
def split (s : String) (sep : Char) : List String :=
  (s.toList.splitOn sep).map String.ofList

/-- The value of a run of decimal digits; `none` when it is empty or holds
anything else. -/
def digits? (ds : List Char) : Option Nat :=
  if ds.isEmpty || !ds.all Char.isDigit then none
  else some (ds.foldl (fun acc d => acc * 10 + (d.toNat - 48)) 0)

/-- `strconv.Atoi(s)`: one optional sign, then digits, in the range of
int64. -/
def atoi (s : String) : Option Int :=
  match s.toList with
  | '-' :: ds => do
      let n ← digits? ds
      if n ≤ 2 ^ 63 then some (-(n : Int)) else none
  | '+' :: ds => do
      let n ← digits? ds
      if n < 2 ^ 63 then some (n : Int) else none
  | ds => do
      let n ← digits? ds
      if n < 2 ^ 63 then some (n : Int) else none

/-- `new(big.Int).SetBytes(b)`: the big-endian value. -/
def setBytes (b : Bytes) : Nat := b.foldl (fun acc x => acc * 256 + x.toNat) 0

/-- `x.FillBytes(make([]byte, n))`: the big-endian value in `n` bytes. -/
def fillBytes (n x : Nat) : Bytes :=
  (List.range n).map fun i => UInt8.ofNat (x / 256 ^ (n - 1 - i))

/-- `copy(buf[off:], src)`, the buffer after it. -/
def copyAt (buf : Bytes) (off : Nat) (src : Bytes) : Bytes :=
  buf.take off ++ src.take (buf.length - off) ++ buf.drop (off + src.length)

/-- A copy that fits replaces exactly the bytes it covers. -/
theorem copyAt_append (a : Bytes) {b src : Bytes} (c : Bytes) (h : b.length = src.length) :
    copyAt (a ++ (b ++ c)) a.length src = a ++ (src ++ c) := by
  have hfit : src.length ≤ (a ++ (b ++ c)).length - a.length := by
    simp only [List.length_append]
    omega
  have hrest : (a ++ (b ++ c)).drop (a.length + src.length) = c := by
    rw [← List.append_assoc]
    exact List.drop_left' (by rw [List.length_append, h])
  rw [copyAt, List.take_left, List.take_of_length_le hfit, hrest, List.append_assoc]

/-- Left-padded with zeros to `n` bytes. -/
def leftPad (n : Nat) (b : Bytes) : Bytes := List.replicate (n - b.length) 0 ++ b

theorem length_leftPad {n : Nat} {b : Bytes} (h : b.length ≤ n) : (leftPad n b).length = n := by
  rw [leftPad, List.length_append, List.length_replicate]
  omega

/-! ## Texts and their parts -/

/-- Text is told apart by its bytes. -/
theorem bytes_injective : Function.Injective bytes := by
  intro s t h
  have hencode : ∀ s : String, s.toByteArray = (bytes s).toByteArray := by
    intro s
    conv_lhs => rw [← String.ofList_toList (s := s), String.toByteArray_ofList]
    rfl
  rw [← String.toByteArray_inj, hencode, hencode, h]

/-- Splitting takes apart what was joined from parts without the separator. -/
theorem split_of_intercalate {s : String} {sep : Char} {parts : List String}
    (hs : s.toList = [sep].intercalate (parts.map String.toList))
    (hsep : ∀ p ∈ parts, sep ∉ p.toList) (hne : parts ≠ []) : split s sep = parts := by
  rw [split, hs, List.splitOn_intercalate]
  · rw [List.map_map]
    exact List.map_id'' (fun p => String.ofList_toList) parts
  · simpa using hsep
  · simpa using hne

theorem intercalate_split (s : String) (sep : Char) :
    [sep].intercalate ((split s sep).map String.toList) = s.toList := by
  have hlists : (split s sep).map String.toList = s.toList.splitOn sep := by
    rw [split, List.map_map]
    exact List.map_id'' (fun l => String.toList_ofList) _
  rw [hlists, List.intercalate_splitOn]

theorem mem_intercalate {α : Type} {sep c : α} {ls : List (List α)}
    (h : c ∈ [sep].intercalate ls) : c = sep ∨ ∃ l ∈ ls, c ∈ l := by
  induction ls with
  | nil => simp at h
  | cons l ls ih =>
      cases ls with
      | nil =>
          rw [List.intercalate_singleton] at h
          exact Or.inr ⟨l, List.mem_cons_self, h⟩
      | cons l' ls =>
          rw [List.intercalate_cons_cons, List.mem_append, List.mem_append,
            List.mem_singleton] at h
          rcases h with (hl | hsep) | hrest
          · exact Or.inr ⟨l, List.mem_cons_self, hl⟩
          · exact Or.inl hsep
          · exact (ih hrest).imp_right List.exists_mem_cons_of_exists

theorem notMem_of_mem_splitOn {α : Type} [BEq α] [LawfulBEq α] {sep : α} (xs : List α) :
    ∀ l ∈ xs.splitOn sep, sep ∉ l := by
  induction xs with
  | nil => simp
  | cons x xs ih =>
      rw [List.splitOn_cons_eq_if_modifyHead]
      split
      · simpa using ih
      next hx =>
        cases hparts : xs.splitOn sep with
        | nil => exact absurd hparts (List.splitOn_ne_nil sep xs)
        | cons l ls =>
            rw [hparts] at ih
            simp only [List.mem_cons, forall_eq_or_imp] at ih
            simp only [List.modifyHead_cons, List.mem_cons, forall_eq_or_imp, not_or]
            refine ⟨⟨?_, ih.1⟩, ih.2⟩
            rintro rfl
            exact hx (beq_self_eq_true _)

/-- No part of a text holds the separator it was split at. -/
theorem notMem_of_mem_split {s p : String} {sep : Char} (h : p ∈ split s sep) :
    sep ∉ p.toList := by
  obtain ⟨l, hl, rfl⟩ := List.mem_map.mp h
  rw [String.toList_ofList]
  exact notMem_of_mem_splitOn s.toList l hl

/-! ## The last separator -/

theorem rtakeWhile_append_cons {α : Type} {p : α → Bool} (a : List α) {b : List α} {sep : α}
    (hsep : p sep = false) (hb : ∀ c ∈ b, p c = true) :
    (a ++ sep :: b).rtakeWhile p = b := by
  have hb' : ∀ c ∈ b.reverse, p c = true := by
    intro c hc
    exact hb c (List.mem_reverse.mp hc)
  rw [List.rtakeWhile, List.reverse_append, List.reverse_cons, List.append_assoc,
    List.takeWhile_append_of_pos hb', List.singleton_append,
    List.takeWhile_cons_of_neg (by simp [hsep]), List.append_nil, List.reverse_reverse]

theorem lastCut_of_append {s a b : String} {sep : Char}
    (hs : s.toList = a.toList ++ sep :: b.toList) (hb : sep ∉ b.toList) :
    lastCut s sep = some (a, b) := by
  have hafter : s.toList.rtakeWhile (· ≠ sep) = b.toList := by
    rw [hs]
    refine rtakeWhile_append_cons _ (by simp) ?_
    intro c hc
    exact decide_eq_true (fun h => hb (h ▸ hc))
  have hlen : s.length = a.toList.length + 1 + b.toList.length := by
    rw [← String.length_toList, hs, List.length_append, List.length_cons]
    omega
  have hbefore : s.toList.take (s.length - b.toList.length - 1) = a.toList := by
    rw [hs]
    exact List.take_left' (by omega)
  simp only [lastCut, hafter]
  rw [if_neg (by omega), hbefore, String.ofList_toList, String.ofList_toList]

theorem lastCut_of_notMem {s : String} {sep : Char} (h : sep ∉ s.toList) :
    lastCut s sep = none := by
  have hafter : s.toList.rtakeWhile (· ≠ sep) = s.toList := by
    rw [List.rtakeWhile_eq_self_iff]
    intro c hc
    exact decide_eq_true (fun heq => h (heq ▸ hc))
  simp only [lastCut, hafter]
  rw [if_pos String.length_toList]

/-- A cut is made at a separator, and none follows it. -/
theorem lastCut_eq_some {s a b : String} {sep : Char} (h : lastCut s sep = some (a, b)) :
    s.toList = a.toList ++ sep :: b.toList ∧ sep ∉ b.toList := by
  by_cases hmem : sep ∈ s.toList
  · -- the first separator of the text read backwards
    obtain ⟨r, l, hsplit, hr⟩ := List.eq_append_cons_of_mem (List.mem_reverse.mpr hmem)
    have hs : s.toList = l.reverse ++ sep :: r.reverse := by
      rw [← List.reverse_reverse s.toList, hsplit]
      simp
    have hcut : lastCut s sep = some (String.ofList l.reverse, String.ofList r.reverse) :=
      lastCut_of_append (by simpa using hs) (by simpa using hr)
    rw [hcut] at h
    cases h
    exact ⟨by simpa using hs, by simpa using hr⟩
  · rw [lastCut_of_notMem hmem] at h
    cases h

theorem contains_eq_false {s p : String} {c : Char} (hp : p.toList = [c])
    (h : c ∉ s.toList) : contains s p = false := by
  rw [contains, hp, List.any_eq_false]
  intro t ht
  rw [List.isPrefixOf_iff_prefix]
  rintro ⟨r, rfl⟩
  have hsub := ((List.mem_tails _ _).mp ht).subset
  exact h (hsub (by simp))

/-! ## Trimming one character -/

theorem hasSuffix_iff_getLast? {s p : String} {c : Char} (hp : p.toList = [c]) :
    hasSuffix s p = true ↔ s.toList.getLast? = some c := by
  rw [hasSuffix, hp, List.isSuffixOf_iff_suffix, List.getLast?_eq_some_iff]
  exact ⟨fun ⟨t, ht⟩ => ⟨t, ht.symm⟩, fun ⟨t, ht⟩ => ⟨t, ht.symm⟩⟩

theorem trimSuffix_of_ne {s p : String} {c : Char} (hp : p.toList = [c])
    (h : s.toList.getLast? ≠ some c) : trimSuffix s p = s := by
  have hnot : ¬ p.toList.isSuffixOf s.toList = true :=
    fun hsuffix => h ((hasSuffix_iff_getLast? hp).mp hsuffix)
  rw [trimSuffix, if_neg hnot]

theorem trimSuffix_append {s a p : String} (hs : s.toList = a.toList ++ p.toList) :
    trimSuffix s p = a := by
  have hsuffix : p.toList.isSuffixOf s.toList = true := by
    rw [List.isSuffixOf_iff_suffix, hs]
    exact List.suffix_append _ _
  have hlen : s.length - p.length = a.toList.length := by
    rw [← String.length_toList, ← String.length_toList, hs, List.length_append]
    omega
  rw [trimSuffix, if_pos hsuffix, hlen, hs, List.take_left, String.ofList_toList]

theorem trimPrefix_of_ne {s p : String} {c : Char} (hp : p.toList = [c])
    (h : s.toList.head? ≠ some c) : trimPrefix s p = s := by
  have hnot : ¬ hasPrefix s p = true := by
    rw [hasPrefix, hp, List.isPrefixOf_iff_prefix]
    rintro ⟨t, ht⟩
    exact h (by rw [← ht]; rfl)
  rw [trimPrefix, if_neg hnot]

theorem trimPrefix_append {s b p : String} (hs : s.toList = p.toList ++ b.toList) :
    trimPrefix s p = b := by
  have hstart : hasPrefix s p = true := by
    rw [hasPrefix, List.isPrefixOf_iff_prefix, hs]
    exact List.prefix_append _ _
  rw [trimPrefix, if_pos hstart, hs, ← String.length_toList, List.drop_left,
    String.ofList_toList]

theorem hasPrefix_iff {s p : String} :
    hasPrefix s p = true ↔ ∃ v : String, s.toList = p.toList ++ v.toList := by
  rw [hasPrefix, List.isPrefixOf_iff_prefix]
  constructor
  · rintro ⟨v, hv⟩
    exact ⟨String.ofList v, by rw [String.toList_ofList, hv]⟩
  · rintro ⟨v, hv⟩
    exact ⟨v.toList, hv.symm⟩

/-- The part before the first separator, and what follows it. -/
theorem cutBefore_append (s : String) (sep : Char) :
    ∃ tail, s.toList = (cutBefore s sep).toList ++ tail ∧ (tail = [] ∨ tail.head? = some sep) := by
  refine ⟨s.toList.dropWhile (· ≠ sep), ?_, ?_⟩
  · rw [cutBefore, String.toList_ofList, List.takeWhile_append_dropWhile]
  · have hhead := List.head?_dropWhile_not (· ≠ sep) s.toList
    cases htail : s.toList.dropWhile (· ≠ sep) with
    | nil => exact .inl rfl
    | cons c tail =>
        rw [htail] at hhead
        have hc : c = sep := by simpa using hhead
        exact .inr (by rw [hc]; rfl)

theorem toList_cutBefore {s : String} {sep : Char} {a tail : List Char}
    (hs : s.toList = a ++ tail) (ha : sep ∉ a) (htail : tail = [] ∨ tail.head? = some sep) :
    (cutBefore s sep).toList = a := by
  have hbefore : ∀ c ∈ a, decide (c ≠ sep) = true := by
    intro c hc
    rw [decide_eq_true_eq]
    rintro rfl
    exact ha hc
  have hafter : tail.takeWhile (· ≠ sep) = [] := by
    cases tail with
    | nil => rfl
    | cons c tail =>
        rcases htail with hnil | hhead
        · cases hnil
        · cases hhead
          exact List.takeWhile_cons_of_neg (by simp)
  rw [cutBefore, String.toList_ofList, hs, List.takeWhile_append_of_pos hbefore, hafter,
    List.append_nil]

/-! ## White space -/

theorem dropWhile_padded {α : Type} {p : α → Bool} {a h : List α} (b : List α)
    (ha : ∀ c ∈ a, p c = true) (hh : ∀ c ∈ h, p c = false) (hne : h ≠ []) :
    (a ++ (h ++ b)).dropWhile p = h ++ b := by
  rw [List.dropWhile_append_of_pos ha]
  cases h with
  | nil => exact absurd rfl hne
  | cons c h =>
      rw [List.cons_append, List.dropWhile_cons_of_neg]
      rw [hh c List.mem_cons_self]
      exact Bool.false_ne_true

/-- Trimming takes away the padding and nothing else. -/
theorem trimSpace_padded {s h : String} {a b : List Char} (hs : s.toList = a ++ (h.toList ++ b))
    (ha : ∀ c ∈ a, isSpace c = true) (hb : ∀ c ∈ b, isSpace c = true)
    (hh : ∀ c ∈ h.toList, isSpace c = false) (hne : h.toList ≠ []) : trimSpace s = h := by
  have hrev : (h.toList ++ b).rdropWhile isSpace = h.toList := by
    rw [List.rdropWhile, List.reverse_append]
    have hdrop := dropWhile_padded (a := b.reverse) (h := h.toList.reverse) (p := isSpace) []
      (by simpa using hb) (by simpa using hh) (by simpa using hne)
    rw [List.append_nil] at hdrop
    rw [hdrop, List.reverse_reverse]
  rw [trimSpace, hs, dropWhile_padded b ha hh hne, hrev, String.ofList_toList]

theorem trimSpace_eq_self {s : String} (h : ∀ c ∈ s.toList, isSpace c = false) :
    trimSpace s = s := by
  by_cases hnil : s.toList = []
  · rw [trimSpace, hnil, ← String.toList_inj, hnil]
    rfl
  · exact trimSpace_padded (a := []) (b := []) (by simp) (by simp) (by simp) h hnil

theorem isSpace_of_isDigit {c : Char} (h : c.isDigit = true) : isSpace c = false := by
  have hrange : 48 ≤ c.toNat ∧ c.toNat ≤ 57 := Char.isDigit_iff_toNat.mp h
  simp only [isSpace, List.mem_cons, List.not_mem_nil, or_false, Bool.or_eq_false_iff,
    decide_eq_false_iff_not, Bool.and_eq_false_iff]
  omega

/-! ## Letter case -/

theorem toLower_append (s t : String) : toLower (s ++ t) = toLower s ++ toLower t := by
  rw [toLower, toLower, toLower, ← String.toList_inj]
  simp only [String.toList_map, String.toList_append, List.map_append]

theorem length_toLower (s : String) : (toLower s).length = s.length := String.length_map

theorem toLower_eq_empty_iff {s : String} : toLower s = "" ↔ s = "" := by
  rw [← String.length_eq_zero_iff, length_toLower, String.length_eq_zero_iff]

theorem toLower_toLower (s : String) : toLower (toLower s) = toLower s := by
  have hcomp : Unicode.toLower ∘ Unicode.toLower = Unicode.toLower :=
    funext Unicode.toLower_toLower
  rw [toLower, toLower, ← String.toList_inj, String.toList_map, String.toList_map, List.map_map,
    hcomp]

theorem caseless_of_isSpace {c : Char} (h : isSpace c = true) : c.toNat ∈ Unicode.caseless := by
  rw [isSpace, Bool.or_eq_true, decide_eq_true_eq, Bool.and_eq_true, decide_eq_true_eq,
    decide_eq_true_eq] at h
  rcases h with hlisted | ⟨hlo, hhi⟩
  · have hparts : c.toNat ∈ [0x09, 0x0a, 0x0b, 0x0c, 0x0d, 0x20] ++
        [0x85, 0xa0, 0x1680, 0x2028, 0x2029, 0x202f, 0x205f, 0x3000] := hlisted
    rcases List.mem_append.mp hparts with hascii | hother
    · have hlt : ∀ n ∈ [0x09, 0x0a, 0x0b, 0x0c, 0x0d, 0x20], n ∈ List.range 0x41 := by decide
      simp only [Unicode.caseless, List.mem_append, hlt _ hascii, true_or]
    · simp only [Unicode.caseless, List.mem_append, hother, true_or, or_true]
  · have hrange : c.toNat ∈ List.range' 0x2000 11 := List.mem_range'_1.mpr ⟨hlo, by omega⟩
    simp only [Unicode.caseless, List.mem_append, hrange, or_true]

/-- No white space is the lower case of anything else. -/
theorem isSpace_toLower {c : Char} (h : isSpace c = false) :
    isSpace (Unicode.toLower c) = false := by
  rw [Bool.eq_false_iff]
  intro hspace
  have hsame := (Unicode.toLower_eq_iff_of_caseless (caseless_of_isSpace hspace) c).mp rfl
  rw [← hsame, h] at hspace
  cases hspace

theorem toLower_of_isSpace {c : Char} (h : isSpace c = true) : Unicode.toLower c = c :=
  (Unicode.toLower_eq_iff_of_caseless (caseless_of_isSpace h) c).mpr rfl

theorem toLower_of_isDigit {c : Char} (h : c.isDigit = true) : Unicode.toLower c = c := by
  refine (Unicode.toLower_eq_iff_of_caseless ?_ c).mpr rfl
  have hrange : 48 ≤ c.toNat ∧ c.toNat ≤ 57 := Char.isDigit_iff_toNat.mp h
  simp only [Unicode.caseless, List.mem_append, List.mem_range]
  omega

theorem map_eq_map_iff {f g : Char → Char} {s t : String} :
    s.map f = t.map g ↔ s.toList.map f = t.toList.map g := by
  rw [← String.toList_inj, String.toList_map, String.toList_map]

/-- Two lists agree under `f` exactly when they agree under `g`, if the two
identify the same elements with those of the second. -/
theorem map_eq_map_congr {α β γ : Type} {f : α → β} {g : α → γ} {l l' : List α}
    (h : ∀ c ∈ l', ∀ r, f r = f c ↔ g r = g c) : l.map f = l'.map f ↔ l.map g = l'.map g := by
  induction l' generalizing l with
  | nil => rw [List.map_nil, List.map_nil, List.map_eq_nil_iff, List.map_eq_nil_iff]
  | cons c l' ih =>
      cases l with
      | nil => exact iff_of_false (by simp) (by simp)
      | cons r l =>
          rw [List.map_cons, List.map_cons, List.map_cons, List.map_cons, List.cons.injEq,
            List.cons.injEq, h c List.mem_cons_self r,
            ih (fun d hd => h d (List.mem_cons_of_mem c hd))]

/-- Against a name of ASCII without the letters I and K, folding and
upper-casing compare alike. -/
theorem equalFold_iff_toUpper {s name : String}
    (hname : ∀ c ∈ name.toList, c.toNat < 128 ∧ Unicode.toUpper c ≠ 'I' ∧
      Unicode.toUpper c ≠ 'K') :
    equalFold s name = true ↔ toUpper s = toUpper name := by
  rw [equalFold, beq_iff_eq, toUpper, toUpper, map_eq_map_iff, map_eq_map_iff]
  refine map_eq_map_congr ?_
  intro c hc r
  obtain ⟨hascii, hi, hk⟩ := hname c hc
  exact Unicode.fold_eq_iff hascii hi hk r

/-! ## Decimal numerals -/

theorem digits?_eq_some {ds : List Char} {n : Nat} :
    digits? ds = some n ↔
      ds ≠ [] ∧ (∀ c ∈ ds, c.isDigit = true) ∧ Nat.ofDigitChars 10 ds 0 = n := by
  have hfold : ds.foldl (fun acc d => acc * 10 + (d.toNat - 48)) 0 = Nat.ofDigitChars 10 ds 0 := by
    rw [Nat.ofDigitChars_eq_foldl]
    congr 1
    funext acc d
    rw [Nat.mul_comm]
    rfl
  rw [digits?, hfold]
  split
  next hbad =>
    simp only [Bool.or_eq_true, List.isEmpty_iff, Bool.not_eq_true', List.all_eq_false] at hbad
    constructor
    · intro h
      cases h
    · rintro ⟨hne, hdigits, -⟩
      rcases hbad with hnil | ⟨c, hc, hbad⟩
      · exact absurd hnil hne
      · exact absurd (hdigits c hc) hbad
  next hgood =>
    simp only [Bool.or_eq_true, List.isEmpty_iff, Bool.not_eq_true', List.all_eq_false, not_or,
      not_exists, not_and, Bool.not_eq_true, Bool.not_eq_false] at hgood
    rw [Option.some.injEq]
    exact ⟨fun h => ⟨hgood.1, hgood.2, h⟩, fun h => h.2.2⟩

theorem digits?_toDigits (n : Nat) : digits? (Nat.toDigits 10 n) = some n :=
  digits?_eq_some.mpr ⟨Nat.toDigits_ne_nil,
    fun _ hc => Nat.isDigit_of_mem_toDigits (by decide) (by decide) hc,
    Nat.ofDigitChars_ten_toDigits⟩

theorem digitChar_of_isDigit {c : Char} (h : c.isDigit = true) :
    c.toNat - 48 < 10 ∧ Nat.digitChar (c.toNat - 48) = c := by
  have hrange : 48 ≤ c.toNat ∧ c.toNat ≤ 57 := Char.isDigit_iff_toNat.mp h
  refine ⟨by omega, ?_⟩
  rw [← Char.toNat_inj, Nat.toNat_digitChar_of_lt_ten (by omega)]
  omega

/-- Digits that do not start with a zero are the numeral of their value, which
is not zero. -/
theorem toDigits_ofDigitChars {ds : List Char} (hdigits : ∀ c ∈ ds, c.isDigit = true)
    (hne : ds ≠ []) (hlead : ds.head? ≠ some '0') :
    0 < Nat.ofDigitChars 10 ds 0 ∧ Nat.toDigits 10 (Nat.ofDigitChars 10 ds 0) = ds := by
  induction ds using List.reverseRecOn with
  | nil => exact absurd rfl hne
  | append_singleton ds d ih =>
      obtain ⟨hlt, hchar⟩ := digitChar_of_isDigit (hdigits d (by simp))
      have hvalue : Nat.ofDigitChars 10 (ds ++ [d]) 0 =
          10 * Nat.ofDigitChars 10 ds 0 + (d.toNat - 48) := by
        rw [Nat.ofDigitChars_append, Nat.ofDigitChars_cons, Nat.ofDigitChars_nil]
        rfl
      rw [hvalue]
      by_cases hnil : ds = []
      · subst hnil
        have hpos : d.toNat - 48 ≠ 0 := by
          intro hzero
          rw [hzero] at hchar
          exact hlead (by rw [← hchar]; rfl)
        rw [Nat.ofDigitChars_nil, Nat.mul_zero, Nat.zero_add, Nat.toDigits_of_lt_base hlt, hchar]
        exact ⟨by omega, rfl⟩
      · obtain ⟨hpos, hprint⟩ := ih (fun c hc => hdigits c (by simp [hc])) hnil
          (by rwa [List.head?_append_of_ne_nil _ hnil] at hlead)
        refine ⟨by omega, ?_⟩
        rw [← Nat.toDigits_append_toDigits (by decide) hpos hlt, hprint,
          Nat.toDigits_of_lt_base hlt, hchar]

theorem head?_toDigits {n : Nat} (h : 0 < n) : (Nat.toDigits 10 n).head? ≠ some '0' := by
  induction n using Nat.strong_induction_on with
  | _ n ih =>
      rw [Nat.toDigits_eq_if (by decide)]
      split
      · rw [List.head?_cons, ne_eq, Option.some.injEq, Nat.digitChar_eq_zero]
        omega
      · rw [List.head?_append_of_ne_nil _ Nat.toDigits_ne_nil]
        exact ih (n / 10) (by omega) (by omega)

/-- Digits in range read as their number. -/
theorem atoi_of_digits? {s : String} {n : Nat} (hs : digits? s.toList = some n)
    (hn : n < 2 ^ 63) : atoi s = some (n : Int) := by
  have hdigit : ∀ c ∈ s.toList, c.isDigit = true := (digits?_eq_some.mp hs).2.1
  rw [atoi]
  split
  next ds hminus => cases hdigit '-' (by rw [hminus]; exact List.mem_cons_self)
  next ds hplus => cases hdigit '+' (by rw [hplus]; exact List.mem_cons_self)
  next =>
    rw [hs]
    exact if_pos hn

/-- A numeral in range reads as its number. -/
theorem atoi_toDigits {s : String} {n : Nat} (hs : s.toList = Nat.toDigits 10 n)
    (hn : n < 2 ^ 63) : atoi s = some (n : Int) :=
  atoi_of_digits? (by rw [hs, digits?_toDigits]) hn

/-- A text that reads as a number without starting with a sign is all digits,
and has the value of its digits. -/
theorem digits?_of_atoi {s : String} {n : Int} (h : atoi s = some n)
    (hsign : s.toList.head? ≠ some '-' ∧ s.toList.head? ≠ some '+') :
    ∃ m : Nat, digits? s.toList = some m ∧ n = m := by
  rw [atoi] at h
  split at h
  next ds hminus => exact absurd (by rw [hminus]; rfl) hsign.1
  next ds hplus => exact absurd (by rw [hplus]; rfl) hsign.2
  next =>
    obtain ⟨m, hm, h⟩ := Option.bind_eq_some_iff.mp h
    split at h
    · cases h
      exact ⟨m, hm, rfl⟩
    · cases h

/-- The texts that read as a positive number: its digits, with or without a
plus sign. -/
theorem atoi_eq_some_iff {s : String} {n : Nat} (hpos : 0 < n) (hn : n < 2 ^ 63) :
    atoi s = some (n : Int) ↔
      ∃ sign ds, s.toList = sign ++ ds ∧ (sign = [] ∨ sign = ['+']) ∧ digits? ds = some n := by
  constructor
  · intro h
    rw [atoi] at h
    split at h
    next ds hminus =>
      obtain ⟨m, -, h⟩ := Option.bind_eq_some_iff.mp h
      split at h
      · rw [Option.some.injEq] at h
        omega
      · cases h
    next ds hplus =>
      obtain ⟨m, hm, h⟩ := Option.bind_eq_some_iff.mp h
      split at h
      · rw [Option.some.injEq, Int.natCast_inj] at h
        exact ⟨['+'], ds, hplus, .inr rfl, h ▸ hm⟩
      · cases h
    next =>
      obtain ⟨m, hm, h⟩ := Option.bind_eq_some_iff.mp h
      split at h
      · rw [Option.some.injEq, Int.natCast_inj] at h
        exact ⟨[], s.toList, rfl, .inl rfl, h ▸ hm⟩
      · cases h
  · rintro ⟨sign, ds, hs, rfl | rfl, hds⟩
    · rw [List.nil_append] at hs
      exact atoi_of_digits? (by rw [hs, hds]) hn
    · rw [List.singleton_append] at hs
      rw [atoi, hs]
      show (digits? ds).bind _ = _
      rw [hds]
      exact if_pos hn

/-! ## Big-endian numbers -/

theorem setBytes_append (l : Bytes) (x : UInt8) :
    setBytes (l ++ [x]) = setBytes l * 256 + x.toNat := by
  rw [setBytes, List.foldl_append]
  rfl

/-- Zeros in front do not count. -/
theorem setBytes_lt (b : Bytes) : setBytes b < 256 ^ b.length := by
  induction b using List.reverseRecOn with
  | nil => decide
  | append_singleton l x ih =>
      have hx := x.toNat_lt
      rw [setBytes_append, List.length_append, List.length_singleton, pow_succ]
      omega

theorem setBytes_replicate_append (n : Nat) (l : Bytes) :
    setBytes (List.replicate n 0 ++ l) = setBytes l := by
  induction n with
  | zero => rfl
  | succ n ih =>
      rw [List.replicate_succ, List.cons_append, ← ih]
      rfl

theorem setBytes_leftPad (n : Nat) (b : Bytes) : setBytes (leftPad n b) = setBytes b :=
  setBytes_replicate_append _ _

/-- The zeros that are there already count as padding. -/
theorem leftPad_replicate_append {n m : Nat} {b : Bytes} (h : m + b.length ≤ n) :
    leftPad n (List.replicate m 0 ++ b) = leftPad n b := by
  have hpad : n - (m + b.length) + m = n - b.length := by omega
  rw [leftPad, leftPad, List.length_append, List.length_replicate, ← List.append_assoc,
    List.replicate_append_replicate, hpad]

theorem fillBytes_succ (n x : Nat) :
    fillBytes (n + 1) x = fillBytes n (x / 256) ++ [UInt8.ofNat x] := by
  rw [fillBytes, fillBytes, List.range_succ, List.map_append]
  congr 1
  · refine List.map_congr_left ?_
    intro i hi
    have hi' := List.mem_range.mp hi
    have hexp : n + 1 - 1 - i = (n - 1 - i) + 1 := by omega
    rw [hexp, pow_succ', Nat.div_div_eq_div_mul]
  · simp

theorem length_fillBytes (n x : Nat) : (fillBytes n x).length = n := by
  simp [fillBytes]

theorem setBytes_fillBytes {n x : Nat} (h : x < 256 ^ n) : setBytes (fillBytes n x) = x := by
  induction n generalizing x with
  | zero =>
      have : x = 0 := by simpa using h
      subst this
      rfl
  | succ n ih =>
      rw [fillBytes_succ, setBytes_append, ih (by rw [pow_succ] at h; omega),
        UInt8.toNat_ofNat']
      omega

end WebEid.Lib.Go
