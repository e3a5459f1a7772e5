import Mathlib.Algebra.Ring.Int.Defs
import Mathlib.Algebra.Ring.Nat
import Mathlib.Tactic.Common

/-!
# Base64, as Go's `encoding/base64` reads and writes it

`decodeString` follows the non-strict decoder: line breaks are skipped
wherever they stand, four characters make three bytes, and only the last
quantum may be short. A padded encoding closes it with `=` characters, after
which nothing but line breaks may follow; an unpadded one just stops after
two or three characters. The bits a short quantum leaves over are dropped
without being looked at, so several texts decode to the same bytes.
-/

namespace WebEid.Lib

/-- `[]byte`. -/
abbrev Bytes := List UInt8

namespace Base64

/-- An alphabet, told apart by its last two characters, and whether the last
quantum is padded with `=`. -/
structure Encoding where
  char62 : Char
  char63 : Char
  padded : Bool

/-- `base64.StdEncoding`. -/
def stdEncoding : Encoding := ⟨'+', '/', true⟩

/-- `base64.RawURLEncoding`. -/
def rawURLEncoding : Encoding := ⟨'-', '_', false⟩

/-- The six bits a character stands for. -/
def Encoding.value (enc : Encoding) (c : Char) : Option Nat :=
  if 'A' ≤ c ∧ c ≤ 'Z' then some (c.toNat - 65)
  else if 'a' ≤ c ∧ c ≤ 'z' then some (c.toNat - 97 + 26)
  else if '0' ≤ c ∧ c ≤ '9' then some (c.toNat - 48 + 52)
  else if c = enc.char62 then some 62
  else if c = enc.char63 then some 63
  else none

/-- The character that stands for six bits. -/
def Encoding.char (enc : Encoding) (v : Nat) : Char :=
  if v < 26 then Char.ofNat (v + 65)
  else if v < 52 then Char.ofNat (v - 26 + 97)
  else if v < 62 then Char.ofNat (v - 52 + 48)
  else if v = 62 then enc.char62
  else enc.char63

/-- The `i`-th of the three bytes that four characters' bits spell. -/
def quantumByte (a b c d : Nat) (i : Nat) : UInt8 :=
  UInt8.ofNat ((a * 2 ^ 18 + b * 2 ^ 12 + c * 2 ^ 6 + d) / 2 ^ (16 - 8 * i))

/-- The decoder on a text without line breaks, a quantum at a time. -/
def decodeChars (enc : Encoding) : List Char → Option Bytes
  | [] => some []
  | [_] => none
  | [a, b] => do
      -- only an unpadded text may end inside a quantum
      if enc.padded then none
      let va ← enc.value a
      let vb ← enc.value b
      pure [quantumByte va vb 0 0 0]
  | [a, b, c] => do
      if enc.padded then none
      let va ← enc.value a
      let vb ← enc.value b
      let vc ← enc.value c
      pure [quantumByte va vb vc 0 0, quantumByte va vb vc 0 1]
  | a :: b :: c :: d :: rest => do
      let va ← enc.value a
      let vb ← enc.value b
      match enc.value c with
      | none =>
          -- "==" closes a quantum of one byte
          if enc.padded && c == '=' && d == '=' && rest.isEmpty then
            pure [quantumByte va vb 0 0 0]
          else none
      | some vc =>
          match enc.value d with
          | none =>
              -- "=" closes a quantum of two bytes
              if enc.padded && d == '=' && rest.isEmpty then
                pure [quantumByte va vb vc 0 0, quantumByte va vb vc 0 1]
              else none
          | some vd => do
              let tail ← decodeChars enc rest
              pure (quantumByte va vb vc vd 0 :: quantumByte va vb vc vd 1 ::
                quantumByte va vb vc vd 2 :: tail)

/-- `enc.DecodeString(s)`; `none` is a `CorruptInputError`. -/
def Encoding.decodeString (enc : Encoding) (s : String) : Option Bytes :=
  decodeChars enc (s.toList.filter fun c => c != '\r' && c != '\n')

/-- The characters of a byte string, three bytes at a time. -/
def encodeBytes (enc : Encoding) : Bytes → List Char
  | [] => []
  | [x] =>
      [enc.char (x.toNat / 4), enc.char (x.toNat % 4 * 16)] ++
        (if enc.padded then ['=', '='] else [])
  | [x, y] =>
      [enc.char (x.toNat / 4), enc.char (x.toNat % 4 * 16 + y.toNat / 16),
        enc.char (y.toNat % 16 * 4)] ++ (if enc.padded then ['='] else [])
  | x :: y :: z :: rest =>
      enc.char (x.toNat / 4) :: enc.char (x.toNat % 4 * 16 + y.toNat / 16) ::
        enc.char (y.toNat % 16 * 4 + z.toNat / 64) :: enc.char (z.toNat % 64) ::
        encodeBytes enc rest

/-- `enc.EncodeToString(b)`. -/
def Encoding.encodeToString (enc : Encoding) (b : Bytes) : String :=
  String.ofList (encodeBytes enc b)

theorem decodeString_empty (enc : Encoding) : enc.decodeString "" = some [] := by
  simp [Encoding.decodeString, decodeChars]

/-! ## Reading back what was written -/

/-- What makes the alphabet readable: the characters stand for their values
and are no line breaks, and the padding is none of them. -/
structure Encoding.Sound (enc : Encoding) : Prop where
  value_char : ∀ v : Fin 64, enc.value (enc.char v) = some v.val
  unbroken : ∀ v : Fin 64, enc.char v ≠ '\r' ∧ enc.char v ≠ '\n'
  value_pad : enc.value '=' = none

theorem sound_rawURLEncoding : rawURLEncoding.Sound := by
  constructor <;> decide

theorem sound_stdEncoding : stdEncoding.Sound := by
  constructor <;> decide

theorem Encoding.Sound.value_of_lt {enc : Encoding} (h : enc.Sound) {v : Nat} (hv : v < 64) :
    enc.value (enc.char v) = some v := h.value_char ⟨v, hv⟩

/-- Four groups of six bits that spell three bytes. -/
theorem quantumByte_eq {a b c d : Nat} {x y z : UInt8}
    (h : a * 2 ^ 18 + b * 2 ^ 12 + c * 2 ^ 6 + d =
      x.toNat * 2 ^ 16 + y.toNat * 2 ^ 8 + z.toNat) :
    quantumByte a b c d 0 = x ∧ quantumByte a b c d 1 = y ∧ quantumByte a b c d 2 = z := by
  have hx := x.toNat_lt
  have hy := y.toNat_lt
  have hz := z.toNat_lt
  refine ⟨?_, ?_, ?_⟩ <;>
  · rw [quantumByte, h, ← UInt8.toNat_inj, UInt8.toNat_ofNat']
    omega

theorem decodeChars_encodeBytes {enc : Encoding} (henc : enc.Sound) (b : Bytes) :
    decodeChars enc (encodeBytes enc b) = some b := by
  fun_induction encodeBytes enc b with
  | case1 => rfl
  | case2 x =>
      have hx := x.toNat_lt
      have h₁ := henc.value_of_lt (v := x.toNat / 4) (by omega)
      have h₂ := henc.value_of_lt (v := x.toNat % 4 * 16) (by omega)
      have hq : quantumByte (x.toNat / 4) (x.toNat % 4 * 16) 0 0 0 = x :=
        (quantumByte_eq (y := 0) (z := 0) (by simp; omega)).1
      cases hpad : enc.padded <;>
        simp [decodeChars, hpad, h₁, h₂, henc.value_pad, hq]
  | case3 x y =>
      have hx := x.toNat_lt
      have hy := y.toNat_lt
      have h₁ := henc.value_of_lt (v := x.toNat / 4) (by omega)
      have h₂ := henc.value_of_lt (v := x.toNat % 4 * 16 + y.toNat / 16) (by omega)
      have h₃ := henc.value_of_lt (v := y.toNat % 16 * 4) (by omega)
      obtain ⟨hq₀, hq₁, _⟩ : quantumByte (x.toNat / 4) (x.toNat % 4 * 16 + y.toNat / 16)
          (y.toNat % 16 * 4) 0 0 = x ∧ _ := quantumByte_eq (y := y) (z := 0) (by simp; omega)
      cases hpad : enc.padded <;>
        simp [decodeChars, hpad, h₁, h₂, h₃, henc.value_pad, hq₀, hq₁]
  | case4 x y z rest ih =>
      have hx := x.toNat_lt
      have hy := y.toNat_lt
      have hz := z.toNat_lt
      have h₁ := henc.value_of_lt (v := x.toNat / 4) (by omega)
      have h₂ := henc.value_of_lt (v := x.toNat % 4 * 16 + y.toNat / 16) (by omega)
      have h₃ := henc.value_of_lt (v := y.toNat % 16 * 4 + z.toNat / 64) (by omega)
      have h₄ := henc.value_of_lt (v := z.toNat % 64) (by omega)
      obtain ⟨hq₀, hq₁, hq₂⟩ : quantumByte (x.toNat / 4) (x.toNat % 4 * 16 + y.toNat / 16)
          (y.toNat % 16 * 4 + z.toNat / 64) (z.toNat % 64) 0 = x ∧ _ :=
        quantumByte_eq (y := y) (z := z) (by omega)
      simp [decodeChars, h₁, h₂, h₃, h₄, hq₀, hq₁, hq₂, ih]

/-- A property of the alphabet and of the padding is one of every encoding. -/
theorem forall_mem_encodeBytes {enc : Encoding} {p : Char → Prop}
    (halphabet : ∀ v, v < 64 → p (enc.char v)) (hpad : enc.padded = true → p '=') (b : Bytes) :
    ∀ c ∈ encodeBytes enc b, p c := by
  fun_induction encodeBytes enc b with
  | case1 => exact fun c hc => absurd hc List.not_mem_nil
  | case2 x =>
      have hx := x.toNat_lt
      simp only [List.forall_mem_append, List.forall_mem_cons]
      refine ⟨⟨halphabet _ (by omega), halphabet _ (by omega), by simp⟩, ?_⟩
      split
      · next h => simp [hpad h]
      · simp
  | case3 x y =>
      have hx := x.toNat_lt
      have hy := y.toNat_lt
      simp only [List.forall_mem_append, List.forall_mem_cons]
      refine ⟨⟨halphabet _ (by omega), halphabet _ (by omega), halphabet _ (by omega),
        by simp⟩, ?_⟩
      split
      · next h => simp [hpad h]
      · simp
  | case4 x y z rest ih =>
      have hx := x.toNat_lt
      have hy := y.toNat_lt
      have hz := z.toNat_lt
      simp only [List.forall_mem_cons]
      exact ⟨halphabet _ (by omega), halphabet _ (by omega), halphabet _ (by omega),
        halphabet _ (by omega), ih⟩

/-- What was encoded reads back. -/
theorem decodeString_encodeToString {enc : Encoding} (henc : enc.Sound) (b : Bytes) :
    enc.decodeString (enc.encodeToString b) = some b := by
  have hkept : ∀ c ∈ encodeBytes enc b, (c != '\r' && c != '\n') = true := by
    refine forall_mem_encodeBytes ?_ (fun _ => by decide) b
    intro v hv
    have h := henc.unbroken ⟨v, hv⟩
    simp [h.1, h.2]
  rw [Encoding.decodeString, Encoding.encodeToString, String.toList_ofList,
    List.filter_eq_self.mpr hkept, decodeChars_encodeBytes henc]

end Base64

end WebEid.Lib
