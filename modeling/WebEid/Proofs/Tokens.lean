import WebEid.Lib.Fallible
import WebEid.Ref.Token

/-!
# Which documents `Parse` accepts

A token document is one JSON document whose fields are a complete token and
whose format reads `web-eid:`, the major version 1, a dot and a minor version.
`Parse` accepts all of them, and more, in two places.

The decoder is a stream decoder. It reads one value, and nobody asks what
follows it. The format is cut at its first dot and only the part before the cut
is read, by a function that takes a sign: `web-eid:1`, `web-eid:+1` and
`web-eid:1.x` pass with `web-eid:1.0`.

What is accepted is written down without the code (`AcceptedFormat`,
`parse_ok_iff`), and the documents are compared with that. A key no field
answers to changes nothing, because the decoder skips it before it looks at the
value.
-/

namespace WebEid

open Lib Exceptions

/-! ## The documents -/

/-- White space between JSON tokens. -/
def Blank (b : Bytes) : Prop := ∀ c ∈ b, c ∈ [0x20, 0x09, 0x0a, 0x0d]

def tokenAlgorithms : List String :=
  ["ES256", "ES384", "ES512", "PS256", "PS384", "PS512", "RS256", "RS384", "RS512"]

/-- `web-eid:`, the number 1, a dot and a number. -/
def WellFormedFormat (format : String) : Prop :=
  ∃ major minor, format.toList = "web-eid:".toList ++ (major ++ '.' :: minor) ∧
    Go.digits? major = some 1 ∧ ∃ n, Go.digits? minor = some n

/-- The fields apart from the format. -/
structure Complete (t : AuthToken) : Prop where
  certificate : t.unverifiedCertificate ≠ ""
  signature : t.signature ≠ ""
  algorithm : t.algorithm ∈ tokenAlgorithms

/-- One document with nothing but white space after it, and the token its
known fields make. -/
def TokenDocument (dec : JsonDecoder) (b : Bytes) (t : AuthToken) : Prop :=
  ∃ v rest, dec.decode b = .ok (v, rest) ∧ Blank rest ∧ decodeToken v = .ok t ∧
    Complete t ∧ WellFormedFormat t.format

/-! ## What the checks let through -/

/-- A major version of 1, possibly with a plus sign, and then nothing, or a
dot and anything. -/
def AcceptedFormat (format : String) : Prop :=
  ∃ sign major tail, format.toList = "web-eid:".toList ++ (sign ++ major ++ tail) ∧
    (sign = [] ∨ sign = ['+']) ∧ Go.digits? major = some 1 ∧
    (tail = [] ∨ tail.head? = some '.')

theorem WellFormedFormat.accepted {format : String} (h : WellFormedFormat format) :
    AcceptedFormat format := by
  obtain ⟨major, minor, hformat, hmajor, -⟩ := h
  exact ⟨[], major, '.' :: minor, hformat, .inl rfl, hmajor, .inr rfl⟩

theorem isSupportedAlgorithm_iff {algorithm : String} :
    Signature.isSupportedAlgorithm algorithm = true ↔ algorithm ∈ tokenAlgorithms := by
  have hnames : Signature.jwaToHash.map Prod.fst ⊆ tokenAlgorithms ∧
      tokenAlgorithms ⊆ Signature.jwaToHash.map Prod.fst := by
    decide
  rw [Signature.isSupportedAlgorithm, List.lookup_isSome_iff]
  constructor
  · rintro ⟨p, hp, heq⟩
    rw [eq_of_beq heq]
    exact hnames.1 (List.mem_map_of_mem hp)
  · intro halg
    obtain ⟨p, hp, rfl⟩ := List.mem_map.mp (hnames.2 halg)
    exact ⟨p, hp, beq_self_eq_true _⟩

section

variable {t : AuthToken}

theorem validateFormat_eq_ok_iff :
    t.validateFormat = .ok () ↔
      ∃ version : String, t.format.toList = "web-eid:".toList ++ version.toList ∧
        Go.atoi (Go.cutBefore version '.') = some 1 := by
  rw [AuthToken.validateFormat]
  constructor
  · intro h
    split at h
    · cases h
    · split at h
      · cases h
      · next hstart =>
          rw [Bool.not_eq_true', Bool.not_eq_false, Go.hasPrefix_iff] at hstart
          obtain ⟨version, hversion⟩ := hstart
          refine ⟨version, hversion, ?_⟩
          rw [Go.trimPrefix_append hversion] at h
          simp only [] at h
          split at h
          · cases h
          · next major hmajor =>
              split at h
              · cases h
              · next hone => rw [hmajor, not_not.mp hone, supportedTokenMajorVersion]
  · rintro ⟨version, hversion, hmajor⟩
    have hstart := Go.hasPrefix_iff.mpr ⟨version, hversion⟩
    have hne : t.format ≠ "" := by
      intro hempty
      rw [hempty] at hversion
      simp at hversion
    rw [if_neg hne, if_neg (by rw [hstart]; decide), Go.trimPrefix_append hversion]
    simp only [hmajor]
    rfl

/-- The cut and the number, read as the format's parts. -/
theorem validateFormat_ok_iff : t.validateFormat = .ok () ↔ AcceptedFormat t.format := by
  have hone : ∀ s : String, Go.atoi s = some 1 ↔ ∃ sign major, s.toList = sign ++ major ∧
      (sign = [] ∨ sign = ['+']) ∧ Go.digits? major = some 1 :=
    fun s => Go.atoi_eq_some_iff (by decide) (by decide)
  rw [validateFormat_eq_ok_iff]
  constructor
  · rintro ⟨version, hversion, hmajor⟩
    obtain ⟨tail, hcut, htail⟩ := Go.cutBefore_append version '.'
    obtain ⟨sign, major, hparts, hsign, hdigits⟩ := (hone _).mp hmajor
    rw [hcut, hparts] at hversion
    exact ⟨sign, major, tail, hversion, hsign, hdigits, htail⟩
  · rintro ⟨sign, major, tail, hformat, hsign, hdigits, htail⟩
    have hversion : (String.ofList (sign ++ major ++ tail)).toList = sign ++ major ++ tail :=
      String.toList_ofList
    refine ⟨String.ofList (sign ++ major ++ tail), by rw [hversion, hformat], ?_⟩
    rw [hone]
    refine ⟨sign, major, Go.toList_cutBefore hversion ?_ htail, hsign, hdigits⟩
    -- neither the sign nor a digit is the dot
    intro hdot
    rcases List.mem_append.mp hdot with hdot | hdot
    · rcases hsign with rfl | rfl <;> simp at hdot
    · exact absurd ((Go.digits?_eq_some.mp hdigits).2.1 '.' hdot) (by decide)

theorem validateStructure_complete_iff :
    t.validateStructure = .ok () ↔ Complete t ∧ AcceptedFormat t.format := by
  rw [AuthToken.validateStructure_ok_iff, isSupportedAlgorithm_iff, validateFormat_ok_iff]
  constructor
  · rintro ⟨hcert, hsig, halg, hformat⟩
    exact ⟨⟨hcert, hsig, halg⟩, hformat⟩
  · rintro ⟨⟨hcert, hsig, halg⟩, hformat⟩
    exact ⟨hcert, hsig, halg, hformat⟩

end

/-! ## What the decoder makes of a document -/

section

variable {dec : JsonDecoder} {b : Bytes} {t : AuthToken}

theorem decode_nonempty {v : Json} {rest : Bytes} (h : dec.decode b = .ok (v, rest)) :
    ¬ b.isEmpty = true := by
  obtain ⟨text, hne, rfl⟩ := dec.decode_reads h
  rw [List.isEmpty_iff]
  intro hnil
  exact hne (List.append_eq_nil_iff.mp hnil).1

/-- The value in front decides, whatever is behind it. -/
theorem parse_of_decode {v : Json} {rest : Bytes} (h : dec.decode b = .ok (v, rest)) :
    parse dec b = (do
      let token ← (decodeToken v).mapError (wrap .errTokenParse)
      token.validateStructure
      pure token) := by
  rw [parse, if_neg (decode_nonempty h), h]
  rfl

theorem parse_ok_iff :
    parse dec b = .ok t ↔
      ∃ v rest, dec.decode b = .ok (v, rest) ∧ decodeToken v = .ok t ∧ Complete t ∧
        AcceptedFormat t.format := by
  simp only [← validateStructure_complete_iff]
  constructor
  · intro h
    rw [parse] at h
    split at h
    · cases h
    · obtain ⟨⟨v, rest⟩, hdecode, h⟩ := bind_eq_ok h
      obtain ⟨token, htoken, h⟩ := bind_eq_ok h
      obtain ⟨⟨⟩, hstructure, h⟩ := bind_eq_ok h
      cases h
      exact ⟨v, rest, mapError_eq_ok hdecode, mapError_eq_ok htoken, hstructure⟩
  · rintro ⟨v, rest, hdecode, htoken, hstructure⟩
    rw [parse_of_decode hdecode, mapError_eq_ok_iff.mpr htoken, bind_ok, hstructure]
    rfl

theorem parse_of_document (h : TokenDocument dec b t) : parse dec b = .ok t := by
  obtain ⟨v, rest, hdecode, -, htoken, hcomplete, hformat⟩ := h
  exact parse_ok_iff.mpr ⟨v, rest, hdecode, htoken, hcomplete, hformat.accepted⟩

/-- The members some field answers to. -/
def knownMembers (members : List (String × Json)) : List (String × Json) :=
  members.filter fun m => (TokenField.ofKey m.1).isSome

theorem foldlM_knownMembers (members : List (String × Json)) (t : AuthToken) :
    members.foldlM decodeMember t = (knownMembers members).foldlM decodeMember t := by
  induction members generalizing t with
  | nil => rfl
  | cons m members ih =>
      rw [knownMembers, List.foldlM_cons]
      cases hkey : TokenField.ofKey m.1 with
      | none =>
          have hskip : decodeMember t m = .ok t := by rw [decodeMember, hkey]
          rw [List.filter_cons_of_neg (by simp [hkey]), hskip, bind_ok]
          exact ih t
      | some f =>
          rw [List.filter_cons_of_pos (by simp [hkey]), List.foldlM_cons]
          exact congrArg (decodeMember t m >>= ·) (funext ih)

theorem decodeToken_known {members members' : List (String × Json)}
    (h : knownMembers members = knownMembers members') :
    decodeToken (.object members) = decodeToken (.object members') := by
  rw [decodeToken, decodeToken, foldlM_knownMembers members, foldlM_knownMembers members', h]

end

/-- `Parse` accepts exactly the token documents on the inputs where the decoder
leaves nothing behind and the format is written in full, and on those it
refuses. Unknown members never change what it returns. -/
theorem parse_documents_iff (dec : JsonDecoder) (b : Bytes) :
    ((∀ t, parse dec b = .ok t ↔ TokenDocument dec b t) ↔
      ∀ v rest t, dec.decode b = .ok (v, rest) → decodeToken v = .ok t → Complete t →
        AcceptedFormat t.format → Blank rest ∧ WellFormedFormat t.format) ∧
      ∀ b' members members' rest rest', dec.decode b = .ok (.object members, rest) →
        dec.decode b' = .ok (.object members', rest') →
        knownMembers members = knownMembers members' → parse dec b = parse dec b' := by
  refine ⟨⟨?_, ?_⟩, ?_⟩
  · intro hexact v rest t hdecode htoken hcomplete hformat
    obtain ⟨v', rest', hdecode', hblank, -, -, hwell⟩ :=
      (hexact t).mp (parse_ok_iff.mpr ⟨v, rest, hdecode, htoken, hcomplete, hformat⟩)
    rw [hdecode] at hdecode'
    cases hdecode'
    exact ⟨hblank, hwell⟩
  · intro hinputs t
    refine ⟨?_, parse_of_document⟩
    intro h
    obtain ⟨v, rest, hdecode, htoken, hcomplete, hformat⟩ := parse_ok_iff.mp h
    obtain ⟨hblank, hwell⟩ := hinputs v rest t hdecode htoken hcomplete hformat
    exact ⟨v, rest, hdecode, hblank, htoken, hcomplete, hwell⟩
  · intro b' members members' rest rest' hdecode hdecode' hknown
    rw [parse_of_decode hdecode, parse_of_decode hdecode', decodeToken_known hknown]

/-! ## Two inputs that are no documents -/

/-- The quoted pieces of a flat object, key and value in turn. -/
def flatMembers : List String → List (String × Json)
  | _ :: key :: _ :: value :: pieces => (key, .string value) :: flatMembers pieces
  | _ => []

/-- Enough of a decoder for objects of plain strings. -/
def flatDecoder : JsonDecoder where
  decode b :=
    match b.span (· ≠ 0x7d) with
    | (0x7b :: text, close :: rest) =>
        .ok (.object (flatMembers (((text.splitOn 0x22).map fun piece =>
          String.ofList (piece.map fun c => Char.ofNat c.toNat)))), rest)
    | _ => .error (.text "unexpected EOF")
  decode_reads := by
    intro b v rest h
    simp only [List.span_eq_takeWhile_dropWhile] at h
    split at h
    · next text close rest' hspan =>
        cases h
        obtain ⟨hbefore, hafter⟩ := Prod.mk.inj hspan
        refine ⟨0x7b :: text ++ [close], List.cons_ne_nil _ _, ?_⟩
        rw [← List.takeWhile_append_dropWhile (p := fun c => decide (c ≠ 0x7d)) (l := b), hbefore,
          hafter, List.append_assoc]
        rfl
    · cases h

def tokenText (format trailing : String) : Bytes :=
  Go.bytes ("\x7b\"unverifiedCertificate\":\"QUJD\",\"algorithm\":\"ES384\"," ++
    "\"signature\":\"c2ln\",\"format\":\"" ++ format ++ "\"\x7d" ++ trailing)

/-- A format without a minor version, and a document with more behind it. -/
theorem parse_beyond_documents :
    parse flatDecoder (tokenText "web-eid:1" "") =
        .ok ⟨"QUJD", "ES384", "c2ln", "web-eid:1", ""⟩ ∧
      (¬ ∃ t, TokenDocument flatDecoder (tokenText "web-eid:1" "") t) ∧
      parse flatDecoder (tokenText "web-eid:1.0" "<html>") =
        .ok ⟨"QUJD", "ES384", "c2ln", "web-eid:1.0", ""⟩ ∧
      ¬ ∃ t, TokenDocument flatDecoder (tokenText "web-eid:1.0" "<html>") t := by
  -- the literals are spelled out first: the kernel is slow at decoding them
  have hreads : parse flatDecoder (tokenText "web-eid:1" "") =
        .ok ⟨"QUJD", "ES384", "c2ln", "web-eid:1", ""⟩ ∧
      parse flatDecoder (tokenText "web-eid:1.0" "<html>") =
        .ok ⟨"QUJD", "ES384", "c2ln", "web-eid:1.0", ""⟩ ∧
      (flatDecoder.decode (tokenText "web-eid:1.0" "<html>")).toOption.map Prod.snd =
        some (Go.bytes "<html>") := by
    simp only [tokenText, Go.bytes, String.toList_append]
    repeat rw [String.toList_ofList]
    decide +kernel
  obtain ⟨hshort, hlong, hrest⟩ := hreads
  refine ⟨hshort, ?_, hlong, ?_⟩
  · rintro ⟨t, hdocument⟩
    have hparse := parse_of_document hdocument
    obtain ⟨-, -, -, -, -, -, major, minor, hformat, -⟩ := hdocument
    rw [hshort] at hparse
    cases hparse
    have hdot : '.' ∈ "web-eid:1".toList := by
      rw [hformat]
      simp
    exact absurd hdot (by decide)
  · rintro ⟨t, v, rest, hdecode, hblank, -⟩
    rw [hdecode] at hrest
    cases hrest
    exact absurd (hblank 0x3c (by decide)) (by decide)

end WebEid
