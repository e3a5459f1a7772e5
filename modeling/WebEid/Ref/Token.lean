import WebEid.Ref.Signature

/-!
# The authentication token (`token.go`, `token_errors.go`)

`validateStructure` is the strict, non-cryptographic reading of a token. It
is what `Parse` runs after decoding; the HTTP handlers decode a request body
straight into an `AuthToken` and never call it.

The text of a document is `encoding/json`'s business and stays outside: a
`JsonDecoder` reads one value off the front of the input and leaves the rest.
What becomes of the value is decided by the struct it is stored into, so that
part, with the tags of `AuthToken`, is here.
-/

namespace WebEid

open Lib Exceptions

def supportedTokenMajorVersion : Int := 1

structure AuthToken where
  unverifiedCertificate : String
  algorithm : String
  signature : String
  format : String
  appVersion : String
  deriving DecidableEq, Repr

def errEmptyToken : GoError := .text "authentication token is empty"

def errMissingField (name : String) : GoError :=
  .text ("mandatory token field " ++ name.quote ++ " is missing")

def errUnknownAlgorithm (algorithm : String) : GoError :=
  .text ("unsupported signature algorithm " ++ algorithm.quote)

def errBadFormat (format : String) : GoError :=
  .text ("unsupported token format " ++ format.quote)

def errCorruptInput : GoError := .text "illegal base64 data"

/-! ## Decoding -/

/-- A JSON value. Members keep their order and may repeat. -/
inductive Json where
  | null
  | bool (b : Bool)
  | number (text : String)
  | string (s : String)
  | array (elems : List Json)
  | object (members : List (String × Json))

/-- The kind an `UnmarshalTypeError` names. -/
def Json.kind : Json → String
  | null => "null"
  | bool _ => "bool"
  | number _ => "number"
  | string _ => "string"
  | array _ => "array"
  | object _ => "object"

/-- `json.Decoder`: the value in front, and the input behind it. -/
structure JsonDecoder where
  decode : Bytes → Except GoError (Json × Bytes)
  decode_reads : ∀ {b v rest}, decode b = .ok (v, rest) → ∃ text, text ≠ [] ∧ b = text ++ rest

/-- The fields of `AuthToken` with a tag. -/
inductive TokenField where
  | unverifiedCertificate
  | algorithm
  | signature
  | format
  | appVersion
  deriving DecidableEq, Repr

namespace TokenField

/-- The tag. -/
def name : TokenField → String
  | unverifiedCertificate => "unverifiedCertificate"
  | algorithm => "algorithm"
  | signature => "signature"
  | format => "format"
  | appVersion => "appVersion"

def all : List TokenField := [unverifiedCertificate, algorithm, signature, format, appVersion]

/-- The field a key is stored into: the one of that name, or else one whose
name differs only in letter case. -/
def ofKey (key : String) : Option TokenField :=
  match all.find? fun f => f.name = key with
  | some f => some f
  | none => all.find? fun f => Go.equalFold f.name key

def set (t : AuthToken) (s : String) : TokenField → AuthToken
  | unverifiedCertificate => { t with unverifiedCertificate := s }
  | algorithm => { t with algorithm := s }
  | signature => { t with signature := s }
  | format => { t with format := s }
  | appVersion => { t with appVersion := s }

end TokenField

/-- One member: a string is stored, a null leaves the field as it is, and an
unknown key is skipped. -/
def decodeMember (t : AuthToken) (member : String × Json) :
    Except GoError AuthToken :=
  match TokenField.ofKey member.1 with
  | none => .ok t
  | some f =>
      match member.2 with
      | .string s => .ok (f.set t s)
      | .null => .ok t
      | v =>
          .error (.text ("json: cannot unmarshal " ++ v.kind ++
            " into Go struct field AuthToken." ++ f.name ++ " of type string"))

/-- The value stored into a zero `AuthToken`. The package goes on after a
member it cannot store, but reports the first. -/
def decodeToken : Json → Except GoError AuthToken
  | .object members => members.foldlM decodeMember ⟨"", "", "", "", ""⟩
  | .null => .ok ⟨"", "", "", "", ""⟩
  | v => .error (.text ("json: cannot unmarshal " ++ v.kind ++
      " into Go value of type webeid.AuthToken"))

/-! ## Structure -/

namespace AuthToken

/-- `web-eid:<major>.<minor>` with the supported major version. -/
def validateFormat (t : AuthToken) : Except GoError Unit :=
  if t.format = "" then .error (wrap .errTokenParse (errMissingField "format"))
  else if !Go.hasPrefix t.format "web-eid:" then
    .error (wrap .errTokenUnsupportedFormat (errBadFormat t.format))
  else
    let version := Go.trimPrefix t.format "web-eid:"
    let majorStr := Go.cutBefore version '.'
    match Go.atoi majorStr with
    | none => .error (wrap .errTokenUnsupportedFormat (errBadFormat t.format))
    | some major =>
        if major ≠ supportedTokenMajorVersion then
          .error (wrap .errTokenUnsupportedFormat (errBadFormat t.format))
        else .ok ()

def validateStructure (t : AuthToken) : Except GoError Unit :=
  if t.unverifiedCertificate = "" then
    .error (wrap .errTokenParse (errMissingField "unverifiedCertificate"))
  else if t.signature = "" then
    .error (wrap .errTokenParse (errMissingField "signature"))
  else if t.algorithm = "" then
    .error (wrap .errTokenParse (errMissingField "algorithm"))
  else if !Signature.isSupportedAlgorithm t.algorithm then
    .error (wrap .errTokenParse (errUnknownAlgorithm t.algorithm))
  else t.validateFormat

def decodeCertificate (t : AuthToken) : Except GoError Bytes :=
  match Base64.stdEncoding.decodeString t.unverifiedCertificate with
  | none => .error (wrap .errTokenParse errCorruptInput)
  | some der => .ok der

def decodeSignature (t : AuthToken) : Except GoError Bytes :=
  match Base64.stdEncoding.decodeString t.signature with
  | none => .error (wrap .errTokenParse errCorruptInput)
  | some sig => .ok sig

/-- The five structural checks, as one conjunction. -/
theorem validateStructure_ok_iff {t : AuthToken} :
    t.validateStructure = .ok () ↔
      t.unverifiedCertificate ≠ "" ∧ t.signature ≠ "" ∧
        Signature.isSupportedAlgorithm t.algorithm = true ∧
        t.validateFormat = .ok () := by
  unfold validateStructure
  constructor
  · intro h
    split at h
    · cases h
    · next hcert =>
        split at h
        · cases h
        · next hsig =>
            split at h
            · cases h
            · split at h
              · cases h
              · next halg => exact ⟨hcert, hsig, by simpa using halg, h⟩
  · rintro ⟨hcert, hsig, halg, hformat⟩
    -- the empty algorithm is not one of the nine
    have hne : t.algorithm ≠ "" := by
      intro h
      rw [h] at halg
      exact absurd halg (by decide)
    rw [if_neg hcert, if_neg hsig, if_neg hne, if_neg (by simp [halg])]
    exact hformat

end AuthToken

/-- `Parse`. What the decoder leaves unread is never looked at. -/
def parse (dec : JsonDecoder) (tokenJSON : Bytes) : Except GoError AuthToken :=
  if tokenJSON.isEmpty then .error (wrap .errTokenParse errEmptyToken)
  else do
    let (v, _) ← (dec.decode tokenJSON).mapError (wrap .errTokenParse)
    let token ← (decodeToken v).mapError (wrap .errTokenParse)
    token.validateStructure
    pure token

end WebEid
