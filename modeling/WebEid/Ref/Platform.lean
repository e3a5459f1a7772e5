import WebEid.Lib.Strings
import WebEid.Lib.Time
import WebEid.Ref.Exceptions

/-!
# What the library stands on

The types the code exchanges with `crypto/x509`, `crypto`, `encoding/asn1`,
`encoding/pem`, `net/url` and `golang.org/x/crypto/ocsp`, and the functions
of those packages it calls. None of that code is part of the repository, so
`Platform` takes the functions as parameters: every definition of the model
is a function of the platform it runs on, and a theorem about the library is
a theorem for every platform.

Two facts are built in, because a value without them is not such a package
at all: a hash always returns as many bytes as its size says, and
`pem.Decode` consumes some of the input whenever it finds a block. Whatever
else a result assumes of these packages it names as a hypothesis.
-/

namespace WebEid

open Lib Exceptions

/-- `asn1.ObjectIdentifier`. -/
abbrev ObjectIdentifier := List Nat

/-! ## Keys and hashes -/

/-- The members of `crypto.Hash` the library names. -/
inductive Hash where
  | sha224
  | sha256
  | sha384
  | sha512
  deriving DecidableEq, Repr

/-- `h.Size()`. -/
def Hash.size : Hash → Nat
  | sha224 => 28
  | sha256 => 32
  | sha384 => 48
  | sha512 => 64

/-- The hashes are told apart by their size alone. -/
theorem Hash.size_injective : Function.Injective Hash.size := by
  intro h k hsize
  cases h <;> cases k <;> first | rfl | exact absurd hsize (by decide)

/-- The named curves `crypto/x509` can parse a key on. -/
inductive Curve where
  | p224
  | p256
  | p384
  | p521
  deriving DecidableEq, Repr

/-- `Curve.Params().BitSize`. -/
def Curve.bitSize : Curve → Nat
  | p224 => 224
  | p256 => 256
  | p384 => 384
  | p521 => 521

/-- `ecdsa.PublicKey`. -/
structure EcdsaPublicKey where
  curve : Curve
  x : Nat
  y : Nat
  deriving DecidableEq, Repr

/-- `rsa.PublicKey`. -/
structure RsaPublicKey where
  n : Nat
  e : Nat
  deriving DecidableEq, Repr, Inhabited

/-- The dynamic type of `x509.Certificate.PublicKey`. -/
inductive PublicKey where
  | rsa (pub : RsaPublicKey)
  | ecdsa (pub : EcdsaPublicKey)
  | other (raw : Bytes)
  deriving DecidableEq, Repr, Inhabited

/-! ## Certificates -/

/-- `x509.ExtKeyUsage`. -/
inductive ExtKeyUsage where
  | any
  | serverAuth
  | clientAuth
  | codeSigning
  | emailProtection
  | ipsecEndSystem
  | ipsecTunnel
  | ipsecUser
  | timeStamping
  | ocspSigning
  | microsoftServerGatedCrypto
  | netscapeServerGatedCrypto
  | microsoftCommercialCodeSigning
  | microsoftKernelCodeSigning
  deriving DecidableEq, Repr

/-- `x509.KeyUsage`, a bit set. -/
abbrev KeyUsage := Nat

/-- `x509.KeyUsageDigitalSignature`. -/
def keyUsageDigitalSignature : KeyUsage := 1

/-- `x509.KeyUsageContentCommitment`. -/
def keyUsageContentCommitment : KeyUsage := 2

/-- `pkix.Extension`. -/
structure Extension where
  id : ObjectIdentifier
  critical : Bool
  value : Bytes
  deriving DecidableEq, Repr

/-- `pkix.AttributeTypeAndValue`; the value is `none` when it is not a Go
string. -/
structure AttributeTypeAndValue where
  type : ObjectIdentifier
  value : Option String
  deriving DecidableEq, Repr

/-- The fields of `pkix.Name` the library reads. -/
structure Name where
  commonName : String
  serialNumber : String
  country : List String
  names : List AttributeTypeAndValue
  deriving DecidableEq, Repr, Inhabited

/-- The fields of `x509.Certificate` the library reads. -/
structure Certificate where
  raw : Bytes
  rawSubject : Bytes
  rawSubjectPublicKeyInfo : Bytes
  serialNumber : Int
  subject : Name
  notBefore : Time
  notAfter : Time
  keyUsage : KeyUsage
  extKeyUsage : List ExtKeyUsage
  extensions : List Extension
  ocspServer : List String
  publicKey : PublicKey
  deriving DecidableEq, Repr, Inhabited

/-- `x509.CertPool`. -/
structure CertPool where
  certs : List Certificate
  deriving DecidableEq, Repr

/-- `x509.NewCertPool()`. -/
def CertPool.empty : CertPool := ⟨[]⟩

/-- `pool.AddCert(c)`: a certificate already in the pool is not added twice. -/
def CertPool.addCert (pool : CertPool) (c : Certificate) : CertPool :=
  if c ∈ pool.certs then pool else ⟨pool.certs ++ [c]⟩

/-- The fields of `x509.VerifyOptions` the library sets. -/
structure VerifyOptions where
  roots : CertPool
  intermediates : CertPool
  currentTime : Time
  keyUsages : List ExtKeyUsage

/-! ## OCSP -/

/-- `certID` of an OCSP request; the hash algorithm is an OID. -/
structure CertID where
  hashAlgorithm : ObjectIdentifier
  issuerNameHash : Bytes
  issuerKeyHash : Bytes
  serialNumber : Int
  deriving DecidableEq, Repr

/-- `ocspRequest`, flattened: the request list and the extensions. -/
structure OcspRequest where
  requestList : List CertID
  requestExtensions : List Extension
  deriving DecidableEq, Repr

/-- The status constants of `golang.org/x/crypto/ocsp`. -/
inductive OcspStatus where
  | good
  | revoked
  | unknown
  | serverFailed
  deriving DecidableEq, Repr

/-- The fields of `ocsp.Response` the library reads, and the responder
certificate the response embeds. -/
structure OcspResponse where
  status : OcspStatus
  serialNumber : Int
  thisUpdate : Time
  nextUpdate : Time
  extensions : List Extension
  certificate : Option Certificate
  deriving DecidableEq, Repr

/-! ## Identity assertions -/

/-- `assertion.Claims`; the times are seconds. -/
structure Claims where
  issuer : String
  audience : String
  subject : String
  issuedAt : Int
  expiry : Int
  jwtID : String
  nationalID : String
  country : String
  givenName : String
  familyName : String
  loA : String
  loginMethod : String
  deriving DecidableEq, Repr

/-- `jwsHeader` of an assertion. -/
structure JwsHeader where
  alg : String
  typ : String
  kid : String
  deriving DecidableEq, Repr

/-- `assertion.JWK`. -/
structure JWK where
  kty : String
  crv : String
  x : String
  y : String
  kid : String
  use : String
  alg : String
  deriving DecidableEq, Repr

/-- `assertion.JWKS`. -/
structure JWKS where
  keys : List JWK
  deriving DecidableEq, Repr

/-! ## Stored nonces -/

/-- `storedNonce` of the Redis store, the JSON form of a nonce. -/
structure StoredNonce where
  nonce : String
  issuedAt : Time
  deriving DecidableEq, Repr

/-! ## Other packages -/

/-- `pem.Block`. -/
structure PemBlock where
  type : String
  bytes : Bytes
  deriving DecidableEq, Repr

/-- The fields of `url.URL` the library reads. -/
structure URL where
  scheme : String
  host : String
  path : String
  rawQuery : String
  fragment : String
  deriving DecidableEq, Repr

/-- The authority taken apart: a port follows the last colon and has digits
only. -/
def splitHostPort (host : String) : String × Option String :=
  match Go.lastCut host ':' with
  | none => (host, none)
  | some (name, port) =>
      if port.toList.all Char.isDigit then (name, some port) else (host, none)

/-- `u.Hostname()`: without a port, and without the brackets when there are
two around it. -/
def URL.hostname (u : URL) : String :=
  let host := (splitHostPort u.host).1
  if Go.hasPrefix host "[" && Go.hasSuffix host "]" then
    Go.trimSuffix (Go.trimPrefix host "[") "]"
  else host

theorem URL.hostname_eq_host {u : URL} (hcolon : ':' ∉ u.host.toList)
    (hopen : '[' ∉ u.host.toList) : u.hostname = u.host := by
  have hbracket : Go.hasPrefix u.host "[" = false := by
    rw [Bool.eq_false_iff, ne_eq, Go.hasPrefix_iff]
    rintro ⟨t, ht⟩
    exact hopen (by rw [ht]; simp)
  rw [URL.hostname, splitHostPort, Go.lastCut_of_notMem hcolon]
  simp only [hbracket, Bool.false_and, Bool.false_eq_true, if_false]

/-- The packages the library calls. -/
structure Platform where
  /-- `h.New()`, `Write`, `Sum(nil)`. -/
  hashSum : Hash → Bytes → Bytes
  hashSum_length : ∀ h m, (hashSum h m).length = h.size
  /-- `sha1.Sum`. -/
  sha1Sum : Bytes → Bytes
  /-- `ecdsa.Verify(pub, digest, r, s)`. -/
  ecdsaVerify : EcdsaPublicKey → Bytes → Nat → Nat → Bool
  /-- `rsa.VerifyPKCS1v15(pub, h, digest, sig)`. -/
  rsaVerifyPKCS1v15 : RsaPublicKey → Hash → Bytes → Bytes → Except GoError Unit
  /-- `rsa.VerifyPSS` with a salt as long as the hash. -/
  rsaVerifyPSS : RsaPublicKey → Hash → Bytes → Bytes → Except GoError Unit
  /-- `x509.ParseCertificate`. -/
  parseCertificate : Bytes → Except GoError Certificate
  /-- `cert.CheckSignatureFrom(parent)`. -/
  checkSignatureFrom : Certificate → Certificate → Except GoError Unit
  /-- `cert.Verify(opts)`. -/
  verify : Certificate → VerifyOptions → Except GoError Unit
  /-- `asn1.Unmarshal` into a `[]policyInformation`. -/
  unmarshalPolicies : Bytes → Except GoError (List ObjectIdentifier)
  /-- `asn1.Unmarshal` into a `publicKeyInfo`, right-aligned key bits. -/
  unmarshalPublicKey : Bytes → Except GoError Bytes
  /-- `asn1.Marshal` of an `ocspRequest`. -/
  marshalRequest : OcspRequest → Except GoError Bytes
  /-- `ocsp.ParseResponse(bytes, issuer)`. -/
  parseResponse : Bytes → Certificate → Except GoError OcspResponse
  /-- `ocsp.ParseResponseForCert(bytes, nil, issuer)`. -/
  parseResponseForCert : Bytes → Certificate → Except GoError OcspResponse
  /-- `json.Marshal` of a `jwsHeader`. -/
  marshalHeader : JwsHeader → Except GoError Bytes
  /-- `json.Marshal` of `Claims`. -/
  marshalClaims : Claims → Except GoError Bytes
  /-- `json.Unmarshal` into a `jwsHeader`. -/
  unmarshalHeader : Bytes → Except GoError JwsHeader
  /-- `json.Unmarshal` into `Claims`. -/
  unmarshalClaims : Bytes → Except GoError Claims
  /-- `json.Marshal` of a `JWKS`. -/
  marshalJWKS : JWKS → Except GoError Bytes
  /-- `json.Unmarshal` into a `JWKS`. -/
  unmarshalJWKS : Bytes → Except GoError JWKS
  /-- `pub.Bytes()`: the uncompressed point. -/
  ecdsaBytes : EcdsaPublicKey → Except GoError Bytes
  /-- `ecdsa.ParseUncompressedPublicKey`. -/
  parseUncompressedPublicKey : Curve → Bytes → Except GoError EcdsaPublicKey
  /-- `json.Marshal` of a `storedNonce`. -/
  marshalNonce : StoredNonce → Except GoError Bytes
  /-- `json.Unmarshal` into a `storedNonce`. -/
  unmarshalNonce : Bytes → Except GoError StoredNonce
  /-- `pem.Decode(data)`: the first block and what follows it. -/
  pemDecode : Bytes → Option (PemBlock × Bytes)
  pemDecode_length : ∀ {data block rest},
    pemDecode data = some (block, rest) → rest.length < data.length
  /-- `url.Parse`. -/
  urlParse : String → Except GoError URL
  /-- `u.Parse(ref)`: the reference resolved against the URL. -/
  urlResolve : URL → String → Except GoError URL
  /-- `u.String()`. -/
  urlString : URL → String

namespace Platform

/-- A platform on which every call that can fail does. The concrete
situations of the development are this platform with the calls they need
answered. -/
def refusing : Platform where
  hashSum := fun h _ => List.replicate h.size 0
  hashSum_length := fun _ _ => List.length_replicate
  sha1Sum := fun _ => []
  ecdsaVerify := fun _ _ _ _ => false
  rsaVerifyPKCS1v15 := fun _ _ _ _ => .error (.text "")
  rsaVerifyPSS := fun _ _ _ _ => .error (.text "")
  parseCertificate := fun _ => .error (.text "")
  checkSignatureFrom := fun _ _ => .error (.text "")
  verify := fun _ _ => .error (.text "")
  unmarshalPolicies := fun _ => .error (.text "")
  unmarshalPublicKey := fun _ => .error (.text "")
  marshalRequest := fun _ => .error (.text "")
  parseResponse := fun _ _ => .error (.text "")
  parseResponseForCert := fun _ _ => .error (.text "")
  marshalHeader := fun _ => .error (.text "")
  marshalClaims := fun _ => .error (.text "")
  unmarshalHeader := fun _ => .error (.text "")
  unmarshalClaims := fun _ => .error (.text "")
  marshalJWKS := fun _ => .error (.text "")
  unmarshalJWKS := fun _ => .error (.text "")
  ecdsaBytes := fun _ => .error (.text "")
  parseUncompressedPublicKey := fun _ _ => .error (.text "")
  marshalNonce := fun _ => .error (.text "")
  unmarshalNonce := fun _ => .error (.text "")
  pemDecode := fun _ => none
  pemDecode_length := fun h => by cases h
  urlParse := fun _ => .error (.text "")
  urlResolve := fun _ _ => .error (.text "")
  urlString := fun _ => ""

end Platform

end WebEid
