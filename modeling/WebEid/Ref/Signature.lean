import WebEid.Ref.Certificate

/-!
# Token signatures (`signature/verify.go`)

The verifier dispatches on the certificate's key first and reads the padding
off the algorithm's name second; the algorithm only ever selects the hash
and, for RSA, the padding.
-/

namespace WebEid.Signature

open Lib Exceptions

/-- The nine algorithms the token format permits, with their hashes. -/
def jwaToHash : List (String × Hash) :=
  [("RS256", .sha256), ("RS384", .sha384), ("RS512", .sha512),
   ("PS256", .sha256), ("PS384", .sha384), ("PS512", .sha512),
   ("ES256", .sha256), ("ES384", .sha384), ("ES512", .sha512)]

def isSupportedAlgorithm (algorithm : String) : Bool :=
  (jwaToHash.lookup algorithm).isSome

def hashFor (algorithm : String) : Option Hash := jwaToHash.lookup algorithm

def errUnsupportedKey : GoError := .text "unsupported public key type"

def errInvalidP1363Length (got want : Nat) : GoError :=
  .text ("invalid ECDSA P1363 signature length: got " ++ toString got ++
    ", want " ++ toString want)

/-- The two halves of a raw `r ‖ s` signature, which must be exactly two
coordinates long. -/
def splitP1363 (sig : Bytes) (pub : EcdsaPublicKey) : Except GoError (Nat × Nat) :=
  let byteLen := (pub.curve.bitSize + 7) / 8
  if sig.length ≠ 2 * byteLen then
    .error (errInvalidP1363Length sig.length (2 * byteLen))
  else .ok (Go.setBytes (sig.take byteLen), Go.setBytes (sig.drop byteLen))

/-- The signature operation hashes `signedData` once more. The SHA-2 family
is linked in, so `Available` never fails here. -/
def verify (P : Platform) (cert : Certificate) (algorithm : String)
    (signedData signature : Bytes) : Except GoError Unit :=
  match jwaToHash.lookup algorithm with
  | none => .error (.typed .errTokenUnsupportedFormat)
  | some h =>
      let digest := P.hashSum h signedData
      match cert.publicKey with
      | .rsa pub =>
          if Go.hasPrefix algorithm "PS" then
            match P.rsaVerifyPSS pub h digest signature with
            | .error err => .error (wrap .errTokenSignatureInvalid err)
            | .ok () => .ok ()
          else
            match P.rsaVerifyPKCS1v15 pub h digest signature with
            | .error err => .error (wrap .errTokenSignatureInvalid err)
            | .ok () => .ok ()
      | .ecdsa pub =>
          match splitP1363 signature pub with
          | .error err => .error (wrap .errTokenSignatureInvalid err)
          | .ok (r, s) =>
              if P.ecdsaVerify pub digest r s then .ok ()
              else .error (.typed .errTokenSignatureInvalid)
      | .other _ => .error (wrap .errTokenSignatureInvalid errUnsupportedKey)

/-- An ECDSA signature of no bytes is never split. -/
theorem splitP1363_nil (pub : EcdsaPublicKey) :
    splitP1363 [] pub = .error (errInvalidP1363Length 0
      (2 * ((pub.curve.bitSize + 7) / 8))) := by
  unfold splitP1363
  rw [if_pos]
  · rfl
  · cases pub.curve <;> decide

end WebEid.Signature
