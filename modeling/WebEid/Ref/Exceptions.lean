import Mathlib.Tactic.Common

/-!
# Error values (`exceptions/errors.go`)

Every typed error of the library is one of the package variables below,
possibly wrapped around a cause. A Go `error` is one of those, a package
level sentinel that `errors.Is` can recognise, a value made on the spot, or
a value wrapped with `%w`. Two errors made on the spot are never the same
value to `errors.Is` even when their texts agree, which is why only the
sentinels carry an identity here. The texts and the status a typed error is
shown to a client with are read by nothing below and are left out.

The cause is for the server's log. Where it comes from code outside the
repository it is whatever that code returned.
-/

namespace WebEid.Exceptions

/-- The package variables of `exceptions`. -/
inductive Error where
  | errTokenParse
  | errTokenUnsupportedFormat
  | errTokenSignatureInvalid
  | errChallengeNonceExpired
  | errChallengeNonceNotFound
  | errCertificateExpired
  | errCertificateNotYetValid
  | errCertificateNotTrusted
  | errCertificateRevoked
  | errCertificateDisallowedPolicy
  | errUserCertificateWrongPurpose
  | errSigningCertificateInvalid
  | errOCSPRequestFailed
  | errNoSupportedHashFunction
  | errSignatureValueInvalid
  | errIdentityBindingMismatch
  deriving DecidableEq, Repr

/-- The package-level sentinels that some caller recognises with
`errors.Is`. -/
inductive Sentinel where
  | osErrNotExist
  | errNoCertificatesFound
  deriving DecidableEq, Repr

/-- A Go `error` value. -/
inductive GoError where
  | typed (e : Error)
  | typedCause (e : Error) (cause : GoError)
  | sentinel (s : Sentinel)
  | text (msg : String)
  | wrapf (msg : String) (cause : GoError)
  deriving DecidableEq, Repr

/-- `exceptions.Wrap`. -/
def wrap (base : Error) (cause : GoError) : GoError := .typedCause base cause

namespace GoError

/-- `errors.Is(err, s)`: the chain of causes holds the sentinel. -/
def is : GoError → Sentinel → Bool
  | typed _, _ => false
  | typedCause _ cause, s => cause.is s
  | sentinel t, s => t == s
  | text _, _ => false
  | wrapf _ cause, s => cause.is s

/-- The typed error at the head of a value, if there is one: what the HTTP
layer tells the client about. -/
def error? : GoError → Option Error
  | typed e => some e
  | typedCause e _ => some e
  | _ => none

@[simp] theorem error?_wrap (e : Error) (cause : GoError) :
    (wrap e cause).error? = some e := rfl

@[simp] theorem error?_typed (e : Error) : (typed e).error? = some e := rfl

end GoError

end WebEid.Exceptions
