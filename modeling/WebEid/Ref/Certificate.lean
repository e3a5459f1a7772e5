import WebEid.Ref.Platform

/-!
# Certificate checks (`certificate/checks.go`, `policy.go`, `data.go`)

The per-certificate steps of both pipelines: validity window, key usage,
certificate policies, and the subject attributes that become an identity.
Each check is a function of the certificate and its arguments alone; trust
and revocation, which need more than the certificate, are in `Trust.lean`
and `Ocsp.lean`.
-/

namespace WebEid.Certificate

open Lib Exceptions

/-! ## checks.go -/

/-- The Certificate Policies extension, 2.5.29.32. -/
def oidCertificatePolicies : ObjectIdentifier := [2, 5, 29, 32]

/-- The Estonian Mobile-ID policy arcs. -/
def defaultDisallowedPolicies : List ObjectIdentifier :=
  [[1, 3, 6, 1, 4, 1, 10015, 1, 3], [1, 3, 6, 1, 4, 1, 10015, 11, 1]]

def checkValidity (cert : Certificate) (now : Time) : Except GoError Unit :=
  if now.before cert.notBefore then .error (.typed .errCertificateNotYetValid)
  else if now.after cert.notAfter then .error (.typed .errCertificateExpired)
  else .ok ()

/-- The certificate carries the usage, or the any-usage wildcard. An empty
list carries nothing. -/
def hasExtKeyUsage (cert : Certificate) (want : ExtKeyUsage) : Bool :=
  cert.extKeyUsage.any fun eku => eku == want || eku == .any

def checkKeyUsageForAuthentication (cert : Certificate) : Except GoError Unit :=
  if cert.keyUsage &&& keyUsageDigitalSignature = 0 then
    .error (.typed .errUserCertificateWrongPurpose)
  else if !hasExtKeyUsage cert .clientAuth then
    .error (.typed .errUserCertificateWrongPurpose)
  else .ok ()

def checkKeyUsageForSigning (cert : Certificate) : Except GoError Unit :=
  if cert.keyUsage &&& keyUsageContentCommitment = 0 then
    .error (.typed .errSigningCertificateInvalid)
  else .ok ()

/-- The asserted policies: those of the first Certificate Policies extension,
or none when there is no such extension. -/
def extractPolicies (P : Platform) (cert : Certificate) :
    Except GoError (List ObjectIdentifier) :=
  match cert.extensions.find? fun ext => ext.id == oidCertificatePolicies with
  | none => .ok []
  | some ext => P.unmarshalPolicies ext.value

def checkDisallowedPolicies (P : Platform) (cert : Certificate)
    (disallowed : List ObjectIdentifier) : Except GoError Unit :=
  if disallowed.isEmpty then .ok ()
  else
    match extractPolicies P cert with
    | .error err => .error (wrap .errCertificateDisallowedPolicy err)
    | .ok policies =>
        if policies.any fun present => disallowed.any fun bad => present == bad then
          .error (.typed .errCertificateDisallowedPolicy)
        else .ok ()

/-! ## policy.go -/

/-- The component loop of `ParseOID`. -/
def parseOIDParts (s : String) : List String → Except GoError ObjectIdentifier
  | [] => .ok []
  | p :: ps =>
      match Go.atoi p with
      | none => .error (.text ("invalid OID " ++ s.quote ++ ": component " ++ p.quote))
      | some n =>
          if n < 0 then .error (.text ("invalid OID " ++ s.quote ++ ": component " ++ p.quote))
          else do
            let oid ← parseOIDParts s ps
            pure (n.toNat :: oid)

def parseOID (s : String) : Except GoError ObjectIdentifier :=
  let parts := Go.split (Go.trimSpace s) '.'
  if parts.length < 2 then .error (.text ("invalid OID " ++ s.quote))
  else parseOIDParts s parts

/-- Blank entries are dropped; the first bad one fails the list. -/
def parseOIDs : List String → Except GoError (List ObjectIdentifier)
  | [] => .ok []
  | v :: vs =>
      if Go.trimSpace v = "" then parseOIDs vs
      else do
        let oid ← parseOID v
        let oids ← parseOIDs vs
        pure (oid :: oids)

/-- At least one accepted policy must be asserted; an empty list accepts
every certificate. -/
def checkAcceptedPolicies (P : Platform) (cert : Certificate)
    (accepted : List ObjectIdentifier) : Except GoError Unit :=
  if accepted.isEmpty then .ok ()
  else
    match extractPolicies P cert with
    | .error err => .error (wrap .errCertificateDisallowedPolicy err)
    | .ok present =>
        if accepted.any fun want => present.any fun have' => have' == want then .ok ()
        else .error (.typed .errCertificateDisallowedPolicy)

/-- The semantics identifier of a natural person's serialNumber. -/
def naturalPersonIDPrefix : String := "PNO"

/-- Whether the person binding was checked. The comparison is made only
between two natural-person identifiers, and a mismatch is an error. -/
def checkSameNaturalPerson (a b : Certificate) : Except GoError Bool :=
  let idA := a.subject.serialNumber
  let idB := b.subject.serialNumber
  if !Go.hasPrefix idA naturalPersonIDPrefix || !Go.hasPrefix idB naturalPersonIDPrefix then
    .ok false
  else if idA ≠ idB then .error (.typed .errIdentityBindingMismatch)
  else .ok true

/-! ## data.go -/

def errSubjectFieldMissing : GoError := .text "certificate subject field is missing"

def oidGivenName : ObjectIdentifier := [2, 5, 4, 42]

def oidSurname : ObjectIdentifier := [2, 5, 4, 4]

def subjectCN (c : Certificate) : Except GoError String :=
  if c.subject.commonName = "" then .error errSubjectFieldMissing
  else .ok c.subject.commonName

def subjectIDCode (c : Certificate) : Except GoError String :=
  if c.subject.serialNumber = "" then .error errSubjectFieldMissing
  else .ok c.subject.serialNumber

/-- Only the first country counts. -/
def subjectCountryCode (c : Certificate) : Except GoError String :=
  match c.subject.country with
  | [] => .error errSubjectFieldMissing
  | cc :: _ => if cc = "" then .error errSubjectFieldMissing else .ok cc

/-- The first attribute of the given type whose value is a non-empty
string. -/
def subjectAttribute (oid : ObjectIdentifier) (c : Certificate) :
    Except GoError String :=
  match c.subject.names.findSome? fun name =>
      if name.type == oid then name.value.filter (· ≠ "") else none with
  | some s => .ok s
  | none => .error errSubjectFieldMissing

def subjectGivenName (c : Certificate) : Except GoError String :=
  subjectAttribute oidGivenName c

def subjectSurname (c : Certificate) : Except GoError String :=
  subjectAttribute oidSurname c

/-- The loop of `TitleCase` over the lower-cased runes. -/
def titleCaseRunes : Bool → List Char → List Char
  | _, [] => []
  | prevBoundary, r :: rs =>
      (if prevBoundary then Unicode.toUpper r else r) ::
        titleCaseRunes (r == ' ' || r == '-' || r == '\'') rs

def titleCase (s : String) : String :=
  String.ofList (titleCaseRunes true (Go.toLower s).toList)

/-! ## What a passed check says -/

theorem checkValidity_ok_iff {cert : Certificate} {now : Time} :
    checkValidity cert now = .ok () ↔
      cert.notBefore.ns ≤ now.ns ∧ now.ns ≤ cert.notAfter.ns := by
  unfold checkValidity Time.before Time.after
  constructor
  · intro h
    split at h
    · cases h
    · split at h
      · cases h
      · simp only [decide_eq_true_eq] at *
        omega
  · rintro ⟨hlo, hhi⟩
    rw [if_neg (by simpa using hlo), if_neg (by simpa using hhi)]

theorem checkKeyUsageForSigning_ok_iff {cert : Certificate} :
    checkKeyUsageForSigning cert = .ok () ↔
      cert.keyUsage &&& keyUsageContentCommitment ≠ 0 := by
  unfold checkKeyUsageForSigning
  split <;> rename_i h <;> simp [h]

theorem subjectCN_ok {c : Certificate} {cn : String} (h : subjectCN c = .ok cn) :
    cn = c.subject.commonName ∧ cn ≠ "" := by
  unfold subjectCN at h
  split at h
  · cases h
  · next hne =>
      injection h with h
      subst h
      exact ⟨rfl, hne⟩

end WebEid.Certificate
