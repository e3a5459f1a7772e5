import WebEid.Proofs.RevocationPolicy

/-!
# The blocklist of certificate policies

Three places decide which policies a login certificate may not assert.
`buildValidator` replaces the default list when the configured one has an
entry, `ParseOIDs` drops the entries that are blank, and
`CheckDisallowedPolicies` takes an empty list to forbid nothing. The first
looks at the list before the second has dropped anything.

A list of nothing but blank entries therefore replaces the default by an
empty list, and the Mobile-ID policies the default forbids are accepted. Every
other list does what its entries say.
-/

namespace WebEid.Azugo

open Lib Exceptions

/-- The entries that hold more than white space. -/
def nonBlankPolicies (cfg : Configuration) : List String :=
  cfg.disallowedPolicyOIDs.filter fun v => Go.trimSpace v ≠ ""

/-- The default when nothing was configured, and else what was, in order. -/
def IntendedPolicies (cfg : Configuration) (oids : List ObjectIdentifier) : Prop :=
  if nonBlankPolicies cfg = [] then oids = Certificate.defaultDisallowedPolicies
  else (nonBlankPolicies cfg).mapM Certificate.parseOID = .ok oids

/-- The certificate asserts a policy of the default list. -/
def AssertsDefaultPolicy (P : Platform) (cert : Certificate) : Prop :=
  ∃ policies, cert.extractPolicies P = .ok policies ∧
    ∃ policy ∈ policies, policy ∈ Certificate.defaultDisallowedPolicies

theorem parseOIDs_eq (vs : List String) :
    Certificate.parseOIDs vs =
      (vs.filter fun v => Go.trimSpace v ≠ "").mapM Certificate.parseOID := by
  induction vs with
  | nil => rfl
  | cons v vs ih =>
      rw [Certificate.parseOIDs]
      split
      · next hblank => rw [ih, List.filter_cons_of_neg (by simpa using hblank)]
      · next hblank =>
          rw [ih, List.filter_cons_of_pos (by simpa using hblank), List.mapM_cons]

/-- The step refuses what it finds in its list. -/
theorem checkDisallowedPolicies_of_mem {P : Platform} {cert : Certificate}
    {disallowed policies : List ObjectIdentifier} {policy : ObjectIdentifier}
    (hextract : cert.extractPolicies P = .ok policies) (hpolicy : policy ∈ policies)
    (hdisallowed : policy ∈ disallowed) :
    cert.checkDisallowedPolicies P disallowed =
      .error (.typed .errCertificateDisallowedPolicy) := by
  have hlist : ¬ (disallowed.isEmpty = true) := by
    rw [List.isEmpty_iff]
    exact List.ne_nil_of_mem hdisallowed
  have hany : (policies.any fun present => disallowed.any fun bad => present == bad) = true := by
    rw [List.any_eq_true]
    refine ⟨policy, hpolicy, ?_⟩
    rw [List.any_eq_true]
    exact ⟨policy, hdisallowed, beq_self_eq_true _⟩
  rw [Certificate.checkDisallowedPolicies, if_neg hlist, hextract]
  exact if_pos hany

section

variable {P : Platform} {cfg : Configuration}

theorem withPolicies_disallowed {b b' : AuthTokenValidatorBuilder}
    (h : withPolicies cfg b = .ok b') :
    (cfg.disallowedPolicyOIDs = [] ∧ b'.disallowedPolicies = b.disallowedPolicies) ∨
      (cfg.disallowedPolicyOIDs ≠ [] ∧
        (nonBlankPolicies cfg).mapM Certificate.parseOID = .ok b'.disallowedPolicies) := by
  rw [withPolicies] at h
  split at h
  · next hlen =>
      obtain ⟨oids, hoids, h⟩ := bind_eq_ok h
      cases h
      rw [parseOIDs_eq] at hoids
      exact .inr ⟨List.ne_nil_of_length_pos hlen, hoids⟩
  · next hlen =>
      cases h
      exact .inl ⟨List.eq_nil_of_length_eq_zero (by omega), rfl⟩

/-- The raw list decides which of the two lists the validator gets. -/
theorem buildValidator_disallowed {ref : StoreRef} {stores stores' : List TrustSnapshot}
    {v : AuthTokenValidator} (h : buildValidator P cfg ref stores = .ok (v, stores')) :
    (cfg.disallowedPolicyOIDs = [] ∧
        v.disallowedPolicies = Certificate.defaultDisallowedPolicies) ∨
      (cfg.disallowedPolicyOIDs ≠ [] ∧
        (nonBlankPolicies cfg).mapM Certificate.parseOID = .ok v.disallowedPolicies) := by
  rw [buildValidator] at h
  obtain ⟨b, hb, h⟩ := bind_eq_ok h
  obtain ⟨-, -, hpolicies⟩ := AuthTokenValidatorBuilder.build_ok h
  -- the two steps after the list leave it alone, and so do those before it
  have hafter : v.disallowedPolicies = b.disallowedPolicies := by
    rw [hpolicies]
    split <;> split <;> rfl
  rw [hafter]
  rcases withPolicies_disallowed hb with ⟨hnil, hbefore⟩ | hcons
  · refine .inl ⟨hnil, hbefore.trans ?_⟩
    rw [AuthTokenValidatorBuilder.withOcspRequestTimeout]
    split <;> split <;> rfl
  · exact .inr hcons

theorem new_disallowed {opts : List HandlerOption} {source : Source}
    {stores stores' : List TrustSnapshot} {h : Handler}
    (hnew : new P cfg opts source stores = .ok (h, stores')) :
    (cfg.disallowedPolicyOIDs = [] ∧
        h.validator.disallowedPolicies = Certificate.defaultDisallowedPolicies) ∨
      (cfg.disallowedPolicyOIDs ≠ [] ∧
        (nonBlankPolicies cfg).mapM Certificate.parseOID = .ok h.validator.disallowedPolicies) := by
  rw [new] at hnew
  obtain ⟨snap, -, hnew⟩ := bind_eq_ok hnew
  obtain ⟨⟨v, stores''⟩, hv, hnew⟩ := bind_eq_ok hnew
  obtain ⟨signer, -, hnew⟩ := bind_eq_ok hnew
  obtain ⟨g, -, hnew⟩ := bind_eq_ok hnew
  cases hnew
  exact buildValidator_disallowed hv

end

/-- For every configuration a handler was built from: its blocklist is the
intended one, and a certificate with a default policy gets past it only if a
list was configured, exactly when the configured list is empty or has an entry
that is not blank. -/
theorem blocklist_kept_iff {P : Platform} {cfg : Configuration} {opts : List HandlerOption}
    {source : Source} {stores stores' : List TrustSnapshot} {h : Handler}
    (hnew : new P cfg opts source stores = .ok (h, stores')) :
    (IntendedPolicies cfg h.validator.disallowedPolicies ∧
      ∀ cert, AssertsDefaultPolicy P cert →
        cert.checkDisallowedPolicies P h.validator.disallowedPolicies = .ok () →
        nonBlankPolicies cfg ≠ []) ↔
      cfg.disallowedPolicyOIDs = [] ∨ nonBlankPolicies cfg ≠ [] := by
  rcases new_disallowed hnew with ⟨hnil, hlist⟩ | ⟨hcons, hparsed⟩
  · have hblank : nonBlankPolicies cfg = [] := by
      rw [nonBlankPolicies, hnil]
      rfl
    refine iff_of_true ⟨?_, ?_⟩ (.inl hnil)
    · rw [IntendedPolicies, if_pos hblank]
      exact hlist
    · rintro cert ⟨policies, hextract, policy, hpolicy, hdefault⟩ haccepted
      rw [hlist, checkDisallowedPolicies_of_mem hextract hpolicy hdefault] at haccepted
      cases haccepted
  · by_cases hblank : nonBlankPolicies cfg = []
    · refine iff_of_false ?_ ?_
      · rintro ⟨hintended, -⟩
        rw [IntendedPolicies, if_pos hblank] at hintended
        rw [hblank, hintended] at hparsed
        cases hparsed
      · rintro (hnil | hne)
        · exact hcons hnil
        · exact hne hblank
    · refine iff_of_true ⟨?_, fun _ _ _ => hblank⟩ (.inr hblank)
      rw [IntendedPolicies, if_neg hblank]
      exact hparsed

/-- Nothing configured: the default is in force. -/
theorem blocklist_kept_default :
    IntendedPolicies policyConfiguration Certificate.defaultDisallowedPolicies :=
  ((blocklist_kept_iff new_policyHandler).mpr (.inl rfl)).1

/-! One blank entry, and a certificate with the first of the default
policies. -/

def blankConfiguration : Configuration :=
  { policyConfiguration with disallowedPolicyOIDs := [" "] }

def mobileIDPlatform : Platform :=
  { policyPlatform with
    unmarshalPolicies := fun _ => .ok [[1, 3, 6, 1, 4, 1, 10015, 1, 3]] }

def mobileIDCertificate : Certificate :=
  { (default : Certificate) with extensions := [⟨Certificate.oidCertificatePolicies, false, []⟩] }

/-- The handler is built, its blocklist is empty, and the certificate passes. -/
theorem blocklist_lost :
    nonBlankPolicies blankConfiguration = [] ∧
      new mobileIDPlatform blankConfiguration [.withRuntimeTrust] noTrustYet [] =
        .ok ({ policyHandler none with
          config := blankConfiguration
          validator := ⟨["https://a.lv"], 0, some (policyChecker policyConfiguration none), []⟩ },
          [TrustStore.newRuntime]) ∧
      AssertsDefaultPolicy mobileIDPlatform mobileIDCertificate ∧
      mobileIDCertificate.checkDisallowedPolicies mobileIDPlatform [] = .ok () := by
  refine ⟨by decide +kernel, by decide +kernel, ?_, rfl⟩
  exact ⟨_, rfl, [1, 3, 6, 1, 4, 1, 10015, 1, 3], by simp, by decide⟩

end WebEid.Azugo
