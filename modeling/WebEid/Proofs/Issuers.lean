import WebEid.Ref.Ocsp
import WebEid.Ref.Trust

/-!
# Which CA is asked about a certificate

Validation searches the trusted set twice. `Verify` builds a chain, which
compares names and validity periods; `IssuerOf` takes the first CA that the
certificate's signature checks out with, which compares neither. The OCSP
request is then built from what the second search found.

The two agree as long as no other CA with the issuer's key stands before it
in the list. A renewed CA usually keeps its key, and a set that holds both
the old and the new certificate in that order sends the request in the name
of the old one.
-/

namespace WebEid.TrustStore

open Lib Exceptions

/-- `ca` issued `cert`, under the name `cert` gives for its issuer, and is
itself valid at `now`. -/
structure RealIssuer (P : Platform) (issuerName : Certificate → Bytes) (cert : Certificate)
    (now : Time) (ca : Certificate) : Prop where
  signed : P.checkSignatureFrom cert ca = .ok ()
  named : ca.rawSubject = issuerName cert
  started : ca.notBefore.ns ≤ now.ns
  ended : now.ns ≤ ca.notAfter.ns

/-- What a chain that `Certificate.Verify` accepts says about the certificate's
issuer. A certificate that is itself a root needs none. -/
def ChecksIssuer (P : Platform) (issuerName : Certificate → Bytes) : Prop :=
  ∀ cert opts, P.verify cert opts = .ok () → cert ∈ opts.roots.certs ∨
    ∃ ca, (ca ∈ opts.roots.certs ∨ ca ∈ opts.intermediates.certs) ∧
      RealIssuer P issuerName cert opts.currentTime ca

/-! ## The first match of a coarse test -/

/-- The first hit of `p` passes the finer `q` when there is a hit and every
one that fails `q` comes after one that passes it. -/
theorem find?_finer_iff {α : Type} {p : α → Bool} {q : α → Prop}
    (hqp : ∀ a, q a → p a = true) (l : List α) :
    (∃ a, l.find? p = some a ∧ q a) ↔
      (∃ a ∈ l, q a) ∧ ∀ pre a post, l = pre ++ a :: post → p a = true → ¬ q a →
        ∃ r ∈ pre, q r := by
  constructor
  · rintro ⟨a, hfind, hq⟩
    refine ⟨⟨a, List.mem_of_find?_eq_some hfind, hq⟩, ?_⟩
    obtain ⟨-, pre, post, rfl, hpre⟩ := List.find?_eq_some_iff_append.mp hfind
    intro pre' b post' hsplit hp hnot
    -- `b` stands before the hit, at it, or after it
    rcases List.append_eq_append_iff.mp hsplit with ⟨as, rfl, has⟩ | ⟨bs, rfl, hbs⟩
    · cases as with
      | nil =>
          cases has
          exact absurd hq hnot
      | cons x xs =>
          cases has
          exact ⟨a, by simp, hq⟩
    · cases bs with
      | nil =>
          cases hbs
          exact absurd hq hnot
      | cons x xs =>
          cases hbs
          have hmiss := hpre b (by simp)
          rw [hp] at hmiss
          cases hmiss
  · rintro ⟨⟨r, hr, hqr⟩, hfirst⟩
    cases hfind : l.find? p with
    | none => exact absurd (hqp r hqr) (List.find?_eq_none.mp hfind r hr)
    | some a =>
        refine ⟨a, rfl, ?_⟩
        obtain ⟨hp, pre, post, hsplit, hpre⟩ := List.find?_eq_some_iff_append.mp hfind
        by_contra hnot
        obtain ⟨s, hs, hqs⟩ := hfirst pre a post hsplit hp hnot
        have hmiss := hpre s hs
        rw [hqp s hqs] at hmiss
        cases hmiss

section

variable {P : Platform} {issuerName : Certificate → Bytes} {cas : List Certificate}
  {cert : Certificate} {now : Time} {keyUsages : List ExtKeyUsage}

theorem verifyAgainst_issuer (hx509 : ChecksIssuer P issuerName)
    (h : verifyAgainst P (newTrustSnapshot cas) cert now keyUsages = .ok ()) :
    cert ∈ cas ∨ ∃ ca ∈ cas, RealIssuer P issuerName cert now ca := by
  rw [verifyAgainst] at h
  split at h
  · cases h
  · next hverify =>
      rcases hx509 _ _ hverify with hself | ⟨ca, hca, hreal⟩
      · exact .inl (mem_newTrustSnapshot_pool.mp hself)
      · exact .inr ⟨ca, mem_newTrustSnapshot_pool.mp (or_self_iff.mp hca), hreal⟩

theorem isOk_iff {r : Except GoError Unit} : r.isOk = true ↔ r = .ok () := by
  cases r with
  | error e => simp [Except.isOk, Except.toBool]
  | ok u => simp [Except.isOk, Except.toBool]

/-- For every trusted set and every certificate it verifies, the search finds
an issuer in whose name the certificate speaks exactly when one is listed and
every CA with its key that is not such an issuer is listed after one. -/
theorem issuerOf_real_iff (hx509 : ChecksIssuer P issuerName)
    (h : (verify P cert now keyUsages).alone (newTrustSnapshot cas) = .ok ()) :
    (∃ ca, (issuerOf P cert).alone (newTrustSnapshot cas) = .ok (some ca) ∧
        RealIssuer P issuerName cert now ca) ↔
      (cert ∈ cas → ∃ ca ∈ cas, RealIssuer P issuerName cert now ca) ∧
        ∀ pre ca post, cas = pre ++ ca :: post → P.checkSignatureFrom cert ca = .ok () →
          ¬ RealIssuer P issuerName cert now ca →
          ∃ r ∈ pre, RealIssuer P issuerName cert now r := by
  have hverify : verifyAgainst P (newTrustSnapshot cas) cert now keyUsages = .ok () := by
    rw [← h]
    exact (Call.alone_lift _ _).symm
  have hissuer : ∀ ca, (issuerOf P cert).alone (newTrustSnapshot cas) = .ok (some ca) ↔
      cas.find? (fun ca => (P.checkSignatureFrom cert ca).isOk) = some ca := by
    intro ca
    show Except.ok (findIssuer P (newTrustSnapshot cas) cert) = _ ↔ _
    rw [Except.ok.injEq]
    rfl
  have hlisted : (∃ ca ∈ cas, RealIssuer P issuerName cert now ca) ↔
      (cert ∈ cas → ∃ ca ∈ cas, RealIssuer P issuerName cert now ca) := by
    rcases verifyAgainst_issuer hx509 hverify with hself | hreal
    · exact ⟨fun h _ => h, fun h => h hself⟩
    · exact iff_of_true hreal (fun _ => hreal)
  simp only [hissuer, ← hlisted]
  rw [find?_finer_iff (fun ca hreal => isOk_iff.mpr hreal.signed)]
  simp only [isOk_iff]

end

/-! A CA that was renamed and kept its key. The chain building of this
platform is that of one step, names and periods compared. -/

def keptKey : Bytes := [7]

def renamedCA : Certificate :=
  { (default : Certificate) with
    rawSubject := [1], rawSubjectPublicKeyInfo := keptKey, notAfter := ⟨10⟩ }

def currentCA : Certificate :=
  { (default : Certificate) with
    rawSubject := [2], rawSubjectPublicKeyInfo := keptKey, notAfter := ⟨20⟩ }

/-- Every certificate gives `currentCA` for its issuer. -/
def currentName (_ : Certificate) : Bytes := [2]

def oneStepPlatform : Platform :=
  { Platform.refusing with
    checkSignatureFrom := fun _ ca =>
      if ca.rawSubjectPublicKeyInfo = keptKey then .ok () else .error (.text "")
    verify := fun cert opts =>
      if opts.roots.certs.any fun ca => ca.rawSubjectPublicKeyInfo = keptKey &&
          ca.rawSubject = currentName cert && ca.notBefore.ns ≤ opts.currentTime.ns &&
          opts.currentTime.ns ≤ ca.notAfter.ns
      then .ok () else .error (.text "")
    sha1Sum := id
    unmarshalPublicKey := .ok
    marshalRequest := fun req => .ok (req.requestList.flatMap (·.issuerNameHash)) }

theorem oneStepPlatform_checks : ChecksIssuer oneStepPlatform currentName := by
  intro cert opts h
  simp only [oneStepPlatform] at h
  split at h
  · next hany =>
      obtain ⟨ca, hca, htests⟩ := List.any_eq_true.mp hany
      simp only [Bool.and_eq_true, decide_eq_true_eq] at htests
      obtain ⟨⟨⟨hkey, hname⟩, hstart⟩, hend⟩ := htests
      exact .inr ⟨ca, .inl hca, ⟨by simp [oneStepPlatform, hkey], hname, hstart, hend⟩⟩
  · cases h

/-- With the current certificate first, the right one is asked about. -/
theorem issuerOf_real_current :
    ∃ ca, (issuerOf oneStepPlatform default).alone (newTrustSnapshot [currentCA, renamedCA]) =
        .ok (some ca) ∧ RealIssuer oneStepPlatform currentName default ⟨15⟩ ca := by
  have hcurrent : RealIssuer oneStepPlatform currentName default ⟨15⟩ currentCA :=
    ⟨by decide, rfl, by decide, by decide⟩
  have hverify : (verify oneStepPlatform default ⟨15⟩ []).alone
      (newTrustSnapshot [currentCA, renamedCA]) = .ok () := by
    decide +kernel
  refine (issuerOf_real_iff oneStepPlatform_checks hverify).mpr ⟨?_, ?_⟩
  · intro _
    exact ⟨currentCA, by simp, hcurrent⟩
  · intro pre ca post hsplit _ hnot
    cases pre with
    | nil =>
        cases hsplit
        exact absurd hcurrent hnot
    | cons r pre =>
        obtain ⟨rfl, -⟩ := List.cons.inj hsplit
        exact ⟨currentCA, by simp, hcurrent⟩

/-- With the old one first, the certificate verifies, and the request goes out
in the name of a CA that did not issue it and has run out. -/
theorem issuerOf_renamed :
    (verify oneStepPlatform default ⟨15⟩ []).alone (newTrustSnapshot [renamedCA, currentCA]) =
        .ok () ∧
      (issuerOf oneStepPlatform default).alone (newTrustSnapshot [renamedCA, currentCA]) =
        .ok (some renamedCA) ∧
      ¬ RealIssuer oneStepPlatform currentName default ⟨15⟩ renamedCA ∧
      Ocsp.buildRequest oneStepPlatform default renamedCA none = .ok [1] ∧
      Ocsp.buildRequest oneStepPlatform default currentCA none = .ok [2] := by
  refine ⟨by decide +kernel, by decide +kernel, ?_, by decide, by decide⟩
  intro hreal
  exact absurd hreal.named (by decide)

end WebEid.TrustStore
