import WebEid.Proofs.Issuers
import WebEid.Proofs.RevocationDelay
import WebEid.Proofs.TrustLifecycle

/-!
# Whom a site trusts while its trust is being reloaded

A request loads the trust store twice, and `ReloadTrust` or `Reload` may run
at any moment, before, between and after the two. So one request can build its
chain to one set of CAs and look its issuer up in another. What still holds is
that both were in force during the request: the set at its start, or one that
a load has put there since (`trust_in_force`).

This is what makes removing a CA work. Once a reload without it has succeeded,
no request that starts afterwards lets in a card it issued, nor prepares a
signature for one, until a later load brings it back. A load that fails
changes nothing, on either side.

The run is that of `TrustLifecycle`. A request is given by the states it
starts and ends in, and its loads by states in between, whatever else the
process does there.
-/

namespace WebEid.TrustInForce

open Lib Exceptions Azugo TrustLifecycle TrustStore AuthTokenValidator RevocationDelay

/-! ## The sets in force -/

/-- The store held the snapshot at some point on the way from `s` to `t`. -/
def Held (P : Platform) (s t : Sys) (ref : StoreRef) (snap : TrustSnapshot) : Prop :=
  ∃ u, (machineFrom P s).Reach u ∧ (machineFrom P u).Reach t ∧ u.stores[ref]? = some snap

/-- The set in effect at `s`, or one loaded between `s` and `t`. -/
def InForce (s t : Sys) (ref : StoreRef) (cas : List Certificate) : Prop :=
  cas = effective s.ledger ref ∨ ∃ loads, t.ledger = loads ++ s.ledger ∧ (ref, cas) ∈ loads

theorem reach_from {P : Platform} {s u : Sys} (hs : (machine P).Reach s)
    (hu : (machineFrom P s).Reach u) : (machine P).Reach u := by
  induction hu with
  | init h => exact h ▸ hs
  | step _ ha ih => exact ih.step ha

theorem exec_ledger (P : Platform) (a : Action) (s : Sys) :
    ∃ loads, (exec P a s).2.ledger = loads ++ s.ledger := by
  have heffect := exec_effect P a s
  generalize exec P a s = p at heffect ⊢
  cases heffect with
  | refused | noHandler => exact ⟨[], rfl⟩
  | @built cfg opts source h stores hnew =>
      show ∃ loads, record P cfg.trustedCACertsPath source h.trust s.ledger = loads ++ s.ledger
      rw [record]
      split
      · exact ⟨[], rfl⟩
      · exact ⟨[_], rfl⟩
  | reloaded | replaced => exact ⟨[_], rfl⟩

/-- Nothing is ever struck from the ledger. -/
theorem reach_ledger {P : Platform} {s u : Sys} (hu : (machineFrom P s).Reach u) :
    ∃ loads, u.ledger = loads ++ s.ledger := by
  induction hu with
  | init h => exact ⟨[], by rw [h]; rfl⟩
  | @step u a _ _ ih =>
      obtain ⟨loads, hloads⟩ := ih
      obtain ⟨more, hmore⟩ := exec_ledger P a u
      refine ⟨more ++ loads, ?_⟩
      rw [List.append_assoc, ← hloads]
      exact hmore

theorem effective_append (loads ledger : Ledger) (ref : StoreRef) :
    effective (loads ++ ledger) ref = effective ledger ref ∨
      (ref, effective (loads ++ ledger) ref) ∈ loads := by
  induction loads with
  | nil => exact Or.inl rfl
  | cons e loads ih =>
      obtain ⟨ref', cas⟩ := e
      by_cases href : ref = ref'
      · subst href
        rw [List.cons_append, effective_cons_self]
        exact Or.inr List.mem_cons_self
      · rw [List.cons_append, effective_cons_ne href]
        rcases ih with hold | hnew
        · exact Or.inl hold
        · exact Or.inr (List.mem_cons_of_mem _ hnew)

theorem held_inForce {P : Platform} {s t : Sys} {ref : StoreRef} {snap : TrustSnapshot}
    (hs : (machine P).Reach s) (h : Held P s t ref snap) :
    ∃ cas, InForce s t ref cas ∧ snap = newTrustSnapshot cas := by
  obtain ⟨u, hu, ht, hsnap⟩ := h
  refine ⟨effective u.ledger ref, ?_, (inv_reach (reach_from hs hu)).stores ref snap hsnap⟩
  obtain ⟨loads, hloads⟩ := reach_ledger hu
  obtain ⟨later, hlater⟩ := reach_ledger ht
  rw [hloads]
  rcases effective_append loads s.ledger ref with hold | hnew
  · exact Or.inl hold
  · refine Or.inr ⟨later ++ loads, ?_, List.mem_append_right _ hnew⟩
    rw [hlater, hloads, List.append_assoc]

/-! ## Who vouches for a certificate -/

/-- A CA in force issued the certificate, and one in force was asked whether it
is revoked, if any was. -/
structure Vouched (P : Platform) (issuerName : Certificate → Bytes) (s t : Sys) (ref : StoreRef)
    (env : ValidateEnv) (checker : Option Ocsp.Checker) (cert : Certificate) : Prop where
  issued : ∃ cas, InForce s t ref cas ∧
    (cert ∈ cas ∨ ∃ ca ∈ cas, RealIssuer P issuerName cert env.now ca)
  asked : ∀ c, checker = some c → ∃ cas, InForce s t ref cas ∧
    ∃ issuer ∈ cas, P.checkSignatureFrom cert issuer = .ok () ∧
      c.check P env.ocsp cert issuer = .ok ()

section Request

variable {P : Platform} {issuerName : Certificate → Bytes} {s t : Sys} {ref : StoreRef}
  {env : ValidateEnv} {cert : Certificate}

theorem trusts_issued (hx509 : ChecksIssuer P issuerName) (hs : (machine P).Reach s)
    {snap : TrustSnapshot} (hheld : Held P s t ref snap) {now : Time} {usage : ExtKeyUsage}
    (h : snap.Trusts P cert now usage) :
    ∃ cas, InForce s t ref cas ∧
      (cert ∈ cas ∨ ∃ ca ∈ cas, RealIssuer P issuerName cert now ca) := by
  obtain ⟨cas, hcas, rfl⟩ := held_inForce hs hheld
  have hverify : verifyAgainst P (newTrustSnapshot cas) cert now [usage] = .ok () :=
    (verifyAgainst_ok_iff rfl).mpr h
  exact ⟨cas, hcas, verifyAgainst_issuer hx509 hverify⟩

theorem unrevoked_asked (hs : (machine P).Reach s) {snap : TrustSnapshot}
    (hheld : Held P s t ref snap) {ocsp : Ocsp.OcspEnv} {c : Ocsp.Checker}
    (h : Unrevoked P ocsp c snap cert) :
    ∃ cas, InForce s t ref cas ∧ ∃ issuer ∈ cas, P.checkSignatureFrom cert issuer = .ok () ∧
      c.check P ocsp cert issuer = .ok () := by
  obtain ⟨cas, hcas, rfl⟩ := held_inForce hs hheld
  obtain ⟨issuer, hissuer, hcheck⟩ := h
  have hsigned := List.find?_some hissuer
  exact ⟨cas, hcas, issuer, List.mem_of_find?_eq_some hissuer, isOk_iff.mp hsigned, hcheck⟩

/-- The loads of a request to the handler: of the store its validator reads or
of the one its signer reads. -/
def Loads (P : Platform) (s t : Sys) (h : Handler) (trust : Nat → TrustSnapshot) : Prop :=
  ∀ n, Held P s t h.validator.trust (trust n) ∨
    ∃ ref, h.signer.trust = some ref ∧ Held P s t ref (trust n)

/-- Validator and signer read one store. -/
theorem Loads.held {h : Handler} (hs : (machine P).Reach s) (hh : h ∈ s.handlers)
    {trust : Nat → TrustSnapshot} (hloads : Loads P s t h trust) (n : Nat) :
    Held P s t h.trust (trust n) := by
  obtain ⟨-, hvalidator, hsigner⟩ := (inv_reach hs).handlers h hh
  rcases hloads n with hheld | ⟨ref, href, hheld⟩
  · exact hvalidator ▸ hheld
  · rw [hsigner] at href
    cases href
    exact hheld

end Request

/-- Whoever a request establishes, and whichever certificate it prepares a
signature for, was issued by a CA that was in force while the request ran, in
whatever way loads and requests interleave. -/
theorem trust_in_force {P : Platform} {issuerName : Certificate → Bytes}
    (hx509 : ChecksIssuer P issuerName) {s t : Sys} (hs : (machine P).Reach s) {site : Site}
    (hsite : site.handler ∈ s.handlers) {σ : Type} (S : ChallengeNonceStore Context σ)
    (req : Request) (hloads : Loads P s t site.handler req.env.trust) {st st' : σ}
    {resp : Response} (hserve : site.serve P S req st = (some resp, st')) :
    (∀ u, resp.user = some u → ∃ cert, Presents P req cert ∧
      u = userOf (subjectFromCertificate cert) ∧
      Vouched P issuerName s t site.handler.trust req.env.validate
        site.handler.validator.ocspChecker cert) ∧
    ∀ r, resp.answer = .ok (.signingCertificate r) → ∃ body der cert,
      req.body.signingCertificate = .ok body ∧
      Base64.stdEncoding.decodeString body.certificate = some der ∧
      P.parseCertificate der = .ok cert ∧
      Vouched P issuerName s t site.handler.trust req.env.validate
        site.handler.signer.ocspChecker cert := by
  have hheld := hloads.held hs hsite
  refine ⟨?_, ?_⟩
  · intro u hu
    obtain ⟨cert, ⟨token, nonce, hvalidate⟩, hpresents, hu⟩ := serve_user hserve hu
    have haccepts := validate_iff.mp hvalidate
    exact ⟨cert, hpresents, hu,
      { issued := trusts_issued hx509 hs (hheld 0) haccepts.trusted
        asked := fun c hc => unrevoked_asked hs (hheld 1) (haccepts.unrevoked c hc) }⟩
  · intro r hr
    obtain ⟨body, der, prepared, hbody, hder, hprepares, -⟩ :=
      signingCertificate_ok_iff.mp (serve_signingCertificate hserve hr)
    have htrust : site.handler.signer.trust ≠ none := by
      rw [((inv_reach hs).handlers _ hsite).2.2]
      exact Option.some_ne_none _
    exact ⟨body, der, prepared.cert, hbody, hder, hprepares.carried,
      { issued := trusts_issued hx509 hs (hheld 0) (hprepares.trusted htrust)
        asked := fun c hc => unrevoked_asked hs (hheld 1) (hprepares.unrevoked htrust c hc) }⟩

/-! A service that starts before its trust is provisioned. The request arrives
while the store is still empty, and the first load comes before it looks. -/

def provisionedCA : Certificate :=
  { (default : Certificate) with rawSubject := [2], notAfter := ⟨62135600000000000000⟩ }

/-- Every certificate gives the one CA for its issuer. -/
def provisionedName (_ : Certificate) : Bytes := [2]

/-- Chains are one step long. -/
def provisionedPlatform : Platform :=
  { delayPlatform with
    verify := fun cert opts =>
      if opts.roots.certs.any fun ca => ca.rawSubject = provisionedName cert &&
          ca.notBefore.ns ≤ opts.currentTime.ns && opts.currentTime.ns ≤ ca.notAfter.ns
      then .ok () else .error (.text "") }

theorem provisionedPlatform_checks : ChecksIssuer provisionedPlatform provisionedName := by
  intro cert opts h
  simp only [provisionedPlatform] at h
  split at h
  next hany =>
    obtain ⟨ca, hca, htests⟩ := List.any_eq_true.mp hany
    simp only [Bool.and_eq_true, decide_eq_true_eq] at htests
    obtain ⟨⟨hname, hstart⟩, hend⟩ := htests
    exact Or.inr ⟨ca, Or.inl hca, ⟨rfl, hname, hstart, hend⟩⟩
  next => cases h

def provisionedRequest : Request :=
  { delayRequest with
    env := { delayRequest.env with trust := fun _ => newTrustSnapshot [provisionedCA] } }

def provisionedOptions : List HandlerOption :=
  [.withRuntimeTrust, .withAssertionIssuer (some Assertion.sampleCall.issuer)]

def unprovisioned : Sys := ⟨[newRuntime], [delaySite.handler], []⟩

theorem unprovisioned_reach : (machine provisionedPlatform).Reach unprovisioned := by
  have hnew : Azugo.new provisionedPlatform policyConfiguration provisionedOptions noTrustYet [] =
      .ok (delaySite.handler, [newRuntime]) := by
    decide +kernel
  have hstep : (exec provisionedPlatform
      (.construct policyConfiguration provisionedOptions noTrustYet) ⟨[], [], []⟩).2 =
        unprovisioned := by
    simp only [exec, hnew]
    rfl
  have hinit : (machine provisionedPlatform).Reach ⟨[], [], []⟩ := .init rfl
  rw [← hstep]
  exact hinit.step (a := Action.construct policyConfiguration provisionedOptions noTrustYet) trivial

/-- The CA that vouches is one that was not there when the request came. -/
theorem trust_in_force_provisioned :
    ∃ cert, Presents provisionedPlatform provisionedRequest cert ∧
      Vouched provisionedPlatform provisionedName unprovisioned
        (unprovisioned.load 0 [provisionedCA]) 0 provisionedRequest.env.validate
        delaySite.handler.validator.ocspChecker cert := by
  have hload : (machineFrom provisionedPlatform unprovisioned).Reach
      (unprovisioned.load 0 [provisionedCA]) :=
    Machine.Reach.step (a := Action.reload 0 [provisionedCA]) (Machine.Reach.init rfl) Nat.one_pos
  have hloads : Loads provisionedPlatform unprovisioned (unprovisioned.load 0 [provisionedCA])
      delaySite.handler provisionedRequest.env.trust :=
    fun _ => Or.inl ⟨_, hload, Machine.Reach.init rfl, rfl⟩
  have hserve : delaySite.serve provisionedPlatform InMemoryStore.store provisionedRequest
      (newSessionStore policyConfiguration) =
        (some ⟨none, some (userOf deliverySubject),
          .ok (.login (.assertion delayToken deliverySubject))⟩,
          newSessionStore policyConfiguration) := by
    rfl
  obtain ⟨cert, hpresents, -, hvouched⟩ :=
    (trust_in_force provisionedPlatform_checks unprovisioned_reach List.mem_cons_self
      InMemoryStore.store provisionedRequest hloads hserve).1 _ rfl
  exact ⟨cert, hpresents, hvouched⟩

end WebEid.TrustInForce
