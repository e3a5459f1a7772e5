import WebEid.Proofs.Revocation

/-!
# Responses of a designated responder

A designated service may pin the certificate its responses are verified
with. `parseAndVerify` hands that certificate to the parser in the place of
the issuer, and there it plays an issuer's part: a response that embeds no
certificate must be signed with its key, and one that embeds a certificate
must embed one signed with its key.

A responder that embeds its own certificate, as most do, is therefore
verified only if that certificate is self-signed. One that a CA issued is
refused, although its key signed the response.
-/

namespace WebEid.Ocsp

open Lib Exceptions

/-- The parser, over what a response says, which key signed it and which key
signed a certificate. -/
structure ParserLaws (P : Platform) where
  content : Bytes → Option OcspResponse
  signedBy : Bytes → PublicKey → Prop
  issuedBy : Certificate → PublicKey → Prop
  parseResponseForCert : ∀ b rc r, P.parseResponseForCert b rc = .ok r ↔
    content b = some r ∧ VerifiedWith signedBy issuedBy b r rc

/-- The designated service of `c` covers the issuer and pins `rc`. -/
structure Pinned (c : Checker) (issuer : Certificate) (d : DesignatedServiceConfiguration)
    (rc : Certificate) : Prop where
  designated : c.opts.designated = some d
  supports : d.supports issuer = true
  certificate : d.responderCertificate = some rc

def DesignatedServiceConfiguration.responder (d : DesignatedServiceConfiguration) : Responder :=
  ⟨d.url, d.responderCertificate, d.nonceDisabled⟩

/-- The bytes `b` came back for the request, say that the certificate is good,
fresh and about this request, and are signed with the key of `rc`. -/
structure GoodAnswer {P : Platform} (L : ParserLaws P) (env : OcspEnv) (c : Checker)
    (cert issuer : Certificate) (d : DesignatedServiceConfiguration) (rc : Certificate)
    (b : Bytes) (r : OcspResponse) : Prop where
  answers : ∃ nonce reqBytes, requestNonce env d.responder = .ok nonce ∧
    buildRequest P cert issuer nonce = .ok reqBytes ∧
    env.exchange c.opts.client d.url reqBytes c.opts.requestTimeout = .ok b ∧
    (responseNonce r = none ∨ responseNonce r = nonce)
  content : L.content b = some r
  signed : L.signedBy b rc.publicKey
  good : r.status = .good
  fresh : c.checkFreshness r env.now = .ok ()

section

variable {P : Platform} {env : OcspEnv} {c : Checker} {cert issuer rc : Certificate}
  {d : DesignatedServiceConfiguration} {b : Bytes} {r : OcspResponse}

theorem request_pinned (hpin : Pinned c issuer d rc) {nonce : Option Bytes} {reqBytes : Bytes}
    (hnonce : requestNonce env d.responder = .ok nonce)
    (hreq : buildRequest P cert issuer nonce = .ok reqBytes) :
    c.request P env cert issuer = .ok (d.responder, nonce, reqBytes) := by
  have hresolve : c.resolveResponder P cert issuer = .ok d.responder := by
    rw [Checker.resolveResponder, hpin.designated, Option.filter_some, if_pos hpin.supports]
    rfl
  rw [Checker.request, hresolve, bind_ok, hnonce, bind_ok, hreq]
  rfl

/-- With the response at hand, what is left of the exchange is the parser. -/
theorem fetch_pinned (hpin : Pinned c issuer d rc) {nonce : Option Bytes} {reqBytes : Bytes}
    (hreq : c.request P env cert issuer = .ok (d.responder, nonce, reqBytes))
    (hexchange : env.exchange c.opts.client d.url reqBytes c.opts.requestTimeout = .ok b) :
    c.fetch P env cert issuer =
      (P.parseResponseForCert b rc).mapError wrapOCSPError >>= fun resp =>
        .ok ⟨d.responder, nonce, b, resp⟩ := by
  have hurl : d.responder.url = d.url := rfl
  have hrc : d.responder.responderCert = some rc := hpin.certificate
  rw [fetch_eq, hreq, bind_ok, Checker.exchange]
  simp only [hurl, hexchange, hrc, parseAndVerify]
  rfl

theorem check_pinned_iff (L : ParserLaws P) (hpin : Pinned c issuer d rc)
    (h : GoodAnswer L env c cert issuer d rc b r) :
    c.check P env cert issuer = .ok () ↔ VerifiedWith L.signedBy L.issuedBy b r rc := by
  obtain ⟨nonce, reqBytes, hdraw, hreq, hexchange, hnonce⟩ := h.answers
  have hfetch := fetch_pinned hpin (request_pinned hpin hdraw hreq) hexchange
  rw [check_ok_iff]
  constructor
  · rintro ⟨x, hx, -, -, -⟩
    rw [hfetch] at hx
    obtain ⟨resp, hresp, -⟩ := bind_eq_ok hx
    obtain ⟨hcontent, hverified⟩ := (L.parseResponseForCert b rc resp).mp (mapError_eq_ok hresp)
    rw [h.content] at hcontent
    cases hcontent
    exact hverified
  · intro hverified
    have hparse := (L.parseResponseForCert b rc r).mpr ⟨h.content, hverified⟩
    refine ⟨⟨d.responder, nonce, b, r⟩, ?_, ?_, h.fresh, h.good⟩
    · rw [hfetch, hparse]
      rfl
    · refine checkNonce_ok_iff.mpr ?_
      intro n got hn hgot
      rcases hnonce with hnone | hecho
      · rw [hnone] at hgot
        cases hgot
      · rw [hgot] at hecho
        exact Option.some.inj (hecho.trans hn)

/-- A good answer signed with the pinned key, without a certificate or with
the pinned one, is accepted exactly when it embeds none or the pinned
certificate is self-signed. -/
theorem pinned_responder_iff (L : ParserLaws P) (hpin : Pinned c issuer d rc)
    (h : GoodAnswer L env c cert issuer d rc b r)
    (hembeds : r.certificate = none ∨ r.certificate = some rc) :
    c.check P env cert issuer = .ok () ↔
      r.certificate = none ∨ L.issuedBy rc rc.publicKey := by
  rw [check_pinned_iff L hpin h, VerifiedWith]
  rcases hembeds with hnone | hsome
  · rw [hnone]
    exact iff_of_true h.signed (.inl rfl)
  · rw [hsome]
    constructor
    · rintro ⟨-, hself⟩
      exact .inr hself
    · rintro (hnone | hself)
      · cases hnone
      · exact ⟨h.signed, hself⟩

end

/-! A responder whose certificate the issuer signed, pinned for every issuer. -/

namespace PinnedAnswer

def issuer : Certificate := { (default : Certificate) with publicKey := .rsa ⟨1, 1⟩ }

def responderCert : Certificate :=
  { (default : Certificate) with extKeyUsage := [.ocspSigning], publicKey := .rsa ⟨2, 1⟩ }

def response (embedded : Option Certificate) : OcspResponse :=
  ⟨.good, 0, ⟨0⟩, ⟨0⟩, [], embedded⟩

def signedBy (_ : Bytes) (k : PublicKey) : Prop := k = responderCert.publicKey

def issuedBy (_ : Certificate) (k : PublicKey) : Prop := k = issuer.publicKey

def accepts (embedded : Option Certificate) (ca : Certificate) : Bool :=
  match embedded with
  | none => ca.publicKey = responderCert.publicKey
  | some emb => emb.publicKey = responderCert.publicKey && ca.publicKey = issuer.publicKey

theorem accepts_iff (embedded : Option Certificate) (b : Bytes) (ca : Certificate) :
    accepts embedded ca = true ↔ VerifiedWith signedBy issuedBy b (response embedded) ca := by
  cases embedded with
  | none => exact decide_eq_true_iff
  | some emb => simp [accepts, VerifiedWith, response, signedBy, issuedBy]

def platform (embedded : Option Certificate) : Platform :=
  { Platform.refusing with
    unmarshalPublicKey := fun _ => .ok []
    marshalRequest := fun _ => .ok []
    parseResponseForCert := fun _ ca =>
      if accepts embedded ca then .ok (response embedded)
      else .error (.text "bad OCSP signature") }

def laws (embedded : Option Certificate) : ParserLaws (platform embedded) where
  content _ := some (response embedded)
  signedBy := signedBy
  issuedBy := issuedBy
  parseResponseForCert := by
    intro b ca r
    simp only [platform, Option.some.injEq]
    split
    · next haccepts =>
        have hverified := (accepts_iff embedded b ca).mp haccepts
        rw [Except.ok.injEq]
        exact ⟨fun h => ⟨h, h ▸ hverified⟩, And.left⟩
    · next haccepts =>
        refine iff_of_false (by simp) ?_
        rintro ⟨rfl, hverified⟩
        exact haccepts ((accepts_iff embedded b ca).mpr hverified)

def designated : DesignatedServiceConfiguration :=
  ⟨"http://ocsp.example", some responderCert, [], false⟩

def checker : Checker := newChecker { defaultOptions with designated := some designated }

def env : OcspEnv := ⟨.ok [7], fun _ _ _ _ => .ok [], ⟨0⟩⟩

theorem pinned : Pinned checker issuer designated responderCert := ⟨rfl, rfl, rfl⟩

theorem goodAnswer (embedded : Option Certificate) :
    GoodAnswer (laws embedded) env checker default issuer designated responderCert []
      (response embedded) :=
  ⟨⟨some [7], [], rfl, rfl, rfl, .inl rfl⟩, rfl, rfl, rfl, rfl⟩

end PinnedAnswer

/-- Without an embedded certificate the answer is accepted. -/
theorem pinned_responder_plain :
    PinnedAnswer.checker.check (PinnedAnswer.platform none) PinnedAnswer.env default
      PinnedAnswer.issuer = .ok () :=
  (pinned_responder_iff (PinnedAnswer.laws none) PinnedAnswer.pinned
    (PinnedAnswer.goodAnswer none) (.inl rfl)).mpr (.inl rfl)

/-- With the pinned certificate embedded, the same answer is refused: the
issuer signed that certificate, and not the responder itself. -/
theorem pinned_responder_refused :
    PinnedAnswer.checker.check (PinnedAnswer.platform (some PinnedAnswer.responderCert))
        PinnedAnswer.env default PinnedAnswer.issuer =
      .error (wrapOCSPError (.text "bad OCSP signature")) := by
  rfl

end WebEid.Ocsp
