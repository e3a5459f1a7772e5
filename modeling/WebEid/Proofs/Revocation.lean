import WebEid.Ref.Ocsp

/-!
# What a passed revocation check says about the answer

A check passes when the exchange brought a response back whose signature
`golang.org/x/crypto/ocsp` verified, and the response's nonce, age and status
are in order (`check_ok_of_fetch`). Three links between the question and the
answer are left to the caller of that package, and `Check` makes none of them:

* **The serial.** The request names the certificate; the response is never
  compared with it. Whatever can be accepted about the certificate can be
  accepted about another one, so a passed check is about its certificate only
  where no check can pass (`check_serial_iff`).

* **The signer.** A response may embed the certificate it was signed with. The
  package verifies the embedded certificate's signature and leaves its extended
  key usage alone, and so does `Check`. Every certificate of the issuer is then
  a signer (`check_signer_iff`).

* **The nonce.** The package hands out the extensions of the single response,
  and a standard responder puts the nonce into the response data instead.
  `check_replay_iff` says which replays are refused.

What the package does is assumed in `AnySerial`, `SignatureLaws` and
`WireExtensions`, over an arbitrary notion of which key signed what. The first
two results are about all the bytes a transport may return, since that is who
the check has to be safe against.
-/

namespace WebEid.Ocsp

open Lib Exceptions

/-- The three tests `Check` puts a verified response to. -/
def Checker.Passes (c : Checker) (now : Time) (x : Exchange) : Prop :=
  checkNonce x.nonce x.resp = .ok () ∧ c.checkFreshness x.resp now = .ok () ∧
    x.resp.status = .good

/-- Where the question about a certificate goes: to the designated service when
one covers the issuer, otherwise to the first responder the certificate names,
if the allowlist has it. -/
inductive Checker.Asks (P : Platform) (c : Checker) (cert issuer : Certificate) :
    Responder → Prop where
  | designated {d : DesignatedServiceConfiguration} (hd : c.opts.designated = some d)
      (hcovers : d.supports issuer = true) :
      Asks P c cert issuer ⟨d.url, d.responderCertificate, d.nonceDisabled⟩
  | aia {url : String} {urls : List String}
      (hnone : ∀ d, c.opts.designated = some d → d.supports issuer = false)
      (haia : cert.ocspServer = url :: urls) (hallowed : c.isResponderAllowed P url = true) :
      Asks P c cert issuer ⟨url, none, c.isNonceDisabled url⟩

/-- A request goes out: there is a responder to ask, the random source gives a
nonce unless none is wanted, and the request can be encoded. -/
structure Checker.Sends (P : Platform) (random : Except GoError Bytes) (c : Checker)
    (cert issuer : Certificate) (r : Responder) (nonce : Option Bytes) (reqBytes : Bytes) :
    Prop where
  asks : c.Asks P cert issuer r
  drawn : if r.nonceDisabled then nonce = none else ∃ n, random = .ok n ∧ nonce = some n
  encoded : buildRequest P cert issuer nonce = .ok reqBytes

/-- Some response that verifies would pass the three tests. -/
def Checker.Answerable (P : Platform) (env : OcspEnv) (c : Checker) (issuer : Certificate)
    (r : Responder) (nonce : Option Bytes) : Prop :=
  ∃ b resp, parseAndVerify P b issuer r.responderCert = .ok resp ∧
    c.Passes env.now ⟨r, nonce, b, resp⟩

/-- The transport returns these bytes. -/
def OcspEnv.answered (env : OcspEnv) (b : Bytes) : OcspEnv :=
  { env with exchange := fun _ _ _ _ => .ok b }

section

variable {P : Platform} {env : OcspEnv} {c : Checker} {cert issuer : Certificate}
  {x : Exchange}

/-- Once the exchange brought a response back, the tests decide. -/
theorem check_ok_of_fetch (hx : c.fetch P env cert issuer = .ok x) :
    c.check P env cert issuer = .ok () ↔ c.Passes env.now x := by
  rw [check_ok_iff]
  constructor
  · rintro ⟨y, hy, htests⟩
    rw [hx] at hy
    cases hy
    exact htests
  · intro htests
    exact ⟨x, hx, htests⟩

theorem asks_iff_of_designated {d : DesignatedServiceConfiguration} {r : Responder}
    (hd : c.opts.designated = some d) (hcovers : d.supports issuer = true) :
    c.Asks P cert issuer r ↔ ⟨d.url, d.responderCertificate, d.nonceDisabled⟩ = r := by
  constructor
  · intro h
    cases h with
    | designated hd' _ =>
        rw [hd] at hd'
        cases hd'
        rfl
    | aia hnone _ _ =>
        rw [hnone d hd] at hcovers
        cases hcovers
  · rintro rfl
    exact .designated hd hcovers

theorem asks_iff_of_undesignated {r : Responder}
    (hnone : ∀ d, c.opts.designated = some d → d.supports issuer = false) :
    c.Asks P cert issuer r ↔ ∃ url urls, cert.ocspServer = url :: urls ∧
      c.isResponderAllowed P url = true ∧ ⟨url, none, c.isNonceDisabled url⟩ = r := by
  constructor
  · intro h
    cases h with
    | designated hd hcovers =>
        rw [hnone _ hd] at hcovers
        cases hcovers
    | aia _ haia hallowed => exact ⟨_, _, haia, hallowed, rfl⟩
  · rintro ⟨url, urls, haia, hallowed, rfl⟩
    exact .aia hnone haia hallowed

theorem resolveResponder_ok_iff {r : Responder} :
    c.resolveResponder P cert issuer = .ok r ↔ c.Asks P cert issuer r := by
  rw [Checker.resolveResponder]
  split
  next d hd =>
    obtain ⟨hd, hcovers⟩ := Option.filter_eq_some_iff.mp hd
    rw [asks_iff_of_designated hd hcovers, Except.ok.injEq]
  next hd =>
    have hnone : ∀ d, c.opts.designated = some d → d.supports issuer = false :=
      fun d hd' => Bool.eq_false_iff.mpr (Option.filter_eq_none_iff.mp hd d hd')
    rw [asks_iff_of_undesignated hnone, aiaOCSPURL]
    cases cert.ocspServer with
    | nil => simp
    | cons url urls => cases hallowed : c.isResponderAllowed P url <;> simp [hallowed]

theorem requestNonce_ok_iff {r : Responder} {nonce : Option Bytes} :
    requestNonce env r = .ok nonce ↔
      if r.nonceDisabled then nonce = none
      else ∃ n, env.generateNonce = .ok n ∧ nonce = some n := by
  rw [requestNonce]
  split
  · rw [Except.ok.injEq, eq_comm]
  · cases env.generateNonce with
    | error err => simp
    | ok n => simp [eq_comm]

/-- The request of a check, in terms of what it is given. -/
theorem request_ok_iff {r : Responder} {nonce : Option Bytes} {reqBytes : Bytes} :
    c.request P env cert issuer = .ok (r, nonce, reqBytes) ↔
      c.Sends P env.generateNonce cert issuer r nonce reqBytes := by
  rw [Checker.request]
  refine ⟨fun h => ?_, fun h => ?_⟩
  · obtain ⟨r', hr, h⟩ := bind_eq_ok h
    obtain ⟨nonce', hnonce, h⟩ := bind_eq_ok h
    obtain ⟨reqBytes', hreq, h⟩ := bind_eq_ok h
    cases h
    exact ⟨resolveResponder_ok_iff.mp hr, requestNonce_ok_iff.mp hnonce, mapError_eq_ok hreq⟩
  · rw [resolveResponder_ok_iff.mpr h.asks, bind_ok, requestNonce_ok_iff.mpr h.drawn, bind_ok,
      mapError_eq_ok_iff.mpr h.encoded, bind_ok]
    rfl

/-- A responder certificate is used exactly when the designated service that
covers the issuer pins one. -/
theorem Checker.Asks.pinned {r : Responder} (h : c.Asks P cert issuer r) {rc : Certificate}
    (hrc : r.responderCert = some rc) :
    ∃ d, c.opts.designated = some d ∧ d.supports issuer = true ∧
      d.responderCertificate = some rc := by
  cases h with
  | designated hd hcovers => exact ⟨_, hd, hcovers, hrc⟩
  | aia _ _ _ => cases hrc

/-- What came back was asked for, and verified with the responder's certificate
or the issuer. -/
theorem sends_of_fetch (hx : c.fetch P env cert issuer = .ok x) :
    (∃ reqBytes, c.Sends P env.generateNonce cert issuer x.responder x.nonce reqBytes) ∧
      parseAndVerify P x.respBytes issuer x.responder.responderCert = .ok x.resp := by
  rw [fetch_eq] at hx
  obtain ⟨⟨r, nonce, reqBytes⟩, hrequest, hx⟩ := bind_eq_ok hx
  obtain ⟨respBytes, -, hx⟩ := bind_eq_ok hx
  obtain ⟨resp, hresp, hx⟩ := bind_eq_ok hx
  cases hx
  exact ⟨⟨reqBytes, request_ok_iff.mp hrequest⟩, mapError_eq_ok hresp⟩

/-- Whatever verifies can be brought back to a question that goes out. -/
theorem fetch_answered {r : Responder} {nonce : Option Bytes} {reqBytes b : Bytes}
    {resp : OcspResponse} (hsends : c.Sends P env.generateNonce cert issuer r nonce reqBytes)
    (hparse : parseAndVerify P b issuer r.responderCert = .ok resp) :
    c.fetch P (env.answered b) cert issuer = .ok ⟨r, nonce, b, resp⟩ := by
  have hrequest : c.request P (env.answered b) cert issuer = .ok (r, nonce, reqBytes) :=
    request_ok_iff.mpr hsends
  have hexchange : (env.answered b).exchange c.opts.client r.url reqBytes c.opts.requestTimeout =
      .ok b := rfl
  rw [fetch_eq, hrequest, bind_ok, Checker.exchange, hexchange, mapError_eq_ok_iff.mpr rfl,
    bind_ok, mapError_eq_ok_iff.mpr hparse]
  rfl

/-- A check that passes on some bytes is about a question that goes out and can
be answered. -/
theorem answerable_of_check {b : Bytes} (h : c.check P (env.answered b) cert issuer = .ok ()) :
    ∃ x, c.fetch P (env.answered b) cert issuer = .ok x ∧
      (∃ reqBytes, c.Sends P env.generateNonce cert issuer x.responder x.nonce reqBytes) ∧
      c.Answerable P env issuer x.responder x.nonce := by
  obtain ⟨x, hx, htests⟩ := check_ok_iff.mp h
  obtain ⟨hsends, hparse⟩ := sends_of_fetch hx
  exact ⟨x, hx, hsends, x.respBytes, x.resp, hparse, htests⟩

end

/-! ## The certificate asked about -/

/-- The parser compares the serial number of a response with nothing: what a key
has signed about one serial number it can sign about any other, and that
verifies as well. -/
structure AnySerial (P : Platform) : Prop where
  parseResponse : ∀ {b issuer r}, P.parseResponse b issuer = .ok r →
    ∀ serial, ∃ b', P.parseResponse b' issuer = .ok { r with serialNumber := serial }
  parseResponseForCert : ∀ {b rc r}, P.parseResponseForCert b rc = .ok r →
    ∀ serial, ∃ b', P.parseResponseForCert b' rc = .ok { r with serialNumber := serial }

theorem AnySerial.parseAndVerify {P : Platform} (L : AnySerial P) {b : Bytes}
    {issuer : Certificate} {rc : Option Certificate} {resp : OcspResponse}
    (h : parseAndVerify P b issuer rc = .ok resp) (serial : Int) :
    ∃ b', Ocsp.parseAndVerify P b' issuer rc = .ok { resp with serialNumber := serial } := by
  cases rc with
  | none => exact L.parseResponse h serial
  | some rc => exact L.parseResponseForCert h serial

/-- For every checker, certificate and issuer: whatever bytes come back, a passed
check is about the certificate's own serial number, exactly when no question
about the certificate both goes out and can be answered. -/
theorem check_serial_iff {P : Platform} (L : AnySerial P) (env : OcspEnv) (c : Checker)
    (cert issuer : Certificate) :
    (∀ b, c.check P (env.answered b) cert issuer = .ok () →
        ∃ x, c.fetch P (env.answered b) cert issuer = .ok x ∧
          x.resp.serialNumber = cert.serialNumber) ↔
      ∀ r nonce reqBytes, c.Sends P env.generateNonce cert issuer r nonce reqBytes →
        ¬ c.Answerable P env issuer r nonce := by
  refine ⟨fun hbound r nonce reqBytes hsends hanswer => ?_, fun hnever b hcheck => ?_⟩
  · obtain ⟨b, resp, hparse, hpasses⟩ := hanswer
    -- the same answer about the next serial number
    obtain ⟨b', hparse'⟩ := L.parseAndVerify hparse (cert.serialNumber + 1)
    have hfetch := fetch_answered hsends hparse'
    obtain ⟨x, hx, hserial⟩ := hbound b' ((check_ok_of_fetch hfetch).mpr hpasses)
    rw [hfetch] at hx
    cases hx
    have hnext : cert.serialNumber + 1 = cert.serialNumber := hserial
    omega
  · obtain ⟨x, -, ⟨reqBytes, hsends⟩, hanswer⟩ := answerable_of_check hcheck
    exact absurd hanswer (hnever _ _ reqBytes hsends)

/-! ### An answer about another certificate -/

namespace OtherSerial

def cert : Certificate :=
  { (default : Certificate) with serialNumber := 1, ocspServer := ["http://ocsp.example"] }

def issuer : Certificate := { (default : Certificate) with raw := [1] }

/-- The bytes tell the serial number, zeros for positive ones and ones for
negative ones. -/
def response (b : Bytes) : OcspResponse :=
  ⟨.good, (b.count 0 : Int) - b.count 1, ⟨0⟩, ⟨0⟩, [], none⟩

def platform : Platform :=
  { Platform.refusing with
    unmarshalPublicKey := fun _ => .ok []
    marshalRequest := fun _ => .ok []
    parseResponse := fun b _ => .ok (response b) }

theorem anySerial : AnySerial platform where
  parseResponse := by
    intro b ca r h serial
    cases h
    rcases Int.eq_nat_or_neg serial with ⟨n, rfl | rfl⟩
    · exact ⟨List.replicate n 0, by simp [platform, response, List.count_replicate]⟩
    · exact ⟨List.replicate n 1, by simp [platform, response, List.count_replicate]⟩
  parseResponseForCert := by
    intro b rc r h
    cases h

def checker : Checker := newChecker defaultOptions

/-- The answer is about serial number 2. -/
def env : OcspEnv := ⟨.ok [7], fun _ _ _ _ => .ok [0, 0], ⟨0⟩⟩

end OtherSerial

/-- A good answer about serial number 2 passes as an answer about serial
number 1. -/
theorem check_other_serial :
    OtherSerial.checker.check OtherSerial.platform OtherSerial.env OtherSerial.cert
        OtherSerial.issuer = .ok () ∧
      ¬∃ x, OtherSerial.checker.fetch OtherSerial.platform OtherSerial.env OtherSerial.cert
          OtherSerial.issuer = .ok x ∧
        x.resp.serialNumber = OtherSerial.cert.serialNumber := by
  refine ⟨by rfl, ?_⟩
  rintro ⟨x, hx, hserial⟩
  cases hx
  exact absurd hserial (by decide)

/-- A certificate that names no responder: nothing is asked and nothing
accepted. -/
theorem check_serial_unasked :
    (default : Certificate).ocspServer = [] ∧
      ∀ b, OtherSerial.checker.check OtherSerial.platform (OtherSerial.env.answered b) default
          OtherSerial.issuer = .ok () →
        ∃ x, OtherSerial.checker.fetch OtherSerial.platform (OtherSerial.env.answered b) default
            OtherSerial.issuer = .ok x ∧
          x.resp.serialNumber = (default : Certificate).serialNumber := by
  refine ⟨rfl, ?_⟩
  refine (check_serial_iff OtherSerial.anySerial OtherSerial.env OtherSerial.checker default
    OtherSerial.issuer).mpr ?_
  intro r nonce reqBytes hsends
  cases hsends.asks with
  | designated hd _ => cases hd
  | aia _ haia _ => cases haia

/-! ## Who signed the answer -/

/-- A response verified with `verifier`: signed with its key, or with the key
of an embedded certificate that was. -/
def VerifiedWith (signedBy : Bytes → PublicKey → Prop)
    (issuedBy : Certificate → PublicKey → Prop) (respBytes : Bytes) (resp : OcspResponse)
    (verifier : Certificate) : Prop :=
  match resp.certificate with
  | none => signedBy respBytes verifier.publicKey
  | some emb => signedBy respBytes emb.publicKey ∧ issuedBy emb verifier.publicKey

/-- What the parser checks, over any notion of which key signed a response and
which key signed a certificate. It looks at no extended key usage: whatever
verifies, the holder of any certificate under the same key can sign as well,
with that key alone, and embed the certificate. -/
structure SignatureLaws (P : Platform) where
  signedBy : Bytes → PublicKey → Prop
  issuedBy : Certificate → PublicKey → Prop
  parseResponse : ∀ {b issuer r}, P.parseResponse b issuer = .ok r →
    VerifiedWith signedBy issuedBy b r issuer
  parseResponseForCert : ∀ {b rc r}, P.parseResponseForCert b rc = .ok r →
    VerifiedWith signedBy issuedBy b r rc
  delegates : ∀ {b issuer r emb}, P.parseResponse b issuer = .ok r →
    issuedBy emb issuer.publicKey → (∃ b₀, signedBy b₀ emb.publicKey) →
    ∃ b', P.parseResponse b' issuer = .ok { r with certificate := some emb } ∧
      ∀ k, signedBy b' k → k = emb.publicKey
  delegatesForCert : ∀ {b rc r emb}, P.parseResponseForCert b rc = .ok r →
    issuedBy emb rc.publicKey → (∃ b₀, signedBy b₀ emb.publicKey) →
    ∃ b', P.parseResponseForCert b' rc = .ok { r with certificate := some emb } ∧
      ∀ k, signedBy b' k → k = emb.publicKey

namespace SignatureLaws

variable {P : Platform} (L : SignatureLaws P)

/-- The pinned responder certificate of the covering designated service signed
the response. -/
def SignedByPinned (c : Checker) (issuer : Certificate) (respBytes : Bytes) : Prop :=
  ∃ d rc, c.opts.designated = some d ∧ d.supports issuer = true ∧
    d.responderCertificate = some rc ∧ L.signedBy respBytes rc.publicKey

/-- The three signers an issuer authorises. -/
def Authorised (c : Checker) (issuer : Certificate) (x : Exchange) : Prop :=
  L.signedBy x.respBytes issuer.publicKey ∨ L.SignedByPinned c issuer x.respBytes ∨
    ∃ emb, x.resp.certificate = some emb ∧ L.signedBy x.respBytes emb.publicKey ∧
      L.issuedBy emb issuer.publicKey ∧ ExtKeyUsage.ocspSigning ∈ emb.extKeyUsage

/-- The certificate a response of the responder is verified with. -/
def verifier (issuer : Certificate) (r : Responder) : Certificate := r.responderCert.getD issuer

/-- Somebody who holds this certificate may answer for the issuer: it is the
issuer's own and has the OCSP-signing usage, or its key is the issuer's or the
pinned responder's. -/
def MaySign (issuer : Certificate) (r : Responder) (emb : Certificate) : Prop :=
  (ExtKeyUsage.ocspSigning ∈ emb.extKeyUsage ∧ L.issuedBy emb issuer.publicKey) ∨
    emb.publicKey = issuer.publicKey ∨ emb.publicKey = (verifier issuer r).publicKey

/-- Every certificate under the verifying key whose key can sign responses may
sign them. -/
def OnlyResponders (issuer : Certificate) (r : Responder) : Prop :=
  ∀ emb, L.issuedBy emb (verifier issuer r).publicKey → (∃ b, L.signedBy b emb.publicKey) →
    L.MaySign issuer r emb

theorem verifiedWith {b : Bytes} {issuer : Certificate} {r : Responder} {resp : OcspResponse}
    (h : parseAndVerify P b issuer r.responderCert = .ok resp) :
    VerifiedWith L.signedBy L.issuedBy b resp (verifier issuer r) := by
  rw [verifier]
  cases hrc : r.responderCert with
  | none =>
      rw [hrc] at h
      exact L.parseResponse h
  | some rc =>
      rw [hrc] at h
      exact L.parseResponseForCert h

theorem delegated {b : Bytes} {issuer emb : Certificate} {r : Responder} {resp : OcspResponse}
    (h : parseAndVerify P b issuer r.responderCert = .ok resp)
    (hissued : L.issuedBy emb (verifier issuer r).publicKey)
    (hsigns : ∃ b₀, L.signedBy b₀ emb.publicKey) :
    ∃ b', parseAndVerify P b' issuer r.responderCert = .ok { resp with certificate := some emb } ∧
      ∀ k, L.signedBy b' k → k = emb.publicKey := by
  rw [verifier] at hissued
  cases hrc : r.responderCert with
  | none =>
      rw [hrc] at h hissued
      exact L.delegates h hissued hsigns
  | some rc =>
      rw [hrc] at h hissued
      exact L.delegatesForCert h hissued hsigns

variable {c : Checker} {cert issuer : Certificate}

/-- Signed with the verifying key itself is signed by the issuer or by the
pinned responder. -/
theorem authorised_of_verifier {r : Responder} (hasks : c.Asks P cert issuer r) {b : Bytes}
    (h : L.signedBy b (verifier issuer r).publicKey) :
    L.signedBy b issuer.publicKey ∨ L.SignedByPinned c issuer b := by
  rw [verifier] at h
  cases hrc : r.responderCert with
  | none =>
      rw [hrc] at h
      exact .inl h
  | some rc =>
      rw [hrc] at h
      obtain ⟨d, hd, hcovers, hpinned⟩ := hasks.pinned hrc
      exact .inr ⟨d, rc, hd, hcovers, hpinned, h⟩

/-- Where only responders hold certificates, whatever verifies was signed by one
of them. -/
theorem authorised_of_onlyResponders {x : Exchange} (hasks : c.Asks P cert issuer x.responder)
    (hparse : parseAndVerify P x.respBytes issuer x.responder.responderCert = .ok x.resp)
    (honly : L.OnlyResponders issuer x.responder) : L.Authorised c issuer x := by
  have hver := L.verifiedWith hparse
  rw [VerifiedWith] at hver
  cases hemb : x.resp.certificate with
  | none =>
      rw [hemb] at hver
      rcases L.authorised_of_verifier hasks hver with hissuer | hpinned
      · exact .inl hissuer
      · exact .inr (.inl hpinned)
  | some emb =>
      rw [hemb] at hver
      obtain ⟨hsigned, hissued⟩ := hver
      rcases honly emb hissued ⟨_, hsigned⟩ with ⟨husage, hissuer⟩ | hkey | hkey
      · exact .inr (.inr ⟨emb, hemb, hsigned, hissuer, husage⟩)
      · rw [hkey] at hsigned
        exact .inl hsigned
      · rw [hkey] at hsigned
        rcases L.authorised_of_verifier hasks hsigned with hissuer | hpinned
        · exact .inl hissuer
        · exact .inr (.inl hpinned)

/-- An answer that one key alone has signed, and that embeds its certificate, is
authorised only if that certificate may sign. -/
theorem maySign_of_authorised {x : Exchange} (hasks : c.Asks P cert issuer x.responder)
    {emb : Certificate} (hemb : x.resp.certificate = some emb)
    (halone : ∀ k, L.signedBy x.respBytes k → k = emb.publicKey)
    (h : L.Authorised c issuer x) : L.MaySign issuer x.responder emb := by
  rcases h with hissuer | ⟨d, rc, hd, hcovers, hpinned, hsigned⟩ | ⟨emb', hemb', -, hissued, husage⟩
  · exact .inr (.inl (halone _ hissuer).symm)
  · -- the pinned certificate is the one this responder is verified with
    refine .inr (.inr ?_)
    have hverifier : verifier issuer x.responder = rc := by
      cases hasks' : x.responder with
      | mk url responderCert nonceDisabled =>
          rw [hasks'] at hasks
          cases hasks with
          | designated hd' _ =>
              rw [hd] at hd'
              cases hd'
              rw [verifier, hpinned]
              rfl
          | aia hnone _ _ =>
              rw [hnone d hd] at hcovers
              cases hcovers
    rw [hverifier]
    exact (halone _ hsigned).symm
  · rw [hemb] at hemb'
    cases hemb'
    exact .inl ⟨husage, hissued⟩

end SignatureLaws

/-- For every checker, certificate and issuer: whatever bytes come back, a passed
check rests on an authorised signer, exactly when every question that goes out
and can be answered at all is verified with a key under which only responders
hold certificates. -/
theorem check_signer_iff {P : Platform} (L : SignatureLaws P) (env : OcspEnv) (c : Checker)
    (cert issuer : Certificate) :
    (∀ b, c.check P (env.answered b) cert issuer = .ok () →
        ∃ x, c.fetch P (env.answered b) cert issuer = .ok x ∧ L.Authorised c issuer x) ↔
      ∀ r nonce reqBytes, c.Sends P env.generateNonce cert issuer r nonce reqBytes →
        c.Answerable P env issuer r nonce → L.OnlyResponders issuer r := by
  refine ⟨fun hbound r nonce reqBytes hsends hanswer emb hissued hsigns => ?_,
    fun honly b hcheck => ?_⟩
  · obtain ⟨b, resp, hparse, hpasses⟩ := hanswer
    obtain ⟨b', hparse', halone⟩ := L.delegated hparse hissued hsigns
    have hfetch := fetch_answered hsends hparse'
    obtain ⟨x, hx, hauthorised⟩ := hbound b' ((check_ok_of_fetch hfetch).mpr hpasses)
    rw [hfetch] at hx
    cases hx
    exact L.maySign_of_authorised hsends.asks rfl halone hauthorised
  · obtain ⟨x, hx, ⟨reqBytes, hsends⟩, hanswer⟩ := answerable_of_check hcheck
    refine ⟨x, hx, L.authorised_of_onlyResponders hsends.asks (sends_of_fetch hx).2 ?_⟩
    exact honly x.responder x.nonce reqBytes hsends hanswer

/-! ### An answer signed by the user -/

namespace OwnAnswer

def issuer : Certificate :=
  { (default : Certificate) with raw := [1], publicKey := .rsa ⟨1, 1⟩ }

/-- The user's authentication certificate, with the user's key. -/
def cert : Certificate :=
  { (default : Certificate) with
    ocspServer := ["http://ocsp.example"]
    extKeyUsage := [.clientAuth]
    publicKey := .rsa ⟨2, 1⟩ }

/-- Good, and signed by the issuer, or with the embedded user certificate. -/
def response (embedded : Bool) : OcspResponse :=
  ⟨.good, 0, ⟨0⟩, ⟨0⟩, [], if embedded then some cert else none⟩

def platform : Platform :=
  { Platform.refusing with
    unmarshalPublicKey := fun _ => .ok []
    marshalRequest := fun _ => .ok []
    parseResponse := fun b ca =>
      if ca = issuer then .ok (response (b == [1])) else .error (.text "bad OCSP signature") }

/-- The user's key signed the second response and the issuer's key the others.
The user's certificate is the only one under the issuer's key. -/
def laws : SignatureLaws platform where
  signedBy := fun b k => k = if b = [1] then cert.publicKey else issuer.publicKey
  issuedBy := fun emb k => emb = cert ∧ k = issuer.publicKey
  parseResponse := by
    intro b ca r h
    simp only [platform] at h
    split at h
    · next hca =>
        cases h
        by_cases hb : b = [1]
        · subst hb
          exact ⟨rfl, rfl, by rw [hca]⟩
        · simp [VerifiedWith, response, hb, hca]
    · cases h
  parseResponseForCert := by
    intro b rc r h
    cases h
  delegates := by
    rintro b ca r emb h ⟨rfl, -⟩ -
    simp only [platform] at h
    split at h
    · next hca =>
        cases h
        refine ⟨[1], ?_, fun k hk => hk⟩
        simp [platform, hca, response]
    · cases h
  delegatesForCert := by
    intro b rc r emb h
    cases h

def checker : Checker := newChecker defaultOptions

def env : OcspEnv := ⟨.ok [7], fun _ _ _ _ => .ok [1], ⟨0⟩⟩

end OwnAnswer

/-- A user whose certificate the issuer signed answers the question about that
certificate, and the check passes. -/
theorem check_own_answer :
    OwnAnswer.checker.check OwnAnswer.platform OwnAnswer.env OwnAnswer.cert
        OwnAnswer.issuer = .ok () ∧
      ¬∃ x, OwnAnswer.checker.fetch OwnAnswer.platform OwnAnswer.env OwnAnswer.cert
          OwnAnswer.issuer = .ok x ∧
        OwnAnswer.laws.Authorised OwnAnswer.checker OwnAnswer.issuer x := by
  refine ⟨by rfl, ?_⟩
  rintro ⟨x, hx, hauth⟩
  cases hx
  rcases hauth with hiss | ⟨d, _, hd, _⟩ | ⟨emb, hemb, _, _, heku⟩
  · have hkeys : OwnAnswer.issuer.publicKey = OwnAnswer.cert.publicKey := hiss
    exact absurd hkeys (by decide)
  · cases hd
  · cases hemb
    exact absurd heku (by decide)

/-- So it is for no question of that checker about that certificate. -/
theorem check_signer_own_answer :
    ¬ ∀ b, OwnAnswer.checker.check OwnAnswer.platform (OwnAnswer.env.answered b) OwnAnswer.cert
          OwnAnswer.issuer = .ok () →
        ∃ x, OwnAnswer.checker.fetch OwnAnswer.platform (OwnAnswer.env.answered b) OwnAnswer.cert
            OwnAnswer.issuer = .ok x ∧
          OwnAnswer.laws.Authorised OwnAnswer.checker OwnAnswer.issuer x := by
  rw [check_signer_iff OwnAnswer.laws]
  intro honly
  have hasks : OwnAnswer.checker.Asks OwnAnswer.platform OwnAnswer.cert OwnAnswer.issuer
      ⟨"http://ocsp.example", none, false⟩ :=
    .aia (fun d hd => by cases hd) rfl rfl
  have hmay := honly _ (some [7]) [] ⟨hasks, ⟨[7], rfl, rfl⟩, rfl⟩
    ⟨[], OwnAnswer.response false, rfl, rfl, rfl, rfl⟩ OwnAnswer.cert ⟨rfl, rfl⟩ ⟨[1], rfl⟩
  rcases hmay with ⟨husage, -⟩ | hkey | hkey
  · exact absurd husage (by decide)
  · exact absurd hkey (by decide)
  · exact absurd hkey (by decide)

/-! ## Replayed answers -/

/-- The two lists of extensions a response has on the wire. The parser hands
out the second. -/
structure WireExtensions (P : Platform) where
  responseExtensions : Bytes → List Extension
  singleExtensions : Bytes → List Extension
  parseResponse : ∀ {b issuer r}, P.parseResponse b issuer = .ok r →
    r.extensions = singleExtensions b
  parseResponseForCert : ∀ {b rc r}, P.parseResponseForCert b rc = .ok r →
    r.extensions = singleExtensions b

namespace WireExtensions

variable {P : Platform} (W : WireExtensions P)

/-- The response carries a nonce, in either list. -/
def Carries (respBytes nonce : Bytes) : Prop :=
  ∃ ext ∈ W.responseExtensions respBytes ++ W.singleExtensions respBytes,
    ext.id = oidOCSPNonce ∧ ext.value = nonce

/-- The first nonce of the single response, the one `Check` compares. -/
def singleNonce (respBytes : Bytes) : Option Bytes :=
  ((W.singleExtensions respBytes).find? fun ext => ext.id == oidOCSPNonce).map (·.value)

theorem responseNonce_eq {env : OcspEnv} {c : Checker} {cert issuer : Certificate}
    {x : Exchange} (hx : c.fetch P env cert issuer = .ok x) :
    responseNonce x.resp = W.singleNonce x.respBytes := by
  obtain ⟨-, hparse⟩ := sends_of_fetch hx
  have hext : x.resp.extensions = W.singleExtensions x.respBytes := by
    unfold parseAndVerify at hparse
    split at hparse
    · exact W.parseResponseForCert hparse
    · exact W.parseResponse hparse
  unfold responseNonce singleNonce
  rw [hext]

end WireExtensions

/-- A response that carries the nonce of one check is refused by every check
with another nonce exactly when its single response shows a nonce that is not
the check's, or its age or its status is wrong anyway. -/
theorem check_replay_iff {P : Platform} (W : WireExtensions P) (env : OcspEnv) (c : Checker)
    (cert issuer : Certificate) :
    (∀ x n₁ n₂, c.fetch P env cert issuer = .ok x → x.nonce = some n₂ → n₁ ≠ n₂ →
        W.Carries x.respBytes n₁ → c.check P env cert issuer ≠ .ok ()) ↔
      ∀ x n₁ n₂, c.fetch P env cert issuer = .ok x → x.nonce = some n₂ → n₁ ≠ n₂ →
        W.Carries x.respBytes n₁ →
        (∃ got, W.singleNonce x.respBytes = some got ∧ got ≠ n₂) ∨
          c.checkFreshness x.resp env.now ≠ .ok () ∨ x.resp.status ≠ .good := by
  refine forall_congr' fun x => forall_congr' fun n₁ => forall_congr' fun n₂ =>
    forall_congr' fun hx => forall_congr' fun hn => imp_congr_right fun _ =>
      imp_congr_right fun _ => ?_
  have hnonce : checkNonce x.nonce x.resp = .ok () ↔
      ¬∃ got, W.singleNonce x.respBytes = some got ∧ got ≠ n₂ := by
    rw [checkNonce_ok_iff, W.responseNonce_eq hx, hn]
    constructor
    · rintro h ⟨got, hgot, hne⟩
      exact hne (h n₂ got rfl hgot)
    · intro h n got hn' hgot
      cases hn'
      by_contra hne
      exact h ⟨got, hgot, hne⟩
  rw [ne_eq, check_ok_of_fetch hx, Checker.Passes, hnonce, not_and_or, not_not, not_and_or]

/-! ### A replay in the standard place -/

namespace Replay

def cert : Certificate :=
  { (default : Certificate) with ocspServer := ["http://ocsp.example"] }

def issuer : Certificate := { (default : Certificate) with raw := [1] }

def response : OcspResponse := ⟨.good, 0, ⟨0⟩, ⟨0⟩, [], none⟩

def platform : Platform :=
  { Platform.refusing with
    unmarshalPublicKey := fun _ => .ok []
    marshalRequest := fun _ => .ok []
    parseResponse := fun _ _ => .ok response }

/-- Every response has the nonce 1 in its response data and nothing in its
single response. -/
def wire : WireExtensions platform where
  responseExtensions := fun _ => [⟨oidOCSPNonce, false, [1]⟩]
  singleExtensions := fun _ => []
  parseResponse := by
    intro b ca r h
    cases h
    rfl
  parseResponseForCert := by
    intro b rc r h
    cases h

def checker : Checker := newChecker defaultOptions

/-- The check's own nonce is 2. -/
def env : OcspEnv := ⟨.ok [2], fun _ _ _ _ => .ok [], ⟨0⟩⟩

def exchange : Exchange := ⟨⟨"http://ocsp.example", none, false⟩, some [2], [], response⟩

end Replay

/-- A check with nonce 2 accepts an answer that carries nonce 1. -/
theorem check_replayed :
    Replay.checker.fetch Replay.platform Replay.env Replay.cert Replay.issuer =
        .ok Replay.exchange ∧
      Replay.exchange.nonce = some [2] ∧
      Replay.wire.Carries Replay.exchange.respBytes [1] ∧
      Replay.checker.check Replay.platform Replay.env Replay.cert Replay.issuer =
        .ok () := by
  refine ⟨by rfl, rfl, ?_, by rfl⟩
  exact ⟨⟨oidOCSPNonce, false, [1]⟩, by simp [Replay.wire], rfl, rfl⟩

/-- Such an answer is not refused, as the condition on its nonces fails. -/
theorem check_replay_standard_place :
    ¬ ∀ x n₁ n₂, Replay.checker.fetch Replay.platform Replay.env Replay.cert Replay.issuer =
          .ok x → x.nonce = some n₂ → n₁ ≠ n₂ → Replay.wire.Carries x.respBytes n₁ →
        Replay.checker.check Replay.platform Replay.env Replay.cert Replay.issuer ≠ .ok () := by
  rw [check_replay_iff Replay.wire]
  intro hrefused
  have hcarries : Replay.wire.Carries Replay.exchange.respBytes [1] :=
    ⟨⟨oidOCSPNonce, false, [1]⟩, by simp [Replay.wire], rfl, rfl⟩
  rcases hrefused Replay.exchange [1] [2] rfl rfl (by decide) hcarries with
    ⟨got, hgot, -⟩ | hstale | hstatus
  · cases hgot
  · exact hstale rfl
  · exact hstatus rfl

end WebEid.Ocsp
