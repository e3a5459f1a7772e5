import WebEid.Lib.Fallible
import WebEid.Ref.Trust

/-!
# Revocation checking (`ocsp/`)

`Checker.check` is one exchange with a responder: choose it, build a request
for the certificate, send it, parse and verify what came back, and read the
verdict. What varies from one check to the next is collected in `OcspEnv`:
the random nonce, what the transport returned for the bytes that were sent,
and the clock at the freshness test.

`check_ok_iff` takes a passed check apart into the six facts it rests on;
the results about revocation start from it and never unfold the function.
-/

namespace WebEid.Ocsp

open Lib Exceptions

/-! ## Configuration (`checker.go`, `designated.go`) -/

/-- An `http.RoundTripper`, known by its identity. -/
structure RoundTripper where
  id : Nat
  deriving DecidableEq, Repr

/-- The transports a `Client` value can be: the default one, with the
`RoundTripper` it was given, or another implementation of the interface. -/
inductive Client where
  | httpClient (transport : Option RoundTripper)
  | custom (id : Nat)
  deriving DecidableEq, Repr

structure DesignatedServiceConfiguration where
  url : String
  responderCertificate : Option Certificate
  supportedIssuers : List Certificate
  nonceDisabled : Bool
  deriving DecidableEq

/-- An empty issuer list covers every issuer; `Equal` compares the raw
bytes. -/
def DesignatedServiceConfiguration.supports (d : DesignatedServiceConfiguration)
    (issuer : Certificate) : Bool :=
  d.supportedIssuers.isEmpty || d.supportedIssuers.any fun ca => ca.raw == issuer.raw

structure Options where
  client : Option Client
  requestTimeout : Duration
  designated : Option DesignatedServiceConfiguration
  nonceDisabledURLs : List String
  allowedResponderURLs : List String
  allowedResponseTimeSkew : Duration
  maxResponseThisUpdateAge : Duration
  deriving DecidableEq

/-- The defaults: 5 s, 15 min and 2 min. -/
def defaultOptions : Options where
  client := some (.httpClient none)
  requestTimeout := 5000000000
  designated := none
  nonceDisabledURLs := []
  allowedResponderURLs := []
  allowedResponseTimeSkew := 900000000000
  maxResponseThisUpdateAge := 120000000000

structure Checker where
  opts : Options
  deriving DecidableEq

/-- Missing fields fall back to the defaults. -/
def newChecker (opts : Options) : Checker where
  opts :=
    { opts with
      client := opts.client.or defaultOptions.client
      requestTimeout :=
        if opts.requestTimeout ≤ 0 then defaultOptions.requestTimeout
        else opts.requestTimeout
      allowedResponseTimeSkew :=
        if opts.allowedResponseTimeSkew ≤ 0 then defaultOptions.allowedResponseTimeSkew
        else opts.allowedResponseTimeSkew
      maxResponseThisUpdateAge :=
        if opts.maxResponseThisUpdateAge ≤ 0 then defaultOptions.maxResponseThisUpdateAge
        else opts.maxResponseThisUpdateAge }

/-- What a check meets outside the process: the random source, the network
and the clock. -/
structure OcspEnv where
  generateNonce : Except GoError Bytes
  exchange : Option Client → String → Bytes → Duration → Except GoError Bytes
  now : Time

/-! ## Choosing the responder -/

def wrapOCSPError (err : GoError) : GoError := wrap .errOCSPRequestFailed err

def errNoOCSPResponder : GoError := .text "certificate has no OCSP responder URL"

def errOCSPResponderNotAllowed : GoError :=
  .text "AIA OCSP responder URL is not on the configured allowlist"

def aiaOCSPURL (cert : Certificate) : Except GoError String :=
  match cert.ocspServer with
  | [] => .error errNoOCSPResponder
  | url :: _ => .ok url

/-- The lower-cased host without port, or `""` for what is no URL with a
host. -/
def hostOf (P : Platform) (rawURL : String) : String :=
  match P.urlParse (Go.trimSpace rawURL) with
  | .error _ => ""
  | .ok u => if u.host = "" then "" else Go.toLower u.hostname

def hasScheme (v : String) : Bool := Go.contains v "://"

def equalFoldTrim (a b : String) : Bool :=
  let norm := fun s => Go.toLower (Go.trimSuffix (Go.trimSpace s) "/")
  norm a == norm b

def Checker.isResponderAllowed (P : Platform) (c : Checker) (responderURL : String) :
    Bool :=
  if c.opts.allowedResponderURLs.isEmpty then true
  else
    let host := hostOf P responderURL
    c.opts.allowedResponderURLs.any fun allowed =>
      equalFoldTrim allowed responderURL ||
        (hostOf P allowed != "" && hostOf P allowed == host) ||
        -- an entry without a scheme is a bare host
        (!hasScheme allowed && equalFoldTrim allowed host)

def Checker.isNonceDisabled (c : Checker) (url : String) : Bool :=
  c.opts.nonceDisabledURLs.any (· == url)

/-- Where to send the request, which certificate to verify with when it is
not the issuer, and whether to leave the nonce out. -/
structure Responder where
  url : String
  responderCert : Option Certificate
  nonceDisabled : Bool
  deriving DecidableEq

def Checker.resolveResponder (P : Platform) (c : Checker) (cert issuer : Certificate) :
    Except GoError Responder :=
  match c.opts.designated.filter (·.supports issuer) with
  | some d => .ok ⟨d.url, d.responderCertificate, d.nonceDisabled⟩
  | none =>
      match aiaOCSPURL cert with
      | .error err => .error (wrapOCSPError err)
      | .ok url =>
          if !c.isResponderAllowed P url then
            .error (wrapOCSPError errOCSPResponderNotAllowed)
          else .ok ⟨url, none, c.isNonceDisabled url⟩

/-! ## The exchange (`client.go`) -/

def oidOCSPNonce : ObjectIdentifier := [1, 3, 6, 1, 5, 5, 7, 48, 1, 2]

def oidSHA1 : ObjectIdentifier := [1, 3, 14, 3, 2, 26]

def buildRequest (P : Platform) (cert issuer : Certificate) (nonce : Option Bytes) :
    Except GoError Bytes :=
  match P.unmarshalPublicKey issuer.rawSubjectPublicKeyInfo with
  | .error err => .error (.wrapf "parse issuer public key info" err)
  | .ok publicKey =>
      P.marshalRequest
        { requestList :=
            [{ hashAlgorithm := oidSHA1
               issuerNameHash := P.sha1Sum issuer.rawSubject
               issuerKeyHash := P.sha1Sum publicKey
               serialNumber := cert.serialNumber }]
          requestExtensions :=
            match nonce with
            | none => []
            | some n => [{ id := oidOCSPNonce, critical := false, value := n }] }

/-- The value of the first nonce extension, if there is one. -/
def responseNonce (resp : OcspResponse) : Option Bytes :=
  (resp.extensions.find? fun ext => ext.id == oidOCSPNonce).map (·.value)

/-- With a designated responder certificate the response is verified with
it, otherwise with the issuer. -/
def parseAndVerify (P : Platform) (respBytes : Bytes) (issuer : Certificate)
    (responderCert : Option Certificate) : Except GoError OcspResponse :=
  match responderCert with
  | some rc => P.parseResponseForCert respBytes rc
  | none => P.parseResponse respBytes issuer

/-! ## The verdict -/

def errNonceMismatch : GoError := .text "OCSP response nonce does not match request"

def errUnknownStatus : GoError :=
  .text "OCSP responder returned unknown certificate status"

def errThisUpdateInFuture : GoError := .text "OCSP response thisUpdate is in the future"

def errResponseExpired : GoError := .text "OCSP response nextUpdate has passed"

def errThisUpdateTooOld : GoError := .text "OCSP response thisUpdate is too old"

def Checker.checkFreshness (c : Checker) (resp : OcspResponse) (now : Time) :
    Except GoError Unit :=
  let skew := c.opts.allowedResponseTimeSkew
  if resp.thisUpdate.after (now.add skew) then
    .error (wrapOCSPError errThisUpdateInFuture)
  else if !resp.nextUpdate.isZero && resp.nextUpdate.before (now.add (-skew)) then
    .error (wrapOCSPError errResponseExpired)
  else if c.opts.maxResponseThisUpdateAge + skew < now.sub resp.thisUpdate then
    .error (wrapOCSPError errThisUpdateTooOld)
  else .ok ()

/-- The nonce of a request, when it carries one. -/
def requestNonce (env : OcspEnv) (r : Responder) : Except GoError (Option Bytes) :=
  if r.nonceDisabled then .ok none
  else
    match env.generateNonce with
    | .error err => .error (wrapOCSPError err)
    | .ok nonce => .ok (some nonce)

/-- A nonce that was sent must not come back changed; a response without one
passes. -/
def checkNonce (nonce : Option Bytes) (resp : OcspResponse) : Except GoError Unit :=
  match nonce, responseNonce resp with
  | some n, some got => if got ≠ n then .error (wrapOCSPError errNonceMismatch) else .ok ()
  | _, _ => .ok ()

def checkStatus (resp : OcspResponse) : Except GoError Unit :=
  match resp.status with
  | .good => .ok ()
  | .revoked => .error (.typed .errCertificateRevoked)
  | _ => .error (wrapOCSPError errUnknownStatus)

/-- One exchange that brought back a verified response. -/
structure Exchange where
  responder : Responder
  nonce : Option Bytes
  respBytes : Bytes
  resp : OcspResponse

/-- `Check` up to and including `parseAndVerify`. -/
def Checker.fetch (P : Platform) (env : OcspEnv) (c : Checker) (cert issuer : Certificate) :
    Except GoError Exchange := do
  let responder ← c.resolveResponder P cert issuer
  let nonce ← requestNonce env responder
  let reqBytes ← (buildRequest P cert issuer nonce).mapError wrapOCSPError
  let respBytes ←
    (env.exchange c.opts.client responder.url reqBytes c.opts.requestTimeout).mapError
      wrapOCSPError
  let resp ←
    (parseAndVerify P respBytes issuer responder.responderCert).mapError wrapOCSPError
  pure ⟨responder, nonce, respBytes, resp⟩

def Checker.check (P : Platform) (env : OcspEnv) (c : Checker) (cert issuer : Certificate) :
    Except GoError Unit := do
  let x ← c.fetch P env cert issuer
  checkNonce x.nonce x.resp
  c.checkFreshness x.resp env.now
  checkStatus x.resp

/-! ## What a passed check rests on -/

theorem checkStatus_ok_iff {resp : OcspResponse} :
    checkStatus resp = .ok () ↔ resp.status = .good := by
  unfold checkStatus
  cases resp.status <;> simp

/-- The nonce test fails exactly on a first nonce extension with another
value. -/
theorem checkNonce_ok_iff {nonce : Option Bytes} {resp : OcspResponse} :
    checkNonce nonce resp = .ok () ↔
      ∀ n got, nonce = some n → responseNonce resp = some got → got = n := by
  unfold checkNonce
  cases nonce with
  | none => simp
  | some n =>
      cases responseNonce resp with
      | none => simp
      | some got =>
          simp only [ne_eq, ite_not]
          split <;> rename_i h
          · simp [h]
          · simp [h]

/-- A check passes when its exchange brought a verified response back whose
nonce, age and status are in order. -/
theorem check_ok_iff {P : Platform} {env : OcspEnv} {c : Checker}
    {cert issuer : Certificate} :
    c.check P env cert issuer = .ok () ↔
      ∃ x, c.fetch P env cert issuer = .ok x ∧ checkNonce x.nonce x.resp = .ok () ∧
        c.checkFreshness x.resp env.now = .ok () ∧ x.resp.status = .good := by
  unfold Checker.check
  constructor
  · intro h
    obtain ⟨x, hx, h⟩ := bind_eq_ok h
    obtain ⟨_, hnonce, h⟩ := bind_eq_ok h
    obtain ⟨_, hfresh, h⟩ := bind_eq_ok h
    exact ⟨x, hx, hnonce, hfresh, checkStatus_ok_iff.mp h⟩
  · rintro ⟨x, hx, hnonce, hfresh, hstatus⟩
    rw [hx]
    show (checkNonce x.nonce x.resp >>= fun _ => _) = _
    rw [hnonce]
    show (c.checkFreshness x.resp env.now >>= fun _ => _) = _
    rw [hfresh]
    exact checkStatus_ok_iff.mpr hstatus

/-! ## The two halves of an exchange -/

/-- The request of a check: the chosen responder, the nonce and the bytes. -/
def Checker.request (P : Platform) (env : OcspEnv) (c : Checker) (cert issuer : Certificate) :
    Except GoError (Responder × Option Bytes × Bytes) := do
  let responder ← c.resolveResponder P cert issuer
  let nonce ← requestNonce env responder
  let reqBytes ← (buildRequest P cert issuer nonce).mapError wrapOCSPError
  pure (responder, nonce, reqBytes)

/-- The rest of the exchange. -/
def Checker.exchange (P : Platform) (env : OcspEnv) (c : Checker) (issuer : Certificate)
    (r : Responder × Option Bytes × Bytes) : Except GoError Exchange := do
  let respBytes ← (env.exchange c.opts.client r.1.url r.2.2 c.opts.requestTimeout).mapError
    wrapOCSPError
  let resp ← (parseAndVerify P respBytes issuer r.1.responderCert).mapError wrapOCSPError
  pure ⟨r.1, r.2.1, respBytes, resp⟩

theorem fetch_eq (P : Platform) (env : OcspEnv) (c : Checker) (cert issuer : Certificate) :
    c.fetch P env cert issuer = c.request P env cert issuer >>= c.exchange P env issuer := by
  rw [Checker.fetch, Checker.request]
  cases c.resolveResponder P cert issuer with
  | error err => rfl
  | ok responder =>
      rw [bind_ok, bind_ok]
      cases requestNonce env responder with
      | error err => rfl
      | ok nonce =>
          rw [bind_ok, bind_ok]
          cases (buildRequest P cert issuer nonce).mapError wrapOCSPError with
          | error err => rfl
          | ok reqBytes => rfl

/-- What follows the request is one function of the response. -/
theorem check_eq (P : Platform) (env : OcspEnv) (c : Checker) (cert issuer : Certificate) :
    c.check P env cert issuer =
      (c.request P env cert issuer >>= c.exchange P env issuer) >>= fun x =>
        checkNonce x.nonce x.resp >>= fun _ =>
          c.checkFreshness x.resp env.now >>= fun _ => checkStatus x.resp := by
  rw [← fetch_eq]
  rfl

end WebEid.Ocsp
