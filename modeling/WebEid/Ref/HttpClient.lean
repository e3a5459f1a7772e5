import WebEid.Ref.Ocsp

/-!
# The default OCSP transport (`ocsp/client.go`)

`HTTPClient.Do` posts the request with an `http.Client` that has a transport
and nothing else. Without a `CheckRedirect` such a client follows redirects on
its own, up to ten requests in all; its transport refuses a URL that is not
HTTP or names no host. That much of `net/http` is written out here, because
it decides where requests go. What the servers answer is a function of every
request sent so far, so no behaviour of theirs is excluded.
-/

namespace WebEid.Ocsp

open Lib Exceptions

inductive Method where
  | get
  | post
  deriving DecidableEq, Repr

/-- A request as the transport gets it: the URL as text and parsed. -/
structure HttpRequest where
  method : Method
  text : String
  url : URL
  body : Bytes
  deriving DecidableEq, Repr

/-- A response; an absent `Location` is `""`, and reading the body can fail. -/
structure HttpResponse where
  statusCode : Nat
  location : String
  body : Except GoError Bytes

/-- What comes back for the last of these requests, within a time limit. -/
abbrev Servers := Duration → List HttpRequest → Except GoError HttpResponse

/-- `Transport.RoundTrip` before it connects. -/
def checkTarget (u : URL) : Except GoError Unit :=
  if u.scheme ≠ "http" && u.scheme ≠ "https" then
    .error (.text ("unsupported protocol scheme " ++ u.scheme.quote))
  else if u.host = "" then .error (.text "http: no Host in request URL")
  else .ok ()

/-- `redirectBehavior`: the method and body of the next request. -/
def redirectBehavior (req : HttpRequest) (resp : HttpResponse) : Option (Method × Bytes) :=
  if resp.location = "" then none
  else
    match resp.statusCode with
    | 301 | 302 | 303 => some (.get, [])
    | 307 | 308 => some (req.method, req.body)
    | _ => none

/-- The loop of `Client.Do`: the requests sent, those of before first, and the
last response. The first argument is how many may still be sent. -/
def followRedirects (P : Platform) (servers : List HttpRequest → Except GoError HttpResponse) :
    Nat → List HttpRequest → HttpRequest → List HttpRequest × Except GoError HttpResponse
  | 0, via, _ => (via, .error (.text "stopped after 10 redirects"))
  | n + 1, via, req =>
      match checkTarget req.url with
      | .error err => (via, .error err)
      | .ok () =>
          match servers (via ++ [req]) with
          | .error err => (via ++ [req], .error err)
          | .ok resp =>
              match redirectBehavior req resp with
              | none => (via ++ [req], .ok resp)
              | some (method, body) =>
                  match P.urlResolve req.url resp.location with
                  | .error err =>
                      (via ++ [req], .error (.wrapf "failed to parse Location header" err))
                  | .ok u =>
                      followRedirects P servers n (via ++ [req]) ⟨method, P.urlString u, u, body⟩

/-- The body of a good response, capped at 1 MiB. -/
def readResponse (resp : HttpResponse) : Except GoError Bytes :=
  if resp.statusCode ≠ 200 then
    .error (.text ("OCSP responder returned HTTP " ++ toString resp.statusCode))
  else do
    let body ← resp.body
    pure (body.take (2 ^ 20))

/-- `HTTPClient.Do`: the requests sent, and the answer. -/
def httpDo (P : Platform) (servers : Servers) (responderURL : String) (request : Bytes)
    (timeout : Duration) : List HttpRequest × Except GoError Bytes :=
  let timeout := if timeout ≤ 0 then 5000000000 else timeout
  match P.urlParse responderURL with
  | .error err => ([], .error err)
  | .ok u =>
      let r := followRedirects P (servers timeout) 10 [] ⟨.post, responderURL, u, request⟩
      (r.1, r.2 >>= readResponse)

/-- The surroundings of a check whose transport is the default one. -/
def Servers.env (P : Platform) (servers : Servers) (nonce : Except GoError Bytes) (now : Time) :
    OcspEnv where
  generateNonce := nonce
  exchange := fun _ url request timeout => (httpDo P servers url request timeout).2
  now := now

/-- The requests a check sends. -/
def Checker.sent (P : Platform) (servers : Servers) (nonce : Except GoError Bytes) (now : Time)
    (c : Checker) (cert issuer : Certificate) : List HttpRequest :=
  match c.request P (servers.env P nonce now) cert issuer with
  | .error _ => []
  | .ok (responder, _, reqBytes) =>
      (httpDo P servers responder.url reqBytes c.opts.requestTimeout).1

/-! ## What the loop sends -/

variable {P : Platform} {servers : Servers} {responderURL : String} {request : Bytes}
  {timeout : Duration} {req : HttpRequest}

theorem followRedirects_target {answer : List HttpRequest → Except GoError HttpResponse} {n : Nat}
    {first : HttpRequest} (h : req ∈ (followRedirects P answer n [] first).1) :
    checkTarget first.url = .ok () := by
  cases n with
  | zero => cases h
  | succ n =>
      rw [followRedirects] at h
      split at h
      · cases h
      next htarget => exact htarget

/-- No answer of these servers sends a client elsewhere. -/
def Servers.Straight (servers : Servers) : Prop :=
  ∀ timeout sent req resp, servers timeout sent = .ok resp → redirectBehavior req resp = none

theorem followRedirects_straight (hstraight : servers.Straight) {n : Nat} {first : HttpRequest}
    (h : req ∈ (followRedirects P (servers timeout) n [] first).1) : req = first := by
  cases n with
  | zero => cases h
  | succ n =>
      rw [followRedirects] at h
      split at h
      · cases h
      · split at h
        · exact List.mem_singleton.mp h
        next resp hresp =>
          rw [hstraight timeout _ first resp hresp] at h
          exact List.mem_singleton.mp h

/-- Nothing is sent unless the URL parses to a target the transport accepts. -/
theorem httpDo_target (h : req ∈ (httpDo P servers responderURL request timeout).1) :
    ∃ u, P.urlParse responderURL = .ok u ∧ checkTarget u = .ok () ∧
      (servers.Straight → req = ⟨.post, responderURL, u, request⟩) := by
  rw [httpDo] at h
  simp only [] at h
  split at h
  · cases h
  next u hparse =>
    exact ⟨u, hparse, followRedirects_target h,
      fun hstraight => followRedirects_straight hstraight h⟩

/-- The first request is answered with a redirect, and the others are taken. -/
def redirectingTo (location : String) : Servers := fun _ sent =>
  if sent.length = 1 then .ok ⟨307, location, .ok []⟩ else .ok ⟨200, "", .ok []⟩

/-- A redirect takes the request to where its location resolves to. -/
theorem httpDo_redirected {u next : URL} {location : String}
    (hparse : P.urlParse responderURL = .ok u) (htarget : checkTarget u = .ok ())
    (hlocation : location ≠ "") (hresolve : P.urlResolve u location = .ok next)
    (hnext : checkTarget next = .ok ()) :
    ⟨.post, P.urlString next, next, request⟩ ∈
      (httpDo P (redirectingTo location) responderURL request timeout).1 := by
  have hbehavior : redirectBehavior ⟨.post, responderURL, u, request⟩ ⟨307, location, .ok []⟩ =
      some (.post, request) := if_neg hlocation
  have hlast : ∀ req : HttpRequest, redirectBehavior req ⟨200, "", .ok []⟩ = none := fun _ => rfl
  rw [httpDo, hparse]
  simp only [followRedirects, htarget, redirectingTo, List.nil_append, List.length_singleton,
    if_true, hbehavior, hresolve, hnext, List.length_append, Nat.reduceAdd, Nat.reduceEqDiff,
    if_false, hlast]
  exact List.mem_append_right _ (List.mem_singleton_self _)

end WebEid.Ocsp
