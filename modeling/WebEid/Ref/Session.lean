import WebEid.Ref.Routes

/-!
# The pre-auth session (`azugo/session.go`)

`EnsureSession` runs in front of the endpoints of `/auth` and `/sign`. It
compares the Host header with the configured origins, takes the session id
from the cookie when that is well formed and mints a new id otherwise. A
cookie is only ever set together with a new id, so its lifetime counts from
the moment the id was minted.
-/

namespace WebEid.Azugo

open Lib Exceptions

/-- The configuration with the two settings only the middleware reads. -/
structure SiteConfiguration extends Configuration where
  sessionCookieName : String
  enforceHostHeader : Bool
  deriving DecidableEq, Repr

/-! ## The Host header -/

def errHostMismatch : GoError := .text "request host does not match the configured origin"

def originHostname (P : Platform) (origin : String) : String :=
  match P.urlParse origin with
  | .error _ => ""
  | .ok u => if u.host = "" then "" else Go.toLower u.hostname

def originHostnames (P : Platform) (origins : List String) : List String :=
  (origins.map (originHostname P)).filter (· ≠ "")

def trimBrackets (s : String) : String := Go.trimSuffix (Go.trimPrefix s "[") "]"

/-- The Host header without a port. -/
def stripPort (h : String) : String :=
  match Go.lastCut h ':' with
  | none => h
  | some (before, after) =>
      if !Go.hasSuffix h "]" && !Go.contains after "]" then before else h

def hostMatches (requestHost originHost : String) : Bool :=
  let h := Go.toLower (Go.trimSpace requestHost)
  if h = "" then false
  else trimBrackets (stripPort h) == trimBrackets originHost

def hostMatchesAny (requestHost : String) (originHosts : List String) : Bool :=
  originHosts.any (hostMatches requestHost)

def checkHost (P : Platform) (cfg : SiteConfiguration) (requestHost : String) :
    Except GoError Unit :=
  let originHosts := originHostnames P cfg.origins
  let enforceHost := cfg.enforceHostHeader && decide (0 < originHosts.length)
  if enforceHost && !hostMatchesAny requestHost originHosts then .error errHostMismatch
  else .ok ()

/-! ## Session ids -/

def sessionIDBytes : Nat := 32

def newSessionID (random : Nat → Except GoError Bytes) : Except GoError String := do
  let buf ← random sessionIDBytes
  pure (Base64.rawURLEncoding.encodeToString buf)

def validSessionID (sid : String) : Bool :=
  if sid.length = 0 then false else (Base64.rawURLEncoding.decodeString sid).isSome

/-- The attributes of the cookie. `fasthttp` writes a Max-Age only when it is
positive. -/
structure SetCookie where
  name : String
  value : String
  path : String
  httpOnly : Bool
  secure : Bool
  sameSiteStrict : Bool
  maxAge : Option Int
  deriving DecidableEq, Repr

def cookieMaxAge (ttl : Duration) : Option Int :=
  if 0 < ttl then
    if 0 < wholeSeconds ttl then some (wholeSeconds ttl) else none
  else none

def setSessionCookie (name value : String) (ttl : Duration) : SetCookie :=
  ⟨name, value, "/", true, true, true, cookieMaxAge ttl⟩

/-- `EnsureSession` up to the call of the endpoint: the session id of the
request, and the cookie the response sets. The cookie of the request is `""`
when it has none. -/
def ensureSession (P : Platform) (cfg : SiteConfiguration) (requestHost cookie : String)
    (random : Nat → Except GoError Bytes) : Except GoError (String × Option SetCookie) := do
  checkHost P cfg requestHost
  if validSessionID cookie then pure (cookie, none)
  else
    let newID ← newSessionID random
    pure (newID, some (setSessionCookie cfg.sessionCookieName newID cfg.nonceTTL))

/-! ## What a request gets -/

theorem validSessionID_newSessionID {random : Nat → Except GoError Bytes} {sid : String}
    (hlength : ∀ n b, random n = .ok b → b.length = n) (h : newSessionID random = .ok sid) :
    validSessionID sid = true := by
  obtain ⟨buf, hbuf, h⟩ := bind_eq_ok h
  cases h
  have hne : buf ≠ [] := by
    rintro rfl
    cases hlength _ _ hbuf
  have hdecode :=
    Base64.decodeString_encodeToString Base64.sound_rawURLEncoding buf
  have htext : (Base64.rawURLEncoding.encodeToString buf).length ≠ 0 := by
    intro hzero
    -- no text at all would read back as no bytes
    rw [String.length_eq_zero_iff.mp hzero, Base64.decodeString_empty] at hdecode
    exact hne (Option.some.inj hdecode).symm
  rw [validSessionID, if_neg htext, hdecode]
  rfl

theorem ensureSession_valid {P : Platform} {cfg : SiteConfiguration} {host cookie : String}
    {random : Nat → Except GoError Bytes} (hhost : checkHost P cfg host = .ok ())
    (hvalid : validSessionID cookie = true) :
    ensureSession P cfg host cookie random = .ok (cookie, none) := by
  simp only [ensureSession, hhost, hvalid, if_true]
  rfl

/-- A request is given the id of its cookie, or else a new id with a cookie of
its own. -/
theorem ensureSession_ok {P : Platform} {cfg : SiteConfiguration} {host cookie sid : String}
    {random : Nat → Except GoError Bytes} {set : Option SetCookie}
    (h : ensureSession P cfg host cookie random = .ok (sid, set)) :
    checkHost P cfg host = .ok () ∧
      (validSessionID cookie = true ∧ sid = cookie ∧ set = none ∨
        validSessionID cookie = false ∧ newSessionID random = .ok sid ∧
          set = some (setSessionCookie cfg.sessionCookieName sid cfg.nonceTTL)) := by
  obtain ⟨_, hhost, h⟩ := bind_eq_ok h
  refine ⟨hhost, ?_⟩
  split at h
  next hvalid =>
    cases h
    exact Or.inl ⟨hvalid, rfl, rfl⟩
  next hvalid =>
    obtain ⟨id, hid, h⟩ := bind_eq_ok h
    cases h
    exact Or.inr ⟨by simpa using hvalid, hid, rfl⟩

end WebEid.Azugo
