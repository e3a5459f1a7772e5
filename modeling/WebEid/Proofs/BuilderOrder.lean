import Mathlib.Algebra.Order.Group.Multiset
import WebEid.Proofs.Acceptance
import WebEid.Ref.Builder

/-!
# The order of the builder's calls

The methods of the builder can be chained in any order, and nothing in their
documentation says that the order matters. It does where two calls set the same
field, or where the order is that of a list someone walks: the trusted
certificates, whose first match names the issuer. Everything else is either a
field of its own or a list that is only ever searched for a member.

`Choice` is what a builder comes to when the order of those lists is forgotten.
Calls act on it, calls that do not compete commute there, and so any two
orders of the same calls arrive at one choice (`choice_ofCalls`). What is built
from one choice then behaves alike to the last error
(`builder_order_irrelevant`).
-/

namespace WebEid

open Lib Exceptions Ocsp

/-! ## What a builder comes to -/

/-- A builder, up to the order of the lists that are searched only. -/
structure Choice where
  origins : Multiset String
  allowInsecureLocalhost : Bool
  trustedCAs : List Certificate
  trustStore : Option StoreRef
  ocspEnabled : Bool
  ocspClient : Option Client
  ocspRequestTimeout : Duration
  designatedOCSP : Option DesignatedServiceConfiguration
  nonceDisabledOCSPURL : Multiset String
  allowedOCSPURLs : Multiset String
  ocspSkew : Duration
  ocspMaxThisUpdateAge : Duration
  disallowedPolicies : List ObjectIdentifier

def AuthTokenValidatorBuilder.choice (b : AuthTokenValidatorBuilder) : Choice where
  origins := b.origins
  allowInsecureLocalhost := b.allowInsecureLocalhost
  trustedCAs := b.trustedCAs
  trustStore := b.trustStore
  ocspEnabled := b.ocspEnabled
  ocspClient := b.ocspClient
  ocspRequestTimeout := b.ocspRequestTimeout
  designatedOCSP := b.designatedOCSP
  nonceDisabledOCSPURL := b.nonceDisabledOCSPURL
  allowedOCSPURLs := b.allowedOCSPURLs
  ocspSkew := b.ocspSkew
  ocspMaxThisUpdateAge := b.ocspMaxThisUpdateAge
  disallowedPolicies := b.disallowedPolicies

namespace BuilderCall

/-- The fields of the builder. -/
inductive Setting where
  | origins
  | allowInsecureLocalhost
  | trustedCAs
  | trustStore
  | ocspEnabled
  | ocspClient
  | ocspRequestTimeout
  | designatedOCSP
  | nonceDisabledOCSPURL
  | allowedOCSPURLs
  | ocspSkew
  | ocspMaxThisUpdateAge
  | disallowedPolicies
  deriving DecidableEq

def setting : BuilderCall → Setting
  | withSiteOrigin _ => .origins
  | withSiteOrigins _ => .origins
  | withAllowInsecureLocalhostOrigin => .allowInsecureLocalhost
  | withTrustedCertificateAuthorities _ => .trustedCAs
  | withTrustStore _ => .trustStore
  | withoutUserCertificateRevocationCheckWithOcsp => .ocspEnabled
  | withDesignatedOcspServiceConfiguration _ => .designatedOCSP
  | withOcspClient _ => .ocspClient
  | withOcspRequestTimeout _ => .ocspRequestTimeout
  | withDisallowedCertificatePolicies _ => .disallowedPolicies
  | withNonceDisabledOcspUrls _ => .nonceDisabledOCSPURL
  | withAllowedOcspResponderURLs _ => .allowedOCSPURLs
  | withAllowedOcspResponseTimeSkew _ => .ocspSkew
  | withMaxOcspResponseThisUpdateAge _ => .ocspMaxThisUpdateAge

/-- The fields a call adds to and whose order nobody asks for. -/
def Setting.collects : Setting → Bool
  | origins | nonceDisabledOCSPURL | allowedOCSPURLs => true
  | _ => false

/-- The two calls do not want different things of one field. -/
def Compatible (x y : BuilderCall) : Prop :=
  x.setting = y.setting → x = y ∨ x.setting.collects = true

end BuilderCall

namespace Choice

/-- A call, on the choice. -/
def call (s : Choice) : BuilderCall → Choice
  | .withSiteOrigin origin => { s with origins := s.origins + {origin} }
  | .withSiteOrigins origins => { s with origins := s.origins + origins }
  | .withAllowInsecureLocalhostOrigin => { s with allowInsecureLocalhost := true }
  | .withTrustedCertificateAuthorities cas => { s with trustedCAs := s.trustedCAs ++ cas }
  | .withTrustStore ts => { s with trustStore := ts }
  | .withoutUserCertificateRevocationCheckWithOcsp => { s with ocspEnabled := false }
  | .withDesignatedOcspServiceConfiguration cfg => { s with designatedOCSP := cfg }
  | .withOcspClient c => { s with ocspClient := c }
  | .withOcspRequestTimeout d =>
      { s with ocspRequestTimeout := if 0 < d then d else s.ocspRequestTimeout }
  | .withDisallowedCertificatePolicies oids => { s with disallowedPolicies := oids }
  | .withNonceDisabledOcspUrls urls =>
      { s with nonceDisabledOCSPURL := s.nonceDisabledOCSPURL + urls }
  | .withAllowedOcspResponderURLs urls => { s with allowedOCSPURLs := s.allowedOCSPURLs + urls }
  | .withAllowedOcspResponseTimeSkew d => { s with ocspSkew := if 0 < d then d else s.ocspSkew }
  | .withMaxOcspResponseThisUpdateAge d =>
      { s with ocspMaxThisUpdateAge := if 0 < d then d else s.ocspMaxThisUpdateAge }

theorem choice_call (b : AuthTokenValidatorBuilder) (c : BuilderCall) :
    (b.call c).choice = b.choice.call c := by
  match c with
  | .withTrustStore none => rfl
  | .withTrustStore (some ts) => rfl
  | .withDesignatedOcspServiceConfiguration none => rfl
  | .withDesignatedOcspServiceConfiguration (some cfg) => rfl
  | .withOcspRequestTimeout d =>
      simp only [AuthTokenValidatorBuilder.call, AuthTokenValidatorBuilder.withOcspRequestTimeout,
        call]
      split <;> rfl
  | .withAllowedOcspResponseTimeSkew d =>
      simp only [AuthTokenValidatorBuilder.call,
        AuthTokenValidatorBuilder.withAllowedOcspResponseTimeSkew, call]
      split <;> rfl
  | .withMaxOcspResponseThisUpdateAge d =>
      simp only [AuthTokenValidatorBuilder.call,
        AuthTokenValidatorBuilder.withMaxOcspResponseThisUpdateAge, call]
      split <;> rfl
  | .withSiteOrigin _ | .withSiteOrigins _ | .withAllowInsecureLocalhostOrigin
  | .withTrustedCertificateAuthorities _ | .withoutUserCertificateRevocationCheckWithOcsp
  | .withOcspClient _ | .withDisallowedCertificatePolicies _ | .withNonceDisabledOcspUrls _
  | .withAllowedOcspResponderURLs _ => rfl

/-- Calls that do not compete commute. -/
theorem call_comm {x y : BuilderCall} (h : x.Compatible y) (s : Choice) :
    (s.call x).call y = (s.call y).call x := by
  by_cases heq : x = y
  · rw [heq]
  have hcollects : x.setting = y.setting → x.setting.collects = true :=
    fun hsetting => (h hsetting).resolve_left heq
  cases x <;> cases y <;>
    first
    | rfl
    | exact absurd (hcollects rfl) Bool.false_ne_true
    | (simp only [call, mk.injEq, true_and, and_true]; exact add_right_comm _ _ _)

theorem choice_ofCalls {calls calls' : List BuilderCall} (hperm : calls.Perm calls')
    (hcompatible : ∀ x ∈ calls, ∀ y ∈ calls, x.Compatible y) :
    (AuthTokenValidatorBuilder.ofCalls calls).choice =
      (AuthTokenValidatorBuilder.ofCalls calls').choice := by
  have hchoice : ∀ (cs : List BuilderCall) (b : AuthTokenValidatorBuilder),
      (cs.foldl AuthTokenValidatorBuilder.call b).choice = cs.foldl call b.choice := by
    intro cs
    induction cs with
    | nil => exact fun _ => rfl
    | cons c cs ih =>
        intro b
        rw [List.foldl_cons, ih, choice_call, List.foldl_cons]
  rw [AuthTokenValidatorBuilder.ofCalls, AuthTokenValidatorBuilder.ofCalls, hchoice, hchoice]
  exact hperm.foldl_eq' (fun x hx y hy s => call_comm (hcompatible x hx y hy) s) _

end Choice

/-! ## What behaves alike -/

namespace Ocsp

/-- Options that differ in the order of their lists at most. -/
structure Options.Alike (o o' : Options) : Prop where
  client : o.client = o'.client
  requestTimeout : o.requestTimeout = o'.requestTimeout
  designated : o.designated = o'.designated
  nonceDisabled : o.nonceDisabledURLs.Perm o'.nonceDisabledURLs
  allowed : o.allowedResponderURLs.Perm o'.allowedResponderURLs
  skew : o.allowedResponseTimeSkew = o'.allowedResponseTimeSkew
  maxAge : o.maxResponseThisUpdateAge = o'.maxResponseThisUpdateAge

/-- The defaults stand in for the same fields. -/
theorem newChecker_alike {o o' : Options} (h : o.Alike o') :
    (newChecker o).opts.Alike (newChecker o').opts where
  client := by simp only [newChecker, h.client]
  requestTimeout := by simp only [newChecker, h.requestTimeout]
  designated := h.designated
  nonceDisabled := h.nonceDisabled
  allowed := h.allowed
  skew := by simp only [newChecker, h.skew]
  maxAge := by simp only [newChecker, h.maxAge]

variable {c c' : Checker}

theorem resolveResponder_alike (h : c.opts.Alike c'.opts) (P : Platform)
    (cert issuer : Certificate) :
    c.resolveResponder P cert issuer = c'.resolveResponder P cert issuer := by
  have hallowed : ∀ url, c.isResponderAllowed P url = c'.isResponderAllowed P url := by
    intro url
    simp only [Checker.isResponderAllowed, h.allowed.isEmpty_eq, h.allowed.any_eq]
  have hnonce : ∀ url, c.isNonceDisabled url = c'.isNonceDisabled url := by
    intro url
    simp only [Checker.isNonceDisabled, h.nonceDisabled.any_eq]
  simp only [Checker.resolveResponder, h.designated, hallowed, hnonce]

theorem check_alike (h : c.opts.Alike c'.opts) (P : Platform) (env : OcspEnv)
    (cert issuer : Certificate) : c.check P env cert issuer = c'.check P env cert issuer := by
  simp only [Checker.check, Checker.fetch, Checker.checkFreshness,
    resolveResponder_alike h P cert issuer, h.client, h.requestTimeout, h.skew, h.maxAge]

end Ocsp

/-- Validators that differ in the order of their lists at most. -/
structure AuthTokenValidator.Alike (v v' : AuthTokenValidator) : Prop where
  origins : ∀ origin, origin ∈ v.origins ↔ origin ∈ v'.origins
  trust : v.trust = v'.trust
  ocspChecker : Option.Rel (fun c c' => c.opts.Alike c'.opts) v.ocspChecker v'.ocspChecker
  disallowedPolicies : v.disallowedPolicies = v'.disallowedPolicies

namespace AuthTokenValidator.Alike

variable {v v' : AuthTokenValidator}

theorem verifySignature (h : v.Alike v') (P : Platform) (token : AuthToken)
    (cert : Certificate) (nonce : String) :
    v.verifySignature P token cert nonce = v'.verifySignature P token cert nonce := by
  have hany : ∀ f : String → Bool, v.origins.any f = v'.origins.any f := by
    intro f
    rw [Bool.eq_iff_iff, List.any_eq_true, List.any_eq_true]
    simp only [h.origins]
  simp only [AuthTokenValidator.verifySignature, hany]

theorem checkRevocation (h : v.Alike v') (P : Platform) (env : ValidateEnv)
    (cert : Certificate) : v.checkRevocation P env cert = v'.checkRevocation P env cert := by
  have hchecker := h.ocspChecker
  rw [AuthTokenValidator.checkRevocation, AuthTokenValidator.checkRevocation]
  generalize v.ocspChecker = checker at hchecker
  generalize v'.ocspChecker = checker' at hchecker
  cases hchecker with
  | none => rfl
  | @some checker checker' hcheck =>
      have hissuer : checkIssuer P env checker cert = checkIssuer P env checker' cert := by
        funext issuer
        cases issuer with
        | none => rfl
        | some issuer => exact check_alike hcheck P env.ocsp cert issuer
      simp only [hissuer]

theorem validate (h : v.Alike v') (P : Platform) (env : ValidateEnv) (token : AuthToken)
    (nonce : String) : v.validate P env token nonce = v'.validate P env token nonce := by
  simp only [AuthTokenValidator.validate, checkToken, checkSignature, h.disallowedPolicies,
    h.checkRevocation P env, h.verifySignature P token]

end AuthTokenValidator.Alike

/-! ## What is built -/

namespace AuthTokenValidatorBuilder

variable {b b' : AuthTokenValidatorBuilder} {P : Platform} {v : AuthTokenValidator}
  {stores stores' : List TrustSnapshot}

theorem buildChecker_alike (h : b.choice = b'.choice) :
    Option.Rel (fun c c' => c.opts.Alike c'.opts) b.buildChecker b'.buildChecker := by
  have henabled : b.ocspEnabled = b'.ocspEnabled := congrArg Choice.ocspEnabled h
  rw [buildChecker, buildChecker, henabled]
  cases b'.ocspEnabled with
  | false => exact .none
  | true =>
      exact .some (newChecker_alike
        { client := congrArg Choice.ocspClient h
          requestTimeout := congrArg Choice.ocspRequestTimeout h
          designated := congrArg Choice.designatedOCSP h
          nonceDisabled := Multiset.coe_eq_coe.mp (congrArg Choice.nonceDisabledOCSPURL h)
          allowed := Multiset.coe_eq_coe.mp (congrArg Choice.allowedOCSPURLs h)
          skew := congrArg Choice.ocspSkew h
          maxAge := congrArg Choice.ocspMaxThisUpdateAge h })

theorem buildTrust_alike (h : b.choice = b'.choice) :
    b.buildTrust stores = b'.buildTrust stores := by
  have hstore : b.trustStore = b'.trustStore := congrArg Choice.trustStore h
  have hcas : b.trustedCAs = b'.trustedCAs := congrArg Choice.trustedCAs h
  rw [buildTrust, buildTrust, hstore, hcas]

theorem build_alike (h : b.choice = b'.choice) (hbuild : b.build P stores = .ok (v, stores')) :
    ∃ v', b'.build P stores = .ok (v', stores') ∧ v.Alike v' := by
  have horigins : b.origins.Perm b'.origins :=
    Multiset.coe_eq_coe.mp (congrArg Choice.origins h)
  have hlocal : b.allowInsecureLocalhost = b'.allowInsecureLocalhost :=
    congrArg Choice.allowInsecureLocalhost h
  rw [build] at hbuild
  split at hbuild
  · cases hbuild
  next hne =>
  obtain ⟨origins, hnormal, hbuild⟩ := bind_eq_ok hbuild
  obtain ⟨⟨ref, stores''⟩, htrust, hbuild⟩ := bind_eq_ok hbuild
  cases hbuild
  have hall := exists_mapM_iff.mp ⟨origins, hnormal⟩
  obtain ⟨origins', hnormal'⟩ : ∃ origins', (b'.origins.mapM fun o =>
      normalizeOrigin P o b'.allowInsecureLocalhost) = .ok origins' := by
    refine exists_mapM_iff.mpr fun o ho => ?_
    rw [← hlocal]
    exact hall o (horigins.mem_iff.mpr ho)
  refine ⟨⟨origins', ref, b'.buildChecker, b'.disallowedPolicies⟩, ?_,
    { origins := fun origin => ?_
      trust := rfl
      ocspChecker := buildChecker_alike h
      disallowedPolicies := congrArg Choice.disallowedPolicies h }⟩
  · rw [build, ← horigins.isEmpty_eq, if_neg hne, hnormal', ← buildTrust_alike h, htrust]
    rfl
  · show origin ∈ origins ↔ origin ∈ origins'
    simp only [mem_mapM_iff hnormal, mem_mapM_iff hnormal', horigins.mem_iff, hlocal]

end AuthTokenValidatorBuilder

/-- Calls that do not compete can be made in any order: if one order builds a
validator, every other order builds one on the same trust store, and the two
answer every token alike. -/
theorem builder_order_irrelevant {calls calls' : List BuilderCall} (hperm : calls.Perm calls')
    (hcompatible : ∀ x ∈ calls, ∀ y ∈ calls, x.Compatible y) {P : Platform}
    {stores stores' : List TrustSnapshot} {v : AuthTokenValidator}
    (hbuild : (AuthTokenValidatorBuilder.ofCalls calls).build P stores = .ok (v, stores')) :
    ∃ v', (AuthTokenValidatorBuilder.ofCalls calls').build P stores = .ok (v', stores') ∧
      v'.trust = v.trust ∧
      ∀ env token nonce, v'.validate P env token nonce = v.validate P env token nonce := by
  obtain ⟨v', hbuild', halike⟩ :=
    AuthTokenValidatorBuilder.build_alike (Choice.choice_ofCalls hperm hcompatible) hbuild
  exact ⟨v', hbuild', halike.trust.symm,
    fun env token nonce => (halike.validate P env token nonce).symm⟩

/-- Two origins and a store, with a responder that is sent no nonce. -/
def orderCalls : List BuilderCall :=
  [.withSiteOrigin "https://a.lv", .withTrustStore (some 0), .withSiteOrigins ["https://b.lv"],
    .withNonceDisabledOcspUrls ["http://ocsp.lv"]]

def orderPlatform : Platform :=
  { Platform.refusing with
    urlParse := fun text =>
      if text = "https://a.lv" then .ok ⟨"https", "a.lv", "", "", ""⟩
      else .ok ⟨"https", "b.lv", "", "", ""⟩ }

/-- What these calls build, read either way. -/
def orderBuilt (calls : List BuilderCall) :
    Except GoError (AuthTokenValidator × List TrustSnapshot) :=
  (AuthTokenValidatorBuilder.ofCalls calls).build orderPlatform [TrustStore.newRuntime]

/-- Read backwards the calls build another validator, and no token tells. -/
theorem builder_order_irrelevant_reversed :
    ∃ v v',
      orderBuilt orderCalls = .ok (v, [TrustStore.newRuntime]) ∧
      orderBuilt orderCalls.reverse = .ok (v', [TrustStore.newRuntime]) ∧
      v.origins = ["https://a.lv", "https://b.lv"] ∧
      v'.origins = ["https://b.lv", "https://a.lv"] ∧
      ∀ env token nonce,
        v'.validate orderPlatform env token nonce = v.validate orderPlatform env token nonce := by
  have hcompatible : ∀ x ∈ orderCalls, ∀ y ∈ orderCalls, x.Compatible y := by
    simp [orderCalls, BuilderCall.Compatible, BuilderCall.setting, BuilderCall.Setting.collects]
  have hbuild : orderBuilt orderCalls =
      .ok (⟨["https://a.lv", "https://b.lv"], 0, _, _⟩, [TrustStore.newRuntime]) := rfl
  have hreversed : orderBuilt orderCalls.reverse =
      .ok (⟨["https://b.lv", "https://a.lv"], 0, _, _⟩, [TrustStore.newRuntime]) := rfl
  obtain ⟨v', hbuild', -, hsame⟩ :=
    builder_order_irrelevant (List.reverse_perm orderCalls).symm hcompatible hbuild
  cases hbuild'.symm.trans hreversed
  exact ⟨_, _, hbuild, hreversed, rfl, rfl, hsame⟩

end WebEid
