import WebEid.Proofs.EmptySources
import WebEid.Proofs.Federation
import WebEid.Proofs.ObjectIdentifiers
import WebEid.Proofs.Origins
import WebEid.Proofs.PolicyBlocklist
import WebEid.Ref.Settings

/-!
# Which settings a site starts with

Between the settings a deployment provides and a site that serves there are
three steps: the defaults of `Bind` are filled in, `Validate` has the tags
tested, and `New` parses and loads. Each of the last two refuses some settings,
and they do not refuse the same ones. The first step is `viper`'s and the
second the validator's; `SiteConfiguration.Loads` and `ValidatorLaws` say what
is assumed of them.

`exists_newSite_iff` says what `New` needs, of any settings. Seen from there
`Validate` takes two of the conditions over: the hash functions, all of them,
and that there is an origin. It leaves the shape of an origin to `New` (a URL
with a path is a URL), and the object identifiers, which have no tag. None of
the defaults ever fails (`configured_site_starts_iff`).
-/

namespace WebEid.Azugo

open Lib Exceptions Certificate

/-! ## The parts of a handler -/

theorem exists_parseOIDs_iff {vs : List String} :
    (∃ oids, parseOIDs vs = .ok oids) ↔
      ∀ v ∈ vs, Go.trimSpace v ≠ "" → ∃ oid, parseOID v = .ok oid := by
  rw [parseOIDs_eq, exists_mapM_iff]
  simp only [List.mem_filter, decide_eq_true_eq, and_imp]

/-- Of the builder only the origins can be refused here: it is given a trust
store, and no certificates beside it. -/
theorem exists_build_iff {P : Platform} {b : AuthTokenValidatorBuilder} {ref : StoreRef}
    (hstore : b.trustStore = some ref) (hcas : b.trustedCAs = []) {stores : List TrustSnapshot} :
    (∃ r, b.build P stores = .ok r) ↔ b.origins ≠ [] ∧
      ∀ o ∈ b.origins, ∃ n, normalizeOrigin P o b.allowInsecureLocalhost = .ok n := by
  rw [← exists_mapM_iff, AuthTokenValidatorBuilder.build]
  split
  next hnone =>
    refine iff_of_false (by simp) ?_
    intro h
    exact h.1 (List.isEmpty_iff.mp hnone)
  next hsome =>
    refine ⟨?_, ?_⟩
    · intro h
      obtain ⟨r, h⟩ := h
      obtain ⟨origins, horigins, -⟩ := bind_eq_ok h
      exact ⟨fun hnil => hsome (List.isEmpty_iff.mpr hnil), origins, horigins⟩
    · intro h
      obtain ⟨-, origins, horigins⟩ := h
      rw [horigins]
      simp only [AuthTokenValidatorBuilder.buildTrust, hstore, hcas]
      exact ⟨_, rfl⟩

theorem exists_withPolicies_iff {cfg : Configuration} {b : AuthTokenValidatorBuilder} :
    (∃ b', withPolicies cfg b = .ok b') ↔
      ∃ oids, parseOIDs cfg.disallowedPolicyOIDs = .ok oids := by
  rw [withPolicies]
  split
  next =>
    refine ⟨?_, ?_⟩
    · intro h
      obtain ⟨b', h⟩ := h
      obtain ⟨oids, hoids, -⟩ := bind_eq_ok h
      exact ⟨oids, hoids⟩
    · intro h
      obtain ⟨oids, hoids⟩ := h
      rw [hoids]
      exact ⟨_, rfl⟩
  next hnone =>
    have hnil : cfg.disallowedPolicyOIDs = [] := List.length_eq_zero_iff.mp (by omega)
    refine iff_of_true ⟨_, rfl⟩ ?_
    rw [hnil]
    exact ⟨_, rfl⟩

/-- What a configuration makes of the builder, in the fields that decide
whether it builds. -/
structure Configured (cfg : Configuration) (ref : StoreRef) (b : AuthTokenValidatorBuilder) :
    Prop where
  origins : b.origins = cfg.origins
  allow : b.allowInsecureLocalhost = cfg.allowInsecureLocalhost
  store : b.trustStore = some ref
  cas : b.trustedCAs = []

/-- The steps before the policies configure a builder, and those after them
leave these fields alone. -/
theorem buildValidator_steps (P : Platform) (cfg : Configuration) (ref : StoreRef) :
    ∃ (start : AuthTokenValidatorBuilder)
      (rest : AuthTokenValidatorBuilder → AuthTokenValidatorBuilder),
      Configured cfg ref start ∧
      (∀ b, Configured cfg ref b → Configured cfg ref (rest b)) ∧
      ∀ stores, buildValidator P cfg ref stores =
        (withPolicies cfg start >>= fun b => (rest b).build P stores) := by
  -- the two parts are read off the definition
  refine ⟨_, fun b => _, ?_, ?_, fun stores => rfl⟩
  · unfold AuthTokenValidatorBuilder.withOcspRequestTimeout
    split
    next hallow => split <;> exact ⟨rfl, hallow.symm, rfl, rfl⟩
    next hallow => split <;> exact ⟨rfl, (Bool.eq_false_iff.mpr hallow).symm, rfl, rfl⟩
  · intro b hb
    simp only []
    split <;> split <;> exact ⟨hb.origins, hb.allow, hb.store, hb.cas⟩

theorem exists_buildValidator_iff (P : Platform) (cfg : Configuration) (ref : StoreRef)
    (stores : List TrustSnapshot) :
    (∃ r, buildValidator P cfg ref stores = .ok r) ↔
      (cfg.origins ≠ [] ∧
        ∀ o ∈ cfg.origins, ∃ n, normalizeOrigin P o cfg.allowInsecureLocalhost = .ok n) ∧
      ∃ oids, parseOIDs cfg.disallowedPolicyOIDs = .ok oids := by
  obtain ⟨start, rest, hstart, hrest, hsteps⟩ := buildValidator_steps P cfg ref
  have hconfigured : ∀ b, withPolicies cfg start = .ok b → Configured cfg ref (rest b) := by
    intro b hb
    obtain ⟨oids, rfl⟩ := withPolicies_ok hb
    exact hrest _ ⟨hstart.origins, hstart.allow, hstart.store, hstart.cas⟩
  have hbuilds : ∀ b, withPolicies cfg start = .ok b →
      ((∃ r, (rest b).build P stores = .ok r) ↔ cfg.origins ≠ [] ∧
        ∀ o ∈ cfg.origins, ∃ n, normalizeOrigin P o cfg.allowInsecureLocalhost = .ok n) := by
    intro b hb
    have hb' := hconfigured b hb
    rw [exists_build_iff hb'.store hb'.cas, hb'.origins, hb'.allow]
  rw [hsteps stores, ← exists_withPolicies_iff (b := start)]
  refine ⟨?_, ?_⟩
  · intro h
    obtain ⟨r, h⟩ := h
    obtain ⟨b, hb, h⟩ := bind_eq_ok h
    exact ⟨(hbuilds b hb).mp ⟨r, h⟩, b, hb⟩
  · intro h
    obtain ⟨horigins, b, hb⟩ := h
    obtain ⟨r, hr⟩ := (hbuilds b hb).mpr horigins
    exact ⟨r, by rw [hb, bind_ok, hr]⟩

theorem exists_newSigner_iff {opts : Signing.Options} :
    (∃ s, Signing.newSigner opts = .ok s) ↔ opts.hashPreference ≠ [] ∧
      ∀ name ∈ opts.hashPreference, name ∈ Signing.supportedHashFunctions := by
  refine ⟨?_, ?_⟩
  · intro h
    obtain ⟨s, h⟩ := h
    refine ⟨?_, (Signing.newSigner_ok h).2⟩
    intro hnil
    rw [Signing.newSigner, hnil] at h
    cases h
  · intro h
    obtain ⟨hne, hall⟩ := h
    have hfind :
        (opts.hashPreference.find? fun h => !Signing.isSupportedHashFunction h) = none := by
      rw [List.find?_eq_none]
      intro name hname
      simpa [Signing.isSupportedHashFunction] using hall name hname
    rw [Signing.newSigner, if_neg (by simpa using hne), hfind]
    exact ⟨_, rfl⟩

theorem exists_buildSigner_iff (cfg : Configuration) (rt : Option Ocsp.RoundTripper)
    (ref : StoreRef) :
    (∃ s, buildSigner cfg rt ref = .ok s) ↔
      (∃ oids, parseOIDs cfg.signingAcceptedPolicyOIDs = .ok oids) ∧
      cfg.signingHashPreference ≠ [] ∧
        ∀ name ∈ cfg.signingHashPreference, name ∈ Signing.supportedHashFunctions := by
  rw [buildSigner]
  refine ⟨?_, ?_⟩
  · intro h
    obtain ⟨s, h⟩ := h
    obtain ⟨oids, hoids, h⟩ := bind_eq_ok h
    exact ⟨⟨oids, hoids⟩, exists_newSigner_iff.mp ⟨s, h⟩⟩
  · intro h
    obtain ⟨⟨oids, hoids⟩, hhashes⟩ := h
    rw [hoids, bind_ok]
    exact exists_newSigner_iff.mpr hhashes

/-! ## The whole of `New` -/

/-- What is trusted is loaded, or is expected later. -/
def TrustReady (P : Platform) (path : String) (runtimeTrust : Prop) (source : Source) : Prop :=
  (∃ cas, loadTrustedCAs P path source = .ok cas) ∨
    runtimeTrust ∧ ∃ err, loadTrustedCAs P path source = .error err ∧ emptyTrustSource err = true

/-- What `New` needs. -/
structure Starts (P : Platform) (cfg : Configuration) (runtimeTrust : Prop) (source : Source) :
    Prop where
  trust : TrustReady P cfg.trustedCACertsPath runtimeTrust source
  some_origin : cfg.origins ≠ []
  origins : ∀ o ∈ cfg.origins, ∃ u, P.urlParse o = .ok u ∧ OriginURL cfg.allowInsecureLocalhost u
  policies : ∀ v ∈ cfg.disallowedPolicyOIDs ++ cfg.signingAcceptedPolicyOIDs,
    Go.trimSpace v ≠ "" → ∃ oid, parseOID v = .ok oid
  some_hash : cfg.signingHashPreference ≠ []
  hashes : ∀ name ∈ cfg.signingHashPreference, name ∈ Signing.supportedHashFunctions

theorem load_ne_nil {P : Platform} {path : String} {source : Source} {cas : List Certificate}
    (h : loadTrustedCAs P path source = .ok cas) : cas ≠ [] := by
  cases source with
  | noStat err => cases h
  | dir entries =>
      cases entries with
      | error err => cases h
      | ok entries => exact (loadCertificatesFromDir_ok_iff.mp h).2
  | file content =>
      cases content with
      | error err => cases h
      | ok data => exact (loadCertificatesFromPEM_ok_iff.mp h).2

theorem exists_initialTrust_iff {P : Platform} {cfg : Configuration} {runtimeTrust : Bool}
    {source : Source} :
    (∃ snap, initialTrust P cfg runtimeTrust source = .ok snap) ↔
      TrustReady P cfg.trustedCACertsPath (runtimeTrust = true) source := by
  rw [initialTrust, TrustReady]
  cases hload : loadTrustedCAs P cfg.trustedCACertsPath source with
  | ok cas =>
      have hne : ¬ cas.isEmpty = true := by simpa using load_ne_nil hload
      simp only [TrustStore.reload, if_neg hne]
      exact iff_of_true ⟨_, rfl⟩ (Or.inl ⟨cas, rfl⟩)
  | error err => cases runtimeTrust <;> cases hempty : emptyTrustSource err <;> simp [hempty]

theorem runtimeTrust_foldl_iff (opts : List HandlerOption) (s : Settings) :
    (opts.foldl HandlerOption.apply s).runtimeTrust = true ↔
      s.runtimeTrust = true ∨ HandlerOption.withRuntimeTrust ∈ opts := by
  refine ⟨?_, runtimeTrust_foldl⟩
  induction opts generalizing s with
  | nil => exact Or.inl
  | cons o opts ih =>
      intro h
      rcases ih _ h with hset | hmem
      · match o with
        | .withNonceStore none => exact Or.inl hset
        | .withNonceStore (some id) => exact Or.inl hset
        | .withAssertionIssuer iss => exact Or.inl hset
        | .withRuntimeTrust => exact Or.inr List.mem_cons_self
        | .withOCSPTransport rt => exact Or.inl hset
      · exact Or.inr (List.mem_cons_of_mem o hmem)

theorem exists_normalizeOrigin_iff {P : Platform} {o : String} {allow : Bool} :
    (∃ n, normalizeOrigin P o allow = .ok n) ↔
      ∃ u, P.urlParse o = .ok u ∧ OriginURL allow u := by
  refine ⟨?_, ?_⟩
  · intro h
    obtain ⟨n, h⟩ := h
    obtain ⟨u, hparse, hu, -⟩ := normalizeOrigin_ok_iff.mp h
    exact ⟨u, hparse, hu⟩
  · intro h
    obtain ⟨u, hparse, hu⟩ := h
    exact ⟨_, normalizeOrigin_ok_iff.mpr ⟨u, hparse, hu, rfl⟩⟩

theorem exists_new_iff {P : Platform} {cfg : Configuration} {opts : List HandlerOption}
    {source : Source} (stores : List TrustSnapshot) :
    (∃ r, new P cfg opts source stores = .ok r) ↔
      Starts P cfg (HandlerOption.withRuntimeTrust ∈ opts) source := by
  have htrust : (∃ snap, initialTrust P cfg (opts.foldl HandlerOption.apply
      ⟨.session cfg.nonceTTL, false, none, none⟩).runtimeTrust source = .ok snap) ↔
      TrustReady P cfg.trustedCACertsPath (HandlerOption.withRuntimeTrust ∈ opts) source := by
    rw [exists_initialTrust_iff, runtimeTrust_foldl_iff]
    simp only [Bool.false_eq_true, false_or]
  rw [new]
  refine ⟨?_, ?_⟩
  · intro h
    obtain ⟨r, h⟩ := h
    obtain ⟨snap, hsnap, h⟩ := bind_eq_ok h
    obtain ⟨v, hv, h⟩ := bind_eq_ok h
    obtain ⟨s, hs, -⟩ := bind_eq_ok h
    obtain ⟨⟨hsome, horigins⟩, hblock⟩ := (exists_buildValidator_iff _ _ _ _).mp ⟨v, hv⟩
    obtain ⟨haccept, hhash, hhashes⟩ := (exists_buildSigner_iff _ _ _).mp ⟨s, hs⟩
    refine ⟨htrust.mp ⟨snap, hsnap⟩, hsome, ?_, ?_, hhash, hhashes⟩
    · intro o ho
      exact exists_normalizeOrigin_iff.mp (horigins o ho)
    · rw [List.forall_mem_append]
      exact ⟨exists_parseOIDs_iff.mp hblock, exists_parseOIDs_iff.mp haccept⟩
  · intro h
    have hpolicies := List.forall_mem_append.mp h.policies
    obtain ⟨snap, hsnap⟩ := htrust.mpr h.trust
    obtain ⟨v, hv⟩ := (exists_buildValidator_iff P cfg stores.length (stores ++ [snap])).mpr
      ⟨⟨h.some_origin, fun o ho => exists_normalizeOrigin_iff.mpr (h.origins o ho)⟩,
        exists_parseOIDs_iff.mpr hpolicies.1⟩
    obtain ⟨s, hs⟩ := (exists_buildSigner_iff cfg (opts.foldl HandlerOption.apply
      ⟨.session cfg.nonceTTL, false, none, none⟩).ocspTransport stores.length).mpr
      ⟨exists_parseOIDs_iff.mpr hpolicies.2, h.some_hash, h.hashes⟩
    simp only [hsnap, bind_ok, hv, hs]
    -- the generator is given a store, so it builds
    unfold buildGenerator ChallengeNonceGeneratorBuilder.withNonceTTL
    split <;> exact ⟨_, rfl⟩

theorem exists_newSite_iff {P : Platform} {cfg : SiteConfiguration} {opts : List SiteOption}
    {source : Source} {stores : List TrustSnapshot} :
    (∃ r, newSite P cfg opts source stores = .ok r) ↔
      Starts P cfg.toConfiguration (SiteOption.handler .withRuntimeTrust ∈ opts) source := by
  have hruntime : HandlerOption.withRuntimeTrust ∈ opts.filterMap SiteOption.handlerOption ↔
      SiteOption.handler .withRuntimeTrust ∈ opts := by
    rw [List.mem_filterMap]
    refine ⟨?_, fun h => ⟨_, h, rfl⟩⟩
    intro h
    obtain ⟨o, ho, heq⟩ := h
    cases o with
    | handler o =>
        cases heq
        exact ho
    | withPublishedJWKS keys => cases heq
  rw [← hruntime, ← exists_new_iff stores, newSite]
  split
  next err herr => simp [herr]
  next h stores' hnew => exact iff_of_true ⟨_, rfl⟩ ⟨_, hnew⟩

/-! ## From the settings provided -/

/-- What `viper` fills the struct with: for each key what was provided, or the
default, or Go's zero value. -/
def SiteConfiguration.Loads (provided : String → Option Value) (c : SiteConfiguration) : Prop :=
  ∀ f ∈ c.fields,
    f.value = ((provided f.key).or (SiteConfiguration.bind.lookup f.key)).getD f.value.zero

/-- What the validator documents of the tags: they are tested from the left,
`omitempty` ends the tests of a zero value, and `dive` goes on with the
elements. Whether `required` takes an empty list depends on its being nil, which
is left open. -/
structure ValidatorLaws (valid : Value → List Tag → Bool) : Prop where
  untagged : ∀ v, valid v [] = true
  required_text : ∀ s ts, valid (.text s) (.required :: ts) = true ↔
    s ≠ "" ∧ valid (.text s) ts = true
  required_duration : ∀ d ts, valid (.duration d) (.required :: ts) = true ↔
    d ≠ 0 ∧ valid (.duration d) ts = true
  required_texts : ∀ l ts, l ≠ [] →
    (valid (.texts l) (.required :: ts) = true ↔ valid (.texts l) ts = true)
  required_empty : ∀ ts, valid (.texts []) (.required :: ts) = true → valid (.texts []) ts = true
  min : ∀ l n ts, valid (.texts l) (.min n :: ts) = true ↔
    n ≤ l.length ∧ valid (.texts l) ts = true
  dive : ∀ l ts, valid (.texts l) (.dive :: ts) = true ↔ ∀ s ∈ l, valid (.text s) ts = true
  gt : ∀ d bound ts, valid (.duration d) (.gt bound :: ts) = true ↔
    bound < d ∧ valid (.duration d) ts = true
  omitempty : ∀ s ts, valid (.text s) (.omitempty :: ts) = true ↔
    s = "" ∨ valid (.text s) ts = true
  oneof : ∀ s names ts, valid (.text s) (.oneof names :: ts) = true ↔
    s ∈ names ∧ valid (.text s) ts = true

/-- The settings a deployment has to provide, and what it may. -/
structure Acceptable (valid : Value → List Tag → Bool) (provided : String → Option Value) :
    Prop where
  origins : ∃ os, provided "origins" = some (.texts os) ∧ os ≠ [] ∧
    ∀ o ∈ os, valid (.text o) [.url] = true
  path : ∃ path, provided "trusted_ca_certs_path" = some (.text path) ∧ path ≠ ""
  nonceTTL : ∀ d, provided "nonce_ttl" = some (.duration d) → 0 < d
  timeout : ∀ d, provided "ocsp_request_timeout" = some (.duration d) → 0 < d
  designated : ∀ url, provided "designated_ocsp_url" = some (.text url) →
    url = "" ∨ valid (.text url) [.url] = true
  cookie : ∀ name, provided "session_cookie_name" = some (.text name) → name ≠ ""
  hashes : ∀ hs, provided "signing_hash_preference" = some (.texts hs) →
    hs ≠ [] ∧ ∀ name ∈ hs, name ∈ Signing.supportedHashFunctions

section Validator

variable {valid : Value → List Tag → Bool} (hlaws : ValidatorLaws valid)
include hlaws

theorem valid_texts_iff {l : List String} {ts : List Tag} :
    valid (.texts l) (.required :: .min 1 :: .dive :: ts) = true ↔
      l ≠ [] ∧ ∀ s ∈ l, valid (.text s) ts = true := by
  have hmin : valid (.texts l) (.min 1 :: .dive :: ts) = true ↔
      l ≠ [] ∧ ∀ s ∈ l, valid (.text s) ts = true := by
    rw [hlaws.min, hlaws.dive, ← List.length_pos_iff]
    exact Iff.rfl
  by_cases hl : l = []
  · subst hl
    refine iff_of_false ?_ (fun h => h.1 rfl)
    intro hrequired
    exact (hmin.mp (hlaws.required_empty _ hrequired)).1 rfl
  · rw [hlaws.required_texts l _ hl, hmin]

theorem valid_text_iff {s : String} : valid (.text s) [.required] = true ↔ s ≠ "" := by
  rw [hlaws.required_text, and_iff_left (hlaws.untagged _)]

/-- On a duration `gt=0` alone would do. -/
theorem valid_duration_iff {d : Duration} :
    valid (.duration d) [.required, .gt 0] = true ↔ 0 < d := by
  rw [hlaws.required_duration, hlaws.gt, and_iff_left (hlaws.untagged _)]
  refine and_iff_right_of_imp ?_
  intro hpos hzero
  rw [hzero] at hpos
  exact absurd hpos (by decide)

theorem valid_oneof_iff {s : String} {names : List String} :
    valid (.text s) [.oneof names] = true ↔ s ∈ names := by
  rw [hlaws.oneof, and_iff_left (hlaws.untagged _)]

/-- What the tags of the struct come to. -/
theorem validate_iff {c : SiteConfiguration} :
    c.validate valid = true ↔
      (c.origins ≠ [] ∧ ∀ o ∈ c.origins, valid (.text o) [.url] = true) ∧
      c.trustedCACertsPath ≠ "" ∧ 0 < c.nonceTTL ∧ 0 < c.ocspRequestTimeout ∧
      (c.designatedOCSPURL = "" ∨ valid (.text c.designatedOCSPURL) [.url] = true) ∧
      c.sessionCookieName ≠ "" ∧
      c.signingHashPreference ≠ [] ∧
        ∀ name ∈ c.signingHashPreference, name ∈ Signing.supportedHashFunctions := by
  simp only [SiteConfiguration.validate, SiteConfiguration.fields, List.all_cons, List.all_nil,
    Bool.and_eq_true, valid_texts_iff hlaws, valid_text_iff hlaws, valid_duration_iff hlaws,
    valid_oneof_iff hlaws, hlaws.omitempty, hlaws.untagged, true_and, and_true]
  exact Iff.rfl

end Validator

section Loads

variable {provided : String → Option Value} {c : SiteConfiguration}

theorem SiteConfiguration.Loads.value (h : c.Loads provided) {key : String} {v d : Value}
    (hv : (key, v) ∈ c.fields.map fun f => (f.key, f.value))
    (hd : (SiteConfiguration.bind.lookup key).getD v.zero = d) : v = (provided key).getD d := by
  obtain ⟨f, hf, hfield⟩ := List.mem_map.mp hv
  cases hfield
  refine (h f hf).trans ?_
  cases provided f.key with
  | none => exact hd
  | some v => rfl

variable {α : Type} {box : α → Value} (hbox : Function.Injective box) {p : α → Prop}
  {o : Option Value} {a d : α} (ha : box a = o.getD (box d))
include hbox ha

/-- A default that passes leaves the provided value to pass. -/
theorem getD_iff (hd : p d) : p a ↔ ∀ x, o = some (box x) → p x := by
  cases o with
  | none =>
      obtain rfl := hbox ha
      simp [hd]
  | some v =>
      obtain rfl : box a = v := ha
      simp [hbox.eq_iff]

/-- One that does not has to be replaced. -/
theorem getD_iff_exists (hd : ¬ p d) : p a ↔ ∃ x, o = some (box x) ∧ p x := by
  cases o with
  | none =>
      obtain rfl := hbox ha
      simp [hd]
  | some v =>
      obtain rfl : box a = v := ha
      simp [hbox.eq_iff]

end Loads

theorem validate_loads_iff {valid : Value → List Tag → Bool} (hlaws : ValidatorLaws valid)
    {provided : String → Option Value} {c : SiteConfiguration} (hload : c.Loads provided) :
    c.validate valid = true ↔ Acceptable valid provided := by
  have htext : Function.Injective Value.text := fun _ _ => Value.text.inj
  have htexts : Function.Injective Value.texts := fun _ _ => Value.texts.inj
  have hduration : Function.Injective Value.duration := fun _ _ => Value.duration.inj
  have horigins : Value.texts c.origins = (provided "origins").getD (.texts []) :=
    hload.value (by simp [SiteConfiguration.fields]) rfl
  have hpath : Value.text c.trustedCACertsPath =
      (provided "trusted_ca_certs_path").getD (.text "") :=
    hload.value (by simp [SiteConfiguration.fields]) rfl
  have hnonce : Value.duration c.nonceTTL =
      (provided "nonce_ttl").getD (.duration 300000000000) :=
    hload.value (by simp [SiteConfiguration.fields]) rfl
  have htimeout : Value.duration c.ocspRequestTimeout =
      (provided "ocsp_request_timeout").getD (.duration 5000000000) :=
    hload.value (by simp [SiteConfiguration.fields]) rfl
  have hurl : Value.text c.designatedOCSPURL =
      (provided "designated_ocsp_url").getD (.text "") :=
    hload.value (by simp [SiteConfiguration.fields]) rfl
  have hcookie : Value.text c.sessionCookieName =
      (provided "session_cookie_name").getD (.text "WEBEID_SESSION") :=
    hload.value (by simp [SiteConfiguration.fields]) rfl
  have hhashes : Value.texts c.signingHashPreference =
      (provided "signing_hash_preference").getD (.texts ["SHA-256", "SHA-384", "SHA-512"]) :=
    hload.value (by simp [SiteConfiguration.fields]) rfl
  -- two of the settings have no default that passes
  rw [validate_iff hlaws,
    getD_iff_exists htexts horigins (by simp)
      (p := fun os => os ≠ [] ∧ ∀ o ∈ os, valid (.text o) [.url] = true),
    getD_iff_exists htext hpath (by simp) (p := fun path => path ≠ ""),
    getD_iff hduration hnonce (by decide) (p := fun d => 0 < d),
    getD_iff hduration htimeout (by decide) (p := fun d => 0 < d),
    getD_iff htext hurl (Or.inl rfl) (p := fun url => url = "" ∨ valid (.text url) [.url] = true),
    getD_iff htext hcookie (by decide) (p := fun name => name ≠ ""),
    getD_iff htexts hhashes (by decide)
      (p := fun hs => hs ≠ [] ∧ ∀ name ∈ hs, name ∈ Signing.supportedHashFunctions)]
  refine ⟨?_, ?_⟩
  · intro h
    obtain ⟨h₁, h₂, h₃, h₄, h₅, h₆, h₇⟩ := h
    exact ⟨h₁, h₂, h₃, h₄, h₅, h₆, h₇⟩
  · intro h
    exact ⟨h.origins, h.path, h.nonceTTL, h.timeout, h.designated, h.cookie, h.hashes⟩

/-- The settings pass `Validate` exactly when the two without a default are
provided and whatever is provided passes. A site then starts exactly when its
trust is ready, every origin is a bare one and every object identifier reads
as one. -/
theorem configured_site_starts_iff (P : Platform) {valid : Value → List Tag → Bool}
    (hlaws : ValidatorLaws valid) {provided : String → Option Value} {cfg : SiteConfiguration}
    (hload : cfg.Loads provided) (opts : List SiteOption) (source : Source)
    (stores : List TrustSnapshot) :
    (cfg.validate valid = true ↔ Acceptable valid provided) ∧
    (cfg.validate valid = true →
      ((∃ r, newSite P cfg opts source stores = .ok r) ↔
        TrustReady P cfg.trustedCACertsPath (SiteOption.handler .withRuntimeTrust ∈ opts) source ∧
        (∀ o ∈ cfg.origins, ∃ u, P.urlParse o = .ok u ∧ OriginURL cfg.allowInsecureLocalhost u) ∧
        ∀ oid ∈ cfg.disallowedPolicyOIDs ++ cfg.signingAcceptedPolicyOIDs,
          Go.trimSpace oid ≠ "" → ∃ parsed, parseOID oid = .ok parsed)) := by
  refine ⟨validate_loads_iff hlaws hload, ?_⟩
  intro hvalid
  obtain ⟨⟨hsome, -⟩, -, -, -, -, -, hhash, hhashes⟩ := (validate_iff hlaws).mp hvalid
  rw [exists_newSite_iff]
  refine ⟨fun h => ⟨h.trust, h.origins, h.policies⟩, ?_⟩
  intro h
  obtain ⟨htrust, horigins, hpolicies⟩ := h
  exact ⟨htrust, hsome, horigins, hpolicies, hhash, hhashes⟩

/-! A deployment that provides what it has to and nothing else. -/

/-- The tags as they are documented, with `https` URLs only. -/
def documented : Value → List Tag → Bool
  | _, [] => true
  | .text s, .required :: ts => s != "" && documented (.text s) ts
  | .duration d, .required :: ts => d != 0 && documented (.duration d) ts
  | v, .required :: ts => documented v ts
  | .texts l, .min n :: ts => decide (n ≤ l.length) && documented (.texts l) ts
  | .texts l, .dive :: ts => l.all fun s => documented (.text s) ts
  | .duration d, .gt bound :: ts => decide (bound < d) && documented (.duration d) ts
  | .text s, .omitempty :: ts => s == "" || documented (.text s) ts
  | .text s, .oneof names :: ts => names.contains s && documented (.text s) ts
  | .text s, .url :: ts => Go.hasPrefix s "https://" && documented (.text s) ts
  | _, _ :: _ => false

theorem documented_laws : ValidatorLaws documented where
  untagged := fun v => by cases v <;> rfl
  required_text := fun s ts => by simp [documented]
  required_duration := fun d ts => by simp [documented]
  required_texts := fun l ts _ => by simp [documented]
  required_empty := fun ts h => by simpa [documented] using h
  min := fun l n ts => by simp [documented]
  dive := fun l ts => by simp [documented]
  gt := fun d bound ts => by simp [documented]
  omitempty := fun s ts => by simp [documented]
  oneof := fun s names ts => by simp [documented]

def minimalProvided (key : String) : Option Value :=
  [("origins", Value.texts ["https://a.lv"]),
    ("trusted_ca_certs_path", .text "/trust")].lookup key

def minimalConfiguration : SiteConfiguration where
  origins := ["https://a.lv"]
  trustedCACertsPath := "/trust"
  nonceTTL := 300000000000
  ocspEnabled := true
  ocspRequestTimeout := 5000000000
  designatedOCSPURL := ""
  ocspNonceDisabledURLs := []
  signingHashPreference := ["SHA-256", "SHA-384", "SHA-512"]
  allowInsecureLocalhost := false
  ocspAllowedResponderURLs := []
  disallowedPolicyOIDs := []
  signingAcceptedPolicyOIDs := []
  sessionCookieName := "WEBEID_SESSION"
  enforceHostHeader := true

theorem minimalConfiguration_loads : minimalConfiguration.Loads minimalProvided := by
  rw [SiteConfiguration.Loads]
  decide +kernel

/-- It passes, and does not start as long as its trust source is missing. -/
theorem configured_site_starts_minimal :
    minimalConfiguration.validate documented = true ∧
      ∀ err, ¬ ∃ r, newSite Platform.refusing minimalConfiguration [] (.noStat err) [] =
        .ok r := by
  have hstarts := configured_site_starts_iff Platform.refusing documented_laws
    minimalConfiguration_loads []
  have hvalid : minimalConfiguration.validate documented = true := by
    refine (hstarts (.noStat (.text "")) []).1.mpr
      ⟨⟨["https://a.lv"], rfl, by decide, by decide +kernel⟩, ⟨"/trust", rfl, by decide⟩, ?_, ?_,
        ?_, ?_, ?_⟩
    all_goals
      intro x h
      cases h
  refine ⟨hvalid, ?_⟩
  intro err
  rw [(hstarts (.noStat err) []).2 hvalid]
  rintro ⟨⟨cas, hcas⟩ | ⟨hruntime, -⟩, -⟩
  · cases hcas
  · cases hruntime

end WebEid.Azugo
