import WebEid.Ref.Validator

/-!
# Origins as configured and as browsers write them

A browser signs the serialisation of its origin: scheme and host in lower
case, and the port as a plain number unless it is the scheme's own. What the
validator hashes is `normalizeOrigin` of the configured text, and that takes
scheme and host from `url.Parse` as they stand. The parser lower-cases the
scheme, so user info, a trailing slash and the letter case of the scheme are
gone, while the letter case of the host and every spelling of the port stay.

A percent sign in the host is the other thing that stays. `url.Parse` has
decoded the host, the normalised origin is the decoded text, and decoding it
once more gives another host or an error.
-/

namespace WebEid

open Lib Exceptions

/-! ## Web origins -/

/-- The host keeps the brackets of an IPv6 literal. -/
structure WebOrigin where
  scheme : String
  host : String
  port : Option Nat
  deriving DecidableEq

def defaultPort (scheme : String) : Nat := if scheme = "https" then 443 else 80

/-- The origin a URL denotes. -/
def webOrigin (u : URL) : WebOrigin where
  scheme := u.scheme
  host := Go.toLower (splitHostPort u.host).1
  port :=
    match (splitHostPort u.host).2 with
    | none => none
    | some p => (Go.digits? p.toList).filter (· ≠ defaultPort u.scheme)

namespace WebOrigin

def hostPort (w : WebOrigin) : String :=
  match w.port with
  | none => w.host
  | some n => w.host ++ ":" ++ toString n

/-- What a browser signs. -/
def serialise (w : WebOrigin) : String := w.scheme ++ "://" ++ w.hostPort

end WebOrigin

/-- Lower case, and no port or one that a browser writes. -/
structure CanonicalHost (u : URL) : Prop where
  lower : Go.toLower (splitHostPort u.host).1 = (splitHostPort u.host).1
  port : ∀ p, (splitHostPort u.host).2 = some p →
    ∃ n : Nat, p = toString n ∧ n ≠ defaultPort u.scheme

theorem splitHostPort_cases (host : String) :
    splitHostPort host = (host, none) ∨
      ∃ name port, splitHostPort host = (name, some port) ∧
        host.toList = name.toList ++ ':' :: port.toList := by
  rw [splitHostPort]
  split
  · exact .inl rfl
  · next name port hcut =>
      split
      · exact .inr ⟨name, port, rfl, (Go.lastCut_eq_some hcut).1⟩
      · exact .inl rfl

theorem digits?_toString (n : Nat) : Go.digits? (toString n).toList = some n := by
  rw [show (toString n).toList = Nat.toDigits 10 n from Nat.toList_repr]
  exact Go.digits?_toDigits n

section

variable {u : URL} {name port : String}

theorem hostPort_eq_iff_of_no_port (hsplit : splitHostPort u.host = (u.host, none)) :
    u.host = (webOrigin u).hostPort ↔ CanonicalHost u := by
  have hport : (webOrigin u).hostPort = Go.toLower u.host := by
    simp only [WebOrigin.hostPort, webOrigin, hsplit]
  rw [hport]
  constructor
  · intro h
    refine ⟨by rw [hsplit]; exact h.symm, ?_⟩
    intro p hp
    rw [hsplit] at hp
    cases hp
  · intro h
    have hlower := h.lower
    rw [hsplit] at hlower
    exact hlower.symm

/-- The browser leaves the port out, and the lengths tell. -/
theorem hostPort_eq_iff_of_port_omitted (hsplit : splitHostPort u.host = (name, some port))
    (hhost : u.host.toList = name.toList ++ ':' :: port.toList)
    (hdigits : (Go.digits? port.toList).filter (· ≠ defaultPort u.scheme) = none) :
    u.host = (webOrigin u).hostPort ↔ CanonicalHost u := by
  have hport : (webOrigin u).hostPort = Go.toLower name := by
    simp only [WebOrigin.hostPort, webOrigin, hsplit, hdigits]
  rw [hport]
  refine iff_of_false ?_ ?_
  · intro h
    have hcount := congrArg List.length hhost
    rw [h, List.length_append, List.length_cons, String.length_toList, String.length_toList,
      Go.length_toLower] at hcount
    omega
  · intro h
    obtain ⟨n, hn, hdefault⟩ := h.port port (by rw [hsplit])
    rw [hn, digits?_toString] at hdigits
    simp [hdefault] at hdigits

theorem hostPort_eq_iff_of_port {n : Nat} (hsplit : splitHostPort u.host = (name, some port))
    (hhost : u.host.toList = name.toList ++ ':' :: port.toList)
    (hdigits : (Go.digits? port.toList).filter (· ≠ defaultPort u.scheme) = some n) :
    u.host = (webOrigin u).hostPort ↔ CanonicalHost u := by
  obtain ⟨hvalue, hdefault⟩ := Option.filter_eq_some_iff.mp hdigits
  have hlen : name.toList.length = (Go.toLower name).toList.length := by
    rw [String.length_toList, String.length_toList, Go.length_toLower]
  have hport : (webOrigin u).hostPort = Go.toLower name ++ ":" ++ toString n := by
    simp only [WebOrigin.hostPort, webOrigin, hsplit, hdigits]
  rw [hport, ← String.toList_inj, hhost, String.toList_append, String.toList_append,
    List.append_assoc]
  constructor
  · intro h
    obtain ⟨hname, hrest⟩ := List.append_inj h hlen
    have htext : port = toString n := by
      rw [← String.toList_inj]
      exact (List.cons.inj hrest).2
    refine ⟨by rw [hsplit]; exact (String.toList_inj.mp hname).symm, ?_⟩
    intro p hp
    rw [hsplit] at hp
    cases hp
    exact ⟨n, htext, of_decide_eq_true hdefault⟩
  · intro h
    have hlower := h.lower
    obtain ⟨m, hm, -⟩ := h.port port (by rw [hsplit])
    rw [hsplit] at hlower
    rw [hm, digits?_toString] at hvalue
    cases hvalue
    rw [show Go.toLower name = name from hlower, hm]
    rfl

/-- The host of a URL is spelled as its origin is exactly when it is
canonical. -/
theorem hostPort_eq_iff : u.host = (webOrigin u).hostPort ↔ CanonicalHost u := by
  rcases splitHostPort_cases u.host with hnone | ⟨name, port, hsome, hhost⟩
  · exact hostPort_eq_iff_of_no_port hnone
  · cases hdigits : (Go.digits? port.toList).filter (· ≠ defaultPort u.scheme) with
    | none => exact hostPort_eq_iff_of_port_omitted hsome hhost hdigits
    | some n => exact hostPort_eq_iff_of_port hsome hhost hdigits

end

/-! ## What normalisation accepts and returns -/

/-- `url.Parse`, as far as the argument depends on it. The host ends before a
slash. Parsing what normalisation wrote gives the same URL again, without a
path, if the host has no percent sign; if it has one, it is decoded. -/
structure UrlLaws (P : Platform) : Prop where
  no_slash : ∀ o u, P.urlParse o = .ok u → '/' ∉ u.host.toList
  reparse : ∀ o u, P.urlParse o = .ok u → u.scheme = "https" ∨ u.scheme = "http" →
    u.host ≠ "" → '%' ∉ u.host.toList →
    P.urlParse (u.scheme ++ "://" ++ u.host) =
      .ok { u with path := "", rawQuery := "", fragment := "" }
  decodes : ∀ o u v, P.urlParse o = .ok u → '%' ∈ u.host.toList →
    P.urlParse (u.scheme ++ "://" ++ u.host) = .ok v → v.host ≠ u.host

/-- The tests of `normalizeOrigin`. -/
structure OriginURL (allow : Bool) (u : URL) : Prop where
  scheme : u.scheme = "https" ∨
    (allow = true ∧ u.scheme = "http" ∧ isLoopbackHost u.hostname = true)
  host : u.host ≠ ""
  path : u.path = "" ∨ u.path = "/"
  query : u.rawQuery = ""
  fragment : u.fragment = ""

theorem OriginURL.https_or_http {allow : Bool} {u : URL} (h : OriginURL allow u) :
    u.scheme = "https" ∨ u.scheme = "http" :=
  h.scheme.imp_right (·.2.1)

theorem wrongScheme_iff {allow : Bool} {u : URL} :
    (u.scheme ≠ "https" && (!allow || u.scheme ≠ "http" || !isLoopbackHost u.hostname)) = true ↔
      ¬ (u.scheme = "https" ∨
        (allow = true ∧ u.scheme = "http" ∧ isLoopbackHost u.hostname = true)) := by
  cases allow <;> cases isLoopbackHost u.hostname <;> simp

theorem notBare_iff {u : URL} :
    ((u.path ≠ "" && u.path ≠ "/") || u.rawQuery ≠ "" || u.fragment ≠ "") = true ↔
      ¬ ((u.path = "" ∨ u.path = "/") ∧ u.rawQuery = "" ∧ u.fragment = "") := by
  simp only [Bool.or_eq_true, Bool.and_eq_true, decide_eq_true_eq]
  tauto

theorem normalizeOrigin_ok_iff {P : Platform} {o n : String} {allow : Bool} :
    normalizeOrigin P o allow = .ok n ↔ ∃ u, P.urlParse o = .ok u ∧ OriginURL allow u ∧
      n = Go.trimSuffix (u.scheme ++ "://" ++ u.host) "/" := by
  rw [normalizeOrigin]
  cases P.urlParse o with
  | error err => simp
  | ok u =>
      simp only [Except.ok.injEq, exists_eq_left', wrongScheme_iff, notBare_iff]
      split
      · next hscheme =>
          refine iff_of_false (by simp) ?_
          intro h
          exact hscheme h.1.scheme
      · next hscheme =>
          split
          · next hhost =>
              refine iff_of_false (by simp) ?_
              intro h
              exact h.1.host hhost
          · next hhost =>
              split
              · next hbare =>
                  refine iff_of_false (by simp) ?_
                  intro h
                  exact hbare ⟨h.1.path, h.1.query, h.1.fragment⟩
              · next hbare =>
                  obtain ⟨hpath, hquery, hfragment⟩ := not_not.mp hbare
                  rw [Except.ok.injEq, eq_comm]
                  exact (and_iff_right
                    ⟨not_not.mp hscheme, hhost, hpath, hquery, hfragment⟩).symm

section

variable {P : Platform} {o n : String} {allow : Bool} {u : URL}

/-- Nothing is left to trim behind a host. -/
theorem trimSuffix_host {scheme host : String} (hslash : '/' ∉ host.toList) (hne : host ≠ "") :
    Go.trimSuffix (scheme ++ "://" ++ host) "/" = scheme ++ "://" ++ host := by
  refine Go.trimSuffix_of_ne (show "/".toList = ['/'] from rfl) ?_
  have hlist : host.toList ≠ [] := fun h => hne (String.toList_eq_nil_iff.mp h)
  rw [String.toList_append, List.getLast?_append_of_ne_nil _ hlist]
  intro hlast
  exact hslash (List.mem_of_getLast? hlast)

theorem normalizeOrigin_eq (laws : UrlLaws P) (hu : P.urlParse o = .ok u)
    (h : normalizeOrigin P o allow = .ok n) :
    OriginURL allow u ∧ n = u.scheme ++ "://" ++ u.host := by
  obtain ⟨u', hu', hurl, hn⟩ := normalizeOrigin_ok_iff.mp h
  rw [hu] at hu'
  cases hu'
  rw [trimSuffix_host (laws.no_slash o u hu) hurl.host] at hn
  exact ⟨hurl, hn⟩

/-- The normalised text is the browser's exactly when the host was. -/
theorem normalizeOrigin_serialise_iff (laws : UrlLaws P) (hu : P.urlParse o = .ok u)
    (h : normalizeOrigin P o allow = .ok n) :
    n = (webOrigin u).serialise ↔ CanonicalHost u := by
  obtain ⟨-, rfl⟩ := normalizeOrigin_eq laws hu h
  rw [← hostPort_eq_iff]
  exact String.append_right_inj _

/-- The two accepted schemes do not run into each other's hosts. -/
theorem schemeHost_inj {s s' a b : String} (hs : s = "https" ∨ s = "http")
    (hs' : s' = "https" ∨ s' = "http") (h : s ++ "://" ++ a = s' ++ "://" ++ b) : a = b := by
  rw [← String.toList_inj] at h ⊢
  simp only [String.toList_append] at h
  rcases hs with rfl | rfl <;> rcases hs' with rfl | rfl <;> simp at h
  · exact h
  · exact h

theorem normalizeOrigin_idempotent_iff (laws : UrlLaws P) (hu : P.urlParse o = .ok u)
    (h : normalizeOrigin P o allow = .ok n) :
    normalizeOrigin P n allow = .ok n ↔ '%' ∉ u.host.toList := by
  obtain ⟨hurl, rfl⟩ := normalizeOrigin_eq laws hu h
  constructor
  · intro hagain hpercent
    obtain ⟨v, hv, -⟩ := normalizeOrigin_ok_iff.mp hagain
    obtain ⟨hvurl, hsame⟩ := normalizeOrigin_eq laws hv hagain
    exact laws.decodes o u v hu hpercent hv
      (schemeHost_inj hvurl.https_or_http hurl.https_or_http hsame.symm)
  · intro hpercent
    refine normalizeOrigin_ok_iff.mpr
      ⟨_, laws.reparse o u hu hurl.https_or_http hurl.host hpercent, ?_, ?_⟩
    · exact ⟨hurl.scheme, hurl.host, .inl rfl, rfl, rfl⟩
    · exact (trimSuffix_host (laws.no_slash o u hu) hurl.host).symm

end

/-- Of two accepted texts that denote one origin: both normalise to the
browser's serialisation of it, and normalising again changes nothing, exactly
when both hosts are spelled in lower case with no port or one a browser
writes, and hold no percent sign. -/
theorem origins_canonical_iff {P : Platform} (laws : UrlLaws P) {allow : Bool}
    {o o' n n' : String} {u u' : URL} (hu : P.urlParse o = .ok u) (hu' : P.urlParse o' = .ok u')
    (hn : normalizeOrigin P o allow = .ok n) (hn' : normalizeOrigin P o' allow = .ok n')
    (hsame : webOrigin u = webOrigin u') :
    (n = (webOrigin u).serialise ∧ n' = (webOrigin u).serialise ∧
        normalizeOrigin P n allow = .ok n ∧ normalizeOrigin P n' allow = .ok n') ↔
      CanonicalHost u ∧ CanonicalHost u' ∧ '%' ∉ u.host.toList ∧
        '%' ∉ u'.host.toList := by
  have hserial := normalizeOrigin_serialise_iff laws hu hn
  have hserial' := normalizeOrigin_serialise_iff laws hu' hn'
  rw [← hsame] at hserial'
  rw [hserial, hserial', normalizeOrigin_idempotent_iff laws hu hn,
    normalizeOrigin_idempotent_iff laws hu' hn']

/-! A parser for `https` URLs without user info, query, fragment or percent
signs. -/

def httpsURL (host path : String) : URL :=
  ⟨"https", host, path, "", ""⟩

def parseHttps (text : String) : Except GoError URL :=
  if Go.hasPrefix text "https://" then
    let rest := text.toList.drop 8
    let host := rest.takeWhile (· ≠ '/')
    if '%' ∈ host then .error (.text "invalid URL escape")
    else .ok (httpsURL (String.ofList host) (String.ofList (rest.dropWhile (· ≠ '/'))))
  else .error (.text "unsupported URL")

def originPlatform : Platform :=
  { Platform.refusing with urlParse := parseHttps }

theorem parseHttps_ok {text : String} {u : URL} (h : parseHttps text = .ok u) :
    ∃ host path, u = httpsURL host path ∧ '/' ∉ host.toList ∧ '%' ∉ host.toList := by
  rw [parseHttps] at h
  split at h
  · simp only [] at h
    split at h
    · cases h
    · next hpercent =>
        refine ⟨_, _, (Except.ok.inj h).symm, ?_, ?_⟩ <;> rw [String.toList_ofList]
        · intro hslash
          have hne := List.mem_takeWhile_imp hslash
          simp at hne
        · exact hpercent
  · cases h

theorem parseHttps_host {host : String} (hslash : '/' ∉ host.toList)
    (hpercent : '%' ∉ host.toList) :
    parseHttps ("https" ++ "://" ++ host) = .ok (httpsURL host "") := by
  have hlist : ("https" ++ "://" ++ host).toList = "https://".toList ++ host.toList := by
    rw [String.toList_append]
    rfl
  have hstart : Go.hasPrefix ("https" ++ "://" ++ host) "https://" = true := by
    rw [Go.hasPrefix, hlist, List.isPrefixOf_iff_prefix]
    exact List.prefix_append _ _
  have hrest : ("https" ++ "://" ++ host).toList.drop 8 = host.toList := by
    rw [hlist]
    rfl
  have hkeep : ∀ c ∈ host.toList, decide (c ≠ '/') = true := by
    intro c hc
    exact decide_eq_true (fun h => hslash (h ▸ hc))
  have hpath : host.toList.dropWhile (· ≠ '/') = [] := List.dropWhile_eq_nil_iff.mpr hkeep
  rw [parseHttps, if_pos hstart]
  simp only [hrest, List.takeWhile_eq_self_iff.mpr hkeep, hpath]
  rw [if_neg hpercent, String.ofList_toList]

theorem originPlatform_laws : UrlLaws originPlatform where
  no_slash := by
    intro o u hu
    obtain ⟨host, path, rfl, hslash, -⟩ := parseHttps_ok hu
    exact hslash
  reparse := by
    intro o u hu _ _ _
    obtain ⟨host, path, rfl, hslash, hpercent⟩ := parseHttps_ok hu
    exact parseHttps_host hslash hpercent
  decodes := by
    intro o u v hu hmem
    obtain ⟨host, path, rfl, -, hpercent⟩ := parseHttps_ok hu
    exact absurd hmem hpercent

/-- A trailing slash is gone after normalisation. -/
theorem origins_canonical_slash :
    normalizeOrigin originPlatform "https://a.lv" false = .ok "https://a.lv" ∧
      normalizeOrigin originPlatform "https://a.lv/" false =
        .ok (webOrigin (httpsURL "a.lv" "")).serialise := by
  have hu : originPlatform.urlParse "https://a.lv" = .ok (httpsURL "a.lv" "") := by
    decide +kernel
  have hu' : originPlatform.urlParse "https://a.lv/" = .ok (httpsURL "a.lv" "/") := by
    decide +kernel
  have hn : normalizeOrigin originPlatform "https://a.lv" false = .ok "https://a.lv" := by
    decide +kernel
  have hn' : normalizeOrigin originPlatform "https://a.lv/" false = .ok "https://a.lv" := by
    decide +kernel
  have hlower : Go.toLower (splitHostPort "a.lv").1 = (splitHostPort "a.lv").1 := by
    decide +kernel
  have hport : (splitHostPort "a.lv").2 = none := by decide +kernel
  have hcanonical : ∀ path, CanonicalHost (httpsURL "a.lv" path) := by
    intro path
    refine ⟨hlower, ?_⟩
    intro p hp
    cases hport.symm.trans hp
  have hpercent : '%' ∉ "a.lv".toList := by decide
  obtain ⟨-, hserial, -, -⟩ := (origins_canonical_iff originPlatform_laws hu hu' hn hn' rfl).mpr
    ⟨hcanonical "", hcanonical "/", hpercent, hpercent⟩
  rw [← hserial]
  exact ⟨hn, hn'⟩

/-- Upper case and the default port are not: three texts of one origin, each
with a result of its own. -/
theorem origins_spelled_apart :
    normalizeOrigin originPlatform "https://a.lv" false = .ok "https://a.lv" ∧
      normalizeOrigin originPlatform "https://A.lv" false = .ok "https://A.lv" ∧
      normalizeOrigin originPlatform "https://a.lv:443" false = .ok "https://a.lv:443" ∧
      webOrigin (httpsURL "A.lv" "") =
        webOrigin (httpsURL "a.lv" "") ∧
      webOrigin (httpsURL "a.lv:443" "") =
        webOrigin (httpsURL "a.lv" "") := by
  have hlower : Go.toLower "A.lv" = Go.toLower "a.lv" := by
    rw [Go.toLower, Go.toLower, Go.map_eq_map_iff]
    decide +kernel
  have hupper : splitHostPort "A.lv" = ("A.lv", none) := by decide +kernel
  have hplain : splitHostPort "a.lv" = ("a.lv", none) := by decide +kernel
  refine ⟨by decide +kernel, by decide +kernel, by decide +kernel, ?_, by decide +kernel⟩
  simp only [webOrigin, httpsURL, hupper, hplain, hlower]

end WebEid
