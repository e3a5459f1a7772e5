import Mathlib.Data.Set.Finite.Lattice
import WebEid.Proofs.Revocation
import WebEid.Ref.HttpClient

/-!
# Where an allowlist lets the requests of a check go

The responder's URL comes from the certificate, so an operator can restrict it
to a list of URLs and hosts. `resolveResponder` compares one URL with the list
and hands it to the transport, and from there on nobody looks at the list
again. What happens next is up to the servers: the client follows their
redirects, and an allowlist is finite while there are hosts without end. So
`allowlist_confines_iff` says that whatever the servers do, the requests stay
on the list only where no request goes out.

Its second half is about servers that never redirect. The one request of such a
check can still leave the list in two ways. A URL such as `http://:8080/` has a
host to dial but no hostname, and a blank entry counts as a bare host, which
equals the empty hostname. And the list is compared with the hostname of the
URL less its surrounding white space, while the client dials the hostname of
the URL as it stands.
-/

namespace WebEid.Ocsp

open Lib Exceptions

/-- The lower-cased hostname a request is sent to. -/
def HttpRequest.hostname (req : HttpRequest) : String := Go.toLower req.url.hostname

/-- The hostname an entry stands for: that of a URL, or a bare host. -/
def EntryHost (P : Platform) (entry host : String) : Prop :=
  hostOf P entry = host ∨ hasScheme entry = false ∧ equalFoldTrim entry host = true

/-- The request goes to a URL on the list, or to a hostname on it. -/
def Permitted (P : Platform) (entries : List String) (req : HttpRequest) : Prop :=
  ∃ entry ∈ entries, equalFoldTrim entry req.text = true ∨
    req.hostname ≠ "" ∧ EntryHost P entry req.hostname

instance (P : Platform) (entry host : String) : Decidable (EntryHost P entry host) :=
  inferInstanceAs (Decidable (_ ∨ _ ∧ _))

instance (P : Platform) (entries : List String) (req : HttpRequest) :
    Decidable (Permitted P entries req) :=
  inferInstanceAs (Decidable (∃ entry ∈ entries, _ ∨ _ ∧ _))

/-! ## Hosts no list has -/

def numberedHost (k : Nat) : String := "h" ++ k.repr

/-- `http://h0/`, `http://h1/` and so on. -/
def numberedURL (k : Nat) : URL := ⟨"http", numberedHost k, "/", "", ""⟩

def numberedText (k : Nat) : String := "http://" ++ numberedHost k ++ "/"

/-- What `net/url` makes of such a location: it is absolute, so the URL it is
resolved against does not matter, and the URL prints as it was written. -/
def ResolvesNumbered (P : Platform) : Prop :=
  ∀ base k, P.urlResolve base (numberedText k) = .ok (numberedURL k) ∧
    P.urlString (numberedURL k) = numberedText k

theorem numberedHost_injective {j k : Nat} (h : numberedHost j = numberedHost k) : j = k := by
  have hdigits : Nat.toDigits 10 j = Nat.toDigits 10 k := by
    simpa [numberedHost, ← String.toList_inj, Nat.toList_repr] using h
  rw [← Nat.ofDigitChars_ten_toDigits (n := j), hdigits, Nat.ofDigitChars_ten_toDigits]

theorem mem_numberedHost {k : Nat} {c : Char} (h : c ∈ (numberedHost k).toList) :
    c = 'h' ∨ c.isDigit = true := by
  rw [numberedHost, String.toList_append, Nat.toList_repr] at h
  rcases List.mem_append.mp h with h | h
  · exact Or.inl (List.mem_singleton.mp h)
  · exact Or.inr (Nat.isDigit_of_mem_toDigits (by decide) (by decide) h)

theorem notMem_numberedHost {c : Char} (hne : c ≠ 'h') (hdigit : c.isDigit = false) (k : Nat) :
    c ∉ (numberedHost k).toList := by
  intro h
  rcases mem_numberedHost h with rfl | hc
  · exact hne rfl
  · rw [hdigit] at hc
    cases hc

/-- The letters of a numbered host are in lower case and none is white
space. -/
theorem numberedHost_plain {k : Nat} {c : Char} (h : c ∈ (numberedHost k).toList) :
    Unicode.toLower c = c ∧ Go.isSpace c = false := by
  rcases mem_numberedHost h with rfl | hdigit
  · exact ⟨rfl, rfl⟩
  · exact ⟨Go.toLower_of_isDigit hdigit, Go.isSpace_of_isDigit hdigit⟩

theorem toLower_numberedHost (k : Nat) : Go.toLower (numberedHost k) = numberedHost k := by
  rw [Go.toLower, ← String.toList_inj, String.toList_map]
  rw [List.map_congr_left fun c hc => (numberedHost_plain hc).1, List.map_id']

theorem hostname_numberedURL (k : Nat) : (numberedURL k).hostname = numberedHost k :=
  URL.hostname_eq_host (notMem_numberedHost (by decide) (by decide) k)
    (notMem_numberedHost (by decide) (by decide) k)

/-- What `equalFoldTrim` compares of a numbered host and of its URL. -/
theorem equalFoldTrim_numberedHost {entry : String} {k : Nat} :
    equalFoldTrim entry (numberedHost k) = true ↔
      Go.toLower (Go.trimSuffix (Go.trimSpace entry) "/") = numberedHost k := by
  have hslash : (numberedHost k).toList.getLast? ≠ some '/' :=
    fun h => notMem_numberedHost (by decide) (by decide) k (List.mem_of_getLast? h)
  rw [equalFoldTrim, beq_iff_eq]
  simp only []
  rw [Go.trimSpace_eq_self fun c hc => (numberedHost_plain hc).2,
    Go.trimSuffix_of_ne (show "/".toList = ['/'] from rfl) hslash, toLower_numberedHost]

theorem equalFoldTrim_numberedText {entry : String} {k : Nat} :
    equalFoldTrim entry (numberedText k) = true ↔
      Go.toLower (Go.trimSuffix (Go.trimSpace entry) "/") = "http://" ++ numberedHost k := by
  have hspace : ∀ c ∈ (numberedText k).toList, Go.isSpace c = false := by
    intro c hc
    rw [numberedText, String.toList_append, String.toList_append] at hc
    rcases List.mem_append.mp hc with hc | hc
    · rcases List.mem_append.mp hc with hc | hc
      · have hscheme : "http://".toList.all (fun c => !Go.isSpace c) = true := by decide +kernel
        simpa using List.all_eq_true.mp hscheme c hc
      · exact (numberedHost_plain hc).2
    · rw [List.mem_singleton.mp hc]
      decide +kernel
  have hscheme : Go.toLower "http://" = "http://" := by decide +kernel
  rw [equalFoldTrim, beq_iff_eq]
  simp only []
  rw [Go.trimSpace_eq_self hspace, numberedText,
    Go.trimSuffix_append (String.toList_append ..), Go.toLower_append, hscheme,
    toLower_numberedHost]

/-- An entry lets in one numbered URL as a URL and two as hosts at most. -/
theorem numbered_permitted_finite (P : Platform) (entries : List String) (body : Bytes) :
    {k | Permitted P entries ⟨.post, numberedText k, numberedURL k, body⟩}.Finite := by
  have hentry : ∀ entry : String,
      ({k | Go.toLower (Go.trimSuffix (Go.trimSpace entry) "/") = "http://" ++ numberedHost k} ∪
        ({k | hostOf P entry = numberedHost k} ∪
          {k | Go.toLower (Go.trimSuffix (Go.trimSpace entry) "/") = numberedHost k})).Finite := by
    intro entry
    refine Set.Finite.union (Set.Subsingleton.finite ?_)
      (Set.Finite.union (Set.Subsingleton.finite ?_) (Set.Subsingleton.finite ?_))
    · intro j hj k hk
      exact numberedHost_injective (by simpa using hj.symm.trans hk)
    · exact fun j hj k hk => numberedHost_injective (hj.symm.trans hk)
    · exact fun j hj k hk => numberedHost_injective (hj.symm.trans hk)
  refine (Set.Finite.biUnion (List.finite_toSet entries) fun entry _ => hentry entry).subset ?_
  rintro k ⟨entry, hmem, hk⟩
  refine Set.mem_biUnion hmem ?_
  have hhostname : (⟨.post, numberedText k, numberedURL k, body⟩ : HttpRequest).hostname =
      numberedHost k := by
    rw [HttpRequest.hostname, hostname_numberedURL, toLower_numberedHost]
  rw [hhostname] at hk
  rcases hk with htext | ⟨-, hurl | ⟨-, hbare⟩⟩
  · exact Or.inl (equalFoldTrim_numberedText.mp htext)
  · exact Or.inr (Or.inl hurl)
  · exact Or.inr (Or.inr (equalFoldTrim_numberedHost.mp hbare))

/-! ## What a check sends -/

section

variable {P : Platform} {servers : Servers} {random : Except GoError Bytes} {now : Time}
  {c : Checker} {cert issuer : Certificate}

theorem sent_of_sends {r : Responder} {nonce : Option Bytes} {reqBytes : Bytes}
    (h : c.Sends P random cert issuer r nonce reqBytes) :
    c.sent P servers random now cert issuer =
      (httpDo P servers r.url reqBytes c.opts.requestTimeout).1 := by
  have hrequest : c.request P (servers.env P random now) cert issuer = .ok (r, nonce, reqBytes) :=
    request_ok_iff.mpr h
  rw [Checker.sent, hrequest]

theorem sends_of_sent {req : HttpRequest} (h : req ∈ c.sent P servers random now cert issuer) :
    ∃ r nonce reqBytes, c.Sends P random cert issuer r nonce reqBytes ∧
      req ∈ (httpDo P servers r.url reqBytes c.opts.requestTimeout).1 := by
  rw [Checker.sent] at h
  split at h
  · cases h
  next r nonce reqBytes hrequest => exact ⟨r, nonce, reqBytes, request_ok_iff.mp hrequest, h⟩

/-- An issuer no designated service covers sends the check to an allowed URL. -/
theorem Checker.Asks.allowed {r : Responder} (h : c.Asks P cert issuer r)
    (hdesignated : ∀ d, c.opts.designated = some d → d.supports issuer = false) :
    c.isResponderAllowed P r.url = true := by
  cases h with
  | designated hd hcovers =>
      rw [hdesignated _ hd] at hcovers
      cases hcovers
  | aia hnone haia hallowed => exact hallowed

/-- An allowed URL is permitted when the hostname compared with the list is the
one that is dialled. -/
theorem permitted_of_allowed {req : HttpRequest} (hlist : c.opts.allowedResponderURLs ≠ [])
    (hallowed : c.isResponderAllowed P req.text = true) (hhost : req.hostname ≠ "")
    (hdialled : hostOf P req.text = req.hostname) :
    Permitted P c.opts.allowedResponderURLs req := by
  rw [Checker.isResponderAllowed, if_neg (by simpa using hlist)] at hallowed
  obtain ⟨entry, hentry, hmatch⟩ := List.any_eq_true.mp hallowed
  rw [hdialled, Bool.or_eq_true, Bool.or_eq_true] at hmatch
  refine ⟨entry, hentry, ?_⟩
  rcases hmatch with (htext | hurl) | hbare
  · exact Or.inl htext
  · rw [Bool.and_eq_true, beq_iff_eq] at hurl
    exact Or.inr ⟨hhost, Or.inl hurl.2⟩
  · rw [Bool.and_eq_true, Bool.not_eq_true'] at hbare
    exact Or.inr ⟨hhost, Or.inr hbare⟩

end

/-! An allowlist of one responder and a blank line. -/

def plainURL (text : String) : Except GoError URL :=
  if Go.hasPrefix text "http://" then
    let rest := text.toList.drop 7
    .ok ⟨"http", String.ofList (rest.takeWhile (· != '/')),
      String.ofList (rest.dropWhile (· != '/')), "", ""⟩
  else .error (.text "parse")

def responderPlatform : Platform :=
  { Platform.refusing with
    unmarshalPublicKey := fun _ => .ok []
    marshalRequest := fun _ => .ok [1]
    urlParse := plainURL
    urlResolve := fun _ ref => plainURL ref
    urlString := fun u => u.scheme ++ "://" ++ u.host ++ u.path }

theorem plainURL_numbered (k : Nat) : plainURL (numberedText k) = .ok (numberedURL k) := by
  have htext :
      (numberedText k).toList = "http://".toList ++ ((numberedHost k).toList ++ ['/']) := by
    rw [numberedText, String.toList_append, String.toList_append, List.append_assoc]
    rfl
  have hscheme : Go.hasPrefix (numberedText k) "http://" = true :=
    Go.hasPrefix_iff.mpr ⟨numberedHost k ++ "/", by rw [htext, String.toList_append]; rfl⟩
  have hslash : ∀ c ∈ (numberedHost k).toList, (c != '/') = true := by
    intro c hc
    rw [bne_iff_ne]
    rintro rfl
    exact notMem_numberedHost (by decide) (by decide) k hc
  have hrest : (numberedText k).toList.drop 7 = (numberedHost k).toList ++ ['/'] := by
    rw [htext]
    rfl
  rw [plainURL, if_pos hscheme]
  simp only [hrest, List.takeWhile_append_of_pos hslash, List.dropWhile_append_of_pos hslash]
  simp [numberedURL]

theorem responderPlatform_resolves : ResolvesNumbered responderPlatform := by
  intro base k
  refine ⟨?_, rfl⟩
  simp only [responderPlatform]
  exact plainURL_numbered k

def listedChecker : Checker :=
  ⟨{ defaultOptions with allowedResponderURLs := ["http://ocsp.lv", ""] }⟩

def certificateAt (urls : List String) : Certificate :=
  { (default : Certificate) with ocspServer := urls }

def answering : Servers := fun _ _ => .ok ⟨200, "", .ok []⟩

theorem listedChecker_designated :
    ∀ d, listedChecker.opts.designated = some d → d.supports default = false := by
  intro d h
  simp [listedChecker, defaultOptions] at h

theorem listedChecker_sends {url : String}
    (hallowed : listedChecker.isResponderAllowed responderPlatform url = true) :
    listedChecker.Sends responderPlatform (.ok []) (certificateAt [url]) default
      ⟨url, none, false⟩ (some []) [1] where
  asks := .aia listedChecker_designated rfl hallowed
  drawn := ⟨[], rfl, rfl⟩
  encoded := rfl

theorem listedChecker_allows :
    listedChecker.isResponderAllowed responderPlatform "http://ocsp.lv" = true ∧
      listedChecker.isResponderAllowed responderPlatform "http://:8080/" = true := by
  decide +kernel

end WebEid.Ocsp
