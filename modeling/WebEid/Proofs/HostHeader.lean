import WebEid.Proofs.Origins
import WebEid.Ref.Session

/-!
# The Host header against the configured origins

The middleware takes the port and the brackets off the Host header by hand:
it cuts at the last colon unless that lies inside brackets, then drops one
bracket at each end. The other side of the comparison is `u.Hostname()` of an
origin, and a bracket is dropped at each end of that as well. On a header that
is well formed the first is the host, for names, IPv4 addresses and IPv6
literals, with a port, an empty port or none. The second is the hostname unless
that has a bracket of its own, and `url.Parse` lets one through: the origin
`https://a]` has the hostname `a]` and is matched by the host `a`.

A browser sends the host of its origin in lower case, with the port unless it
is the scheme's own. What it does to the name before that (punycode, the short
forms of addresses) is outside: the origin is taken as it was configured.
-/

namespace WebEid.Azugo

open Lib Exceptions

/-! ## Host headers -/

/-- The host of a header: a registered name or IPv4 address, or the inside of
a bracketed literal. -/
inductive HeaderHost where
  | name (s : String)
  | literal (s : String)

namespace HeaderHost

/-- The host part, without brackets. -/
def part : HeaderHost → String
  | name s => s
  | literal s => s

def text : HeaderHost → String
  | name s => s
  | literal s => "[" ++ s ++ "]"

def lower : HeaderHost → HeaderHost
  | name s => name (Go.toLower s)
  | literal s => literal (Go.toLower s)

/-- Only a literal holds colons. -/
def Plain : HeaderHost → Prop
  | name s => ':' ∉ s.toList
  | literal _ => True

/-- Not empty, without white space and brackets of its own. -/
structure WellFormed (h : HeaderHost) : Prop where
  plain : h.Plain
  part_ne : h.part ≠ ""
  part_open : '[' ∉ h.part.toList
  part_close : ']' ∉ h.part.toList
  part_space : ∀ c ∈ h.part.toList, Go.isSpace c = false

end HeaderHost

/-- Nothing, or a colon and digits. -/
def IsPort (port : String) : Prop :=
  port = "" ∨ ∃ ds, port = ":" ++ ds ∧ ∀ c ∈ ds.toList, c.isDigit = true

/-- The header value `text` has the host `h`: there may be a port after it, and
white space on either side. -/
structure HostHeader (text : String) (h : HeaderHost) : Prop where
  host : h.WellFormed
  layout : ∃ before port after, text.toList = before ++ ((h.text ++ port).toList ++ after) ∧
    (∀ c ∈ before, Go.isSpace c = true) ∧ (∀ c ∈ after, Go.isSpace c = true) ∧ IsPort port

/-! ## Lower case

Lower-casing neither makes nor loses a colon or a bracket. -/

theorem toLower_delimiter_iff {c : Char} (hc : c ∈ [':', '[', ']']) (r : Char) :
    Unicode.toLower r = c ↔ r = c := by
  refine Unicode.toLower_eq_iff_of_caseless ?_ r
  simp only [List.mem_cons, List.not_mem_nil, or_false] at hc
  rcases hc with rfl | rfl | rfl <;> decide

theorem map_toLower_eq_some_iff {c : Char} (hc : c ∈ [':', '[', ']']) {o : Option Char} :
    o.map Unicode.toLower = some c ↔ o = some c := by
  cases o with
  | none => simp
  | some r => rw [Option.map_some, Option.some_inj, Option.some_inj, toLower_delimiter_iff hc r]

theorem notMem_toLower {c : Char} (hc : c ∈ [':', '[', ']']) {s : String} (h : c ∉ s.toList) :
    c ∉ (Go.toLower s).toList := by
  rw [Go.toLower, String.toList_map, List.mem_map]
  rintro ⟨r, hr, hlower⟩
  rw [toLower_delimiter_iff hc r] at hlower
  exact h (hlower ▸ hr)

theorem toLower_singleton {c : Char} (hc : c ∈ [':', '[', ']']) {s : String}
    (hs : s.toList = [c]) : Go.toLower s = s := by
  rw [Go.toLower, ← String.toList_inj, String.toList_map, hs, List.map_singleton,
    (toLower_delimiter_iff hc c).mpr rfl]

theorem toLower_text (h : HeaderHost) : Go.toLower h.text = h.lower.text := by
  cases h with
  | name s => rfl
  | literal s =>
      show Go.toLower ("[" ++ s ++ "]") = "[" ++ Go.toLower s ++ "]"
      rw [Go.toLower_append, Go.toLower_append,
        toLower_singleton (c := '[') (by simp) (show "[".toList = ['['] from rfl),
        toLower_singleton (c := ']') (by simp) (show "]".toList = [']'] from rfl)]

theorem lower_part (h : HeaderHost) : h.lower.part = Go.toLower h.part := by
  cases h <;> rfl

theorem lower_wellFormed {h : HeaderHost} (hwell : h.WellFormed) : h.lower.WellFormed := by
  refine ⟨?_, ?_, ?_, ?_, ?_⟩
  · cases h with
    | name s => exact notMem_toLower (by simp) hwell.plain
    | literal s => trivial
  · rw [lower_part, ne_eq, Go.toLower_eq_empty_iff]
    exact hwell.part_ne
  · rw [lower_part]
    exact notMem_toLower (by simp) hwell.part_open
  · rw [lower_part]
    exact notMem_toLower (by simp) hwell.part_close
  · rw [lower_part, Go.toLower, String.toList_map]
    intro c hc
    obtain ⟨r, hr, rfl⟩ := List.mem_map.mp hc
    exact Go.isSpace_toLower (hwell.part_space r hr)

/-! ## Stripping -/

theorem trimBrackets_eq_self {s : String} (hopen : s.toList.head? ≠ some '[')
    (hclose : s.toList.getLast? ≠ some ']') : trimBrackets s = s := by
  rw [trimBrackets, Go.trimPrefix_of_ne (show "[".toList = ['['] from rfl) hopen,
    Go.trimSuffix_of_ne (show "]".toList = [']'] from rfl) hclose]

theorem trimBrackets_plain {s : String} (hopen : '[' ∉ s.toList) (hclose : ']' ∉ s.toList) :
    trimBrackets s = s :=
  trimBrackets_eq_self (fun h => hopen (List.mem_of_head? h))
    (fun h => hclose (List.mem_of_getLast? h))

theorem trimBrackets_text {h : HeaderHost} (hwell : h.WellFormed) :
    trimBrackets h.text = h.part := by
  cases h with
  | name s => exact trimBrackets_plain hwell.part_open hwell.part_close
  | literal s =>
      have hopen : Go.trimPrefix ("[" ++ s ++ "]") "[" = s ++ "]" :=
        Go.trimPrefix_append (by simp [String.toList_append])
      rw [HeaderHost.text, trimBrackets, hopen]
      exact Go.trimSuffix_append (String.toList_append ..)

/-- A text starts with a bracket or has none to drop, and so does its lower
case. -/
theorem trimPrefix_toLower (s : String) :
    Go.trimPrefix (Go.toLower s) "[" = Go.toLower (Go.trimPrefix s "[") := by
  by_cases hopen : s.toList.head? = some '['
  · obtain ⟨rest, hrest⟩ := List.head?_eq_some_iff.mp hopen
    have hs : s = "[" ++ String.ofList rest := by
      rw [← String.toList_inj, hrest, String.toList_append, String.toList_ofList]
      simp
    rw [hs, Go.toLower_append, toLower_singleton (c := '[') (by simp)
      (show "[".toList = ['['] from rfl), Go.trimPrefix_append (String.toList_append ..),
      Go.trimPrefix_append (String.toList_append ..)]
  · have hlower : (Go.toLower s).toList.head? ≠ some '[' := by
      rw [Go.toLower, String.toList_map, List.head?_map, ne_eq, map_toLower_eq_some_iff (by simp)]
      exact hopen
    rw [Go.trimPrefix_of_ne (show "[".toList = ['['] from rfl) hopen,
      Go.trimPrefix_of_ne (show "[".toList = ['['] from rfl) hlower]

theorem trimSuffix_toLower (s : String) :
    Go.trimSuffix (Go.toLower s) "]" = Go.toLower (Go.trimSuffix s "]") := by
  by_cases hclose : s.toList.getLast? = some ']'
  · obtain ⟨front, hfront⟩ := List.getLast?_eq_some_iff.mp hclose
    have hs : s = String.ofList front ++ "]" := by
      rw [← String.toList_inj, hfront, String.toList_append, String.toList_ofList]
      rfl
    rw [hs, Go.toLower_append, toLower_singleton (c := ']') (by simp)
      (show "]".toList = [']'] from rfl), Go.trimSuffix_append (String.toList_append ..),
      Go.trimSuffix_append (String.toList_append ..)]
  · have hlower : (Go.toLower s).toList.getLast? ≠ some ']' := by
      rw [Go.toLower, String.toList_map, List.getLast?_map, ne_eq,
        map_toLower_eq_some_iff (by simp)]
      exact hclose
    rw [Go.trimSuffix_of_ne (show "]".toList = [']'] from rfl) hclose,
      Go.trimSuffix_of_ne (show "]".toList = [']'] from rfl) hlower]

theorem trimBrackets_toLower (s : String) :
    trimBrackets (Go.toLower s) = Go.toLower (trimBrackets s) := by
  rw [trimBrackets, trimPrefix_toLower, trimSuffix_toLower, trimBrackets]

/-- Without a port nothing is cut: a name has no colon, and a literal ends in
a bracket. -/
theorem stripPort_text {h : HeaderHost} (hplain : h.Plain) : stripPort h.text = h.text := by
  cases h with
  | name s =>
      have hcut : Go.lastCut s ':' = none := Go.lastCut_of_notMem hplain
      show stripPort s = s
      simp only [stripPort, hcut]
  | literal s =>
      have hclose : Go.hasSuffix ("[" ++ s ++ "]") "]" = true := by
        rw [Go.hasSuffix_iff_getLast? (show "]".toList = [']'] from rfl), String.toList_append]
        exact List.getLast?_concat ..
      show stripPort ("[" ++ s ++ "]") = "[" ++ s ++ "]"
      simp only [stripPort, hclose, Bool.not_true, Bool.false_and, Bool.false_eq_true, if_false]
      split <;> rfl

theorem toList_port (t ds : String) : (t ++ (":" ++ ds)).toList = t.toList ++ ':' :: ds.toList := by
  rw [String.toList_append, String.toList_append]
  rfl

theorem notMem_digits {ds : String} (hds : ∀ c ∈ ds.toList, c.isDigit = true) :
    ∀ c ∈ [':', '[', ']'], c ∉ ds.toList := by
  intro c hc hmem
  have hd := hds c hmem
  simp only [List.mem_cons, List.not_mem_nil, or_false] at hc
  rcases hc with rfl | rfl | rfl <;> cases hd

/-- A port is cut off, whatever stands before it. -/
theorem stripPort_port (t : String) {ds : String} (hcolon : ':' ∉ ds.toList)
    (hclose : ']' ∉ ds.toList) : stripPort (t ++ (":" ++ ds)) = t := by
  have hlist := toList_port t ds
  have hcut : Go.lastCut (t ++ (":" ++ ds)) ':' = some (t, ds) := Go.lastCut_of_append hlist hcolon
  have hsuffix : Go.hasSuffix (t ++ (":" ++ ds)) "]" = false := by
    rw [Bool.eq_false_iff, ne_eq, Go.hasSuffix_iff_getLast? (show "]".toList = [']'] from rfl),
      hlist, List.getLast?_append_of_ne_nil _ (List.cons_ne_nil _ _)]
    intro hlast
    rcases List.mem_cons.mp (List.mem_of_getLast? hlast) with h | h
    · cases h
    · exact hclose h
  have hcontains : Go.contains ds "]" = false :=
    Go.contains_eq_false (show "]".toList = [']'] from rfl) hclose
  simp only [stripPort, hcut, hsuffix, hcontains]
  rfl

theorem stripPort_host {h : HeaderHost} (hplain : h.Plain) {port : String} (hport : IsPort port) :
    stripPort (h.text ++ port) = h.text := by
  rcases hport with rfl | ⟨ds, rfl, hds⟩
  · rw [String.append_empty]
    exact stripPort_text hplain
  · exact stripPort_port _ (notMem_digits hds ':' (by simp)) (notMem_digits hds ']' (by simp))

theorem isSpace_text {h : HeaderHost} (hpart : ∀ c ∈ h.part.toList, Go.isSpace c = false) :
    ∀ c ∈ h.text.toList, Go.isSpace c = false := by
  cases h with
  | name s => exact hpart
  | literal s =>
      intro c hc
      rw [HeaderHost.text, String.toList_append, String.toList_append, List.mem_append,
        List.mem_append] at hc
      rcases hc with (hc | hc) | hc
      · cases List.mem_singleton.mp hc
        rfl
      · exact hpart c hc
      · cases List.mem_singleton.mp hc
        rfl

theorem text_ne_nil {h : HeaderHost} (hpart : h.part ≠ "") : h.text.toList ≠ [] := by
  intro hnil
  cases h with
  | name s => exact hpart (String.toList_eq_nil_iff.mp hnil)
  | literal s =>
      rw [HeaderHost.text, String.toList_append] at hnil
      cases (List.append_eq_nil_iff.mp hnil).2

/-- White space ends where the host starts, and starts where the port ends. -/
theorem trimSpace_header {text : String} {h : HeaderHost} (hheader : HostHeader text h) :
    ∃ port, Go.trimSpace text = h.text ++ port ∧ IsPort port := by
  obtain ⟨before, port, after, htext, hbefore, hafter, hport⟩ := hheader.layout
  have hportSpace : ∀ c ∈ port.toList, Go.isSpace c = false := by
    intro c hc
    rcases hport with rfl | ⟨ds, rfl, hds⟩
    · cases hc
    · rw [String.toList_append, List.mem_append] at hc
      rcases hc with hc | hc
      · cases List.mem_singleton.mp hc
        rfl
      · exact Go.isSpace_of_isDigit (hds c hc)
  refine ⟨port, Go.trimSpace_padded htext hbefore hafter ?_ ?_, hport⟩
  · intro c hc
    rw [String.toList_append, List.mem_append] at hc
    rcases hc with hc | hc
    · exact isSpace_text hheader.host.part_space c hc
    · exact hportSpace c hc
  · rw [String.toList_append]
    intro hnil
    exact text_ne_nil hheader.host.part_ne (List.append_eq_nil_iff.mp hnil).1

theorem toLower_port {port : String} (hport : IsPort port) : IsPort (Go.toLower port) := by
  rcases hport with rfl | ⟨ds, rfl, hds⟩
  · exact .inl (Go.toLower_eq_empty_iff.mpr rfl)
  · have hlower : Go.toLower ds = ds := by
      rw [Go.toLower, ← String.toList_inj, String.toList_map]
      refine (List.map_congr_left ?_).trans (List.map_id _)
      exact fun c hc => Go.toLower_of_isDigit (hds c hc)
    rw [Go.toLower_append, toLower_singleton (c := ':') (by simp)
      (show ":".toList = [':'] from rfl), hlower]
    exact .inr ⟨ds, rfl, hds⟩

/-- What the comparison is left with: the host part in lower case. -/
theorem stripped_header {text : String} {h : HeaderHost} (hheader : HostHeader text h) :
    trimBrackets (stripPort (Go.toLower (Go.trimSpace text))) = Go.toLower h.part := by
  have hwell := lower_wellFormed hheader.host
  obtain ⟨port, htrim, hport⟩ := trimSpace_header hheader
  rw [htrim, Go.toLower_append, toLower_text, stripPort_host hwell.plain (toLower_port hport),
    trimBrackets_text hwell, lower_part]

theorem hostMatches_iff {text : String} {h : HeaderHost} (hheader : HostHeader text h)
    (hostname : String) :
    hostMatches text (Go.toLower hostname) = true ↔
      Go.toLower (trimBrackets hostname) = Go.toLower h.part := by
  have hne : Go.toLower (Go.trimSpace text) ≠ "" := by
    intro hempty
    have hpart := stripped_header hheader
    have hstripped : trimBrackets (stripPort "") = "" := by decide
    rw [hempty, hstripped] at hpart
    exact hheader.host.part_ne (Go.toLower_eq_empty_iff.mp hpart.symm)
  rw [hostMatches, if_neg hne, stripped_header hheader, trimBrackets_toLower, beq_iff_eq, eq_comm]

/-! ## The hostnames of the origins -/

/-- Some configured origin can be parsed and has a host, and its hostname
satisfies `p`. -/
def SomeHostname (P : Platform) (origins : List String) (p : String → Prop) : Prop :=
  ∃ origin ∈ origins, ∃ u, P.urlParse origin = .ok u ∧ u.host ≠ "" ∧ p u.hostname

theorem mem_originHostnames {P : Platform} {origins : List String} {name : String} :
    name ∈ originHostnames P origins ↔
      name ≠ "" ∧ SomeHostname P origins fun hostname => name = Go.toLower hostname := by
  rw [originHostnames, List.mem_filter, List.mem_map, decide_eq_true_iff, and_comm]
  refine and_congr_right (fun hname => exists_congr (fun origin => and_congr_right (fun _ => ?_)))
  rw [originHostname]
  cases hu : P.urlParse origin with
  | error err =>
      refine iff_of_false ?_ ?_
      · intro h
        exact hname h.symm
      · rintro ⟨u, hu', -⟩
        cases hu'
  | ok u =>
      by_cases hhost : u.host = ""
      · simp only [hhost, if_true]
        refine iff_of_false ?_ ?_
        · intro h
          exact hname h.symm
        · rintro ⟨u', hu', hne, -⟩
          cases hu'
          exact hne hhost
      · simp only [hhost, if_false]
        constructor
        · intro h
          exact ⟨u, rfl, hhost, h.symm⟩
        · rintro ⟨u', hu', -, h⟩
          cases hu'
          exact h.symm

/-- The host part of the header is the hostname of a configured origin, in any
letter case. -/
def NamesOrigin (P : Platform) (origins : List String) (h : HeaderHost) : Prop :=
  SomeHostname P origins fun hostname => Go.toLower hostname = Go.toLower h.part

/-- What the code compares: the hostname loses a bracket at either end. -/
theorem hostMatchesAny_iff {P : Platform} {text : String} {h : HeaderHost}
    (hheader : HostHeader text h) (origins : List String) :
    hostMatchesAny text (originHostnames P origins) = true ↔
      SomeHostname P origins fun hostname =>
        Go.toLower (trimBrackets hostname) = Go.toLower h.part := by
  rw [hostMatchesAny, List.any_eq_true]
  constructor
  · rintro ⟨name, hname, hmatches⟩
    obtain ⟨-, origin, horigin, u, hu, hhost, rfl⟩ := mem_originHostnames.mp hname
    exact ⟨origin, horigin, u, hu, hhost, (hostMatches_iff hheader _).mp hmatches⟩
  · rintro ⟨origin, horigin, u, hu, hhost, hsame⟩
    have hname : Go.toLower u.hostname ≠ "" := by
      intro hempty
      have htrimmed : trimBrackets "" = "" := by decide
      rw [← trimBrackets_toLower, hempty, htrimmed] at hsame
      exact hheader.host.part_ne (Go.toLower_eq_empty_iff.mp hsame.symm)
    exact ⟨_, mem_originHostnames.mpr ⟨hname, origin, horigin, u, hu, hhost, rfl⟩,
      (hostMatches_iff hheader _).mpr hsame⟩

/-- A header that names an origin always matches: its host part has no bracket
to lose. -/
theorem hostMatchesAny_of_names {P : Platform} {text : String} {h : HeaderHost}
    (hheader : HostHeader text h) {origins : List String} (hnames : NamesOrigin P origins h) :
    hostMatchesAny text (originHostnames P origins) = true := by
  obtain ⟨origin, horigin, u, hu, hhost, hsame⟩ := hnames
  refine (hostMatchesAny_iff hheader origins).mpr ⟨origin, horigin, u, hu, hhost, ?_⟩
  show Go.toLower (trimBrackets u.hostname) = Go.toLower h.part
  rw [← trimBrackets_toLower, hsame, trimBrackets_toLower,
    trimBrackets_plain hheader.host.part_open hheader.host.part_close]

/-! ## Letter case and the shape of a host -/

theorem mem_toLower_iff {c : Char} (hc : c ∈ [':', '[', ']']) {s t : String}
    (h : Go.toLower s = Go.toLower t) : c ∈ s.toList ↔ c ∈ t.toList := by
  have hmem : ∀ s : String, c ∈ s.toList ↔ c ∈ (Go.toLower s).toList := by
    intro s
    refine ⟨fun hs => ?_, fun hs => by_contra (fun hnot => notMem_toLower hc hnot hs)⟩
    rw [Go.toLower, String.toList_map, List.mem_map]
    exact ⟨c, hs, (toLower_delimiter_iff hc c).mpr rfl⟩
  rw [hmem s, hmem t, h]

/-- A text that differs from the host of a header in letter case only is the
host of another one. -/
theorem wellFormed_of_toLower {h : HeaderHost} (hwell : h.WellFormed) {s : String}
    (hs : Go.toLower s = Go.toLower h.part) :
    ∃ h' : HeaderHost, h'.WellFormed ∧ h'.part = s := by
  have hne : s ≠ "" := by
    rintro rfl
    rw [Go.toLower_eq_empty_iff.mpr rfl] at hs
    exact hwell.part_ne (Go.toLower_eq_empty_iff.mp hs.symm)
  have hopen : '[' ∉ s.toList := fun hmem =>
    hwell.part_open ((mem_toLower_iff (by simp) hs).mp hmem)
  have hclose : ']' ∉ s.toList := fun hmem =>
    hwell.part_close ((mem_toLower_iff (by simp) hs).mp hmem)
  have hspace : ∀ c ∈ s.toList, Go.isSpace c = false := by
    intro c hc
    by_contra hblank
    rw [Bool.not_eq_false] at hblank
    have hlower : Unicode.toLower c ∈ (Go.toLower h.part).toList := by
      rw [← hs, Go.toLower, String.toList_map]
      exact List.mem_map_of_mem hc
    rw [Go.toLower_of_isSpace hblank, Go.toLower, String.toList_map] at hlower
    obtain ⟨d, hd, hdc⟩ := List.mem_map.mp hlower
    have hnot := Go.isSpace_toLower (hwell.part_space d hd)
    rw [hdc, hblank] at hnot
    cases hnot
  cases h with
  | name t =>
      exact ⟨.name s, ⟨fun hmem => hwell.plain ((mem_toLower_iff (by simp) hs).mp hmem), hne,
        hopen, hclose, hspace⟩, rfl⟩
  | literal t => exact ⟨.literal s, ⟨trivial, hne, hopen, hclose, hspace⟩, rfl⟩

theorem hostHeader_text {h : HeaderHost} (hwell : h.WellFormed) {port : String}
    (hport : IsPort port) : HostHeader (h.text ++ port) h :=
  ⟨hwell, [], port, [], by simp, by simp, by simp, hport⟩

/-! ## What a browser sends -/

/-- On a host that is well formed, `splitHostPort` cuts off the port and
nothing else. -/
theorem splitHostPort_host {h : HeaderHost} (hwell : h.WellFormed) {port : String}
    (hport : IsPort port) :
    ∃ p, splitHostPort (h.text ++ port) = (h.text, p) := by
  rcases hport with rfl | ⟨ds, rfl, hds⟩
  · rw [String.append_empty, splitHostPort]
    split
    · exact ⟨none, rfl⟩
    · next name port hcut =>
        refine ⟨none, if_neg ?_⟩
        obtain ⟨hlist, -⟩ := Go.lastCut_eq_some hcut
        cases h with
        | name s =>
            refine absurd ?_ hwell.plain
            show ':' ∈ (HeaderHost.name s).text.toList
            rw [hlist]
            simp
        | literal s =>
            -- the bracket that closes the literal comes after the colon
            intro hdigits
            have hlast : (HeaderHost.literal s).text.toList.getLast? = some ']' := by
              rw [HeaderHost.text, String.toList_append]
              exact List.getLast?_concat ..
            rw [hlist, List.getLast?_append_of_ne_nil _ (List.cons_ne_nil _ _)] at hlast
            rcases List.mem_cons.mp (List.mem_of_getLast? hlast) with hcolon | hmem
            · cases hcolon
            · cases List.all_eq_true.mp hdigits _ hmem
  · have hcut : Go.lastCut (h.text ++ (":" ++ ds)) ':' = some (h.text, ds) :=
      Go.lastCut_of_append (toList_port _ _) (notMem_digits hds ':' (by simp))
    rw [splitHostPort, hcut]
    exact ⟨some ds, if_pos (List.all_eq_true.mpr hds)⟩

theorem hostname_host {u : URL} {h : HeaderHost} (hwell : h.WellFormed) {port : String}
    (hport : IsPort port) (hhost : u.host = h.text ++ port) : u.hostname = h.part := by
  obtain ⟨p, hsplit⟩ := splitHostPort_host hwell hport
  rw [URL.hostname, hhost, hsplit]
  cases h with
  | name s =>
      have hopen : Go.hasPrefix s "[" = false := by
        rw [Bool.eq_false_iff, ne_eq, Go.hasPrefix_iff]
        rintro ⟨t, ht⟩
        exact hwell.part_open (by rw [HeaderHost.part, ht]; simp)
      simp only [HeaderHost.text, hopen, Bool.false_and, Bool.false_eq_true, if_false]
      rfl
  | literal s =>
      have hopen : Go.hasPrefix ("[" ++ s ++ "]") "[" = true :=
        Go.hasPrefix_iff.mpr ⟨s ++ "]", by simp [String.toList_append]⟩
      have hclose : Go.hasSuffix ("[" ++ s ++ "]") "]" = true := by
        rw [Go.hasSuffix_iff_getLast? (show "]".toList = [']'] from rfl), String.toList_append]
        exact List.getLast?_concat ..
      have htrim := trimBrackets_text hwell
      rw [trimBrackets, HeaderHost.text] at htrim
      simp only [HeaderHost.text, hopen, hclose, Bool.and_self, if_true]
      exact htrim

/-- The header a browser sends for an origin has the origin's host, in lower
case. -/
theorem hostHeader_browser {u : URL} {h : HeaderHost} (hwell : h.WellFormed) {port : String}
    (hport : IsPort port) (hhost : u.host = h.text ++ port) :
    HostHeader (webOrigin u).hostPort h.lower := by
  obtain ⟨p, hsplit⟩ := splitHostPort_host hwell hport
  have htext : (webOrigin u).host = h.lower.text := by
    rw [← toLower_text, webOrigin, hhost, hsplit]
  rw [WebOrigin.hostPort]
  cases (webOrigin u).port with
  | none =>
      have hheader := hostHeader_text (lower_wellFormed hwell) (.inl rfl)
      rw [String.append_empty, ← htext] at hheader
      exact hheader
  | some n =>
      show HostHeader ((webOrigin u).host ++ ":" ++ toString n) h.lower
      rw [htext, String.append_assoc]
      refine hostHeader_text (lower_wellFormed hwell) (.inr ⟨toString n, rfl, ?_⟩)
      exact (Go.digits?_eq_some.mp (digits?_toString n)).2.1

/-- Host enforcement on a list of origins. On every well-formed header it agrees
with the origin parser exactly when each configured hostname, a bracket at
either end left out, is again a configured hostname, as far as it can be the
host of a header at all. A header that names an origin matches in any case, and
so does the one a browser sends for an origin with a well-formed host. -/
theorem host_header_iff (P : Platform) (origins : List String) :
    ((∀ text h, HostHeader text h →
        (hostMatchesAny text (originHostnames P origins) = true ↔ NamesOrigin P origins h)) ↔
      ∀ h : HeaderHost, h.WellFormed →
        (SomeHostname P origins fun hostname => trimBrackets hostname = h.part) →
          NamesOrigin P origins h) ∧
    (∀ text h, HostHeader text h → NamesOrigin P origins h →
      hostMatchesAny text (originHostnames P origins) = true) ∧
    ∀ origin ∈ origins, ∀ (u : URL) (h : HeaderHost) (port : String), P.urlParse origin = .ok u →
      h.WellFormed → IsPort port → u.host = h.text ++ port →
        hostMatchesAny (webOrigin u).hostPort (originHostnames P origins) = true := by
  refine ⟨⟨fun hagrees h hwell hsome => ?_, fun hcond text h hheader => ?_⟩, ?_, ?_⟩
  · obtain ⟨origin, horigin, u, hu, hhost, htrim⟩ := hsome
    have hheader := hostHeader_text hwell (.inl rfl)
    refine (hagrees _ h hheader).mp ((hostMatchesAny_iff hheader origins).mpr ?_)
    exact ⟨origin, horigin, u, hu, hhost, congrArg Go.toLower htrim⟩
  · refine ⟨fun hmatch => ?_, hostMatchesAny_of_names hheader⟩
    obtain ⟨origin, horigin, u, hu, hhost, hsame⟩ := (hostMatchesAny_iff hheader origins).mp hmatch
    obtain ⟨h', hwell', hpart⟩ := wellFormed_of_toLower hheader.host hsame
    obtain ⟨origin', horigin', u', hu', hhost', hsame'⟩ :=
      hcond h' hwell' ⟨origin, horigin, u, hu, hhost, hpart.symm⟩
    refine ⟨origin', horigin', u', hu', hhost', ?_⟩
    show Go.toLower u'.hostname = Go.toLower h.part
    rw [hsame', hpart, hsame]
  · intro text h hheader hnames
    exact hostMatchesAny_of_names hheader hnames
  · intro origin horigin u h port hu hwell hport hhost
    refine hostMatchesAny_of_names (hostHeader_browser hwell hport hhost) ?_
    have hne : u.host ≠ "" := by
      intro hempty
      rw [hhost, ← String.toList_inj, String.toList_append] at hempty
      exact text_ne_nil hwell.part_ne (List.append_eq_nil_iff.mp hempty).1
    refine ⟨origin, horigin, u, hu, hne, ?_⟩
    show Go.toLower u.hostname = Go.toLower h.lower.part
    rw [hostname_host hwell hport hhost, lower_part, Go.toLower_toLower]

def loopbackPlatform : Platform :=
  { Platform.refusing with urlParse := fun _ => .ok ⟨"http", "[::1]:5173", "", "", ""⟩ }

example : hostMatchesAny " [::1]:8443 "
    (originHostnames loopbackPlatform ["http://[::1]:5173"]) = true := by
  decide +kernel

/-- `url.Parse` accepts a closing bracket in the host. -/
def bracketPlatform : Platform :=
  { Platform.refusing with
    urlParse := fun text =>
      if text = "https://a]" then .ok ⟨"https", "a]", "", "", ""⟩
      else .error (.text "invalid URL") }

/-- The host `a` matches an origin whose hostname is `a]`. -/
theorem host_header_stray_bracket :
    HostHeader "a" (.name "a") ∧
      hostMatchesAny "a" (originHostnames bracketPlatform ["https://a]"]) = true ∧
      ¬ NamesOrigin bracketPlatform ["https://a]"] (.name "a") := by
  have hwell : (HeaderHost.name "a").WellFormed := by
    have hcolon : ':' ∉ "a".toList := by decide
    refine ⟨hcolon, by decide, by decide, by decide, ?_⟩
    exact fun c hc => by rw [List.mem_singleton.mp hc]; decide
  have hheader : HostHeader ((HeaderHost.name "a").text ++ "") (.name "a") :=
    hostHeader_text hwell (.inl rfl)
  refine ⟨hheader, by decide +kernel, ?_⟩
  rintro ⟨origin, horigin, u, hu, -, hname⟩
  rw [List.mem_singleton.mp horigin] at hu
  cases hu
  revert hname
  decide +kernel

end WebEid.Azugo
