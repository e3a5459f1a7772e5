import WebEid.Lib.Once
import WebEid.Spec.Protocol

/-!
# Injective agreement of challenge and login

Every successful login can be charged to a challenge of its own: one that was
issued to the same session, no longer ago than the nonce lifetime when the
login read its clock, and whose nonce the certificate's card signed for one of
the configured origins.

The argument has two halves. The first is bookkeeping over whole runs: a nonce
is in at most one place at a time, on its way into the store, in the store, in
the hands of a login, or spent (`Once`), and whatever holds a nonce can name
the challenge it came from. The second is about one validated token: its
signature verified for some configured origin and the stored nonce, so the
card signed a datagram with the same bytes, and since the two hashes have the
length the algorithm's hash has and do not collide, it signed this origin and
this nonce (`datagram_inj`).

`Inv` collects the bookkeeping, one lemma per action keeps it, and `login_agreement`
reads the result off.
-/

namespace WebEid

open Lib Exceptions Azugo

/-! ## The nonces in the in-process store -/

namespace InMemoryStore

variable {κ : Type}

/-- The nonce texts the store holds. -/
def names (s : InMemoryStore κ) : List String :=
  s.entries.entries.map fun e => e.2.base64EncodedNonce

theorem sweepEntries_sublist (now : Time) (ttl : Duration) :
    ∀ (es : List (Sigma fun _ : String => ChallengeNonce)) (m : NonceMap),
      (sweepEntries now ttl es m).entries.Sublist m.entries := by
  intro es
  induction es with
  | nil => intro m; exact List.Sublist.refl _
  | cons e es ih =>
      intro m
      obtain ⟨k, n⟩ := e
      rw [sweepEntries]
      refine (ih _).trans ?_
      split
      · exact List.kerase_sublist k m.entries
      · exact List.Sublist.refl _

/-- A `Put` adds the nonce it was given and can only lose others. -/
theorem count_names_put (s : InMemoryStore κ) (now : Time) (ctx : κ)
    (nonce : ChallengeNonce) (n : String) :
    (put now ctx nonce s).2.names.count n ≤
      s.names.count n + if nonce.base64EncodedNonce = n then 1 else 0 := by
  cases hkey : s.sessionKey ctx with
  | error err => rw [put_of_error hkey]; exact Nat.le_add_right _ _
  | ok key =>
      rw [put_of_key hkey]
      unfold names
      rw [AList.entries_insert, List.map_cons, List.count_cons]
      simp only [beq_iff_eq]
      have hsub : (List.kerase key (s.sweepLocked now).entries.entries).Sublist
          s.entries.entries :=
        (List.kerase_sublist key _).trans (sweepEntries_sublist now s.ttl _ _)
      have hle := (hsub.map fun e => e.2.base64EncodedNonce).count_le n
      omega

/-- `GetAndRemove` moves the nonce it hands out. -/
theorem count_names_getAndRemove {s s' : InMemoryStore κ} {ctx : κ}
    {nonce : ChallengeNonce} (h : getAndRemove ctx s = (.ok nonce, s')) (n : String) :
    s.names.count n =
      s'.names.count n + if nonce.base64EncodedNonce = n then 1 else 0 := by
  obtain ⟨key, _, hlook, rfl⟩ := getAndRemove_ok h
  have hmem := AList.mem_lookup_iff.mp hlook
  obtain ⟨n', l₁, l₂, hnot, hl, hk⟩ :=
    List.exists_of_kerase (List.mem_keys_of_mem hmem)
  -- the entry that goes is the one `lookup` found
  obtain rfl : n' = nonce := by
    have hn' : s.entries.lookup key = some n' :=
      AList.mem_lookup_iff.mpr (by rw [hl]; simp)
    rw [hlook] at hn'
    exact (Option.some.inj hn').symm
  unfold names
  show _ = ((List.kerase key s.entries.entries).map _).count n + _
  rw [hk, hl]
  simp only [List.map_append, List.map_cons, List.count_append, List.count_cons,
    beq_iff_eq]
  omega

/-- A refusal moves nothing. -/
theorem getAndRemove_error {s s' : InMemoryStore κ} {ctx : κ} {err : GoError}
    (h : getAndRemove ctx s = (.error err, s')) : s' = s := by
  cases hkey : s.sessionKey ctx with
  | error e =>
      rw [getAndRemove_of_error hkey] at h
      exact (Prod.mk.inj h).2.symm
  | ok key =>
      cases hlook : s.entries.lookup key with
      | none =>
          rw [getAndRemove_of_none hkey hlook] at h
          exact (Prod.mk.inj h).2.symm
      | some n => rw [getAndRemove_of_some hkey hlook] at h; cases h

end InMemoryStore

namespace Protocol

/-! ## One signature -/

/-- Datagrams over the universe are told apart by their bytes. -/
theorem datagram_inj {P : Platform} {U : Set String} (hU : CollisionFree P U)
    {hash hash' : Hash} {origin origin' nonce nonce' : String} (ho : origin ∈ U)
    (ho' : origin' ∈ U) (hn : nonce ∈ U) (hn' : nonce' ∈ U)
    (h : datagram P hash' origin' nonce' = datagram P hash origin nonce) :
    origin' = origin ∧ nonce' = nonce := by
  -- the length names the hash, and the hash's size says where to cut
  have hlen := congrArg List.length h
  simp only [datagram, List.length_append, P.hashSum_length] at hlen
  obtain rfl : hash' = hash := Hash.size_injective (by omega)
  obtain ⟨h₁, h₂⟩ := List.append_inj h (by rw [P.hashSum_length, P.hashSum_length])
  exact ⟨hU hash' ho' ho h₁, hU hash' hn' hn h₂⟩

/-- A validated token was signed by the certificate's card, for the nonce it
was validated against and a configured origin. -/
theorem exists_act_of_validate {Card : Type} {P : Platform} {cardOf : Certificate → Card}
    {U : Set String} (hU : CollisionFree P U) {v : AuthTokenValidator}
    (horigins : ∀ o ∈ v.origins, o ∈ U) {signed : List (SigningAct Card)}
    (hsigned : ∀ act ∈ signed, act.origin ∈ U ∧ act.nonce ∈ U) {token : AuthToken}
    (hun : Unforged P cardOf U signed token) {env : ValidateEnv} {nonce : String}
    (hnonce : nonce ∈ U) {trust : Nat → TrustSnapshot} {cert : Certificate}
    (hval : (v.validate P env token nonce).under trust = .ok cert) :
    ∃ act ∈ signed, act.card = cardOf cert ∧ act.nonce = nonce ∧ act.origin ∈ v.origins := by
  obtain ⟨_, hsig, _⟩ := AuthTokenValidator.validate_ok hval
  obtain ⟨hash, sig, origin, hhash, hdec, hmem, hver⟩ :=
    AuthTokenValidator.verifySignature_ok hsig
  obtain ⟨act, hact, hcard, hdata⟩ :=
    hun cert hash sig origin nonce (horigins origin hmem) hnonce hhash hdec hver
  obtain ⟨haU, hanU⟩ := hsigned act hact
  obtain ⟨ho, hn⟩ := datagram_inj hU (horigins origin hmem) haU hnonce hanU hdata
  exact ⟨act, hact, hcard, hn, ho ▸ hmem⟩

/-! ## The bookkeeping -/

/-- A challenge's nonce carries the clock reading the challenge was drawn
at. -/
def Challenge.Stamped (t : Time) (now : Uptime) (c : Challenge) : Prop :=
  c.nonce.issuedAt = c.issuedAt.instant t ∧ c.issuedAt.ns ≤ now.ns

/-- The age of a nonce at a clock reading, against the lifetime. -/
def Within (ttl : Duration) (issuedAt checkedAt : Uptime) : Prop :=
  issuedAt.ns ≤ checkedAt.ns ∧ (checkedAt.ns : Int) - issuedAt.ns ≤ ttl.toInt

/-- What a login and the challenge it is charged to have in common. -/
def Matches {Card : Type} (h : Handler) (cardOf : Certificate → Card)
    (signed : List (SigningAct Card)) (l : Login) (c : Challenge) : Prop :=
  c.session = l.session ∧ c.nonce = l.nonce ∧
    Within h.config.nonceTTL c.issuedAt l.checkedAt ∧
    ∃ act ∈ signed, act.card = cardOf l.cert ∧
      act.nonce = l.nonce.base64EncodedNonce ∧ act.origin ∈ h.validator.origins

variable {Card : Type}

/-- How often a nonce occurs, over all the places it can be in. -/
def Sys.uses (s : Sys Card) (n : String) : Nat :=
  (s.puts.map fun c => c.nonce.base64EncodedNonce).count n + s.store.names.count n +
    (s.taken.map fun t => t.stored.base64EncodedNonce).count n +
    (s.checked.map fun c => c.stored.base64EncodedNonce).count n +
    (s.logins.map fun l => l.nonce.base64EncodedNonce).count n

structure Inv (h : Handler) (t : Time) (cardOf : Certificate → Card) (U : Set String)
    (s : Sys Card) : Prop where
  sessions : s.store.sessionKey = sessionKey
  once : Once s.drawn s.uses
  drawn : ∀ n ∈ s.drawn, n ∈ U
  signed : ∀ act ∈ s.signed, act.origin ∈ U ∧ act.nonce ∈ U
  puts : ∀ c ∈ s.puts, c.Stamped t s.now
  issued : ∀ c ∈ s.issued, c.Stamped t s.now
  stored : ∀ key n, s.store.entries.lookup key = some n →
    ∃ c ∈ s.issued, sessionKey c.session = .ok key ∧ c.nonce = n
  taken : ∀ a ∈ s.taken, ∃ c ∈ s.issued, c.session = a.session ∧ c.nonce = a.stored
  checked : ∀ a ∈ s.checked, ∃ c ∈ s.issued, c.session = a.session ∧ c.nonce = a.stored ∧
    Within h.config.nonceTTL c.issuedAt a.checkedAt
  logins : ∀ l ∈ s.logins, ∃ c ∈ s.issued, Matches h cardOf s.signed l c

/-- Two requests with one session key are in one session. -/
theorem sessionKey_inj {ctx ctx' : Context} {key : String} (h : sessionKey ctx = .ok key)
    (h' : sessionKey ctx' = .ok key) : ctx = ctx' := by
  obtain ⟨sid⟩ := ctx
  obtain ⟨sid'⟩ := ctx'
  rw [Context.mk.injEq]
  exact (sessionKey_ok h).trans (sessionKey_ok h').symm

theorem Challenge.Stamped.mono {t : Time} {now now' : Uptime} {c : Challenge}
    (h : c.Stamped t now) (hle : now.ns ≤ now'.ns) : c.Stamped t now' :=
  ⟨h.1, h.2.trans hle⟩

/-- A signature more does not undo a match. -/
theorem Matches.sign {h : Handler} {cardOf : Certificate → Card}
    {signed : List (SigningAct Card)} {l : Login} {c : Challenge}
    (hm : Matches h cardOf signed l c) (act : SigningAct Card) :
    Matches h cardOf (act :: signed) l c := by
  obtain ⟨hsess, hnonce, hage, act', hmem, hact⟩ := hm
  exact ⟨hsess, hnonce, hage, act', List.mem_cons_of_mem act hmem, hact⟩

section Steps

variable {P : Platform} {h : Handler} {t : Time} {cardOf : Certificate → Card}
  {U : Set String} {s : Sys Card}

theorem inv_start (hs : start h s) : Inv h t cardOf U s := by
  obtain ⟨hstore, hdrawn, hputs, hissued, hsigned, htaken, hchecked, hlogins⟩ := hs
  have hempty : s.store.entries = ∅ := by rw [hstore]; rfl
  refine ⟨by rw [hstore]; rfl, ?_, ?_, ?_, ?_, ?_, ?_, ?_, ?_, ?_⟩
  · have huses : s.uses = fun _ => 0 := by
      funext n
      unfold Sys.uses InMemoryStore.names
      rw [hputs, htaken, hchecked, hlogins, hempty]
      rfl
    rw [hdrawn, huses]
    exact Once.nil
  · rw [hdrawn]; simp
  · rw [hsigned]; simp
  · rw [hputs]; simp
  · rw [hissued]; simp
  · rw [hempty]; simp
  · rw [htaken]; simp
  · rw [hchecked]; simp
  · rw [hlogins]; simp

theorem inv_tick (hi : Inv h t cardOf U s) (d : Nat) : Inv h t cardOf U (s.tick d) := by
  unfold Sys.tick
  split
  · exact hi
  · next t' ht' =>
      have hle : s.now.ns ≤ t'.ns := by rw [Uptime.advance_eq_some ht']; omega
      exact { hi with
        puts := fun c hc => (hi.puts c hc).mono hle
        issued := fun c hc => (hi.issued c hc).mono hle }

theorem inv_draw (hi : Inv h t cardOf U s) {ctx : Context}
    {random : Nat → Except GoError Bytes}
    (hfresh : ∀ nonce, h.generator.generate random (s.now.instant t) = .ok nonce →
      nonce.base64EncodedNonce ∉ s.drawn ∧ nonce.base64EncodedNonce ∈ U) :
    Inv h t cardOf U (s.draw h t ctx random) := by
  unfold Sys.draw
  split
  · exact hi
  · next nonce hgen =>
      obtain ⟨hnew, hU⟩ := hfresh nonce hgen
      have hstamp := ChallengeNonceGenerator.generate_issuedAt hgen
      refine { hi with once := hi.once.draw hnew ?_, drawn := ?_, puts := ?_ }
      · intro n
        unfold Sys.uses
        simp only [List.map_cons, List.count_cons, beq_iff_eq]
        omega
      · exact List.forall_mem_cons.mpr ⟨hU, hi.drawn⟩
      · exact List.forall_mem_cons.mpr ⟨⟨hstamp, le_refl _⟩, hi.puts⟩

/-- What a `Put` leaves in the store can name its challenge. -/
theorem Inv.stored_put (hi : Inv h t cardOf U s) {c : Challenge} {store : InMemoryStore Context}
    (hput : InMemoryStore.put (s.now.instant t) c.session c.nonce s.store = (.ok (), store)) :
    ∀ key n, store.entries.lookup key = some n →
      ∃ c' ∈ c :: s.issued, sessionKey c'.session = .ok key ∧ c'.nonce = n := by
  obtain ⟨key, hkey⟩ := InMemoryStore.put_ok hput
  have hlook := InMemoryStore.lookup_put hkey (s.now.instant t) c.nonce
  rw [hput] at hlook
  intro k n hn
  rw [hlook] at hn
  split at hn
  · next hk =>
      subst hk
      refine ⟨c, List.mem_cons_self, ?_, Option.some.inj hn⟩
      rw [← hi.sessions]
      exact hkey
  · obtain ⟨hn, _⟩ := Option.filter_eq_some_iff.mp hn
    exact List.exists_mem_cons_of_exists (hi.stored k n hn)

theorem inv_put (hi : Inv h t cardOf U s) (i : Nat) : Inv h t cardOf U (s.put t i) := by
  unfold Sys.put
  split
  · exact hi
  · next c hc =>
      have hcount := fun n =>
        InMemoryStore.count_names_put s.store (s.now.instant t) c.session c.nonce n
      have hout := fun n =>
        count_map_eraseIdx (fun c : Challenge => c.nonce.base64EncodedNonce) hc n
      have hkept : ∀ c' ∈ s.puts.eraseIdx i, c'.Stamped t s.now :=
        fun c' hc' => hi.puts c' (List.mem_of_mem_eraseIdx hc')
      split
      · next err store hput =>
          -- no session: the store is as it was and the nonce is dropped
          obtain rfl := InMemoryStore.put_error hput
          refine { hi with once := hi.once.mono ?_, puts := hkept }
          intro n
          have := hout n
          unfold Sys.uses
          simp only []
          omega
      · next store hput =>
          have hsess := InMemoryStore.put_sessionKey s.store (s.now.instant t) c.session c.nonce
          rw [hput] at hcount hsess
          refine ⟨hsess.trans hi.sessions, hi.once.mono ?_, hi.drawn, hi.signed, hkept,
            ?_, hi.stored_put hput, ?_, ?_, ?_⟩
          · intro n
            have h₁ := hout n
            have h₂ := hcount n
            unfold Sys.uses
            simp only [] at h₂ ⊢
            omega
          · exact List.forall_mem_cons.mpr ⟨hi.puts c (List.mem_of_getElem? hc), hi.issued⟩
          · intro a ha
            exact List.exists_mem_cons_of_exists (hi.taken a ha)
          · intro a ha
            exact List.exists_mem_cons_of_exists (hi.checked a ha)
          · intro l hl
            exact List.exists_mem_cons_of_exists (hi.logins l hl)

theorem inv_sign (hi : Inv h t cardOf U s) {act : SigningAct Card}
    (hact : act.origin ∈ U ∧ act.nonce ∈ U) : Inv h t cardOf U (s.sign act) := by
  refine { hi with signed := ?_, logins := ?_ }
  · exact List.forall_mem_cons.mpr ⟨hact, hi.signed⟩
  · intro l hl
    obtain ⟨c, hc, hm⟩ := hi.logins l hl
    exact ⟨c, hc, hm.sign act⟩

theorem inv_take (hi : Inv h t cardOf U s) (ctx : Context)
    (body : Except GoError LoginRequest) : Inv h t cardOf U (s.take ctx body) := by
  unfold Sys.take Handler.takeNonce
  cases body with
  | error err => exact hi
  | ok req =>
      simp only [InMemoryStore.store]
      cases hget : InMemoryStore.getAndRemove ctx s.store with
      | mk r store =>
          cases r with
          | error err =>
              obtain rfl := InMemoryStore.getAndRemove_error hget
              exact hi
          | ok stored =>
              have hcount := InMemoryStore.count_names_getAndRemove hget
              obtain ⟨key, hkey, hlook, rfl⟩ := InMemoryStore.getAndRemove_ok hget
              refine { hi with once := hi.once.mono ?_, stored := ?_, taken := ?_ }
              · intro n
                have := hcount n
                unfold Sys.uses
                simp only [List.map_cons, List.count_cons, beq_iff_eq]
                omega
              · intro k n hn
                exact hi.stored k n (lookup_erase_some hn)
              · refine List.forall_mem_cons.mpr ⟨?_, hi.taken⟩
                obtain ⟨c, hc, hckey, hnonce⟩ := hi.stored key stored hlook
                rw [hi.sessions] at hkey
                exact ⟨c, hc, sessionKey_inj hckey hkey, hnonce⟩

/-- The expiry test, in clock readings of the process. -/
theorem within_of_checkExpiry {c : Challenge} {now : Uptime} (hc : c.Stamped t now)
    (hexp : h.checkExpiry (now.instant t) c.nonce = .ok ()) :
    Within h.config.nonceTTL c.issuedAt now := by
  unfold Handler.checkExpiry ChallengeNonce.expired at hexp
  split at hexp
  · cases hexp
  · next hlt =>
      rw [hc.1, decide_eq_true_eq, Uptime.lt_sub_instant] at hlt
      exact ⟨hc.2, not_lt.mp hlt⟩

theorem inv_check (hi : Inv h t cardOf U s) (i : Nat) :
    Inv h t cardOf U (s.check h t i) := by
  unfold Sys.check
  split
  · exact hi
  · next a ha =>
      have hout := fun n =>
        count_map_eraseIdx (fun a : Attempt => a.stored.base64EncodedNonce) ha n
      have hkept : ∀ a' ∈ s.taken.eraseIdx i,
          ∃ c ∈ s.issued, c.session = a'.session ∧ c.nonce = a'.stored :=
        fun a' ha' => hi.taken a' (List.mem_of_mem_eraseIdx ha')
      split
      · refine { hi with once := hi.once.mono ?_, taken := hkept }
        intro n
        have := hout n
        unfold Sys.uses
        simp only []
        omega
      · next hexp =>
          refine { hi with once := hi.once.mono ?_, taken := hkept, checked := ?_ }
          · intro n
            have := hout n
            unfold Sys.uses
            simp only [List.map_cons, List.count_cons, beq_iff_eq]
            omega
          · refine List.forall_mem_cons.mpr ⟨?_, hi.checked⟩
            obtain ⟨c, hc, hsess, hnonce⟩ := hi.taken a (List.mem_of_getElem? ha)
            rw [← hnonce] at hexp
            exact ⟨c, hc, hsess, hnonce, within_of_checkExpiry (hi.issued c hc) hexp⟩

/-- A login that is recorded was validated. -/
theorem loginOf_eq_some {venv : ValidateEnv} {ienv : Assertion.IssueEnv}
    {trust : Nat → TrustSnapshot} {c : Checked} {l : Login}
    (hl : loginOf P h venv ienv trust c = some l) :
    l = ⟨c.session, l.cert, c.stored, c.checkedAt⟩ ∧
      (h.validator.validate P venv c.req.authToken c.stored.base64EncodedNonce).under
        trust = .ok l.cert := by
  unfold loginOf at hl
  split at hl
  · next cert _ hval _ =>
      cases hl
      exact ⟨rfl, hval⟩
  · cases hl

/-- What a login holds was drawn, so it is one of the strings of the run. -/
theorem Inv.checked_mem (hi : Inv h t cardOf U s) {c : Checked} (hc : c ∈ s.checked) :
    c.stored.base64EncodedNonce ∈ U := by
  refine hi.drawn _ (hi.once.mem_drawn _ ?_)
  have hpos : 0 < (s.checked.map fun c => c.stored.base64EncodedNonce).count
      c.stored.base64EncodedNonce :=
    List.count_pos_iff.mpr (List.mem_map_of_mem hc)
  unfold Sys.uses
  omega

theorem inv_finish (hU : CollisionFree P U) (horigins : ∀ o ∈ h.validator.origins, o ∈ U)
    (hi : Inv h t cardOf U s) {i : Nat} (venv : ValidateEnv) (ienv : Assertion.IssueEnv)
    (trust : Nat → TrustSnapshot)
    (hun : ∀ c, s.checked[i]? = some c → Unforged P cardOf U s.signed c.req.authToken) :
    Inv h t cardOf U (s.finish P h i venv ienv trust) := by
  unfold Sys.finish
  split
  · exact hi
  · next c hc =>
      have hout := fun n =>
        count_map_eraseIdx (fun c : Checked => c.stored.base64EncodedNonce) hc n
      have hkept : ∀ a ∈ s.checked.eraseIdx i, ∃ c ∈ s.issued, c.session = a.session ∧
          c.nonce = a.stored ∧ Within h.config.nonceTTL c.issuedAt a.checkedAt :=
        fun a ha => hi.checked a (List.mem_of_mem_eraseIdx ha)
      have hmem := List.mem_of_getElem? hc
      cases hl : loginOf P h venv ienv trust c with
      | none =>
          refine { hi with once := hi.once.mono ?_, checked := hkept, logins := hi.logins }
          intro n
          have := hout n
          unfold Sys.uses
          simp only [Option.toList_none, List.nil_append]
          omega
      | some l =>
          obtain ⟨heq, hval⟩ := loginOf_eq_some hl
          refine { hi with once := hi.once.mono ?_, checked := hkept, logins := ?_ }
          · intro n
            have := hout n
            unfold Sys.uses
            rw [heq]
            simp only [Option.toList_some, List.cons_append, List.nil_append, List.map_cons,
              List.count_cons, beq_iff_eq]
            omega
          · refine List.forall_mem_cons.mpr ⟨?_, hi.logins⟩
            obtain ⟨iss, hiss, hsess, hnonce, hage⟩ := hi.checked c hmem
            have hact :=
              exists_act_of_validate hU horigins hi.signed (hun c hc) (hi.checked_mem hmem) hval
            rw [heq]
            exact ⟨iss, hiss, hsess, hnonce, hage, hact⟩

theorem inv_step (hU : CollisionFree P U) (horigins : ∀ o ∈ h.validator.origins, o ∈ U)
    {a : Action Card} (hi : Inv h t cardOf U s) (ha : allowed P h t cardOf U s a) :
    Inv h t cardOf U (step P h t a s) := by
  cases a with
  | tick d => exact inv_tick hi d
  | draw ctx random => exact inv_draw hi ha
  | put i => exact inv_put hi i
  | sign act => exact inv_sign hi ha
  | take ctx body => exact inv_take hi ctx body
  | check i => exact inv_check hi i
  | finish i venv ienv trust => exact inv_finish hU horigins hi venv ienv trust ha

end Steps

/-! ## Agreement -/

/-- A login that gets past body parsing leaves its session without a
nonce. -/
theorem take_consumes {s : Sys Card} (hs : s.store.sessionKey = sessionKey) {ctx : Context}
    {key : String} (hkey : sessionKey ctx = .ok key) (req : LoginRequest) :
    (s.take ctx (.ok req)).store.entries.lookup key = none := by
  have hnone := InMemoryStore.lookup_getAndRemove_self (hs ▸ hkey : s.store.sessionKey ctx = _)
  unfold Sys.take Handler.takeNonce
  simp only [InMemoryStore.store]
  cases hget : InMemoryStore.getAndRemove ctx s.store with
  | mk r store =>
      rw [hget] at hnone
      cases r <;> exact hnone

/-- In every reachable state the successful logins agree injectively with the
challenges that were issued, no nonce was spent twice, and the next login of
a session takes its nonce away whether it succeeds or not. -/
theorem login_agreement {P : Platform} {h : Handler} {t : Time}
    {cardOf : Certificate → Card} {U : Set String} (hU : CollisionFree P U)
    (horigins : ∀ o ∈ h.validator.origins, o ∈ U) {s : Sys Card}
    (hs : (machine P h t cardOf U).Reach s) :
    InjectiveAgreement s.logins s.issued (Matches h cardOf s.signed) ∧
      (s.logins.map fun l => l.nonce.base64EncodedNonce).Nodup ∧
      ∀ ctx key req, sessionKey ctx = .ok key →
        (s.take ctx (.ok req)).store.entries.lookup key = none := by
  have hi : Inv h t cardOf U s := by
    refine Machine.Reach.invariant ?_ ?_ hs
    · intro s₀ hs₀
      exact inv_start hs₀
    · intro s₁ a hi₁ ha
      exact inv_step hU horigins hi₁ ha
  have hnodup : (s.logins.map fun l => l.nonce.base64EncodedNonce).Nodup := by
    refine hi.once.nodup fun n => ?_
    unfold Sys.uses
    omega
  refine ⟨?_, hnodup, fun ctx key req hkey => take_consumes hi.sessions hkey req⟩
  have hname : ∀ l c, Matches h cardOf s.signed l c →
      l.nonce.base64EncodedNonce = c.nonce.base64EncodedNonce := by
    intro l c hm
    rw [hm.2.1]
  exact InjectiveAgreement.of_nodup hi.logins hname hnodup

/-! ## A run with a login

One browser, one card and one login, on a platform whose hash is a checksum
and whose signatures are the checksum again. -/

namespace Run

def origin : String := "https://a.lv"

/-- The text of 32 zero bytes. -/
def nonce : String := "AAAAAAAAAAAAAAAAAAAAAAAAAAAAAAAAAAAAAAAAAAA="

def key : RsaPublicKey := ⟨35, 5⟩

def cert : Certificate :=
  { (default : Certificate) with
    subject := { (default : Name) with commonName := "A" }
    notAfter := ⟨10⟩
    keyUsage := keyUsageDigitalSignature
    extKeyUsage := [.clientAuth]
    publicKey := .rsa key }

def checksum (m : Bytes) : UInt8 :=
  UInt8.ofNat (m.foldl (fun acc b => (acc * 3 + b.toNat + 1) % 251) 0)

/-- A one-byte hash, padded; a signature is the hash. -/
def platform : Platform :=
  { Platform.refusing with
    hashSum := fun h m => checksum m :: List.replicate (h.size - 1) 0
    hashSum_length := fun h m => by cases h <;> rfl
    parseCertificate := fun _ => .ok cert
    verify := fun _ _ => .ok ()
    rsaVerifyPKCS1v15 := fun pub _ digest sig =>
      if pub = key ∧ digest.take 1 = sig then .ok () else .error (.text "") }

def handler : Handler where
  store := .session 5
  runtimeTrust := false
  ocspTransport := none
  assertionIssuer := none
  config := ⟨[origin], "", 5, false, 0, "", [], ["SHA-256"], false, [], [], []⟩
  validator := ⟨[origin], 0, none, []⟩
  generator := ⟨minNonceBytes⟩
  signer := ⟨["SHA-256"], some 0, none, []⟩
  trust := 0

def ctx : Context := ⟨some "sid"⟩
def random : Nat → Except GoError Bytes := fun n => .ok (List.replicate n 0)

def token : AuthToken := ⟨"", "RS256", "9g==", "web-eid:1.0", ""⟩

def act : SigningAct PublicKey := ⟨.rsa key, .sha256, origin, nonce⟩

def strings : Set String := {origin, nonce}

def initial : Sys PublicKey where
  now := ⟨0, Nat.two_pow_pos 63⟩
  store := newSessionStore handler.config
  drawn := []
  puts := []
  issued := []
  signed := []
  taken := []
  checked := []
  logins := []

/-- The state before the token is validated. -/
def pending : Sys PublicKey :=
  ((((initial.draw handler ⟨0⟩ ctx random).put ⟨0⟩ 0).sign act).take ctx (.ok ⟨token⟩)).check
    handler ⟨0⟩ 0

def env : ValidateEnv := ⟨⟨0⟩, ⟨.error (.text ""), fun _ _ _ _ => .error (.text ""), ⟨0⟩⟩⟩

def issueEnv : Assertion.IssueEnv := ⟨.error (.text ""), ⟨0⟩, fun _ _ => .error (.text "")⟩

def done : Sys PublicKey :=
  pending.finish platform handler 0 env issueEnv fun _ => newTrustSnapshot []

theorem collisionFree : CollisionFree platform strings := by
  intro hash a ha b hb hab
  have hne : checksum (Go.bytes origin) ≠ checksum (Go.bytes nonce) := by
    decide +kernel
  have hsum : checksum (Go.bytes a) = checksum (Go.bytes b) := (List.cons.inj hab).1
  rcases ha with rfl | rfl <;> rcases hb with rfl | rfl
  · rfl
  · exact absurd hsum hne
  · exact absurd hsum.symm hne
  · rfl

/-- On this platform only the card's key verifies, and only its checksum. -/
theorem verify_ok {c : Certificate} {data sig : Bytes}
    (h : Signature.verify platform c "RS256" data sig = .ok ()) :
    c.publicKey = .rsa key ∧ [checksum data] = sig := by
  have hhash : Signature.jwaToHash.lookup "RS256" = some .sha256 := by rfl
  unfold Signature.verify at h
  cases hkey : c.publicKey with
  | other raw => rw [hkey] at h; cases h
  | ecdsa pub =>
      rw [hkey] at h
      simp only [hhash] at h
      split at h
      · cases h
      · cases h
  | rsa pub =>
      rw [hkey] at h
      have h' : (if pub = key ∧ [checksum data] = sig then Except.ok ()
          else .error (GoError.text "")) = Except.ok () := by
        by_cases hc : pub = key ∧ [checksum data] = sig
        · rw [if_pos hc]
        · exfalso
          have hfail : platform.rsaVerifyPKCS1v15 pub .sha256
              (platform.hashSum .sha256 data) sig = .error (.text "") := if_neg hc
          simp only [hhash] at h
          rw [if_neg (by decide), hfail] at h
          cases h
      split at h'
      · next hc => exact ⟨by rw [hc.1], hc.2⟩
      · cases h'

/-- The token's signature verifies with the card's key, for the origin and the
nonce of the run and for no other pair. -/
theorem unforged : Unforged platform Certificate.publicKey strings [act] token := by
  intro c hash sig o n ho hn hhash hdec hver
  cases hhash
  cases hdec
  obtain ⟨hkey, hsum⟩ := verify_ok hver
  have hpair : o = origin ∧ n = nonce := by
    rcases ho with rfl | rfl <;> rcases hn with rfl | rfl
    · exact absurd hsum (by decide +kernel)
    · exact ⟨rfl, rfl⟩
    · exact absurd hsum (by decide +kernel)
    · exact absurd hsum (by decide +kernel)
  obtain ⟨rfl, rfl⟩ := hpair
  exact ⟨act, List.mem_singleton.mpr rfl, hkey.symm, rfl⟩

theorem reach_done :
    (machine platform handler ⟨0⟩ Certificate.publicKey strings).Reach done := by
  have h₀ : (machine platform handler ⟨0⟩ Certificate.publicKey strings).Reach initial :=
    .init ⟨rfl, rfl, rfl, rfl, rfl, rfl, rfl, rfl⟩
  have hdraw : allowed platform handler ⟨0⟩ Certificate.publicKey strings initial
      (.draw ctx random) := by
    intro n hn
    obtain rfl : n = ⟨nonce, ⟨0⟩⟩ := (Except.ok.inj hn).symm
    exact ⟨List.not_mem_nil, Or.inr rfl⟩
  have hsign : act.origin ∈ strings ∧ act.nonce ∈ strings := ⟨Or.inl rfl, Or.inr rfl⟩
  have hfinish : ∀ c, pending.checked[0]? = some c →
      Unforged platform Certificate.publicKey strings pending.signed c.req.authToken := by
    intro c hc
    obtain rfl : c = ⟨⟨ctx, ⟨token⟩, ⟨nonce, ⟨0⟩⟩⟩, ⟨0, by decide⟩⟩ :=
      (Option.some.inj hc).symm
    exact unforged
  have h₁ := Machine.Reach.step (a := Action.draw ctx random) h₀ hdraw
  have h₂ := Machine.Reach.step (a := Action.put 0) h₁ trivial
  have h₃ := Machine.Reach.step (a := Action.sign act) h₂ hsign
  have h₄ := Machine.Reach.step (a := Action.take ctx (.ok ⟨token⟩)) h₃ trivial
  have h₅ := Machine.Reach.step (a := Action.check 0) h₄ trivial
  exact Machine.Reach.step
    (a := Action.finish 0 env issueEnv fun _ => newTrustSnapshot []) h₅ hfinish

end Run

theorem login_agreement_run :
    Run.done.logins.length = 1 ∧
      InjectiveAgreement Run.done.logins Run.done.issued
        (Matches Run.handler Certificate.publicKey Run.done.signed) ∧
      (Run.done.logins.map fun l => l.nonce.base64EncodedNonce).Nodup ∧
      ∀ ctx key req, sessionKey ctx = .ok key →
        (Run.done.take ctx (.ok req)).store.entries.lookup key = none := by
  refine ⟨by decide +kernel, login_agreement Run.collisionFree ?_ Run.reach_done⟩
  intro o ho
  exact Or.inl (List.mem_singleton.mp ho)

end Protocol

end WebEid
