import WebEid.Lib.Machine
import WebEid.Proofs.NonceStores

/-!
# Several pods, one Redis, and a network in between

A pod that calls `SET` or `GETDEL` may be cut off between the server's doing
the command and the reply, a client that hears nothing may send the command
again, and a command that was delayed may arrive when its call has long
returned. The store itself never looks back: `Put` reports the error, and
`GetAndRemove` reports that there is no nonce. So from the moment a nonce is
drawn its `SET` can be carried out any number of times, in between the commands
of other pods, and a `GETDEL` can take a nonce to nobody.

What holds all the same is counted in commands. A login is given a nonce of its
own session only, whichever pod serves it, and over all pods a nonce is given
to as many logins at most as its `SET` was carried out times
(`nonce_given_per_set`). Where no `SET` is repeated this is single use. Where
one is, a nonce that was taken is put back, and the run at the end gives it to
two logins.
-/

namespace WebEid.Cluster

open Lib Exceptions Azugo
open NonceStores (Server Entry evict RoundTrips)

variable {κ : Type}

/-! ## The pods and the network -/

def errTimeout : GoError := .text "i/o timeout"

/-- The commands as carried out by the server, with the reply that reaches the
pod if it does. -/
def client (clock : Uptime) (arrives : Bool) : RedisStore.Client Server where
  set := fun key value ttl st =>
    (if arrives then .ok () else .error errTimeout, st.insert key ⟨value, clock, ttl⟩)
  getDel := fun key st =>
    (if arrives then .ok ((st.lookup key).map Entry.value) else .error errTimeout, st.erase key)

/-- The pods share the namespace of their keys. -/
structure Fleet (κ : Type) where
  platform : Platform
  pod : Nat → RedisStore.Store κ
  generator : Nat → ChallengeNonceGenerator
  keyPrefix : String
  shared : ∀ i, (pod i).keyPrefix = keyPrefix

/-- A `Put` under way. -/
structure PutCall (κ : Type) where
  pod : Nat
  ctx : κ
  nonce : ChallengeNonce

namespace PutCall

def text (c : PutCall κ) : String := c.nonce.base64EncodedNonce

def session (F : Fleet κ) (c : PutCall κ) : Except GoError String := (F.pod c.pod).sessionKey c.ctx

/-- The call, as far as a command of its that is carried out. -/
def put (F : Fleet κ) (c : PutCall κ) (clock : Uptime) (arrives : Bool) (st : Server) :
    Except GoError Unit × Server :=
  (F.pod c.pod).put F.platform (client clock arrives) c.ctx c.nonce st

end PutCall

/-- `drawn` are all calls of `Put` so far and `sets` the texts of the `SET`s
carried out for them. `given` are the nonces logins got, each with the session
of the login. -/
structure State (κ : Type) where
  server : Server
  clock : Uptime
  drawn : List (PutCall κ)
  sets : List String
  given : List (String × String)

inductive Action (κ : Type) where
  | challenge (pod : Nat) (ctx : κ) (random : Nat → Except GoError Bytes) (now : Time)
  | execute (i : Nat)
  | take (pod : Nat) (ctx : κ) (arrives : Bool)
  | evict (key : String)
  | advance (d : Nat)

/-- What a login gets from `GetAndRemove`. -/
def giveTo (sid : Except GoError String) (r : Except GoError ChallengeNonce) :
    List (String × String) :=
  match sid, r with
  | .ok sid, .ok n => [(sid, n.base64EncodedNonce)]
  | _, _ => []

def step (F : Fleet κ) (a : Action κ) (s : State κ) : State κ :=
  match a with
  | .challenge pod ctx random now =>
      match (F.generator pod).generate random now with
      | .error _ => s
      | .ok nonce => { s with drawn := ⟨pod, ctx, nonce⟩ :: s.drawn }
  | .execute i =>
      match s.drawn[i]? with
      | none => s
      | some c =>
          -- a call that fails with its reply in hand never sent the command
          match c.put F s.clock true s.server with
          | (.error _, _) => s
          | (.ok (), server) => { s with server := server, sets := c.text :: s.sets }
  | .take pod ctx arrives =>
      let r := (F.pod pod).getAndRemove F.platform (client s.clock arrives) ctx s.server
      { s with
        server := r.2
        given := giveTo ((F.pod pod).sessionKey ctx) r.1 ++ s.given }
  | .evict key => { s with server := evict s.clock key s.server }
  | .advance d => { s with clock := (s.clock.advance d).getD s.clock }

/-- A nonce is drawn once, and its JSON form reads back as the nonce. -/
def allowed (F : Fleet κ) (s : State κ) : Action κ → Prop
  | .challenge pod _ random now => ∀ nonce, (F.generator pod).generate random now = .ok nonce →
      nonce.base64EncodedNonce ∉ s.drawn.map PutCall.text ∧
        RoundTrips F.platform ⟨nonce.base64EncodedNonce, nonce.issuedAt⟩
  | _ => True

def initial (clock : Uptime) : State κ := ⟨∅, clock, [], [], []⟩

def machine (F : Fleet κ) : Machine (State κ) (Action κ) where
  init s := ∃ clock, s = initial clock
  allowed := allowed F
  step := step F

/-! ## What the commands do -/

variable {F : Fleet κ}

/-- The entry the command of a `Put` writes, if the call gets as far. -/
theorem put_server (c : PutCall κ) (clock : Uptime) (st : Server) :
    (∃ err, c.put F clock true st = (.error err, st)) ∨
      ∃ sid payload, c.session F = .ok sid ∧
        F.platform.marshalNonce ⟨c.text, c.nonce.issuedAt⟩ = .ok payload ∧
        c.put F clock true st =
          (.ok (), st.insert (F.keyPrefix ++ sid) ⟨payload, clock, (F.pod c.pod).ttl⟩) := by
  rw [PutCall.put, RedisStore.Store.put, F.shared, PutCall.session]
  cases (F.pod c.pod).sessionKey c.ctx with
  | error err => exact Or.inl ⟨_, rfl⟩
  | ok sid =>
      simp only [PutCall.text]
      cases F.platform.marshalNonce ⟨c.nonce.base64EncodedNonce, c.nonce.issuedAt⟩ with
      | error err => exact Or.inl ⟨_, rfl⟩
      | ok payload => exact Or.inr ⟨sid, payload, rfl, rfl, rfl⟩

/-- Taking a nonce erases the session's key, and what a login gets of it was
there. -/
theorem take_server (pod : Nat) (ctx : κ) (clock : Uptime) (arrives : Bool) (st : Server) :
    (∃ err, (F.pod pod).sessionKey ctx = .error err ∧
      (F.pod pod).getAndRemove F.platform (client clock arrives) ctx st = (.error err, st)) ∨
    ∃ sid, (F.pod pod).sessionKey ctx = .ok sid ∧
      ((F.pod pod).getAndRemove F.platform (client clock arrives) ctx st).2 =
        st.erase (F.keyPrefix ++ sid) ∧
      ∀ n, ((F.pod pod).getAndRemove F.platform (client clock arrives) ctx st).1 = .ok n →
        ∃ e, st.lookup (F.keyPrefix ++ sid) = some e ∧
          F.platform.unmarshalNonce e.value = .ok ⟨n.base64EncodedNonce, n.issuedAt⟩ := by
  rw [RedisStore.Store.getAndRemove, F.shared]
  cases (F.pod pod).sessionKey ctx with
  | error err => exact Or.inl ⟨err, rfl, rfl⟩
  | ok sid =>
      refine Or.inr ⟨sid, rfl, ?_⟩
      cases arrives with
      | false =>
          refine ⟨rfl, ?_⟩
          intro n hn
          cases hn
      | true =>
          simp only [client, if_true]
          cases hlook : st.lookup (F.keyPrefix ++ sid) with
          | none =>
              refine ⟨rfl, ?_⟩
              intro n hn
              cases hn
          | some e =>
              simp only [Option.map_some]
              cases hread : F.platform.unmarshalNonce e.value with
              | error err =>
                  refine ⟨rfl, ?_⟩
                  intro n hn
                  cases hn
              | ok sn =>
                  refine ⟨rfl, ?_⟩
                  intro n hn
                  cases hn
                  exact ⟨e, rfl, hread⟩

/-- Nothing lost and nobody in between, the endpoint draws a nonce and has its
`SET` carried out, and answers with the text that was set. -/
theorem challenge_steps (F : Fleet κ) (h : Handler) {pod : Nat} {ctx : κ}
    {random : Nat → Except GoError Bytes} {now : Time} {nonce : ChallengeNonce}
    (hgenerator : h.generator = F.generator pod)
    (hgen : h.generator.generate random now = .ok nonce) (putNow : Time) (s : State κ) :
    let r := h.challenge ((F.pod pod).store F.platform (client s.clock true)) random now putNow
      ctx s.server
    let s' := step F (.execute 0) (step F (.challenge pod ctx random now) s)
    s'.server = r.2 ∧
      s'.sets = (match r.1 with
        | .ok text => [text]
        | .error _ => []) ++ s.sets := by
  have hdraw : step F (.challenge pod ctx random now) s =
      { s with drawn := ⟨pod, ctx, nonce⟩ :: s.drawn } := by
    simp only [step, ← hgenerator, hgen]
  simp only [hdraw]
  simp only [step, List.getElem?_cons_zero, Handler.challenge,
    ChallengeNonceGenerator.generateAndStoreNonce, hgen, RedisStore.Store.store,
    PutCall.put, RedisStore.Store.put]
  cases (F.pod pod).sessionKey ctx with
  | error err => exact ⟨rfl, rfl⟩
  | ok sid =>
      cases F.platform.marshalNonce ⟨nonce.base64EncodedNonce, nonce.issuedAt⟩ with
      | error err => exact ⟨rfl, rfl⟩
      | ok payload => exact ⟨rfl, rfl⟩

/-! ## The invariant -/

/-- The entry is the nonce of a call, under the key of the call's session. -/
def Written (F : Fleet κ) (c : PutCall κ) (key : String) (e : Entry) : Prop :=
  ∃ sid, c.session F = .ok sid ∧ key = F.keyPrefix ++ sid ∧
    F.platform.unmarshalNonce e.value = .ok ⟨c.text, c.nonce.issuedAt⟩

/-- How many logins got a nonce. -/
def State.gifts (s : State κ) (text : String) : Nat := (s.given.map Prod.snd).count text

/-- Every entry was written by a call, and every nonce given was drawn for the
session it went to. A nonce was given at most as often as it was set, and less
often as long as an entry for it is there. -/
structure Inv (F : Fleet κ) (s : State κ) : Prop where
  fresh : (s.drawn.map PutCall.text).Nodup
  json : ∀ c ∈ s.drawn, RoundTrips F.platform ⟨c.text, c.nonce.issuedAt⟩
  written : ∀ key e, s.server.lookup key = some e → ∃ c ∈ s.drawn, Written F c key e
  given : ∀ x ∈ s.given, ∃ c ∈ s.drawn, c.session F = .ok x.1 ∧ c.text = x.2
  bounded : ∀ text, s.gifts text ≤ s.sets.count text
  live : ∀ key e, s.server.lookup key = some e → ∀ c ∈ s.drawn, Written F c key e →
    s.gifts c.text < s.sets.count c.text

variable {s : State κ}

theorem Inv.call_unique (hi : Inv F s) {c c' : PutCall κ} (hc : c ∈ s.drawn) (hc' : c' ∈ s.drawn)
    (h : c.text = c'.text) : c = c' :=
  List.inj_on_of_nodup_map hi.fresh hc hc' h

/-- What is under a key decides whose it is. -/
theorem Written.text_eq {c c' : PutCall κ} {key key' : String} {e : Entry}
    (h : Written F c key e) (h' : Written F c' key' e) : c.text = c'.text := by
  obtain ⟨_, _, _, hread⟩ := h
  obtain ⟨_, _, _, hread'⟩ := h'
  exact congrArg StoredNonce.nonce (Except.ok.inj (hread.symm.trans hread'))

theorem inv_initial (clock : Uptime) : Inv F (initial clock : State κ) where
  fresh := List.nodup_nil
  json := fun _ h => nomatch h
  written := fun _ _ h => nomatch h
  given := fun _ h => nomatch h
  bounded := fun _ => Nat.le_refl 0
  live := fun _ _ h => nomatch h

theorem inv_challenge (hi : Inv F s) {pod : Nat} {ctx : κ} {random : Nat → Except GoError Bytes}
    {now : Time} (ha : allowed F s (.challenge pod ctx random now)) :
    Inv F (step F (.challenge pod ctx random now) s) := by
  simp only [step]
  cases hgen : (F.generator pod).generate random now with
  | error err => exact hi
  | ok nonce =>
      obtain ⟨hnew, hjson⟩ := ha nonce hgen
      refine { hi with fresh := ?_, json := ?_, written := ?_, given := ?_, live := ?_ }
      · rw [List.map_cons, List.nodup_cons]
        exact ⟨hnew, hi.fresh⟩
      · intro c hc
        rcases List.mem_cons.mp hc with rfl | hc
        · exact hjson
        · exact hi.json c hc
      · intro key e hlook
        obtain ⟨c, hc, hwritten⟩ := hi.written key e hlook
        exact ⟨c, List.mem_cons_of_mem _ hc, hwritten⟩
      · intro x hx
        obtain ⟨c, hc, hx⟩ := hi.given x hx
        exact ⟨c, List.mem_cons_of_mem _ hc, hx⟩
      · intro key e hlook c hc hwritten
        -- an entry from before is of a call from before, and its text is not new
        obtain ⟨c', hc', hwritten'⟩ := hi.written key e hlook
        rw [hwritten.text_eq hwritten']
        exact hi.live key e hlook c' hc' hwritten'

/-- A `SET` that is carried out: its call wrote the entry, and the command just
counted makes room for one login more. -/
theorem inv_set (hi : Inv F s) {c : PutCall κ} (hc : c ∈ s.drawn) {key : String}
    {e : Entry} (hnew : Written F c key e) :
    Inv F { s with server := s.server.insert key e, sets := c.text :: s.sets } := by
  have hmore : ∀ text, s.sets.count text ≤ (c.text :: s.sets).count text :=
    fun text => List.count_le_count_cons
  refine { hi with written := ?_, bounded := ?_, live := ?_ }
  · intro key' e' hlook
    by_cases hkey : key' = key
    · subst hkey
      rw [AList.lookup_insert] at hlook
      cases hlook
      exact ⟨c, hc, hnew⟩
    · rw [AList.lookup_insert_ne hkey] at hlook
      exact hi.written key' e' hlook
  · exact fun text => (hi.bounded text).trans (hmore text)
  · intro key' e' hlook c' hc' hwritten
    by_cases hkey : key' = key
    · subst hkey
      rw [AList.lookup_insert] at hlook
      cases hlook
      rw [hwritten.text_eq hnew]
      show s.gifts c.text < (c.text :: s.sets).count c.text
      rw [List.count_cons_self]
      exact Nat.lt_succ_of_le (hi.bounded c.text)
    · rw [AList.lookup_insert_ne hkey] at hlook
      exact (hi.live key' e' hlook c' hc' hwritten).trans_le (hmore c'.text)

theorem inv_execute (hi : Inv F s) (i : Nat) : Inv F (step F (.execute i) s) := by
  simp only [step]
  cases hget : s.drawn[i]? with
  | none => exact hi
  | some c =>
      have hc : c ∈ s.drawn := List.mem_of_getElem? hget
      rcases put_server (F := F) c s.clock s.server with
        ⟨err, hput⟩ | ⟨sid, payload, hsid, hmar, hput⟩
      · simp only [hput]
        exact hi
      · simp only [hput]
        obtain ⟨payload', hmar', hread⟩ := hi.json c hc
        rw [hmar] at hmar'
        cases hmar'
        exact inv_set hi hc ⟨sid, hsid, rfl, hread⟩

theorem inv_erase (hi : Inv F s) (key : String) : Inv F { s with server := s.server.erase key } :=
  { hi with
    written := fun key' e hlook => hi.written key' e (lookup_erase_some hlook)
    live := fun key' e hlook => hi.live key' e (lookup_erase_some hlook) }

/-- A login is given nothing, or the text of the call that wrote the entry it
took. -/
theorem giveTo_cases (hi : Inv F s) {sid : String} {res : Except GoError ChallengeNonce}
    (hfound : ∀ n, res = .ok n → ∃ e, s.server.lookup (F.keyPrefix ++ sid) = some e ∧
      F.platform.unmarshalNonce e.value = .ok ⟨n.base64EncodedNonce, n.issuedAt⟩) :
    giveTo (.ok sid) res = [] ∨
      ∃ c ∈ s.drawn, ∃ e, c.session F = .ok sid ∧
        s.server.lookup (F.keyPrefix ++ sid) = some e ∧ Written F c (F.keyPrefix ++ sid) e ∧
        giveTo (.ok sid) res = [(sid, c.text)] := by
  cases res with
  | error err => exact Or.inl rfl
  | ok n =>
      obtain ⟨e, hlook, hread⟩ := hfound n rfl
      obtain ⟨c, hc, hwritten⟩ := hi.written _ e hlook
      obtain ⟨sid', hsid', hkey, hread'⟩ := id hwritten
      have hntext : n.base64EncodedNonce = c.text :=
        congrArg StoredNonce.nonce (Except.ok.inj (hread.symm.trans hread'))
      obtain rfl : sid = sid' := (String.append_right_inj _).mp hkey
      exact Or.inr ⟨c, hc, e, hsid', hlook, hwritten, by rw [giveTo, hntext]⟩

/-- A nonce that is given out goes off the server with the key it was under. -/
theorem inv_give (hi : Inv F s) {c : PutCall κ} (hc : c ∈ s.drawn) {sid : String}
    (hsid : c.session F = .ok sid) {e : Entry}
    (hlook : s.server.lookup (F.keyPrefix ++ sid) = some e)
    (hwritten : Written F c (F.keyPrefix ++ sid) e) :
    Inv F { s with
      server := s.server.erase (F.keyPrefix ++ sid)
      given := [(sid, c.text)] ++ s.given } := by
  have hgifts : ∀ text, State.gifts { s with
      server := s.server.erase (F.keyPrefix ++ sid)
      given := [(sid, c.text)] ++ s.given } text =
        s.gifts text + if c.text = text then 1 else 0 := by
    intro text
    rw [State.gifts, State.gifts, List.singleton_append, List.map_cons, List.count_cons]
    simp only [beq_iff_eq]
  refine { inv_erase hi (F.keyPrefix ++ sid) with given := ?_, bounded := ?_, live := ?_ }
  · intro x hx
    rcases List.mem_cons.mp hx with rfl | hx
    · exact ⟨c, hc, hsid, rfl⟩
    · exact hi.given x hx
  · intro text
    rw [hgifts]
    split
    next htext => exact htext ▸ hi.live _ e hlook c hc hwritten
    next => exact hi.bounded text
  · intro key' e' hlook' c' hc' hwritten'
    rw [hgifts]
    split
    next htext =>
      -- the nonce just given was under this one key
      obtain rfl : c = c' := hi.call_unique hc hc' htext
      obtain ⟨sid', hsid', hkey', -⟩ := hwritten'
      rw [hsid] at hsid'
      cases hsid'
      rw [hkey', AList.lookup_erase] at hlook'
      cases hlook'
    next => exact hi.live key' e' (lookup_erase_some hlook') c' hc' hwritten'

theorem inv_take (hi : Inv F s) (pod : Nat) (ctx : κ) (arrives : Bool) :
    Inv F (step F (.take pod ctx arrives) s) := by
  simp only [step]
  rcases take_server (F := F) pod ctx s.clock arrives s.server with
    ⟨err, hsid, hres⟩ | ⟨sid, hsid, hserver, hfound⟩
  · rw [hres, hsid]
    exact hi
  · rw [hserver, hsid]
    rcases giveTo_cases hi hfound with hnone | ⟨c, hc, e, hcsid, hlook, hwritten, hgive⟩
    · rw [hnone]
      exact inv_erase hi _
    · rw [hgive]
      exact inv_give hi hc hcsid hlook hwritten

theorem inv_evict (hi : Inv F s) (key : String) : Inv F (step F (.evict key) s) := by
  simp only [step, evict]
  split
  next => exact hi
  next =>
    split
    next => exact inv_erase hi key
    next => exact hi

theorem inv_reach (hs : (machine F).Reach s) : Inv F s := by
  refine hs.invariant ?_ ?_
  · intro s₀ hinit
    obtain ⟨clock, rfl⟩ := hinit
    exact inv_initial clock
  · intro s₁ a hi ha
    cases a with
    | challenge pod ctx random now => exact inv_challenge hi ha
    | execute i => exact inv_execute hi i
    | take pod ctx arrives => exact inv_take hi pod ctx arrives
    | evict key => exact inv_evict hi key
    | advance d => exact { hi with }

/-- Over every run of any number of pods, with replies lost and commands carried
out late and more than once: a login is given a nonce that was drawn for its
session and for no other, and a nonce goes to as many logins at most as its
`SET` was carried out times. So where every nonce is set once it is given
once. -/
theorem nonce_given_per_set (F : Fleet κ) {s : State κ} (hs : (machine F).Reach s) :
    (∀ x ∈ s.given, ∃ c ∈ s.drawn, c.session F = .ok x.1 ∧ c.text = x.2 ∧
        ∀ c' ∈ s.drawn, c'.text = x.2 → c' = c) ∧
      (∀ text, (s.given.map Prod.snd).count text ≤ s.sets.count text) ∧
      (s.sets.Nodup → (s.given.map Prod.snd).Nodup) := by
  have hi := inv_reach hs
  refine ⟨?_, hi.bounded, ?_⟩
  · intro x hx
    obtain ⟨c, hc, hsession, htext⟩ := hi.given x hx
    refine ⟨c, hc, hsession, htext, ?_⟩
    intro c' hc' htext'
    exact hi.call_unique hc' hc (htext'.trans htext.symm)
  · intro honce
    rw [List.nodup_iff_count_le_one]
    exact fun text => (hi.bounded text).trans (List.nodup_iff_count_le_one.mp honce text)

/-! ## A run

A `SET` that was not heard of is sent again, and the first of the two arrives
when the second has been answered and another pod's login has taken the
nonce. -/

namespace Run

def buf : Bytes := List.replicate 32 0

def text : String := Base64.stdEncoding.encodeToString buf

def fleet : Fleet String where
  platform :=
    { Platform.refusing with
      marshalNonce := fun _ => .ok [0]
      unmarshalNonce := fun _ => .ok ⟨text, ⟨0⟩⟩ }
  pod := fun _ => RedisStore.new .ok 5 []
  generator := fun _ => ⟨32⟩
  keyPrefix := "webeid:nonce:"
  shared := fun _ => rfl

def challenge : Action String := .challenge 0 "a" (fun _ => .ok buf) ⟨0⟩

/-- Two logins on two pods, before and after the late command. -/
def taken : State String :=
  [challenge, .execute 0, .take 1 "a" true, .take 0 "a" true].foldl
    (fun s a => step fleet a s) (initial .zero)

def final : State String :=
  [.execute 0, .take 0 "a" true].foldl (fun s a => step fleet a s) taken

theorem reach_taken : (machine fleet).Reach taken := by
  have hstart : (machine fleet).Reach (initial .zero) := .init ⟨_, rfl⟩
  have hdrawn : (machine fleet).Reach _ := hstart.step (a := challenge) (by
    intro nonce hgen
    cases hgen
    exact ⟨List.not_mem_nil, [0], rfl, rfl⟩)
  exact ((hdrawn.step (a := Action.execute 0) trivial).step
    (a := Action.take 1 "a" true) trivial).step (a := Action.take 0 "a" true) trivial

theorem reach_final : (machine fleet).Reach final :=
  (reach_taken.step (a := Action.execute 0) trivial).step (a := Action.take 0 "a" true) trivial

end Run

open Run in
/-- The nonce is given once until the command is repeated, and then once
more. -/
theorem nonce_given_per_set_late :
    taken.given = [("a", text)] ∧ (taken.given.map Prod.snd).Nodup ∧
      final.given = [("a", text), ("a", text)] ∧
      (final.given.map Prod.snd).count text ≤ final.sets.count text ∧
      final.sets.count text = 2 := by
  have hset : taken.sets = [text] := by decide +kernel
  refine ⟨by decide +kernel, (nonce_given_per_set fleet reach_taken).2.2 ?_, by decide +kernel,
    (nonce_given_per_set fleet reach_final).2.1 text, by decide +kernel⟩
  rw [hset]
  exact List.nodup_singleton text

end WebEid.Cluster
