import Mathlib.Data.List.Infix
import Mathlib.Data.List.Perm.Subperm
import WebEid.Proofs.SessionIsolation

/-!
# What a service leaves in its store

* **In the process** (`memory_bounded`). The store has no timer: a nonce nobody
  logs in with stays until some `Put` sweeps it out. So the memory is bounded
  not by the time but by the last challenge answered: what is there was put
  within the lifetime before that, or by it. No assumption on the clock goes
  into this.

* **On a Redis server** (`tenants_isolated`). Services that share a server are
  told apart by the key namespace alone. Theirs are disjoint exactly when
  neither name begins with the other, and then no service notices the other or
  what becomes of its keys, whatever the session ids are.
-/

namespace WebEid.StoreFootprint

open Lib Exceptions Azugo SessionIsolation

/-! ## The in-process store -/

section Memory

variable (P : Platform) (site : Site)

/-- The store after a run of requests. -/
def run (reqs : List Request) : InMemoryStore Context :=
  site.serveAll P InMemoryStore.store reqs (newSessionStore site.handler.config)

/-- Of all that was put, what a sweep at the last `Put` leaves. -/
def kept (ttl : Duration) (puts : List (ChallengeNonce × Time)) : List ChallengeNonce :=
  match puts.getLast? with
  | none => []
  | some (nonce, now) => nonce :: (puts.dropLast.map Prod.fst).filter fun n => !n.expired now ttl

/-- The nonces in the store. -/
def nonces (st : InMemoryStore Context) : List ChallengeNonce := st.entries.entries.map Sigma.snd

end Memory

/-- After a `Put` there is its nonce, and what was there unexpired. -/
theorem nonces_put {st : InMemoryStore Context} {ctx : Context} {key : String}
    (hkey : st.sessionKey ctx = .ok key) (now : Time) (n : ChallengeNonce) :
    (nonces (InMemoryStore.put now ctx n st).2).Subperm
      (n :: (nonces st).filter fun m => !m.expired now st.ttl) := by
  have hsub : (InMemoryStore.put now ctx n st).2.entries.entries ⊆
      ⟨key, n⟩ :: st.entries.entries.filter fun e => !e.2.expired now st.ttl := by
    intro e he
    have hlook := AList.mem_lookup_iff.mpr he
    rw [Option.mem_def, InMemoryStore.lookup_put hkey] at hlook
    split at hlook
    next hk =>
      obtain ⟨k, m⟩ := e
      cases hlook
      cases hk
      exact List.mem_cons_self
    next =>
      obtain ⟨hold, hfresh⟩ := Option.filter_eq_some_iff.mp hlook
      exact List.mem_cons_of_mem _
        (List.mem_filter.mpr ⟨AList.mem_lookup_iff.mp hold, hfresh⟩)
  obtain ⟨l, hperm, hl⟩ := List.subperm_of_subset (AList.nodupKeys _).nodup hsub
  refine ⟨l.map Sigma.snd, hperm.map _, ?_⟩
  rw [nonces, List.filter_map]
  exact hl.map Sigma.snd

theorem nonces_getAndRemove (ctx : Context) (st : InMemoryStore Context) :
    (nonces (InMemoryStore.getAndRemove ctx st).2).Sublist (nonces st) := by
  rw [InMemoryStore.getAndRemove]
  split
  next => exact List.Sublist.refl _
  next key hkey =>
    split
    next => exact List.Sublist.refl _
    next n hn => exact (List.kerase_sublist key st.entries.entries).map Sigma.snd

theorem kept_append (ttl : Duration) (puts : List (ChallengeNonce × Time)) (n : ChallengeNonce)
    (now : Time) :
    kept ttl (puts ++ [(n, now)]) =
      n :: (puts.map Prod.fst).filter fun m => !m.expired now ttl := by
  rw [kept, List.getLast?_concat, List.dropLast_concat]

theorem kept_subperm (ttl : Duration) (puts : List (ChallengeNonce × Time)) :
    (kept ttl puts).Subperm (puts.map Prod.fst) := by
  induction puts using List.reverseRecOn with
  | nil => exact List.Subperm.refl _
  | append_singleton puts p _ =>
      obtain ⟨n, now⟩ := p
      rw [kept_append, List.map_append, List.map_singleton]
      refine List.Subperm.trans ?_ (List.perm_append_singleton n _).symm.subperm
      exact (List.filter_sublist.cons_cons n).subperm

/-- The invariant of the run: the store is one of the site's, with the lifetime
it was made with, and holds nothing the last `Put` would have swept. -/
structure Swept (P : Platform) (site : Site) (reqs : List Request)
    (st : InMemoryStore Context) : Prop where
  store : StoreOf site st
  ttl : st.ttl = (newSessionStore site.handler.config).ttl
  nonces : (nonces st).Subperm
    (kept (newSessionStore site.handler.config).ttl (reqs.filterMap (putOf P site)))

theorem run_swept (P : Platform) (site : Site) (reqs : List Request) :
    Swept P site reqs (run P site reqs) := by
  induction reqs using List.reverseRecOn with
  | nil => exact ⟨storeOf_newSessionStore site, rfl, List.Subperm.refl _⟩
  | append_singleton reqs req ih =>
      rw [run, Site.serveAll, List.foldl_concat, ← Site.serveAll, ← run]
      -- a request without a `Put` adds nothing to what was put
      have hputs (hput : putOf P site req = none) :
          (reqs ++ [req]).filterMap (putOf P site) = reqs.filterMap (putOf P site) := by
        rw [List.filterMap_append, List.filterMap_cons_none hput, List.filterMap_nil,
          List.append_nil]
      rcases serve_store P req ih.store with
        ⟨hput, hserve⟩ | ⟨sid, -, ⟨n, hput, hkey, hserve⟩ | ⟨hput, hserve⟩⟩
      · rw [hserve]
        exact ⟨ih.store, ih.ttl, hputs hput ▸ ih.nonces⟩
      · rw [hserve]
        refine ⟨ih.store.put _ _ _, by rw [InMemoryStore.put_ttl, ih.ttl], ?_⟩
        rw [List.filterMap_append, List.filterMap_cons_some hput, List.filterMap_nil, kept_append]
        refine (nonces_put (ih.store.key ▸ hkey) _ n).trans ?_
        rw [ih.ttl, List.subperm_cons]
        exact (ih.nonces.trans (kept_subperm _ _)).filter _
      · rw [hserve]
        refine ⟨ih.store.getAndRemove _, by rw [InMemoryStore.getAndRemove_ttl, ih.ttl], ?_⟩
        rw [hputs hput]
        exact (nonces_getAndRemove _ _).subperm.trans ih.nonces

/-- After any run of requests the store holds at most the nonce of the last
challenge that reached it, and those put before it that had not expired when it
was put: these are the nonces it holds, and so many are its entries at most.
Without such a challenge the store is empty. -/
theorem memory_bounded (P : Platform) (site : Site) (reqs : List Request) :
    (nonces (run P site reqs)).Subperm
        (kept (newSessionStore site.handler.config).ttl (reqs.filterMap (putOf P site))) ∧
      (run P site reqs).entries.entries.length ≤
        match (reqs.filterMap (putOf P site)).getLast? with
        | none => 0
        | some (_, now) => 1 + (reqs.filterMap (putOf P site)).dropLast.countP fun p =>
            !p.1.expired now (newSessionStore site.handler.config).ttl := by
  have hswept := (run_swept P site reqs).nonces
  refine ⟨hswept, ?_⟩
  have hlen := hswept.length_le
  rw [nonces, List.length_map] at hlen
  refine Nat.le_trans hlen ?_
  rw [kept]
  split
  next => exact Nat.le_refl 0
  next n now _ =>
    rw [List.length_cons, ← List.countP_eq_length_filter, List.countP_map, Nat.add_comm]
    exact Nat.le_refl _

/-! ## Services on one Redis server -/

section Tenants

open NonceStores (Server client evict)

theorem foldl_withKeyPrefix {κ : Type} (opts : List String) (s : RedisStore.Store κ) :
    (opts.foldl RedisStore.withKeyPrefix s).keyPrefix =
      (opts.filter (· ≠ "")).getLast?.getD s.keyPrefix := by
  induction opts generalizing s with
  | nil => rfl
  | cons p opts ih =>
      rw [List.foldl_cons, ih]
      by_cases hp : p = ""
      · rw [List.filter_cons_of_neg (by simp [hp]), RedisStore.withKeyPrefix, if_neg (by simp [hp])]
      · rw [List.filter_cons_of_pos (by simp [hp]), RedisStore.withKeyPrefix, if_pos hp,
          List.getLast?_cons]
        rfl

/-- Neither name begins with the other. -/
def Apart (p q : String) : Prop := ¬ p.toList <+: q.toList ∧ ¬ q.toList <+: p.toList

theorem slots_disjoint_iff (a b : RedisStore.Store Context) :
    (∀ sid sid', slot a sid ≠ slot b sid') ↔ Apart a.keyPrefix b.keyPrefix := by
  refine ⟨?_, ?_⟩
  · intro hne
    refine ⟨?_, ?_⟩
    · intro hpre
      obtain ⟨rest, hrest⟩ := hpre
      refine hne (String.ofList rest) "" (String.toList_inj.mp ?_)
      simp [slot, hrest]
    · intro hpre
      obtain ⟨rest, hrest⟩ := hpre
      refine hne "" (String.ofList rest) (String.toList_inj.mp ?_)
      simp [slot, hrest]
  · intro hapart sid sid' heq
    have hlist := congrArg String.toList heq
    simp only [slot, String.toList_append] at hlist
    rcases List.prefix_or_prefix_of_prefix (List.prefix_append a.keyPrefix.toList sid.toList)
      (hlist ▸ List.prefix_append b.keyPrefix.toList sid'.toList) with hpre | hpre
    · exact hapart.1 hpre
    · exact hapart.2 hpre

/-- A service, and what its store is made with. -/
structure Tenant where
  site : Site
  ttl : Duration
  keyPrefixes : List String

namespace Tenant

def store (a : Tenant) : RedisStore.Store Context := RedisStore.new sessionKey a.ttl a.keyPrefixes

/-- The last name that is not empty counts. -/
def keySpace (a : Tenant) : String :=
  (a.keyPrefixes.filter (· ≠ "")).getLast?.getD RedisStore.defaultKeyPrefix

theorem store_sessionKey (a : Tenant) : a.store.sessionKey = sessionKey := new_sessionKey _ _ _

theorem store_keyPrefix (a : Tenant) : a.store.keyPrefix = a.keySpace := foldl_withKeyPrefix _ _

end Tenant

variable (P : Platform) (a b : Tenant)

/-- An event of the first service, or of the second. -/
def serveTenants : Bool × Event → Server → Option Response × Server
  | (true, ev), st => serveRedis P a.site a.store ev st
  | (false, ev), st => serveRedis P b.site b.store ev st

/-- The requests of the first service, and the server dropping a key in its
namespace. -/
def ofFirst : Bool × Event → Bool
  | (mine, .request _ _) => mine
  | (_, .evict _ key) => Go.hasPrefix key a.keySpace

variable {P a b}

/-- The keys of a service are in its namespace. -/
theorem hasPrefix_slot (a : Tenant) (sid : String) :
    Go.hasPrefix (slot a.store sid) a.keySpace = true := by
  rw [slot, a.store_keyPrefix]
  exact Go.hasPrefix_iff.mpr ⟨sid, String.toList_append⟩

/-- It does not matter whose event the dropping of a key is. -/
theorem serveTenants_evict (mine : Bool) (clock : Uptime) (key : String) (st : Server) :
    serveTenants P a b (mine, .evict clock key) st = (none, evict clock key st) := by
  cases mine <;> rfl

theorem unwinding_tenants (hdisjoint : ∀ sid sid', slot a.store sid ≠ slot b.store sid') :
    Unwinding (ofFirst a) (serveTenants P a b) id (fun _ _ => True)
      (fun _ s t => ∀ sid, s.lookup (slot a.store sid) = t.lookup (slot a.store sid)) where
  own := by
    intro _ ev s t hmine _ h
    obtain ⟨mine, ev⟩ := ev
    cases ev with
    | evict clock key =>
        rw [id, serveTenants_evict, serveTenants_evict]
        exact ⟨rfl, fun sid => by rw [lookup_evict, lookup_evict, h]⟩
    | request clock req =>
        obtain rfl : mine = true := hmine
        have hagree : ∀ key, (∃ sid, key = slot a.store sid) → s.lookup key = t.lookup key := by
          rintro key ⟨sid, rfl⟩
          exact h sid
        obtain ⟨hresp, hkeys⟩ := request_congr P a.site a.store_sessionKey clock req
          (fun key => ∃ sid, key = slot a.store sid) (fun sid _ => ⟨sid, rfl⟩) hagree
        exact ⟨hresp, fun sid => hkeys _ ⟨sid, rfl⟩⟩
  other := by
    intro _ ev s t hmine _ h
    obtain ⟨mine, ev⟩ := ev
    cases ev with
    | evict clock key =>
        have hne : ∀ sid, key ≠ slot a.store sid := by
          rintro sid rfl
          rw [ofFirst, hasPrefix_slot] at hmine
          cases hmine
        intro sid
        rw [serveTenants_evict, lookup_evict, if_neg (hne sid)]
        exact h sid
    | request clock req =>
        obtain rfl : mine = false := hmine
        intro sid
        exact (request_frame P b.site b.store_sessionKey clock req
          (fun sid' _ => hdisjoint sid sid') s).trans (h sid)

/-- Two services on one server: their keys never meet exactly when neither
namespace begins with the other, and then the first is answered as if the
second did not exist. -/
theorem tenants_isolated (P : Platform) (a b : Tenant) :
    ((∀ sid sid', slot a.store sid ≠ slot b.store sid') ↔ Apart a.keySpace b.keySpace) ∧
    (Apart a.keySpace b.keySpace → ∀ (events : List (Bool × Event)) (st : Server),
      answersOf (ofFirst a) (serveTenants P a b) events st =
        answers (serveTenants P a b) (events.filter (ofFirst a)) st) := by
  have hslots := slots_disjoint_iff a.store b.store
  rw [a.store_keyPrefix, b.store_keyPrefix] at hslots
  refine ⟨hslots, ?_⟩
  intro hapart events st
  have hrun := (unwinding_tenants (P := P) (hslots.mpr hapart)).isolated events
    (List.pairwise_of_forall fun _ _ => trivial) st (fun _ => rfl)
  rwa [List.map_id, List.map_id] at hrun

/-! A service that keeps to the default, and one that was named twice. -/

def defaultTenant : Tenant := ⟨sampleSite, 300000000000, []⟩

def namedTenant : Tenant := ⟨sampleSite, 60000000000, ["first:", "second:", ""]⟩

theorem tenants_isolated_named :
    Apart defaultTenant.keySpace namedTenant.keySpace ∧
      ∀ (P : Platform) (events : List (Bool × Event)) (st : Server),
        answersOf (ofFirst defaultTenant) (serveTenants P defaultTenant namedTenant) events st =
          answers (serveTenants P defaultTenant namedTenant)
            (events.filter (ofFirst defaultTenant)) st := by
  have hapart : Apart defaultTenant.keySpace namedTenant.keySpace := ⟨by decide, by decide⟩
  exact ⟨hapart, fun P => (tenants_isolated P _ _).2 hapart⟩

end Tenants

end WebEid.StoreFootprint
