import WebEid.Lib.Machine
import WebEid.Ref.Handler

/-!
# The trusted set over the life of a process

Handlers are built, their trust is reloaded from a source that may be missing,
unreadable, empty or malformed, and stores are reloaded directly; every one of
these can fail at several depths. The system below runs any sequence of them
over any sequence of source contents and keeps a ledger beside the stores: the
certificates of each load that succeeded, and the store they went to.

The ledger is the abstract side. What a store ought to hold is the last entry
made for it, or nothing (`effective`), and the invariant says that every store
holds exactly the snapshot of that (`Inv.stores`). That the validator and the
signer of a handler agree is wiring: they were given one place to look
(`Inv.handlers`).

The count `ReloadTrust` returns is the one part that does not hold for every
source. A pool takes a certificate once however often it is listed, and the
count is taken from the list: it is the size of the set in effect exactly when
the source lists no certificate twice.
-/

namespace WebEid.TrustLifecycle

open Lib Exceptions Azugo

/-- The successful loads, latest first. -/
abbrev Ledger := List (StoreRef × List Certificate)

/-- The certificates of the last successful load of a store. -/
def effective (ledger : Ledger) (ref : StoreRef) : List Certificate :=
  (ledger.lookup ref).getD []

structure Sys where
  stores : List TrustSnapshot
  handlers : List Handler
  ledger : Ledger

def Sys.load (s : Sys) (ref : StoreRef) (cas : List Certificate) : Sys :=
  { s with
    stores := s.stores.set ref (newTrustSnapshot cas)
    ledger := (ref, cas) :: s.ledger }

inductive Action where
  | construct (cfg : Configuration) (opts : List HandlerOption) (source : Source)
  | reloadTrust (i : Nat) (source : Source)
  | reload (ref : StoreRef) (cas : List Certificate)

inductive Outcome where
  | built (h : Handler)
  | count (n : Nat)
  | done

/-- The ledger after a load of the source that was put into effect. -/
def record (P : Platform) (path : String) (source : Source) (ref : StoreRef)
    (ledger : Ledger) : Ledger :=
  match loadTrustedCAs P path source with
  | .error _ => ledger
  | .ok cas => (ref, cas) :: ledger

def exec (P : Platform) (a : Action) (s : Sys) : Except GoError Outcome × Sys :=
  match a with
  | .construct cfg opts source =>
      match Azugo.new P cfg opts source s.stores with
      | .error err => (.error err, s)
      | .ok (h, stores) =>
          (.ok (.built h),
            { stores := stores
              handlers := s.handlers ++ [h]
              ledger := record P cfg.trustedCACertsPath source h.trust s.ledger })
  | .reloadTrust i source =>
      match s.handlers[i]? with
      | none => (.ok .done, s)
      | some h =>
          match h.reloadTrust P source s.stores with
          | (.error err, stores) => (.error err, { s with stores := stores })
          | (.ok n, stores) =>
              (.ok (.count n),
                { s with
                  stores := stores
                  ledger := record P h.config.trustedCACertsPath source h.trust s.ledger })
  | .reload ref cas =>
      match reloadStore ref cas s.stores with
      | (.error err, stores) => (.error err, { s with stores := stores })
      | (.ok (), stores) =>
          (.ok .done, { s with stores := stores, ledger := (ref, cas) :: s.ledger })

/-- A store that is reloaded exists. -/
def allowed (s : Sys) : Action → Prop
  | .reload ref _ => ref < s.stores.length
  | _ => True

def machine (P : Platform) : Machine Sys Action where
  init := fun s => s = ⟨[], [], []⟩
  allowed := allowed
  step := fun a s => (exec P a s).2

/-- The runs that go on from a state. -/
def machineFrom (P : Platform) (s₀ : Sys) : Machine Sys Action :=
  { machine P with init := fun s => s = s₀ }

/-! ## Loads -/

theorem reload_ok {cas : List Certificate} {snap : TrustSnapshot}
    (h : TrustStore.reload cas = .ok snap) : cas ≠ [] ∧ snap = newTrustSnapshot cas := by
  unfold TrustStore.reload at h
  split at h
  · cases h
  · next hne =>
      cases h
      exact ⟨by simpa using hne, rfl⟩

/-- A new handler starts with what it loaded, or with nothing. -/
theorem initialTrust_ok {P : Platform} {cfg : Configuration} {runtimeTrust : Bool}
    {source : Source} {snap : TrustSnapshot}
    (h : initialTrust P cfg runtimeTrust source = .ok snap) :
    (∃ cas, loadTrustedCAs P cfg.trustedCACertsPath source = .ok cas ∧ cas ≠ [] ∧
        snap = newTrustSnapshot cas) ∨
      (∃ err, loadTrustedCAs P cfg.trustedCACertsPath source = .error err) ∧
        snap = newTrustSnapshot [] := by
  unfold initialTrust at h
  split at h
  · next cas hload =>
      obtain ⟨hne, hsnap⟩ := reload_ok h
      exact Or.inl ⟨cas, hload, hne, hsnap⟩
  · next err hload =>
      split at h
      · cases h
        exact Or.inr ⟨⟨err, hload⟩, rfl⟩
      · cases h

theorem reloadStore_error {ref : StoreRef} {cas : List Certificate} {err : GoError}
    {stores stores' : List TrustSnapshot}
    (h : reloadStore ref cas stores = (.error err, stores')) : stores' = stores := by
  unfold reloadStore at h
  split at h
  · exact (Prod.mk.inj h).2.symm
  · cases h

theorem reloadStore_ok {ref : StoreRef} {cas : List Certificate}
    {stores stores' : List TrustSnapshot}
    (h : reloadStore ref cas stores = (.ok (), stores')) :
    cas ≠ [] ∧ stores' = stores.set ref (newTrustSnapshot cas) := by
  unfold reloadStore at h
  split at h
  · cases h
  · next snap hsnap =>
      obtain ⟨hne, rfl⟩ := reload_ok hsnap
      exact ⟨hne, (Prod.mk.inj h).2.symm⟩

theorem reloadTrust_error {P : Platform} {h : Handler} {source : Source} {err : GoError}
    {stores stores' : List TrustSnapshot}
    (hr : h.reloadTrust P source stores = (.error err, stores')) : stores' = stores := by
  unfold Handler.reloadTrust at hr
  split at hr
  · exact (Prod.mk.inj hr).2.symm
  · split at hr
    · next hstore =>
        obtain ⟨_, rfl⟩ := Prod.mk.inj hr
        exact reloadStore_error hstore
    · cases hr

theorem reloadTrust_ok {P : Platform} {h : Handler} {source : Source} {n : Nat}
    {stores stores' : List TrustSnapshot}
    (hr : h.reloadTrust P source stores = (.ok n, stores')) :
    ∃ cas, loadTrustedCAs P h.config.trustedCACertsPath source = .ok cas ∧ cas ≠ [] ∧
      n = cas.length ∧ stores' = stores.set h.trust (newTrustSnapshot cas) := by
  unfold Handler.reloadTrust at hr
  split at hr
  · cases hr
  · next cas hload =>
      split at hr
      · cases hr
      · next hstore =>
          obtain ⟨hne, hset⟩ := reloadStore_ok hstore
          cases hr
          exact ⟨cas, hload, hne, rfl, hset⟩

/-! ## The invariant -/

structure Inv (s : Sys) : Prop where
  stores : ∀ ref snap, s.stores[ref]? = some snap →
    snap = newTrustSnapshot (effective s.ledger ref)
  ledger : ∀ e ∈ s.ledger, e.1 < s.stores.length ∧ e.2 ≠ []
  handlers : ∀ h ∈ s.handlers, h.trust < s.stores.length ∧ h.validator.trust = h.trust ∧
    h.signer.trust = some h.trust

theorem effective_cons_self (ref : StoreRef) (cas : List Certificate) (ledger : Ledger) :
    effective ((ref, cas) :: ledger) ref = cas := by
  rw [effective, List.lookup_cons_self]
  rfl

theorem effective_cons_ne {ref ref' : StoreRef} (hne : ref' ≠ ref) (cas : List Certificate)
    (ledger : Ledger) : effective ((ref, cas) :: ledger) ref' = effective ledger ref' := by
  have hbeq : (ref' == ref) = false := by simpa using hne
  rw [effective, List.lookup_cons, hbeq]
  rfl

/-- A store no load went to is to hold nothing. -/
theorem effective_eq_nil {ledger : Ledger} {ref : StoreRef} (h : ∀ e ∈ ledger, e.1 ≠ ref) :
    effective ledger ref = [] := by
  induction ledger with
  | nil => rfl
  | cons e ledger ih =>
      obtain ⟨ref', cas⟩ := e
      have hne : ref' ≠ ref := h (ref', cas) (by simp)
      rw [effective_cons_ne hne.symm]
      exact ih fun e he => h e (by simp [he])

theorem inv_load {s : Sys} (hi : Inv s) {ref : StoreRef} {cas : List Certificate}
    (href : ref < s.stores.length) (hne : cas ≠ []) :
    Inv (s.load ref cas) := by
  refine ⟨?_, ?_, ?_⟩
  · intro ref' snap hsnap
    rw [Sys.load, List.getElem?_set] at hsnap
    show snap = newTrustSnapshot (effective ((ref, cas) :: s.ledger) ref')
    split at hsnap
    · next heq =>
        subst heq
        cases hsnap
        rw [effective_cons_self]
    · next hneq =>
        rw [effective_cons_ne (Ne.symm hneq)]
        exact hi.stores ref' snap hsnap
  · intro e he
    show e.1 < (s.stores.set ref _).length ∧ _
    rw [List.length_set]
    rcases List.mem_cons.mp he with rfl | he
    · exact ⟨href, hne⟩
    · exact hi.ledger e he
  · intro h hh
    show h.trust < (s.stores.set ref _).length ∧ _
    rw [List.length_set]
    exact hi.handlers h hh

/-- A store allocated empty: no load went to it yet. -/
theorem inv_alloc {s : Sys} (hi : Inv s) :
    Inv { s with stores := s.stores ++ [newTrustSnapshot []] } := by
  have hlen : (s.stores ++ [newTrustSnapshot []]).length = s.stores.length + 1 := by simp
  refine ⟨?_, ?_, ?_⟩
  · intro ref snap hsnap
    have hlt := (List.getElem?_eq_some_iff.mp hsnap).1
    rw [hlen] at hlt
    rcases Nat.lt_succ_iff_lt_or_eq.mp hlt with hlt | rfl
    · rw [List.getElem?_append_left hlt] at hsnap
      exact hi.stores ref snap hsnap
    · rw [List.getElem?_concat_length] at hsnap
      cases hsnap
      rw [effective_eq_nil fun e he => Nat.ne_of_lt (hi.ledger e he).1]
  · intro e he
    rw [hlen]
    exact ⟨Nat.lt_succ_of_lt (hi.ledger e he).1, (hi.ledger e he).2⟩
  · intro h hh
    rw [hlen]
    exact ⟨Nat.lt_succ_of_lt (hi.handlers h hh).1, (hi.handlers h hh).2⟩

theorem inv_addHandler {s : Sys} (hi : Inv s) {h : Handler} (hlt : h.trust < s.stores.length)
    (hval : h.validator.trust = h.trust) (hsigner : h.signer.trust = some h.trust) :
    Inv { s with handlers := s.handlers ++ [h] } := by
  refine { hi with handlers := ?_ }
  intro h' hh'
  rcases List.mem_append.mp hh' with hh' | hh'
  · exact hi.handlers h' hh'
  · obtain rfl := List.mem_singleton.mp hh'
    exact ⟨hlt, hval, hsigner⟩

/-- A construction allocates a store, loads it if it can, and adds a handler
that reads it. -/
theorem inv_construct {P : Platform} {s : Sys} (hi : Inv s) {cfg : Configuration}
    {opts : List HandlerOption} {source : Source} {h : Handler}
    {stores : List TrustSnapshot}
    (hnew : Azugo.new P cfg opts source s.stores = .ok (h, stores)) :
    Inv { stores := stores
          handlers := s.handlers ++ [h]
          ledger := record P cfg.trustedCACertsPath source h.trust s.ledger } := by
  obtain ⟨snap, hinit, rfl, htrust, hval, hsigner, _⟩ := new_ok hnew
  rw [← htrust] at hval hsigner
  have halloc := inv_alloc hi
  have hlt : h.trust < (s.stores ++ [newTrustSnapshot []]).length := by simp [htrust]
  rcases initialTrust_ok hinit with ⟨cas, hload, hne, rfl⟩ | ⟨⟨err, hload⟩, rfl⟩
  · have hset : (s.stores ++ [newTrustSnapshot []]).set h.trust (newTrustSnapshot cas) =
        s.stores ++ [newTrustSnapshot cas] := by simp [htrust]
    have hloaded := inv_load halloc hlt hne
    rw [Sys.load, hset] at hloaded
    rw [record, hload]
    refine inv_addHandler hloaded ?_ hval hsigner
    simp [htrust]
  · rw [record, hload]
    exact inv_addHandler halloc hlt hval hsigner

/-! ## What one call does -/

inductive Effect (P : Platform) (s : Sys) : Action → Except GoError Outcome × Sys → Prop
  | refused (a : Action) (err : GoError) : Effect P s a (.error err, s)
  | noHandler (i : Nat) (source : Source) : Effect P s (.reloadTrust i source) (.ok .done, s)
  | built {cfg : Configuration} {opts : List HandlerOption} {source : Source} {h : Handler}
      {stores : List TrustSnapshot}
      (hnew : Azugo.new P cfg opts source s.stores = .ok (h, stores)) :
      Effect P s (.construct cfg opts source) (.ok (.built h),
        ⟨stores, s.handlers ++ [h], record P cfg.trustedCACertsPath source h.trust s.ledger⟩)
  | reloaded {i : Nat} {source : Source} {h : Handler} {cas : List Certificate}
      (hget : s.handlers[i]? = some h)
      (hload : loadTrustedCAs P h.config.trustedCACertsPath source = .ok cas) (hne : cas ≠ []) :
      Effect P s (.reloadTrust i source) (.ok (.count cas.length), s.load h.trust cas)
  | replaced {ref : StoreRef} {cas : List Certificate} (hne : cas ≠ []) :
      Effect P s (.reload ref cas) (.ok .done, s.load ref cas)

theorem exec_effect (P : Platform) (a : Action) (s : Sys) : Effect P s a (exec P a s) := by
  cases a with
  | construct cfg opts source =>
      rw [exec]
      cases hnew : Azugo.new P cfg opts source s.stores with
      | error err => exact .refused _ err
      | ok p => exact .built hnew
  | reloadTrust i source =>
      rw [exec]
      cases hget : s.handlers[i]? with
      | none => exact .noHandler i source
      | some h =>
          simp only []
          rcases hr : h.reloadTrust P source s.stores with ⟨err | n, stores⟩
          · obtain rfl := reloadTrust_error hr
            exact .refused _ err
          · obtain ⟨cas, hload, hne, rfl, rfl⟩ := reloadTrust_ok hr
            simp only [record, hload]
            exact .reloaded hget hload hne
  | reload ref cas =>
      rw [exec]
      rcases hr : reloadStore ref cas s.stores with ⟨err | _, stores⟩
      · obtain rfl := reloadStore_error hr
        exact .refused _ err
      · obtain ⟨hne, rfl⟩ := reloadStore_ok hr
        exact .replaced hne

theorem inv_exec {P : Platform} {s : Sys} (hi : Inv s) {a : Action} (ha : allowed s a) :
    Inv (exec P a s).2 := by
  have heffect := exec_effect P a s
  generalize exec P a s = p at heffect ⊢
  cases heffect with
  | refused | noHandler => exact hi
  | built hnew => exact inv_construct hi hnew
  | reloaded hget hload hne =>
      exact inv_load hi (hi.handlers _ (List.mem_of_getElem? hget)).1 hne
  | replaced hne => exact inv_load hi ha hne

theorem inv_reach {P : Platform} {s : Sys} (hs : (machine P).Reach s) : Inv s := by
  refine Machine.Reach.invariant ?_ ?_ hs
  · rintro s₀ rfl
    refine ⟨?_, ?_, ?_⟩
    · intro ref snap h
      cases h
    · intro e he
      cases he
    · intro h hh
      cases hh
  · intro s₁ a hi ha
    exact inv_exec hi ha

/-! ## What follows -/

theorem exec_error {P : Platform} {s : Sys} {a : Action} {err : GoError}
    (h : (exec P a s).1 = .error err) : (exec P a s).2 = s := by
  have heffect := exec_effect P a s
  generalize exec P a s = p at heffect h ⊢
  cases heffect with
  | refused => rfl
  | noHandler | built | reloaded | replaced => cases h

def Trusting (s : Sys) (ref : StoreRef) : Prop :=
  ∃ snap, s.stores[ref]? = some snap ∧ snap.intermediates ≠ []

theorem trusting_load {s : Sys} {ref ref' : StoreRef} {cas : List Certificate}
    (hne : cas ≠ []) (ht : Trusting s ref) : Trusting (s.load ref' cas) ref := by
  obtain ⟨snap, hsnap, hsome⟩ := ht
  by_cases heq : ref' = ref
  · subst heq
    refine ⟨newTrustSnapshot cas, ?_, hne⟩
    exact List.getElem?_set_self (List.getElem?_eq_some_iff.mp hsnap).1
  · refine ⟨snap, ?_, hsome⟩
    show (s.stores.set ref' _)[ref]? = some snap
    rw [List.getElem?_set_ne heq]
    exact hsnap

theorem trusting_exec {P : Platform} {s : Sys} {a : Action} {ref : StoreRef}
    (ht : Trusting s ref) : Trusting (exec P a s).2 ref := by
  have heffect := exec_effect P a s
  generalize exec P a s = p at heffect ⊢
  cases heffect with
  | refused | noHandler => exact ht
  | built hnew =>
      obtain ⟨snap, hsnap, hsome⟩ := ht
      obtain ⟨snap', _, rfl, _⟩ := new_ok hnew
      refine ⟨snap, ?_, hsome⟩
      show (s.stores ++ [snap'])[ref]? = some snap
      rw [List.getElem?_append_left (List.getElem?_eq_some_iff.mp hsnap).1]
      exact hsnap
  | reloaded hget hload hne => exact trusting_load hne ht
  | replaced hne => exact trusting_load hne ht

theorem trusting_reach {P : Platform} {s t : Sys} {ref : StoreRef}
    (ht : (machineFrom P s).Reach t) (hs : Trusting s ref) : Trusting t ref := by
  refine Machine.Reach.invariant (I := fun t => Trusting t ref) ?_ ?_ ht
  · rintro s₀ rfl
    exact hs
  · intro s₁ a h₁ _
    exact trusting_exec h₁

theorem exec_count {P : Platform} {s : Sys} (hi : Inv s) {i n : Nat} {source : Source}
    (h : (exec P (.reloadTrust i source) s).1 = .ok (.count n)) :
    ∃ hd cas, s.handlers[i]? = some hd ∧
      loadTrustedCAs P hd.config.trustedCACertsPath source = .ok cas ∧ n = cas.length ∧
      (exec P (.reloadTrust i source) s).2.stores[hd.trust]? = some (newTrustSnapshot cas) := by
  have heffect := exec_effect P (.reloadTrust i source) s
  generalize exec P (.reloadTrust i source) s = p at heffect h ⊢
  cases heffect with
  | refused | noHandler => cases h
  | reloaded hget hload hne =>
      cases h
      refine ⟨_, _, hget, hload, rfl, ?_⟩
      exact List.getElem?_set_self (hi.handlers _ (List.mem_of_getElem? hget)).1

/-- Over every run of constructions, `ReloadTrust`s and `Reload`s: validator
and signer of a handler use one set, that of the last load that succeeded, and
the pool holds exactly the certificates it lists; an error changes nothing; a
set that is not empty never becomes empty; and the count `ReloadTrust` returns
is the number of certificates the source listed, which is the size of the set
in effect afterwards exactly when it listed none of them twice. -/
theorem trust_lifecycle {P : Platform} {s : Sys} (hs : (machine P).Reach s) :
    (∀ h ∈ s.handlers, ∃ snap, s.stores[h.validator.trust]? = some snap ∧
        (∃ ref, h.signer.trust = some ref ∧ s.stores[ref]? = some snap) ∧
        snap.intermediates = effective s.ledger h.trust ∧
        ∀ c, c ∈ snap.pool.certs ↔ c ∈ snap.intermediates) ∧
      (∀ a err, (exec P a s).1 = .error err → (exec P a s).2 = s) ∧
      (∀ t ref, (machineFrom P s).Reach t → Trusting s ref → Trusting t ref) ∧
      ∀ i source n, (exec P (.reloadTrust i source) s).1 = .ok (.count n) →
        ∃ h cas snap, s.handlers[i]? = some h ∧
          loadTrustedCAs P h.config.trustedCACertsPath source = .ok cas ∧
          (exec P (.reloadTrust i source) s).2.stores[h.trust]? = some snap ∧
          snap.intermediates = cas ∧ n = cas.length ∧
          (n = snap.pool.certs.length ↔ cas.Nodup) := by
  have hi := inv_reach hs
  refine ⟨?_, fun a err => exec_error, fun t ref => trusting_reach, ?_⟩
  · intro h hh
    obtain ⟨hlt, hval, hsigner⟩ := hi.handlers h hh
    have hget : s.stores[h.trust]? = some s.stores[h.trust] := List.getElem?_eq_getElem hlt
    have hsnap := hi.stores h.trust _ hget
    refine ⟨s.stores[h.trust], by rw [hval]; exact hget, ⟨h.trust, hsigner, hget⟩, ?_, ?_⟩
    · rw [hsnap]; rfl
    · intro c
      rw [hsnap]
      exact mem_newTrustSnapshot_pool
  · intro i source n hcount
    obtain ⟨h, cas, hget, hload, rfl, hstore⟩ := exec_count hi hcount
    exact ⟨h, cas, newTrustSnapshot cas, hget, hload, hstore, rfl, rfl,
      length_newTrustSnapshot_pool⟩

/-! ## A run

A handler that starts before its trust directory exists, and then meets a file
of two certificates and one that cannot be read. -/

namespace Run

def cert (b : UInt8) : Certificate := { (default : Certificate) with raw := [b] }

/-- One byte is a block and a certificate. -/
def platform : Platform :=
  { Platform.refusing with
    parseCertificate := fun der => .ok { (default : Certificate) with raw := der }
    pemDecode := fun data =>
      match data with
      | [] => none
      | b :: rest => some (⟨"CERTIFICATE", [b]⟩, rest)
    pemDecode_length := by
      intro data block rest h
      cases data with
      | nil => cases h
      | cons b rest =>
          cases h
          exact Nat.lt_succ_self _
    urlParse := fun _ => .ok ⟨"https", "a.lv", "", "", ""⟩ }

def config : Configuration :=
  ⟨["https://a.lv"], "/trust", 5, false, 0, "", [], ["SHA-256"], false, [], [], []⟩

def missing : Source := .noStat (.sentinel .osErrNotExist)
def two : Source := .file (.ok [1, 2])
def twice : Source := .file (.ok [1, 1])
def unreadable : Source := .file (.error (.text "input/output error"))

/-- The state after each of the three calls. -/
def started : Sys :=
  (machine platform).step (.construct config [.withRuntimeTrust] missing) ⟨[], [], []⟩
def loaded : Sys := (machine platform).step (.reloadTrust 0 two) started
def kept : Sys := (machine platform).step (.reloadTrust 0 unreadable) loaded

theorem reach_started : (machine platform).Reach started :=
  (Machine.Reach.init rfl).step (a := Action.construct config [.withRuntimeTrust] missing) trivial

theorem reach_loaded : (machine platform).Reach loaded :=
  reach_started.step (a := Action.reloadTrust 0 two) trivial

end Run

open Run in
/-- The handler comes to trust two certificates, and keeps them when the file
cannot be read. -/
theorem trust_lifecycle_run :
    started.stores = [newTrustSnapshot []] ∧ loaded.handlers.length = 1 ∧
      (∀ h ∈ loaded.handlers, ∃ snap, loaded.stores[h.validator.trust]? = some snap ∧
        snap.intermediates = [cert 1, cert 2]) ∧
      kept = loaded ∧ ∀ t, (machineFrom platform loaded).Reach t → Trusting t 0 := by
  obtain ⟨hsame, herror, htrusting, _⟩ := trust_lifecycle reach_loaded
  have hunread : (exec platform (.reloadTrust 0 unreadable) loaded).1 =
      .error (.text "input/output error") := by rfl
  refine ⟨by rfl, by rfl, ?_, herror _ _ hunread, ?_⟩
  · intro h hh
    obtain ⟨snap, hsnap, _, hcas, _⟩ := hsame h hh
    have hledger : loaded.ledger = [(0, [cert 1, cert 2])] := by rfl
    have hplace : h.trust = 0 := by
      have hall : ∀ h ∈ loaded.handlers, h.trust = 0 := by decide +kernel
      exact hall h hh
    rw [hledger, hplace, effective_cons_self] at hcas
    exact ⟨snap, hsnap, hcas⟩
  · intro t ht
    exact htrusting t 0 ht ⟨newTrustSnapshot [cert 1, cert 2], by rfl, by decide⟩

open Run in
/-- One certificate is listed twice: two are reported as trusted, and one is. -/
theorem reload_counts_twice :
    (machine platform).Reach started ∧
      (exec platform (.reloadTrust 0 twice) started).1 = .ok (.count 2) ∧
      (exec platform (.reloadTrust 0 twice) started).2.stores.map (·.pool.certs.length) = [1] :=
  ⟨reach_started, by rfl, by decide +kernel⟩

end WebEid.TrustLifecycle
