import WebEid.Proofs.DirectoryLoading
import WebEid.Proofs.RevocationPolicy

/-!
# Trust sources that hold nothing yet

A handler whose trust is managed at runtime may start before there is anything
to trust. `New` tells that case from a broken source by the error of the load:
`emptyTrustSource` recognises `os.ErrNotExist` and `ErrNoCertificatesFound`.

The second is returned in one place, at the end of the directory loop, and that
is reached without a certificate only when every entry is a directory. An empty
file, a file of other PEM blocks and a directory of such files all hold
nothing, and fail with errors made on the spot. The first is returned whenever
a file is gone by the time it is read. One dangling link beside good
certificates, and the handler starts as if there were none.

What is recognised is settled source by source (`load_recognised_iff`), and
`New` follows it (`new_recognised`, `new_refused`).
-/

namespace WebEid.Azugo

open Lib Exceptions Certificate

/-- No certificate in either encoding. -/
def NoCertificate (P : Platform) (data : Bytes) : Prop :=
  certificateBlocks P data = [] ∧ (blocks P data = [] → ∀ cert, P.parseCertificate data ≠ .ok cert)

/-- A file that is not there, or is read and has no certificate in it. -/
def NothingIn (P : Platform) : Except GoError Bytes → Prop
  | .error err => err.is .osErrNotExist = true
  | .ok data => NoCertificate P data

/-- The path is missing, or can be read and holds no certificate at all. -/
def HoldsNothing (P : Platform) : Source → Prop
  | .noStat err => err.is .osErrNotExist = true
  | .dir (.error err) => err.is .osErrNotExist = true
  | .dir (.ok entries) => ∀ entry ∈ entries, entry.isDir = true ∨ NothingIn P entry.content
  | .file content => NothingIn P content

/-! ## What the packages' errors are not -/

/-- `x509.ParseCertificate` fails with errors of its own. -/
def ParseErrors (P : Platform) : Prop :=
  ∀ der err, P.parseCertificate der = .error err → emptyTrustSource err = false

/-- The file system does not know `ErrNoCertificatesFound`. -/
def OsErrors : Source → Prop
  | .noStat err => err.is .errNoCertificatesFound = false
  | .dir (.error err) => err.is .errNoCertificatesFound = false
  | .dir (.ok entries) =>
      ∀ entry ∈ entries, ∀ err, entry.content = .error err → err.is .errNoCertificatesFound = false
  | .file (.error err) => err.is .errNoCertificatesFound = false
  | .file (.ok _) => True

theorem emptyTrustSource_os {err : GoError} (hos : err.is .errNoCertificatesFound = false) :
    emptyTrustSource err = err.is .osErrNotExist := by
  rw [emptyTrustSource, hos, Bool.or_false]

/-- Wrapping keeps what an error is. -/
theorem emptyTrustSource_wrapf (msg : String) (cause : GoError) :
    emptyTrustSource (.wrapf msg cause) = emptyTrustSource cause := rfl

/-! ## Which errors are recognised -/

/-- The load meets a file that is gone before it meets one it cannot use. -/
def Vanished (P : Platform) (entries : List DirEntry) : Prop :=
  ∃ before entry after err, entries = before ++ entry :: after ∧
    (∀ e ∈ before, e.isDir = true ∨ Usable P e.content) ∧
    entry.isDir = false ∧ entry.content = .error err ∧ err.is .osErrNotExist = true

def Recognised (P : Platform) : Source → Prop
  | .noStat err => err.is .osErrNotExist = true
  | .dir (.error err) => err.is .osErrNotExist = true
  | .dir (.ok entries) => (∀ entry ∈ entries, entry.isDir = true) ∨ Vanished P entries
  | .file (.error err) => err.is .osErrNotExist = true
  | .file (.ok _) => False

section

variable {P : Platform} {path : String} {err : GoError}

theorem blockCertificates_error {block : PemBlock}
    (h : blockCertificates P block = .error err) :
    ∃ cause, P.parseCertificate block.bytes = .error cause ∧
      err = .wrapf "parse PEM certificate" cause := by
  rw [blockCertificates] at h
  split at h
  · cases h
  · split at h
    · next cause hparse =>
        cases h
        exact ⟨cause, hparse, rfl⟩
    · cases h

/-- No failure of the PEM loader is recognised. -/
theorem loadCertificatesFromPEM_error (hparse : ParseErrors P) {data : Bytes}
    (h : loadCertificatesFromPEM P (.ok data) = .error err) : emptyTrustSource err = false := by
  rw [loadCertificatesFromPEM_eq] at h
  rcases bind_eq_error h with hcollect | ⟨certs, -, h⟩
  · obtain ⟨-, block, -, -, -, hblock⟩ := collect_eq_error_iff.mp hcollect
    obtain ⟨cause, hcause, rfl⟩ := blockCertificates_error hblock
    rw [emptyTrustSource_wrapf]
    exact hparse _ _ hcause
  · split at h
    · cases h
      rfl
    · cases h

/-- Of an entry's failures only those of its read can be. -/
theorem entryCertificates_error (hparse : ParseErrors P) {entry : DirEntry}
    (h : entryCertificates P path entry = .error err) (hempty : emptyTrustSource err = true) :
    entry.isDir = false ∧ entry.content = .error err := by
  rw [entryCertificates] at h
  split at h
  · cases h
  · next hfile =>
      refine ⟨Bool.eq_false_iff.mpr hfile, ?_⟩
      rcases bind_eq_error h with hread | ⟨data, -, h⟩
      · exact hread
      · have hfatal : emptyTrustSource err = false := by
          split at h
          · exact loadCertificatesFromPEM_error hparse h
          · split at h
            · next cause hcause =>
                cases h
                rw [emptyTrustSource_wrapf]
                exact hparse _ _ hcause
            · cases h
        rw [hfatal] at hempty
        cases hempty

theorem loadDir_recognised_iff (hparse : ParseErrors P) {entries : List DirEntry}
    (hos : OsErrors (.dir (.ok entries))) :
    (∃ err, loadCertificatesFromDir P path (.ok entries) = .error err ∧
        emptyTrustSource err = true) ↔
      (∀ entry ∈ entries, entry.isDir = true) ∨ Vanished P entries := by
  rw [loadCertificatesFromDir_eq]
  have hyields : ∀ e : DirEntry, (e.isDir = true ∨ Usable P e.content) ↔
      ∃ certs, entryCertificates P path e = .ok certs :=
    fun _ => exists_entryCertificates_iff.symm
  simp only [Vanished, hyields]
  constructor
  · rintro ⟨err, h, hempty⟩
    rcases bind_eq_error h with hcollect | ⟨certs, hcollect, h⟩
    · obtain ⟨before, entry, after, rfl, hbefore, hentry⟩ := collect_eq_error_iff.mp hcollect
      obtain ⟨hfile, hread⟩ := entryCertificates_error hparse hentry hempty
      have hmem : entry ∈ before ++ entry :: after := by simp
      rw [emptyTrustSource_os (hos entry hmem err hread)] at hempty
      exact .inr ⟨before, entry, after, err, rfl, hbefore, hfile, hread, hempty⟩
    · split at h
      · next hnil =>
          rw [List.isEmpty_iff.mp hnil, collect_eq_nil_iff] at hcollect
          exact .inl (fun entry hentry => entryCertificates_eq_nil_iff.mp (hcollect entry hentry))
      · cases h
  · rintro (hdirs | ⟨before, entry, after, err, rfl, hbefore, hfile, hread, hmissing⟩)
    · have hcollect : collect (entryCertificates P path) entries = .ok [] :=
        collect_eq_nil_iff.mpr
          (fun entry hentry => entryCertificates_eq_nil_iff.mpr (hdirs entry hentry))
      rw [hcollect]
      exact ⟨_, rfl, rfl⟩
    · have hentry : entryCertificates P path entry = .error err := by
        rw [entryCertificates, hfile, hread]
        rfl
      rw [collect_eq_error_iff.mpr ⟨before, entry, after, rfl, hbefore, hentry⟩]
      refine ⟨err, rfl, ?_⟩
      rw [emptyTrustSource, hmissing, Bool.true_or]

theorem load_recognised_iff (path : String) (hparse : ParseErrors P) {source : Source}
    (hos : OsErrors source) :
    (∃ err, loadTrustedCAs P path source = .error err ∧ emptyTrustSource err = true) ↔
      Recognised P source := by
  -- a failure of the source itself is passed on
  have hpassed : ∀ {err : GoError}, err.is .errNoCertificatesFound = false →
      ((∃ err', (.error err : Except GoError (List Certificate)) = .error err' ∧
        emptyTrustSource err' = true) ↔ err.is .osErrNotExist = true) := by
    intro err hnone
    rw [← emptyTrustSource_os hnone]
    simp
  cases source with
  | noStat err => exact hpassed hos
  | dir entries =>
      cases entries with
      | error err => exact hpassed hos
      | ok entries => exact loadDir_recognised_iff hparse hos
  | file content =>
      cases content with
      | error err => exact hpassed hos
      | ok data =>
          refine iff_of_false ?_ id
          rintro ⟨err, h, hempty⟩
          rw [loadCertificatesFromPEM_error hparse h] at hempty
          cases hempty

end

/-! ## Construction -/

section

variable {P : Platform} {cfg : Configuration} {opts : List HandlerOption} {source : Source}
  {stores : List TrustSnapshot} {err : GoError}

/-- No option takes the runtime mode back. -/
theorem runtimeTrust_foldl {s : Settings}
    (h : s.runtimeTrust = true ∨ HandlerOption.withRuntimeTrust ∈ opts) :
    (opts.foldl HandlerOption.apply s).runtimeTrust = true := by
  induction opts generalizing s with
  | nil => exact h.resolve_right (List.not_mem_nil)
  | cons o opts ih =>
      rw [List.foldl_cons]
      refine ih ?_
      rcases h with hset | hmem
      · refine .inl ?_
        cases o with
        | withNonceStore store => cases store <;> exact hset
        | withAssertionIssuer iss => exact hset
        | withRuntimeTrust => rfl
        | withOCSPTransport rt => exact hset
      · rcases List.mem_cons.mp hmem with rfl | hmem
        · exact .inl rfl
        · exact .inr hmem

/-- A configuration that is good for one source starts empty on a source that
is recognised. -/
theorem new_recognised (hruntime : HandlerOption.withRuntimeTrust ∈ opts)
    (hvalid : ∃ source' r, new P cfg opts source' stores = .ok r)
    (hload : loadTrustedCAs P cfg.trustedCACertsPath source = .error err)
    (hempty : emptyTrustSource err = true) :
    ∃ h, new P cfg opts source stores = .ok (h, stores ++ [TrustStore.newRuntime]) ∧
      h.trust = stores.length := by
  obtain ⟨source', ⟨h', stores'⟩, hnew⟩ := hvalid
  rw [new] at hnew
  obtain ⟨snap, -, hnew⟩ := bind_eq_ok hnew
  obtain ⟨⟨v, stores''⟩, hv, hnew⟩ := bind_eq_ok hnew
  obtain ⟨signer, hsigner, hnew⟩ := bind_eq_ok hnew
  obtain ⟨g, hg, -⟩ := bind_eq_ok hnew
  have hstart : ∃ h, new P cfg opts source stores = .ok (h, stores ++ [TrustStore.newRuntime]) := by
    rw [new]
    simp only [initialTrust, hload, hempty, runtimeTrust_foldl (.inr hruntime), Bool.and_true,
      if_true, bind_ok, buildValidator_stores hv, hsigner, hg]
    exact ⟨_, rfl⟩
  obtain ⟨h, hh⟩ := hstart
  obtain ⟨-, -, -, htrust, -⟩ := new_ok hh
  exact ⟨h, hh, htrust⟩

theorem new_refused (hload : loadTrustedCAs P cfg.trustedCACertsPath source = .error err)
    (hother : emptyTrustSource err = false) : new P cfg opts source stores = .error err := by
  rw [new]
  simp only [initialTrust, hload, hother, Bool.and_false]
  rfl

end

/-- The sources on which the error says whether there was anything: those that
cannot be read, a file with a certificate in it, and a directory of directories
or one where a file is gone exactly when there is nothing else. -/
def ToldApart (P : Platform) : Source → Prop
  | .dir (.ok entries) =>
      (∀ entry ∈ entries, entry.isDir = true) ∨
        (HoldsNothing P (.dir (.ok entries)) ↔ Vanished P entries)
  | .file (.ok data) => ¬ NoCertificate P data
  | _ => True

theorem toldApart_iff {P : Platform} {source : Source} :
    (HoldsNothing P source ↔ Recognised P source) ↔ ToldApart P source := by
  cases source with
  | noStat err => exact iff_of_true Iff.rfl trivial
  | dir entries =>
      cases entries with
      | error err => exact iff_of_true Iff.rfl trivial
      | ok entries =>
          simp only [Recognised, ToldApart]
          by_cases hdirs : ∀ entry ∈ entries, entry.isDir = true
          · refine iff_of_true (iff_of_true ?_ (.inl hdirs)) (.inl hdirs)
            exact fun entry hentry => .inl (hdirs entry hentry)
          · rw [or_iff_right hdirs, or_iff_right hdirs]
  | file content =>
      cases content with
      | error err => exact iff_of_true Iff.rfl trivial
      | ok data => exact iff_of_eq (iff_false _)

/-- With its trust managed at runtime and an otherwise good configuration, a
handler starts empty on every source that holds nothing and fails on every
other that does not load, exactly if the load's error tells the two apart. -/
theorem empty_source_iff {P : Platform} {cfg : Configuration} {opts : List HandlerOption}
    {source : Source} {stores : List TrustSnapshot} (hparse : ParseErrors P)
    (hos : OsErrors source) (hruntime : HandlerOption.withRuntimeTrust ∈ opts)
    (hvalid : ∃ source' r, new P cfg opts source' stores = .ok r) :
    ((HoldsNothing P source →
        (∃ err, loadTrustedCAs P cfg.trustedCACertsPath source = .error err ∧
          emptyTrustSource err = true) ∧
        ∃ h, new P cfg opts source stores = .ok (h, stores ++ [TrustStore.newRuntime]) ∧
          h.trust = stores.length) ∧
      ∀ err, loadTrustedCAs P cfg.trustedCACertsPath source = .error err →
        ¬ HoldsNothing P source → ∃ err', new P cfg opts source stores = .error err') ↔
      ToldApart P source := by
  rw [← toldApart_iff, ← load_recognised_iff cfg.trustedCACertsPath hparse hos]
  constructor
  · rintro ⟨hnothing, hother⟩
    refine ⟨fun hn => (hnothing hn).1, ?_⟩
    rintro ⟨err, hload, hempty⟩
    by_contra hsome
    obtain ⟨err', hfails⟩ := hother err hload hsome
    obtain ⟨h, hstart, -⟩ := new_recognised hruntime hvalid hload hempty
    rw [hstart] at hfails
    cases hfails
  · intro hiff
    constructor
    · intro hn
      obtain ⟨err, hload, hempty⟩ := hiff.mp hn
      exact ⟨⟨err, hload, hempty⟩, new_recognised hruntime hvalid hload hempty⟩
    · intro err hload hsome
      refine ⟨err, new_refused hload ?_⟩
      rw [Bool.eq_false_iff]
      intro hempty
      exact hsome (hiff.mpr ⟨err, hload, hempty⟩)

theorem policyPlatform_parseErrors : ParseErrors policyPlatform := by
  intro der err h
  cases h
  rfl

/-- A path that is not there yet. -/
theorem empty_source_missing :
    ∃ h, new policyPlatform policyConfiguration [.withRuntimeTrust] noTrustYet [] =
        .ok (h, [TrustStore.newRuntime]) ∧ h.trust = 0 :=
  (((empty_source_iff policyPlatform_parseErrors (show OsErrors noTrustYet from rfl)
    (List.mem_singleton.mpr rfl) ⟨noTrustYet, _, new_policyHandler⟩).mpr trivial).1 rfl).2

/-- As before, with certificates to parse. -/
def trustPlatform : Platform :=
  { policyPlatform with parseCertificate := derPlatform.parseCertificate }

def emptyFile : Source := .file (.ok [])

def danglingLink : Source :=
  .dir (.ok [⟨"ca.der", false, .ok [0x30, 1]⟩,
    ⟨"old.der", false, .error (.wrapf "open /trust/old.der" (.sentinel .osErrNotExist))⟩])

/-- An empty file keeps the handler from starting, and a dangling link beside a
certificate lets it start without. -/
theorem empty_source_confused :
    (HoldsNothing trustPlatform emptyFile ∧
        (new trustPlatform policyConfiguration [.withRuntimeTrust] emptyFile []).toOption = none) ∧
      ¬ HoldsNothing trustPlatform danglingLink ∧
      (loadTrustedCAs trustPlatform "/trust" danglingLink).toOption = none ∧
      (new trustPlatform policyConfiguration [.withRuntimeTrust] danglingLink []).toOption =
        some (policyHandler none, [TrustStore.newRuntime]) := by
  refine ⟨⟨⟨?_, ?_⟩, ?_⟩, ?_, ?_, ?_⟩
  · rw [certificateBlocks, blocks_of_none rfl]
    rfl
  · intro _ cert h
    cases h
  · decide +kernel
  · intro hnothing
    rcases hnothing _ (List.mem_cons_self) with hdir | ⟨-, hnone⟩
    · cases hdir
    · exact hnone (blocks_of_none rfl) _ rfl
  · decide +kernel
  · decide +kernel

end WebEid.Azugo
