import WebEid.Lib.Collect
import WebEid.Ref.Trust

/-!
# What a trust directory is read from

`LoadCertificatesFromDir` is documented to load the certificate files of a
directory, those named `.pem`, `.crt`, `.cer` or `.der`. Its loop never looks
at a name. It skips what `os.ReadDir` reports as a directory and reads
everything else, and the first entry that cannot be read or holds no
certificate ends the load. A note beside the certificates, or a link to a
directory, which is not reported as one, is enough.

Both loaders are loops that collect. The blocks of a file yield their
certificates, the entries of a directory those of their files, and what comes
out is the concatenation.
-/

namespace WebEid.Certificate

open Lib Exceptions

/-! ## One file -/

/-- The blocks `pem.Decode` finds in a file, one after the other. -/
def blocks (P : Platform) (data : Bytes) : List PemBlock :=
  match _hdecode : P.pemDecode data with
  | none => []
  | some (block, rest) => block :: blocks P rest
termination_by data.length
decreasing_by exact P.pemDecode_length ‹_›

def certificateBlocks (P : Platform) (data : Bytes) : List PemBlock :=
  (blocks P data).filter fun block => block.type = "CERTIFICATE"

/-- The certificates in a file are those of its `CERTIFICATE` blocks, or the
file itself when it has no block at all. -/
def FileHolds (P : Platform) (data : Bytes) (certs : List Certificate) : Prop :=
  if blocks P data = [] then ∃ cert, P.parseCertificate data = .ok cert ∧ certs = [cert]
  else List.Forall₂ (fun block cert => P.parseCertificate block.bytes = .ok cert)
    (certificateBlocks P data) certs

/-- A file that can be read, and holds at least one certificate and no broken
one. -/
def Usable (P : Platform) (content : Except GoError Bytes) : Prop :=
  ∃ data certs, content = .ok data ∧ FileHolds P data certs ∧ certs ≠ []

/-- What one block yields. -/
def blockCertificates (P : Platform) (block : PemBlock) : Except GoError (List Certificate) :=
  if block.type ≠ "CERTIFICATE" then .ok []
  else
    match P.parseCertificate block.bytes with
    | .error err => .error (.wrapf "parse PEM certificate" err)
    | .ok cert => .ok [cert]

section

variable {P : Platform} {data : Bytes} {certs : List Certificate}

theorem blocks_of_none (h : P.pemDecode data = none) : blocks P data = [] := by
  rw [blocks]
  split
  · rfl
  · next hsome =>
      rw [h] at hsome
      cases hsome

theorem blocks_of_some {block : PemBlock} {rest : Bytes}
    (h : P.pemDecode data = some (block, rest)) : blocks P data = block :: blocks P rest := by
  rw [blocks]
  split
  · next hnone =>
      rw [h] at hnone
      cases hnone
  · next hsome =>
      rw [h] at hsome
      cases hsome
      rfl

/-- The loop appends what the blocks yield to what it was given. -/
theorem pemBlocks_eq {fuel : Nat} (hfuel : data.length ≤ fuel) (acc : List Certificate) :
    pemBlocks P fuel data acc =
      (collect (blockCertificates P) (blocks P data)).map (acc ++ ·) := by
  induction fuel generalizing data acc with
  | zero =>
      cases hdecode : P.pemDecode data with
      | none =>
          rw [pemBlocks, blocks_of_none hdecode, collect, Except.map, List.append_nil]
      | some p =>
          obtain ⟨block, rest⟩ := p
          have hlt := P.pemDecode_length hdecode
          omega
  | succ fuel ih =>
      rw [pemBlocks]
      cases hdecode : P.pemDecode data with
      | none => rw [blocks_of_none hdecode, collect, Except.map, List.append_nil]
      | some p =>
          obtain ⟨block, rest⟩ := p
          have hlt := P.pemDecode_length hdecode
          have hrest : rest.length ≤ fuel := by omega
          rw [blocks_of_some hdecode, map_collect_cons, blockCertificates]
          simp only [ih hrest]
          split
          · rw [bind_ok, List.append_nil]
          · cases P.parseCertificate block.bytes <;> rfl

theorem collect_blocks_iff :
    collect (blockCertificates P) (blocks P data) = .ok certs ↔
      List.Forall₂ (fun block cert => P.parseCertificate block.bytes = .ok cert)
        (certificateBlocks P data) certs := by
  rw [← collect_filter (p := fun block => block.type = "CERTIFICATE")]
  · refine collect_eq_ok_iff_forall₂ ?_
    intro block hblock ys
    have htype : block.type = "CERTIFICATE" := of_decide_eq_true (List.mem_filter.mp hblock).2
    rw [blockCertificates, if_neg (not_not.mpr htype)]
    cases P.parseCertificate block.bytes with
    | error err => simp
    | ok cert => simp [eq_comm]
  · intro block _ hother
    rw [blockCertificates, if_pos (of_decide_eq_false hother)]

theorem loadCertificatesFromPEM_eq :
    loadCertificatesFromPEM P (.ok data) =
      collect (blockCertificates P) (blocks P data) >>= fun certs =>
        if certs.isEmpty then .error (.text "no certificates found in PEM data")
        else .ok certs := by
  rw [loadCertificatesFromPEM, bind_ok, pemBlocks_eq (Nat.le_refl _)]
  cases collect (blockCertificates P) (blocks P data) <;> rfl

theorem loadCertificatesFromPEM_ok_iff :
    loadCertificatesFromPEM P (.ok data) = .ok certs ↔
      List.Forall₂ (fun block cert => P.parseCertificate block.bytes = .ok cert)
        (certificateBlocks P data) certs ∧ certs ≠ [] := by
  rw [loadCertificatesFromPEM_eq, bind_nonempty_eq_ok_iff, collect_blocks_iff]

end

/-! ## One entry -/

/-- What one entry yields. -/
def entryCertificates (P : Platform) (dir : String) (entry : DirEntry) :
    Except GoError (List Certificate) :=
  if entry.isDir then .ok []
  else do
    let data ← entry.content
    match P.pemDecode data with
    | some _ => loadCertificatesFromPEM P (.ok data)
    | none =>
        match P.parseCertificate data with
        | .error err =>
            .error (.wrapf ("parse certificate " ++ (dir ++ "/" ++ entry.name).quote) err)
        | .ok cert => .ok [cert]

section

variable {P : Platform} {dir : String} {certs : List Certificate}

theorem dirEntries_eq (entries : List DirEntry) (acc : List Certificate) :
    dirEntries P dir entries acc =
      (collect (entryCertificates P dir) entries).map (acc ++ ·) := by
  induction entries generalizing acc with
  | nil => rw [dirEntries, collect, Except.map, List.append_nil]
  | cons entry entries ih =>
      rw [dirEntries, map_collect_cons, entryCertificates]
      simp only [ih]
      split
      · rw [bind_ok, List.append_nil]
      · cases entry.content with
        | error err => rfl
        | ok data =>
            simp only [bind_ok]
            cases P.pemDecode data with
            | some p => cases loadCertificatesFromPEM P (.ok data) <;> rfl
            | none => cases P.parseCertificate data <;> rfl

/-- A directory yields nothing, and a file what it holds, if it holds
anything. -/
theorem entryCertificates_ok_iff {entry : DirEntry} :
    entryCertificates P dir entry = .ok certs ↔
      (entry.isDir = true ∧ certs = []) ∨
        (entry.isDir = false ∧ ∃ data, entry.content = .ok data ∧ FileHolds P data certs ∧
          certs ≠ []) := by
  rw [entryCertificates]
  cases entry.isDir with
  | true => simp [eq_comm]
  | false =>
      simp only [Bool.false_eq_true, if_false, false_and, true_and, false_or]
      rw [bind_eq_ok_iff]
      refine exists_congr (fun data => and_congr_right (fun _ => ?_))
      rw [FileHolds]
      cases hdecode : P.pemDecode data with
      | some p =>
          obtain ⟨block, rest⟩ := p
          have hblocks : blocks P data ≠ [] := by
            rw [blocks_of_some hdecode]
            exact List.cons_ne_nil _ _
          rw [if_neg hblocks]
          exact loadCertificatesFromPEM_ok_iff
      | none =>
          rw [if_pos (blocks_of_none hdecode)]
          cases P.parseCertificate data with
          | error err => simp
          | ok cert =>
              simp only [Except.ok.injEq, exists_eq_left']
              constructor
              · rintro rfl
                exact ⟨rfl, by simp⟩
              · rintro ⟨rfl, -⟩
                rfl

theorem exists_entryCertificates_iff {entry : DirEntry} :
    (∃ certs, entryCertificates P dir entry = .ok certs) ↔
      entry.isDir = true ∨ Usable P entry.content := by
  simp only [entryCertificates_ok_iff]
  constructor
  · rintro ⟨certs, ⟨hdir, -⟩ | ⟨-, data, hdata, hholds, hne⟩⟩
    · exact .inl hdir
    · exact .inr ⟨data, certs, hdata, hholds, hne⟩
  · intro h
    cases hdir : entry.isDir with
    | true => exact ⟨[], .inl ⟨rfl, rfl⟩⟩
    | false =>
        rcases h with hdir' | ⟨data, certs, hdata, hholds, hne⟩
        · rw [hdir] at hdir'
          cases hdir'
        · exact ⟨certs, .inr ⟨rfl, data, hdata, hholds, hne⟩⟩

theorem entryCertificates_eq_nil_iff {entry : DirEntry} :
    entryCertificates P dir entry = .ok [] ↔ entry.isDir = true := by
  rw [entryCertificates_ok_iff]
  constructor
  · rintro (⟨hdir, -⟩ | ⟨-, data, -, -, hne⟩)
    · exact hdir
    · exact absurd rfl hne
  · intro hdir
    exact .inl ⟨hdir, rfl⟩

theorem loadCertificatesFromDir_eq {entries : List DirEntry} :
    loadCertificatesFromDir P dir (.ok entries) =
      collect (entryCertificates P dir) entries >>= fun certs =>
        if certs.isEmpty then
          .error (.wrapf ("in " ++ dir.quote) (.sentinel .errNoCertificatesFound))
        else .ok certs := by
  rw [loadCertificatesFromDir, bind_ok, dirEntries_eq]
  cases collect (entryCertificates P dir) entries <;> rfl

theorem loadCertificatesFromDir_ok_iff {entries : List DirEntry} :
    loadCertificatesFromDir P dir (.ok entries) = .ok certs ↔
      collect (entryCertificates P dir) entries = .ok certs ∧ certs ≠ [] := by
  rw [loadCertificatesFromDir_eq, bind_nonempty_eq_ok_iff]

end

/-! ## One directory -/

inductive EntryKind where
  | regular
  | directory
  /-- Links, sockets and the like. -/
  | other
  deriving DecidableEq

/-- An entry as the file system has it, with what reading it returns. -/
structure Entry where
  name : String
  kind : EntryKind
  content : Except GoError Bytes

namespace Entry

/-- As `os.ReadDir` and `os.ReadFile` report it. -/
def toDirEntry (e : Entry) : DirEntry := ⟨e.name, e.kind = .directory, e.content⟩

/-- The entries the loader is for. -/
def isCertificateFile (e : Entry) : Bool :=
  e.kind = .regular && [".pem", ".crt", ".cer", ".der"].any (Go.hasSuffix e.name)

end Entry

def loadEntries (P : Platform) (dir : String) (entries : List Entry) :
    Except GoError (List Certificate) :=
  loadCertificatesFromDir P dir (.ok (entries.map Entry.toDirEntry))

section

variable {P : Platform} {dir : String} {entries : List Entry} {certs : List Certificate} {e : Entry}

theorem not_directory_of_isCertificateFile (h : e.isCertificateFile = true) :
    e.kind ≠ .directory := by
  rw [Entry.isCertificateFile, Bool.and_eq_true, decide_eq_true_eq] at h
  rw [h.1]
  decide

theorem isDir_toDirEntry : e.toDirEntry.isDir = true ↔ e.kind = .directory :=
  decide_eq_true_iff

theorem loadEntries_ok_iff :
    loadEntries P dir entries = .ok certs ↔
      collect (fun e => entryCertificates P dir (Entry.toDirEntry e)) entries = .ok certs ∧
        certs ≠ [] := by
  rw [loadEntries, loadCertificatesFromDir_ok_iff, collect_map]

/-- A load fails on an entry that is not usable, or for want of entries. -/
theorem loadEntries_eq_none_iff :
    (loadEntries P dir entries).toOption = none ↔
      (∃ e ∈ entries, e.kind ≠ .directory ∧ ¬ Usable P e.content) ∨
        ∀ e ∈ entries, e.kind = .directory := by
  simp only [toOption_eq_none_iff, loadEntries_ok_iff, ne_eq, ← isDir_toDirEntry]
  by_cases hall : ∀ e ∈ entries, e.toDirEntry.isDir = true ∨ Usable P e.content
  · have hyield : ∀ e ∈ entries, ∃ certs, entryCertificates P dir e.toDirEntry = .ok certs :=
      fun e he => exists_entryCertificates_iff.mpr (hall e he)
    obtain ⟨certs, hcerts⟩ := exists_collect_iff.mpr hyield
    have hsound : ¬ ∃ e ∈ entries, ¬ e.toDirEntry.isDir = true ∧ ¬ Usable P e.content := by
      rintro ⟨e, he, hfile, hbroken⟩
      exact hbroken ((hall e he).resolve_left hfile)
    have hnil : certs = [] ↔ ∀ e ∈ entries, e.toDirEntry.isDir = true := by
      rw [← Except.ok.injEq (ε := GoError), ← hcerts, collect_eq_nil_iff]
      exact forall₂_congr (fun e _ => entryCertificates_eq_nil_iff)
    rw [or_iff_right hsound, ← hnil]
    constructor
    · intro hnot
      by_contra hne
      exact hnot ⟨certs, hcerts, hne⟩
    · rintro rfl ⟨certs', hcerts', hne⟩
      rw [hcerts] at hcerts'
      cases hcerts'
      exact hne rfl
  · refine iff_of_true ?_ (.inl ?_)
    · rintro ⟨certs, hcerts, -⟩
      refine hall (fun e he => ?_)
      exact exists_entryCertificates_iff.mp (exists_collect_iff.mp ⟨certs, hcerts⟩ e he)
    · push Not at hall
      exact hall

/-- What a directory of certificate files yields. -/
theorem loadEntries_concat (h : loadEntries P dir entries = .ok certs)
    (hfiles : ∀ e ∈ entries, e.kind ≠ .directory) :
    ∃ css, List.Forall₂ (fun e cs => ∃ data, e.content = .ok data ∧ FileHolds P data cs)
      entries css ∧ certs = css.flatten := by
  obtain ⟨hcollect, -⟩ := loadEntries_ok_iff.mp h
  obtain ⟨css, hcss, hflat⟩ := collect_eq_ok_iff.mp hcollect
  refine ⟨css, ?_, hflat⟩
  refine ((List.forall₂_and_left _ _).mpr ⟨hfiles, hcss⟩).imp ?_
  rintro e cs ⟨hfile, hcs⟩
  rcases entryCertificates_ok_iff.mp hcs with ⟨hdir, -⟩ | ⟨-, data, hdata, hholds, -⟩
  · exact absurd (isDir_toDirEntry.mp hdir) hfile
  · exact ⟨data, hdata, hholds⟩

theorem files_not_directories : ∀ e ∈ entries.filter Entry.isCertificateFile, e.kind ≠ .directory :=
  fun _ he => not_directory_of_isCertificateFile (List.mem_filter.mp he).2

/-- The load of the certificate files alone fails on one of them, or for want
of one. -/
theorem load_files_eq_none_iff :
    (loadEntries P dir (entries.filter Entry.isCertificateFile)).toOption = none ↔
      (∃ e ∈ entries, e.isCertificateFile = true ∧ ¬ Usable P e.content) ∨
        ∀ e ∈ entries, e.isCertificateFile = false := by
  rw [loadEntries_eq_none_iff]
  refine or_congr ?_ ?_
  · constructor
    · rintro ⟨e, he, -, hbroken⟩
      obtain ⟨he, hfile⟩ := List.mem_filter.mp he
      exact ⟨e, he, hfile, hbroken⟩
    · rintro ⟨e, he, hfile, hbroken⟩
      exact ⟨e, List.mem_filter.mpr ⟨he, hfile⟩, not_directory_of_isCertificateFile hfile, hbroken⟩
  · constructor
    · intro hdirs e he
      by_contra hfile
      rw [Bool.not_eq_false] at hfile
      have hmem := List.mem_filter.mpr ⟨he, hfile⟩
      exact files_not_directories e hmem (hdirs e hmem)
    · intro hnone e he
      obtain ⟨he, hfile⟩ := List.mem_filter.mp he
      rw [hnone e he] at hfile
      cases hfile

/-- Directories among the entries change nothing. -/
theorem load_files_eq (h : ∀ e ∈ entries, e.isCertificateFile = false → e.kind = .directory) :
    (loadEntries P dir (entries.filter Entry.isCertificateFile)).toOption =
      (loadEntries P dir entries).toOption := by
  have hcollect := collect_filter (f := fun e => entryCertificates P dir (Entry.toDirEntry e))
    (fun e he hother => entryCertificates_eq_nil_iff.mpr (isDir_toDirEntry.mpr (h e he hother)))
  refine Option.ext (fun certs => ?_)
  simp only [toOption_eq_some_iff, loadEntries_ok_iff, hcollect]

/-- Where both loads return the same, they read the same files. -/
theorem directories_of_load_files_eq (h : loadEntries P dir entries = .ok certs)
    (hfiles : loadEntries P dir (entries.filter Entry.isCertificateFile) = .ok certs) :
    ∀ e ∈ entries, e.isCertificateFile = false → e.kind = .directory := by
  obtain ⟨hcollect, -⟩ := loadEntries_ok_iff.mp h
  obtain ⟨hcollect', -⟩ := loadEntries_ok_iff.mp hfiles
  intro e he hother
  have hnil := (length_collect_filter hcollect hcollect').2 rfl e he hother
  exact isDir_toDirEntry.mp (entryCertificates_eq_nil_iff.mp hnil)

end

/-- A directory is read from its certificate files alone exactly if the rest of
it is directories, or if the load fails on its own: a certificate file is
broken, or there is none and something else is. -/
theorem loadCertificatesFromDir_files_iff (P : Platform) (dir : String) (entries : List Entry) :
    ((loadEntries P dir (entries.filter Entry.isCertificateFile)).toOption =
          (loadEntries P dir entries).toOption ∧
        ∀ certs, loadEntries P dir entries = .ok certs →
          ∃ css, List.Forall₂ (fun e cs => ∃ data, e.content = .ok data ∧ FileHolds P data cs)
            (entries.filter Entry.isCertificateFile) css ∧ certs = css.flatten) ↔
      (∀ e ∈ entries, e.isCertificateFile = false → e.kind = .directory) ∨
        (∃ e ∈ entries, e.isCertificateFile = true ∧ ¬ Usable P e.content) ∨
        ((∀ e ∈ entries, e.isCertificateFile = false) ∧
          ∃ e ∈ entries, e.kind ≠ .directory ∧ ¬ Usable P e.content) := by
  constructor
  · rintro ⟨hsame, -⟩
    cases hload : loadEntries P dir entries with
    | ok certs =>
        rw [hload] at hsame
        exact .inl (directories_of_load_files_eq hload (toOption_eq_some_iff.mp hsame))
    | error err =>
        rw [hload] at hsame
        rcases load_files_eq_none_iff.mp hsame with hbroken | hnone
        · exact .inr (.inl hbroken)
        · have hfails : (loadEntries P dir entries).toOption = none := by rw [hload]; rfl
          rcases loadEntries_eq_none_iff.mp hfails with hbroken | hdirs
          · exact .inr (.inr ⟨hnone, hbroken⟩)
          · exact .inl (fun e he _ => hdirs e he)
  · intro h
    have hsame : (loadEntries P dir (entries.filter Entry.isCertificateFile)).toOption =
        (loadEntries P dir entries).toOption := by
      rcases h with hdirs | ⟨e, he, hfile, hbroken⟩ | ⟨hnone, hbroken⟩
      · exact load_files_eq hdirs
      · rw [load_files_eq_none_iff.mpr (.inl ⟨e, he, hfile, hbroken⟩), loadEntries_eq_none_iff.mpr
          (.inl ⟨e, he, not_directory_of_isCertificateFile hfile, hbroken⟩)]
      · rw [load_files_eq_none_iff.mpr (.inr hnone), loadEntries_eq_none_iff.mpr (.inl hbroken)]
    refine ⟨hsame, ?_⟩
    intro certs hcerts
    rw [hcerts] at hsame
    exact loadEntries_concat (toOption_eq_some_iff.mp hsame) files_not_directories

/-- Nothing is PEM, and what starts like a DER sequence is a certificate. -/
def derPlatform : Platform :=
  { Platform.refusing with
    parseCertificate := fun der =>
      match der with
      | 0x30 :: _ => .ok { (default : Certificate) with raw := der }
      | _ => .error (.text "x509: malformed certificate") }

def caFile : Entry := ⟨"ca.der", .regular, .ok [0x30, 1]⟩
def note : Entry := ⟨"README", .regular, .ok "issuing CAs".toUTF8.toList⟩
def linkToDir : Entry := ⟨"old", .other, .error (.text "read /trust/old: is a directory")⟩
def backup : Entry := ⟨"ca.der.bak", .regular, .ok [0x30, 0]⟩

/-- One certificate file, and what becomes of it beside a note, a link to a
directory and an outdated copy. -/
theorem stray_entries_loaded :
    let load := fun entries => (loadEntries derPlatform "/trust" entries).toOption.map
      (·.map (·.raw))
    [caFile, note, linkToDir, backup].filter Entry.isCertificateFile = [caFile] ∧
      load [caFile] = some [[0x30, 1]] ∧
      load [caFile, note] = none ∧
      load [caFile, linkToDir] = none ∧
      load [caFile, backup] = some [[0x30, 1], [0x30, 0]] := by
  refine ⟨rfl, ?_, ?_, ?_, ?_⟩
  · decide +kernel
  · decide +kernel
  · decide +kernel
  · decide +kernel

end WebEid.Certificate
