import Mathlib.Data.List.Nodup
import Mathlib.Data.List.Perm.Subperm
import WebEid.Lib.Call
import WebEid.Ref.Certificate

/-!
# Trust material and the trust store (`certificate/trust.go`)

The loaders read a trust source, a file or a directory of files, into a list
of certificates. What the file system answers is an input: `Source` is
everything one pass over the configured path can meet, down to the error a
single file's read returns.

The store keeps one snapshot behind an atomic pointer. Its readers are
`Call`s, because each of them loads the pointer once and a caller that uses
two of them loads it twice; `reload` is the only operation that replaces the
snapshot.
-/

namespace WebEid

open Lib Exceptions

/-! ## The trust source -/

/-- One entry of `os.ReadDir`, with what `os.ReadFile` of it returns. -/
structure DirEntry where
  name : String
  isDir : Bool
  content : Except GoError Bytes

/-- What the configured path holds when it is read. -/
inductive Source where
  /-- `os.Stat` fails. -/
  | noStat (err : GoError)
  /-- A directory, with the answer of `os.ReadDir`. -/
  | dir (entries : Except GoError (List DirEntry))
  /-- Anything else, with the answer of `os.Open` and `io.ReadAll`. -/
  | file (content : Except GoError Bytes)

namespace Certificate

/-- The block loop of `LoadCertificatesFromPEM`. Every round consumes input,
so as much fuel as there are bytes never runs out (`pemBlocks_eq`). -/
def pemBlocks (P : Platform) :
    Nat → Bytes → List Certificate → Except GoError (List Certificate)
  | 0, _, certs => .ok certs
  | fuel + 1, data, certs =>
      match P.pemDecode data with
      | none => .ok certs
      | some (block, rest) =>
          if block.type ≠ "CERTIFICATE" then pemBlocks P fuel rest certs
          else
            match P.parseCertificate block.bytes with
            | .error err => .error (.wrapf "parse PEM certificate" err)
            | .ok cert => pemBlocks P fuel rest (certs ++ [cert])

/-- The reader is what `io.ReadAll` makes of it. -/
def loadCertificatesFromPEM (P : Platform) (r : Except GoError Bytes) :
    Except GoError (List Certificate) := do
  let data ← r
  let certs ← pemBlocks P data.length data []
  if certs.isEmpty then .error (.text "no certificates found in PEM data")
  else pure certs

/-- The entry loop of `LoadCertificatesFromDir`. -/
def dirEntries (P : Platform) (dir : String) :
    List DirEntry → List Certificate → Except GoError (List Certificate)
  | [], certs => .ok certs
  | entry :: entries, certs =>
      if entry.isDir then dirEntries P dir entries certs
      else do
        let data ← entry.content
        match P.pemDecode data with
        | some _ =>
            let parsed ← loadCertificatesFromPEM P (.ok data)
            dirEntries P dir entries (certs ++ parsed)
        | none =>
            match P.parseCertificate data with
            | .error err =>
                .error (.wrapf ("parse certificate " ++ (dir ++ "/" ++ entry.name).quote) err)
            | .ok cert => dirEntries P dir entries (certs ++ [cert])

def loadCertificatesFromDir (P : Platform) (dir : String)
    (entries : Except GoError (List DirEntry)) : Except GoError (List Certificate) := do
  let entries ← entries
  let certs ← dirEntries P dir entries []
  if certs.isEmpty then
    .error (.wrapf ("in " ++ dir.quote) (.sentinel .errNoCertificatesFound))
  else pure certs

end Certificate

/-! ## The store -/

/-- `trustSnapshot`: the certificates and the pool built from them. -/
structure TrustSnapshot where
  intermediates : List Certificate
  pool : CertPool
  deriving DecidableEq

def newTrustSnapshot (intermediates : List Certificate) : TrustSnapshot where
  intermediates := intermediates
  pool := intermediates.foldl CertPool.addCert CertPool.empty

def errTrustedCARequired : GoError :=
  .text "at least one trusted CA certificate is required"

namespace TrustStore

/-- `NewTrustStore`. -/
def new (intermediates : List Certificate) : Except GoError TrustSnapshot :=
  if intermediates.isEmpty then .error errTrustedCARequired
  else .ok (newTrustSnapshot intermediates)

/-- `NewRuntimeTrustStore`. -/
def newRuntime : TrustSnapshot := newTrustSnapshot []

/-- `Reload`: the snapshot to store, or a refusal that stores nothing. -/
def reload (intermediates : List Certificate) : Except GoError TrustSnapshot :=
  if intermediates.isEmpty then .error errTrustedCARequired
  else .ok (newTrustSnapshot intermediates)

/-- The search of `IssuerOf` in one snapshot. -/
def findIssuer (P : Platform) (snap : TrustSnapshot) (cert : Certificate) :
    Option Certificate :=
  snap.intermediates.find? fun ca => (P.checkSignatureFrom cert ca).isOk

/-- `IssuerOf`: one load. -/
def issuerOf (P : Platform) (cert : Certificate) :
    Call TrustSnapshot GoError (Option Certificate) := do
  let snap ← Call.read
  pure (findIssuer P snap cert)

/-- The chain building of `Verify` against one snapshot. -/
def verifyAgainst (P : Platform) (snap : TrustSnapshot) (cert : Certificate) (now : Time)
    (keyUsages : List ExtKeyUsage) : Except GoError Unit :=
  let opts : VerifyOptions :=
    { roots := snap.pool
      intermediates := snap.pool
      currentTime := now
      keyUsages := if keyUsages.isEmpty then [.any] else keyUsages }
  match P.verify cert opts with
  | .error err => .error (wrap .errCertificateNotTrusted err)
  | .ok () => .ok ()

/-- `Verify`: one load. -/
def verify (P : Platform) (cert : Certificate) (now : Time)
    (keyUsages : List ExtKeyUsage) : Call TrustSnapshot GoError Unit := do
  let snap ← Call.read
  verifyAgainst P snap cert now keyUsages

end TrustStore

/-! ## The pool of a fresh snapshot -/

theorem CertPool.mem_addCert {pool : CertPool} {c d : Certificate} :
    d ∈ (pool.addCert c).certs ↔ d ∈ pool.certs ∨ d = c := by
  unfold addCert
  split <;> rename_i h
  · constructor
    · exact Or.inl
    · rintro (hd | rfl)
      · exact hd
      · exact h
  · simp

/-- The pool holds the listed certificates and nothing else. -/
theorem mem_newTrustSnapshot_pool {intermediates : List Certificate} {d : Certificate} :
    d ∈ (newTrustSnapshot intermediates).pool.certs ↔ d ∈ intermediates := by
  have hfold : ∀ (cas : List Certificate) (pool : CertPool),
      d ∈ (cas.foldl CertPool.addCert pool).certs ↔ d ∈ pool.certs ∨ d ∈ cas := by
    intro cas
    induction cas with
    | nil => intro pool; simp
    | cons c cas ih =>
        intro pool
        rw [List.foldl_cons, ih, CertPool.mem_addCert, List.mem_cons, or_assoc]
  rw [newTrustSnapshot, hfold]
  simp [CertPool.empty]

theorem nodup_newTrustSnapshot_pool (intermediates : List Certificate) :
    (newTrustSnapshot intermediates).pool.certs.Nodup := by
  have hfold : ∀ (cas : List Certificate) (pool : CertPool), pool.certs.Nodup →
      (cas.foldl CertPool.addCert pool).certs.Nodup := by
    intro cas
    induction cas with
    | nil => intro pool h; exact h
    | cons c cas ih =>
        intro pool h
        refine ih _ ?_
        unfold CertPool.addCert
        split
        · exact h
        · next hnew =>
            exact h.append (List.nodup_singleton c) (List.disjoint_singleton.mpr hnew)
  exact hfold intermediates CertPool.empty List.nodup_nil

/-- The pool is as long as the list only if the list repeats nothing. -/
theorem length_newTrustSnapshot_pool {intermediates : List Certificate} :
    intermediates.length = (newTrustSnapshot intermediates).pool.certs.length ↔
      intermediates.Nodup := by
  have hnodup := nodup_newTrustSnapshot_pool intermediates
  constructor
  · intro hlen
    have hsub : (newTrustSnapshot intermediates).pool.certs.Subperm intermediates :=
      hnodup.subperm fun _ => mem_newTrustSnapshot_pool.mp
    exact (hsub.perm_of_length_le (Nat.le_of_eq hlen)).nodup_iff.mp hnodup
  · intro h
    exact ((List.perm_ext_iff_of_nodup h hnodup).mpr fun _ =>
      mem_newTrustSnapshot_pool.symm).length_eq

end WebEid
