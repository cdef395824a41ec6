import NetworkCopy.PathSeparation
import NetworkCopy.ResumeState
import NetworkCopy.Lib.ByteOrder
import NetworkCopy.Lib.Crash

/-!
# The destination and its journal

A receiver changes the files below its destination root by single calls to the file
system, and it can stop between any two of them.  It is a `Crash.Prog` over the files and
the journal that the lanes share behind a mutex.  Every call is one action; that a call
fails, that a peer sends something unusable and that a user cancels are failures of an
action.

`ResumeJournal::save_atomic` writes the temporary journal field by field, reads it back,
compares, and renames it over the journal.  A journal on disk is what `read_path` makes of
the bytes of that file.

Paths are relative to the destination root, also in messages.
-/

namespace NetworkCopy

open Crash ByteOrder

/-- The state of a receiver: the files below the destination root, the value of the mutex
`resume_journal` with the lane that has locked it, and the times that the next writes will
see. -/
structure Receiver where
  files : FileTree
  journal : ResumeJournal
  holder : Option Nat
  clock : Nat → Nat

/-- Code of the receiver. -/
abbrev Program (α : Type) := Prog Receiver IoError α

/-! ## Pure checks on the files -/

namespace FileTree

/-- `validate_resume_file`. -/
def validateResumeFile (files : FileTree) (path : RelativePath) (expectedSize : Nat)
    (description : String) : IoResult Unit :=
  let text := displayPath path
  match files path with
  | none => .error (osError .notFound)
  | some .directory => .error (.invalidData s!"{description} is not a regular file: {text}")
  | some (.file node) =>
      let actualSize := node.content.1.length
      ensure (actualSize = expectedSize)
        (.invalidData
          s!"{description} has {actualSize} bytes, expected {expectedSize}: {text}")

theorem validateResumeFile_eq_ok {files : FileTree} {path : RelativePath} {expectedSize : Nat}
    {description : String} {u : Unit} :
    files.validateResumeFile path expectedSize description = .ok u ↔
      ∃ node, files path = some (.file node) ∧ node.content.1.length = expectedSize := by
  unfold validateResumeFile
  dsimp only
  split <;> simp_all

/-- `remove_file_if_present`. -/
def removeFileIfPresent (files : FileTree) (path : RelativePath) : IoResult FileTree :=
  match files path with
  | none => .ok files
  | some _ => files.removeFile path

/-- `fs::create_dir`, for a directory that may be there already. -/
def createDirectory (files : FileTree) (path : RelativePath) : IoResult FileTree :=
  match files path with
  | none => .ok (files.set path (some .directory))
  | some .directory => .ok files
  | some (.file _) => .error (osError .alreadyExists)

/-- `write_all` at the end of a file that is being written. -/
def append (files : FileTree) (path : RelativePath) (bytes : Bytes) (now : Nat) :
    IoResult FileTree := do
  let node ← files.openFile path
  files.store path node (node.content.1 ++ bytes) now

end FileTree

/-! ## Calls -/

namespace Receiver

/-- The state with other files, one tick later. -/
def withFiles (state : Receiver) (files : FileTree) : Receiver :=
  { state with files, clock := fun tick => state.clock (tick + 1) }

@[simp] theorem withFiles_files (state : Receiver) (files : FileTree) :
    (state.withFiles files).files = files := rfl

@[simp] theorem withFiles_journal (state : Receiver) (files : FileTree) :
    (state.withFiles files).journal = state.journal := rfl

@[simp] theorem withFiles_holder (state : Receiver) (files : FileTree) :
    (state.withFiles files).holder = state.holder := rfl

/-- Change the files. -/
def onFiles (change : FileTree → Nat → IoResult FileTree) (state : Receiver) :
    IoResult Receiver := do
  let files ← change state.files (state.clock 0)
  return state.withFiles files

/-- Look at the files. -/
def inspect {α : Type} (f : FileTree → IoResult α) : Program α :=
  .query (fun state => f state.files)

def createNew (path : RelativePath) : Program Unit :=
  .modify (onFiles (fun files now => files.createNew path now))

def setLen (path : RelativePath) (length : Nat) : Program Unit :=
  .modify (onFiles (fun files now => files.setLen path length now))

def writeAt (path : RelativePath) (offset : Nat) (bytes : Bytes) : Program Unit :=
  .modify (onFiles (fun files now => files.writeAt path offset bytes now))

def append (path : RelativePath) (bytes : Bytes) : Program Unit :=
  .modify (onFiles (fun files now => files.append path bytes now))

def replace (source destination : RelativePath) : Program Unit :=
  .modify (onFiles (fun files _ => files.replace source destination))

def removeFile (path : RelativePath) : Program Unit :=
  .modify (onFiles (fun files _ => files.removeFile path))

def removeFileIfPresent (path : RelativePath) : Program Unit :=
  .modify (onFiles (fun files _ => files.removeFileIfPresent path))

def createDirectory (path : RelativePath) : Program Unit :=
  .modify (onFiles (fun files _ => files.createDirectory path))

def restoreFile (path : RelativePath) (lastWriteTime : Nat) (sourceAttributes : UInt32) :
    Program Unit :=
  .modify (onFiles (fun files _ => files.restoreFile path lastWriteTime sourceAttributes))

end Receiver

/-! ## The journal as bytes -/

namespace ResumeJournal

/-- `JOURNAL_MAGIC`: `NCR1`. -/
def journalMagic : Bytes := [0x4E, 0x43, 0x52, 0x31]

/-- `JOURNAL_VERSION_V1`. -/
def journalVersionV1 : Nat := 1

/-- `JOURNAL_VERSION`. -/
def journalVersion : Nat := 2

/-- Code that reads from an open file. -/
abbrev Reader (α : Type) := StateT Bytes (Except IoError) α

/-- `read_exact`. -/
def readExact (length : Nat) : Reader Bytes := fun bytes =>
  if length ≤ bytes.length then .ok (bytes.take length, bytes.drop length)
  else .error ⟨.unexpectedEof, "failed to fill whole buffer", none⟩

/-- `read_u16`, `read_u32` and `read_u64`. -/
def readUint (width : Nat) : Reader Nat := do
  let bytes ← readExact width
  return beValue bytes

/-- The loop of `read_path` over the stripes. -/
def readStripes : Nat → Finset ResumeStripe → Reader (Finset ResumeStripe)
  | 0, completedStripes => return completedStripes
  | count + 1, completedStripes => do
      let fileId ← readUint 8
      let offset ← readUint 8
      let length ← readUint 8
      let stripe : ResumeStripe := ⟨fileId, offset, length⟩
      StateT.lift (ensure (stripe.length ≠ 0)
        (.invalidData "resume journal contains a zero-length stripe"))
      StateT.lift (ensure (stripe ∉ completedStripes)
        (.invalidData "resume journal contains a duplicate stripe"))
      readStripes count (insert stripe completedStripes)

/-- The loop of `read_path` over the completed files. -/
def readFileIds : Nat → Finset Nat → Reader (Finset Nat)
  | 0, completedFileIds => return completedFileIds
  | count + 1, completedFileIds => do
      let fileId ← readUint 8
      StateT.lift (ensure (fileId ∉ completedFileIds)
        (.invalidData "resume journal contains a duplicate completed file ID"))
      readFileIds count (insert fileId completedFileIds)

/-- The fields that `read_path` reads. -/
def readFields : Reader ResumeJournal := do
  let magic ← readExact 4
  StateT.lift (ensure (magic = journalMagic)
    (.invalidData "resume journal used an invalid magic value"))
  let version ← readUint 2
  StateT.lift (ensure (version = journalVersionV1 ∨ version = journalVersion)
    (.invalidData s!"unsupported resume journal version {version}"))
  let reserved ← readUint 2
  StateT.lift (ensure (reserved = 0)
    (.invalidData "resume journal reserved field was not zero"))
  let manifestFingerprint ← readUint 8
  let dataStreamCount ← readUint 4
  StateT.lift (ensure (dataStreamCount ≠ 0)
    (.invalidData "resume journal stored zero data streams"))
  let stripeCount ← readUint 4
  let completedFileCount ← (if journalVersion ≤ version then readUint 4 else return 0)
  StateT.lift (ensure (stripeCount ≤ maxCompletedStripes)
    (.invalidData
      s!"resume journal contains {stripeCount} stripes, exceeding the supported limit"))
  StateT.lift (ensure (completedFileCount ≤ maxCompletedFiles)
    (.invalidData
      (s!"resume journal contains {completedFileCount} completed files, exceeding the " ++
        "supported limit")))
  let completedStripes ← readStripes stripeCount ∅
  let completedFileIds ← readFileIds completedFileCount ∅
  return { manifestFingerprint, dataStreamCount, completedStripes, completedFileIds }

/-- `read_path` on the content of the file. -/
def readPath (content : Bytes) : IoResult ResumeJournal := do
  let fields ← readFields content
  ensure (fields.2 = []) (.invalidData "resume journal contains trailing data")
  return fields.1

/-- The journal in the file at a path. -/
def readAt (files : FileTree) (path : RelativePath) : IoResult ResumeJournal := do
  let node ← files.openFile path
  readPath node.content.1

/-- The fields of `write_to` in front of the counts. -/
def headerFields (journal : ResumeJournal) : List Bytes :=
  [journalMagic, beBytes 2 journalVersion, beBytes 2 0, beBytes 8 journal.manifestFingerprint,
    beBytes 4 journal.dataStreamCount]

/-- The fields of `write_to` for a stripe. -/
def stripeFields (stripe : ResumeStripe) : List Bytes :=
  [beBytes 8 stripe.fileId, beBytes 8 stripe.offset, beBytes 8 stripe.length]

/-- The fields of `write_to` behind the counts, in the order of the sets. -/
def entryFields (journal : ResumeJournal) : List Bytes :=
  (journal.completedStripes.sort (· ≤ ·)).flatMap stripeFields ++
    (journal.completedFileIds.sort (· ≤ ·)).map (beBytes 8)

end ResumeJournal

namespace Receiver

open ResumeJournal

/-- `write_to`. -/
def writeTo (journal : ResumeJournal) (path : RelativePath) : Program Unit := do
  Prog.each (append path) journal.headerFields
  Prog.lift (ensure (journal.completedStripes.card < 2 ^ 32)
    (.invalidInput "resume journal contains too many completed stripes"))
  append path (beBytes 4 journal.completedStripes.card)
  Prog.lift (ensure (journal.completedFileIds.card < 2 ^ 32)
    (.invalidInput "resume journal contains too many completed files"))
  append path (beBytes 4 journal.completedFileIds.card)
  Prog.each (append path) journal.entryFields

/-- The closure of `save_atomic`: write, read back and publish. -/
def publishJournal (journal : ResumeJournal) : Program Unit := do
  createNew temporaryJournalFileName
  writeTo journal temporaryJournalFileName
  let reloaded ← inspect (fun files => readAt files temporaryJournalFileName)
  Prog.lift (ensure (reloaded = journal)
    (.invalidData "resume journal verification failed before publication"))
  replace temporaryJournalFileName journalFileName

/-- `save_atomic`. -/
def saveAtomic (journal : ResumeJournal) : Program Unit := do
  removeFileIfPresent temporaryJournalFileName
  (publishJournal journal).onError (removeFile temporaryJournalFileName)

/-- `load_existing`. -/
def loadExisting (expectedManifestFingerprint expectedDataStreamCount : Nat) :
    Program ResumeJournal := do
  let stored ← inspect (fun files => readAt files journalFileName)
  Prog.lift (stored.loadExisting expectedManifestFingerprint expectedDataStreamCount)

/-- `ResumeJournal::remove`. -/
def removeJournal : Program Unit := removeFileIfPresent journalFileName

/-! ## Rules -/

section

variable {α : Type} {R G : Receiver → Receiver → Prop} {I P T : Receiver → Prop}
  {Q : α → Receiver → Prop}
variable {change : FileTree → Nat → IoResult FileTree}

theorem onFiles_eq_ok {state state' : Receiver} :
    onFiles change state = .ok state' ↔
      ∃ files, change state.files (state.clock 0) = .ok files ∧ state.withFiles files = state' := by
  rw [onFiles, bind_eq_ok]
  simp only [pure_eq_ok, Except.ok.injEq]

/-- The rule of a call that changes the files. -/
theorem triple_change (hP : Prog.Stable R P) (hT : Prog.Stable R T)
    (h : ∀ state files, P state → change state.files (state.clock 0) = .ok files →
      (state = state.withFiles files ∨ G state (state.withFiles files)) ∧
        T (state.withFiles files)) :
    (Prog.modify (onFiles change)).Triple R G P (fun _ => T) := by
  apply Prog.triple_modify hP hT
  intro state state' hstate hchange
  obtain ⟨files, hfiles, rfl⟩ := onFiles_eq_ok.mp hchange
  exact h state files hstate hfiles

/-- The rule of a call that changes the files, for a program alone. -/
theorem alone_change (h : ∀ state files, P state → change state.files (state.clock 0) = .ok files →
      I (state.withFiles files) ∧ T (state.withFiles files)) :
    (Prog.modify (onFiles change)).Alone I P (fun _ => T) := by
  apply triple_change (Prog.stable_eq P) (Prog.stable_eq T)
  intro state files hstate hfiles
  exact ⟨.inr (h state files hstate hfiles).1, (h state files hstate hfiles).2⟩

/-- The rule of a call that only looks. -/
theorem alone_inspect {f : FileTree → IoResult α}
    (h : ∀ state value, P state → f state.files = .ok value → Q value state) :
    (inspect f).Alone I P Q :=
  Prog.triple_query (Prog.stable_eq P) (fun value => Prog.stable_eq (Q value)) h

/-- The rule of a check on values at hand. -/
theorem alone_lift {result : IoResult α}
    (h : ∀ value, result = .ok value → ∀ state, P state → Q value state) :
    (Prog.lift result : Program α).Alone I P Q :=
  Prog.triple_lift (fun value => Prog.stable_eq (Q value)) h

theorem alone_fail {error : IoError} : (Prog.fail error : Program α).Alone I P Q :=
  fun _ _ => trivial

theorem alone_ret {value : α} (h : ∀ state, P state → T state) :
    (Prog.ret value : Program α).Alone I P (fun _ => T) :=
  Prog.triple_ret (Prog.stable_eq T) h

end

/-! ## Runs of single calls -/

section

variable {state : Receiver} {files : FileTree}

theorem eval_change {change : FileTree → Nat → IoResult FileTree}
    (h : change state.files (state.clock 0) = .ok files) :
    (Prog.modify (onFiles change)).eval state = (.ok (), state.withFiles files) :=
  Prog.eval_modify (onFiles_eq_ok.mpr ⟨files, h, rfl⟩)

end

end Receiver

end NetworkCopy
