import NetworkCopy.FileSystem
import NetworkCopy.ManifestTree

/-!
# The directory scan

The workers of `manifest_scan::run` share a `DirectoryQueue`.  Each takes a directory, scans it and
completes it, which puts its subdirectories on the queue, until there is no directory left.  A worker
that finds the queue empty waits on the condition variable while others are active.

A directory is the list of the names below the root that lead to it.  What happens under the lock is
one function of the state of the queue, and a step of the system is one such section, one scan, or
the end of a wait.
-/

namespace NetworkCopy

/-! ## The tree -/

/-- `FILE_ATTRIBUTE_DIRECTORY`. -/
def fileAttributeDirectory : UInt32 := 0x10

/-- `FILE_ATTRIBUTE_SPARSE_FILE`. -/
def fileAttributeSparseFile : UInt32 := 0x200

/-- `FILE_ATTRIBUTE_COMPRESSED`. -/
def fileAttributeCompressed : UInt32 := 0x800

/-- A `DirEntry` and its metadata.  A name is not empty and has no separator. -/
@[ext] structure FsEntry where
  name : List UInt16
  fileAttributes : UInt32
  isFile : Bool
  len : Nat
  lastWriteTime : Nat
  name_ne : name ≠ []
  name_flat : pathSeparator ∉ name
  len_lt : len < u64Limit
  lastWriteTime_lt : lastWriteTime < u64Limit

instance : DecidableEq FsEntry := fun _ _ => decidable_of_iff' _ FsEntry.ext_iff

/-- The names that lead from the root to a directory or a file. -/
abbrev ScanPath := List (List UInt16)

/-- What `fs::read_dir` finds in each directory below the root.  The entries of a directory have
different names. -/
structure DirectoryTree where
  readDir : ScanPath → List FsEntry
  names_nodup : ∀ directory, ((readDir directory).map FsEntry.name).Nodup

/-- The path relative to the root. -/
def relativePathOf (path : ScanPath) : RelativePath := [pathSeparator].intercalate path

namespace FsEntry

/-- The entry is a reparse point. -/
def isReparsePoint (entry : FsEntry) : Bool :=
  entry.fileAttributes &&& fileAttributeReparsePoint ≠ 0

/-- The entry is a directory, and no reparse point. -/
def isDirectory (entry : FsEntry) : Bool :=
  !entry.isReparsePoint && entry.fileAttributes &&& fileAttributeDirectory ≠ 0

/-- The entry is a file, and no reparse point. -/
def isRegularFile (entry : FsEntry) : Bool :=
  !entry.isReparsePoint && !entry.isDirectory && entry.isFile

end FsEntry

/-- The manifest entry of a file. -/
def manifestEntryOf (directory : ScanPath) (entry : FsEntry) : ManifestEntry where
  relativePath := relativePathOf (directory ++ [entry.name])
  fileSize := entry.len
  lastWriteTime := entry.lastWriteTime
  fileAttributes := entry.fileAttributes
  fileClass := classifyFile entry.len
  fileSize_lt := entry.len_lt
  lastWriteTime_lt := entry.lastWriteTime_lt

/-! ## Scanning a directory -/

/-- `DirectoryScan`. -/
structure DirectoryScan where
  manifest : List ManifestEntry
  directories : List DirectoryEntry
  discoveredDirectories : List ScanPath
  reparsePointsSkipped : Nat

/-- `relative_path_from_root`.  The root is in front of every path that is scanned. -/
def relativePathFromRoot (path : ScanPath) : IoResult RelativePath := do
  let relativePath := relativePathOf path
  validateRelativePath relativePath
  return relativePath

/-- One turn of the loop in `scan_directory`. -/
def scanEntry (directory : ScanPath) (scan : DirectoryScan) (entry : FsEntry) :
    IoResult DirectoryScan :=
  if entry.fileAttributes &&& fileAttributeReparsePoint ≠ 0 then do
    let skipped ← okOrElse (checkedAdd scan.reparsePointsSkipped 1)
      (.other "reparse-point count overflowed")
    return { scan with reparsePointsSkipped := skipped }
  else
    let path := directory ++ [entry.name]
    if entry.fileAttributes &&& fileAttributeDirectory ≠ 0 then do
      let relativePath ← relativePathFromRoot path
      return { scan with
        directories := scan.directories ++ [⟨relativePath⟩]
        discoveredDirectories := scan.discoveredDirectories ++ [path] }
    else if entry.isFile then do
      let relativePath ← relativePathFromRoot path
      return { scan with manifest := scan.manifest ++ [{
        relativePath
        fileSize := entry.len
        lastWriteTime := entry.lastWriteTime
        fileAttributes := entry.fileAttributes
        fileClass := classifyFile entry.len
        fileSize_lt := entry.len_lt
        lastWriteTime_lt := entry.lastWriteTime_lt }] }
    else .ok scan

/-- `scan_directory`, when every call succeeds. -/
def scanDirectory (tree : DirectoryTree) (directory : ScanPath) : IoResult DirectoryScan :=
  (tree.readDir directory).foldlM (scanEntry directory) ⟨[], [], [], 0⟩

/-! ## The queue -/

/-- `DirectoryQueueState`. -/
structure DirectoryQueueState where
  pending : List ScanPath
  activeWorkers : Nat
  cancelled : Bool
  deriving DecidableEq, Repr

/-- How one turn of the loop in `take_directory` ends. -/
inductive TakeOutcome where
  | directory (path : ScanPath)
  | none
  | wait
  deriving DecidableEq, Repr

namespace DirectoryQueueState

/-- `DirectoryQueue::new`. -/
def new : DirectoryQueueState := ⟨[[]], 0, false⟩

/-- One turn of the loop in `take_directory`, under the lock. -/
def takeDirectory (state : DirectoryQueueState) : IoResult TakeOutcome × DirectoryQueueState :=
  if state.cancelled then (.ok .none, state)
  else
    match state.pending with
    | directory :: rest =>
        match checkedAdd state.activeWorkers 1 with
        | some activeWorkers =>
            (.ok (.directory directory), { state with pending := rest, activeWorkers })
        | none => (.error (.other "active directory worker count overflowed"),
            { state with pending := rest })
    | [] => if state.activeWorkers = 0 then (.ok .none, state) else (.ok .wait, state)

/-- `complete_directory`, under the lock. -/
def completeDirectory (discoveredDirectories : List ScanPath) (state : DirectoryQueueState) :
    IoResult Unit × DirectoryQueueState :=
  match state.activeWorkers with
  | 0 => (.error (.other "directory worker completed without active work"), state)
  | activeWorkers + 1 => (.ok (), { state with
      activeWorkers
      pending :=
        if state.cancelled then state.pending else state.pending ++ discoveredDirectories })

/-- `cancel`, under the lock. -/
def cancel (state : DirectoryQueueState) : DirectoryQueueState := { state with cancelled := true }

end DirectoryQueueState

/-! ## Workers -/

/-- `WorkerResult`. -/
structure WorkerResult where
  manifest : List ManifestEntry
  directories : List DirectoryEntry
  directoriesScanned : Nat
  reparsePointsSkipped : Nat

namespace WorkerResult

/-- What a worker starts with. -/
def empty : WorkerResult := ⟨[], [], 0, 0⟩

/-- What `scan_worker` adds to its result after a scan. -/
def extend (result : WorkerResult) (scan : DirectoryScan) : IoResult WorkerResult := do
  let directoriesScanned ← okOrElse (checkedAdd result.directoriesScanned 1)
    (.other "directory count overflowed in scanner worker")
  let reparsePointsSkipped ← okOrElse
    (checkedAdd result.reparsePointsSkipped scan.reparsePointsSkipped)
    (.other "reparse-point count overflowed in scanner worker")
  return {
    manifest := result.manifest ++ scan.manifest
    directories := result.directories ++ scan.directories
    directoriesScanned
    reparsePointsSkipped }

end WorkerResult

/-- Where a worker is in `scan_worker`. -/
inductive ScanWorker where
  /-- About to look at the queue. -/
  | ready (result : WorkerResult)
  /-- In `Condvar::wait`. -/
  | waiting (result : WorkerResult)
  | scanning (directory : ScanPath) (result : WorkerResult)
  /-- Before `complete_directory`. -/
  | scanned (directory : ScanPath) (discovered : List ScanPath) (result : WorkerResult)
  /-- In `cancel`, between the lock and `notify_all`. -/
  | cancelling (directory : ScanPath) (error : IoError)
  | returned (result : WorkerResult)
  /-- It returned an error, maybe with a directory that it had taken. -/
  | failed (directory : Option ScanPath) (error : IoError)

namespace ScanWorker

/-- What `notify_all` does to a worker. -/
def notified : ScanWorker → ScanWorker
  | waiting result => ready result
  | worker => worker

/-- A worker with this result after `take_directory`. -/
def afterTake (result : WorkerResult) : IoResult TakeOutcome → ScanWorker
  | .ok (.directory path) => scanning path result
  | .ok .none => returned result
  | .ok .wait => waiting result
  | .error error => failed none error

/-- A worker after the scan of its directory. -/
def afterScan (directory : ScanPath) (discovered : List ScanPath) :
    IoResult WorkerResult → ScanWorker
  | .ok result => scanned directory discovered result
  | .error error => failed (some directory) error

/-- A worker after `complete_directory`. -/
def afterComplete (directory : ScanPath) (result : WorkerResult) : IoResult Unit → ScanWorker
  | .ok _ => ready result
  | .error error => failed (some directory) error

/-- The worker has an error. -/
def HasFailed : ScanWorker → Prop
  | cancelling _ _ => True
  | failed _ _ => True
  | _ => False

/-- The worker can go on without another one. -/
def CanGoOn : ScanWorker → Prop
  | ready _ => True
  | scanning _ _ => True
  | scanned _ _ _ => True
  | _ => False

end ScanWorker

/-- The directory that `take_directory` returned. -/
def TakeOutcome.taken : IoResult TakeOutcome → List ScanPath
  | .ok (.directory path) => [path]
  | _ => []

/-! ## The system -/

/-- The queue, the workers, and the directories that were handed to them so far. -/
structure ScanSystem where
  queue : DirectoryQueueState
  workers : List ScanWorker
  handed : List ScanPath

namespace ScanSystem

/-- The start of a scan with some workers. -/
def start (workerCount : Nat) : ScanSystem :=
  ⟨.new, List.replicate workerCount (.ready .empty), []⟩

/-- One step of one worker, or of the thread that joins them.  A scan can fail for any reason
(`scanFails`), a wait can end without a notification (`wakes`), and the thread that joins a failed
worker cancels the queue once more. -/
inductive Step (tree : DirectoryTree) : ScanSystem → ScanSystem → Prop
  | take (queue left right handed result) :
      Step tree ⟨queue, left ++ .ready result :: right, handed⟩
        ⟨queue.takeDirectory.2, left ++ .afterTake result queue.takeDirectory.1 :: right,
          handed ++ TakeOutcome.taken queue.takeDirectory.1⟩
  | wakes (queue left right handed result) :
      Step tree ⟨queue, left ++ .waiting result :: right, handed⟩
        ⟨queue, left ++ .ready result :: right, handed⟩
  | scans (queue left right handed directory result scan)
      (hscan : scanDirectory tree directory = .ok scan) :
      Step tree ⟨queue, left ++ .scanning directory result :: right, handed⟩
        ⟨queue, left ++ .afterScan directory scan.discoveredDirectories (result.extend scan) ::
          right, handed⟩
  | scanFails (queue left right handed directory result error) :
      Step tree ⟨queue, left ++ .scanning directory result :: right, handed⟩
        ⟨queue.cancel, left ++ .cancelling directory error :: right, handed⟩
  | notifies (queue left right handed directory error) :
      Step tree ⟨queue, left ++ .cancelling directory error :: right, handed⟩
        ⟨queue, left.map .notified ++ .failed (some directory) error :: right.map .notified, handed⟩
  | completes (queue left right handed directory discovered result)
      (hok : (queue.completeDirectory discovered).1 = .ok ()) :
      Step tree ⟨queue, left ++ .scanned directory discovered result :: right, handed⟩
        ⟨(queue.completeDirectory discovered).2,
          left.map .notified ++ .ready result :: right.map .notified, handed⟩
  | completionFails (queue left right handed directory discovered result error)
      (herror : (queue.completeDirectory discovered).1 = .error error) :
      Step tree ⟨queue, left ++ .scanned directory discovered result :: right, handed⟩
        ⟨queue, left ++ .failed (some directory) error :: right, handed⟩
  | joinCancels (queue workers handed directory error)
      (hfailed : ScanWorker.failed directory error ∈ workers) :
      Step tree ⟨queue, workers, handed⟩ ⟨queue.cancel, workers, handed⟩
  | joinNotifies (queue workers handed directory error)
      (hfailed : ScanWorker.failed directory error ∈ workers) :
      Step tree ⟨queue, workers, handed⟩ ⟨queue, workers.map .notified, handed⟩

/-- The states that a scan with some workers goes through, in any interleaving. -/
def Reached (tree : DirectoryTree) (workerCount : Nat) (state : ScanSystem) : Prop :=
  Relation.ReflTransGen (Step tree) (start workerCount) state

end ScanSystem

/-! ## The result -/

/-- What `sort_unstable_by` promises for the comparison of the encoded paths. -/
structure PathSort (α : Type) (path : α → RelativePath) where
  run : List α → List α
  perm : ∀ entries, (run entries).Perm entries
  sorted : ∀ entries, (run entries).Pairwise (fun left right =>
    (path left).map UInt16.toNat ≤ (path right).map UInt16.toNat)

/-- The two sorts of `run`. -/
structure ScanSorts where
  manifest : PathSort ManifestEntry ManifestEntry.relativePath
  directories : PathSort DirectoryEntry DirectoryEntry.relativePath

/-- The manifest of the results of the workers, sorted. -/
def mergedManifest (sorts : ScanSorts) (results : List WorkerResult) : List ManifestEntry :=
  sorts.manifest.run (results.flatMap WorkerResult.manifest)

/-- The directories of the results of the workers, sorted. -/
def mergedDirectories (sorts : ScanSorts) (results : List WorkerResult) : List DirectoryEntry :=
  sorts.directories.run (results.flatMap WorkerResult.directories)

/-- `ScanReport` without the time. -/
structure ScanReport where
  workerCount : Nat
  filesScanned : Nat
  directoriesScanned : Nat
  reparsePointsSkipped : Nat
  totalBytes : Nat
  tinyFiles : Nat
  tinyBytes : Nat
  mediumFiles : Nat
  mediumBytes : Nat
  largeFiles : Nat
  largeBytes : Nat
  sparseFiles : Nat
  compressedFiles : Nat
  relativePathUtf16Units : Nat
  deriving DecidableEq, Repr

/-- One turn of the loop in `build_report`. -/
def reportEntry (report : ScanReport) (entry : ManifestEntry) : IoResult ScanReport := do
  let totalBytes ← okOrElse (checkedAdd report.totalBytes entry.fileSize)
    (.other "total manifest byte count overflowed")
  let relativePathUtf16Units ← okOrElse
    (checkedAdd report.relativePathUtf16Units entry.relativePath.length)
    (.other "manifest path-size count overflowed")
  let report := { report with
    totalBytes
    relativePathUtf16Units
    sparseFiles := report.sparseFiles +
      (if entry.fileAttributes &&& fileAttributeSparseFile ≠ 0 then 1 else 0)
    compressedFiles := report.compressedFiles +
      (if entry.fileAttributes &&& fileAttributeCompressed ≠ 0 then 1 else 0) }
  match entry.fileClass with
  | .tiny => do
      let tinyBytes ← okOrElse (checkedAdd report.tinyBytes entry.fileSize)
        (.other "tiny-file byte count overflowed")
      return { report with tinyFiles := report.tinyFiles + 1, tinyBytes }
  | .medium => do
      let mediumBytes ← okOrElse (checkedAdd report.mediumBytes entry.fileSize)
        (.other "medium-file byte count overflowed")
      return { report with mediumFiles := report.mediumFiles + 1, mediumBytes }
  | .large => do
      let largeBytes ← okOrElse (checkedAdd report.largeBytes entry.fileSize)
        (.other "large-file byte count overflowed")
      return { report with largeFiles := report.largeFiles + 1, largeBytes }

/-- `build_report`. -/
def buildReport (manifest : List ManifestEntry)
    (workerCount directoriesScanned reparsePointsSkipped : Nat) : IoResult ScanReport :=
  manifest.foldlM reportEntry {
    workerCount
    filesScanned := manifest.length
    directoriesScanned
    reparsePointsSkipped
    totalBytes := 0
    tinyFiles := 0
    tinyBytes := 0
    mediumFiles := 0
    mediumBytes := 0
    largeFiles := 0
    largeBytes := 0
    sparseFiles := 0
    compressedFiles := 0
    relativePathUtf16Units := 0 }

/-- `ScanResult`. -/
structure ScanResult where
  manifest : List ManifestEntry
  directories : List DirectoryEntry
  report : ScanReport

/-- `run` after the workers have been joined, when none of them failed. -/
def finishScan (sorts : ScanSorts) (workerCount : Nat) (results : List WorkerResult) :
    IoResult ScanResult := do
  let (directoriesScanned, reparsePointsSkipped) ← results.foldlM (fun counts result => do
    let directoriesScanned ← okOrElse (checkedAdd counts.1 result.directoriesScanned)
      (.other "directory count overflowed while merging workers")
    let reparsePointsSkipped ← okOrElse (checkedAdd counts.2 result.reparsePointsSkipped)
      (.other "reparse-point count overflowed while merging workers")
    return (directoriesScanned, reparsePointsSkipped)) (0, 0)
  let manifest := mergedManifest sorts results
  let directories := mergedDirectories sorts results
  let report ← buildReport manifest workerCount directoriesScanned reparsePointsSkipped
  validateTreeEntries manifest directories
  return { manifest, directories, report }

end NetworkCopy
