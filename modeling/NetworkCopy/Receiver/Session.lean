import NetworkCopy.Receiver.Lanes
import NetworkCopy.ManifestWire

/-!
# A fresh session of the receiver

`run_server_with_mode_and_layout` in the mode `Fresh`, from the manifest to the removal of
the journal: the destination is prepared, the generations are received and committed one
after the other, then the packs, and at the end the large files get their names, the exact
duplicates are copied and the metadata is restored.

`Transfer` is what all sessions of one transfer have in common.  `Transfer.Disk` says which
files the sessions of a transfer can leave behind when each of them stops anywhere.
-/

namespace NetworkCopy

open Crash

/-- What is the same in every session of a transfer: the manifest, the number of data
streams, the plan of exact duplicates and the limits of the catalog.  The hash function
and the order that `sort_unstable` gives to equal keys belong to the program.

`read_manifest_entry` classifies a file by its size, and `validate_data_stream_count`
bounds the number of streams when a session is accepted. -/
structure Transfer where
  manifest : Manifest
  directories : List DirectoryEntry
  dataStreamCount : Nat
  reusePlan : ExactReusePlan
  limits : CatalogLimits
  sort : UnstableSort
  blake3 : Bytes → Digest
  classified : manifest.Classified
  streams : 0 < dataStreamCount ∧ dataStreamCount ≤ 32

theorem Transfer.oneStream : 0 < 1 ∧ 1 ≤ 32 := by decide

/-! ## Preparing the destination -/

/-- `all_file_stripes_completed`. -/
def allFileStripesCompleted (fileId : Nat) (completedStripes : Finset ResumeStripe) :
    List TransferTask → Bool → IoResult Bool
  | [], foundStripe => .ok foundStripe
  | .stripe taskFileId offset length :: rest, foundStripe =>
      if taskFileId = fileId then do
        let stripe ← ResumeStripe.new taskFileId offset length
        if stripe ∈ completedStripes then allFileStripesCompleted fileId completedStripes rest true
        else return false
      else allFileStripesCompleted fileId completedStripes rest foundStripe
  | _ :: rest, foundStripe => allFileStripesCompleted fileId completedStripes rest foundStripe

namespace Receiver

/-- `prepare_resume_large_file` for a fresh transfer: nothing is reset, and an existing
final file is not preserved beside a part file. -/
def prepareResumeLargeFile (fileId : Nat) (entry : ManifestEntry) (transferPlan : TransferPlan)
    (completedStripes : Finset ResumeStripe) : Program Unit := do
  let finalPath := entry.relativePath
  let partPath := temporaryPath finalPath fileId
  let finalText := displayPath finalPath
  let partText := displayPath partPath
  let finalExists ← inspect (fun files => .ok (files.tryExists finalPath))
  let temporaryExists ← inspect (fun files => .ok (files.tryExists partPath))
  match finalExists, temporaryExists with
  | false, true =>
      inspect (fun files => files.validateResumeFile partPath entry.fileSize
        "partial large file")
  | true, false => do
      let completed ← Prog.lift
        (allFileStripesCompleted fileId completedStripes transferPlan.tasks false)
      Prog.lift (ensure (completed = true)
        (.invalidData
          s!"final large file exists but its resume journal is incomplete: {finalText}"))
      inspect (fun files => files.validateResumeFile finalPath entry.fileSize
        "finalized large file")
  | true, true =>
      .fail (.invalidData
        s!"both final and temporary large files exist during resume: {finalText}")
  | false, false =>
      .fail ⟨.notFound,
        s!"resume journal exists but the large partial file is missing: {partText}", none⟩

/-- What the loop of `prepare_resume_destination` does with a file by its class. -/
def prepareResumeUncommitted (transferPlan : TransferPlan)
    (completedStripes : Finset ResumeStripe) (fileId : Nat) (entry : ManifestEntry) :
    Program Unit :=
  match entry.fileClass with
  | .large => prepareResumeLargeFile fileId entry transferPlan completedStripes
  | _ => do
      removeFileIfPresent (temporaryPath entry.relativePath fileId)
      removeFileIfPresent entry.relativePath

/-- One turn of the loop of `prepare_resume_destination`. -/
def prepareResumeFile (transferPlan : TransferPlan) (completedStripes : Finset ResumeStripe)
    (committedFileIds : Finset Nat) (file : ManifestEntry × Nat) : Program Unit := do
  createDestinationParent file.1.relativePath
  if file.2 ∈ committedFileIds then
    removeFileIfPresent (temporaryPath file.1.relativePath file.2)
  else prepareResumeUncommitted transferPlan completedStripes file.2 file.1

/-- One turn of the loop of `prepare_fresh_destination`. -/
def prepareFreshFile (file : ManifestEntry × Nat) : Program Unit := do
  createDestinationParent file.1.relativePath
  if file.1.fileClass = .large then do
    createNew (temporaryPath file.1.relativePath file.2)
    setLen (temporaryPath file.1.relativePath file.2) file.1.fileSize
  else return ()

/-- The first component of a directory path that is not a directory stops
`validate_existing_manifest_directory_paths`; a missing one ends the walk. -/
def checkDirectoryTargets (files : FileTree) : List RelativePath → IoResult Unit
  | [] => .ok ()
  | path :: rest =>
      match files path with
      | none => .ok ()
      | some .directory => checkDirectoryTargets files rest
      | some (.file node) =>
          let text := displayPath path
          if node.isReparsePoint then
            .error (.invalidInput
              ("destination directory path is a reparse point and cannot be used safely: " ++
                text))
          else
            .error ⟨.alreadyExists,
              s!"destination entry conflicts with a required directory: {text}", none⟩

/-- `validate_existing_manifest_directory_paths`. -/
def validateExistingManifestDirectoryPaths (directories : List DirectoryEntry) : Program Unit :=
  Prog.each (fun entry : DirectoryEntry => do
    Prog.lift (validateRelativePath entry.relativePath)
    inspect (fun files => checkDirectoryTargets files (directoryPaths entry.relativePath)))
    directories

/-- `materialize_manifest_directories`. -/
def materializeManifestDirectories (directories : List DirectoryEntry) : Program Unit := do
  validateExistingManifestDirectoryPaths directories
  Prog.each (fun entry : DirectoryEntry => do
    Prog.lift (validateRelativePath entry.relativePath)
    Prog.each createDirectory (directoryPaths entry.relativePath)) directories

/-- Whether `read_dir` finds anything below the root. -/
def rootIsEmpty (files : FileTree) : Prop := ∀ path, files path = none

end Receiver

namespace Transfer

open Receiver

variable (transfer : Transfer)

/-- `prepare_fresh_destination`. -/
def prepareFreshDestination (fingerprint : Nat) : Program ResumeJournal := do
  Prog.each prepareFreshFile transfer.manifest.zipIdx
  let journal ← Prog.lift (ResumeJournal.new fingerprint transfer.dataStreamCount)
  saveAtomic journal
  loadExisting fingerprint transfer.dataStreamCount

/-- `prepare_resume_destination` for a fresh transfer. -/
def prepareResumeDestination (fingerprint : Nat) (transferPlan : TransferPlan) :
    Program ResumeJournal := do
  let journal ← loadExisting fingerprint transfer.dataStreamCount
  inspect (fun files => validateFreshResumeCommittedFiles files transfer.manifest
    journal.completedFileIds)
  Prog.lift (validateResumeOffer transferPlan journal.completedStripes)
  Prog.each (prepareResumeFile transferPlan journal.completedStripes journal.completedFileIds)
    transfer.manifest.zipIdx
  return journal

open Classical in
/-- `prepare_destination` for a fresh transfer.  The message for a directory that is not
empty is given without the counts of the comparison. -/
noncomputable def prepareDestination (fingerprint : Nat) (transferPlan : TransferPlan) :
    Program ResumeJournal := do
  let resume ← inspect (fun files => .ok (files.tryExists journalFileName))
  if resume then transfer.prepareResumeDestination fingerprint transferPlan
  else do
    inspect (fun files => ensure (rootIsEmpty files)
      ⟨.alreadyExists, "destination directory is not empty and update mode is not enabled",
        none⟩)
    transfer.prepareFreshDestination fingerprint

/-- `negotiate_verified_fresh_resume_files`.  The digests of the committed files go to the
sender, which answers with the files that match. -/
def negotiateVerifiedFreshResumeFiles (input : SessionInput) (fingerprint : Nat) :
    Program Unit := do
  let resume ← inspect (fun files => .ok (files.tryExists journalFileName))
  if resume then do
    let journal ← loadExisting fingerprint transfer.dataStreamCount
    if journal.completedFileIds = ∅ then return ()
    else do
      inspect (fun files => validateFreshResumeCommittedFiles files transfer.manifest
        journal.completedFileIds)
      Prog.lift (ensure (input.verifiedFileIds ⊆ journal.completedFileIds)
        (.invalidData
          "sender verified a fresh-resume file that was not journaled as completed"))
      Prog.lift (ensure (input.verifiedFileIds = journal.completedFileIds)
        (.invalidData
          "BLAKE3 restart verification failed for journaled committed file IDs"))
  else return ()

/-- The first phase of a session: its result is the journal. -/
noncomputable def prepare (input : SessionInput) : Program (ManifestSummary × ResumeJournal) := do
  let summary ← Prog.lift (summarizeManifest transfer.manifest transfer.directories)
  validateExistingManifestDirectoryPaths transfer.directories
  let transferPlan ← Prog.lift
    (buildTransferPlan transfer.sort transfer.manifest transfer.dataStreamCount)
  transfer.negotiateVerifiedFreshResumeFiles input summary.fingerprint
  let journal ← transfer.prepareDestination summary.fingerprint transferPlan
  materializeManifestDirectories transfer.directories
  return (summary, journal)

/-! ## Plans -/

/-- The catalog that every session of the transfer plans. -/
def generationPlan : IoResult FreshGenerationPlan := do
  let transferPlan ← buildTransferPlan transfer.sort transfer.manifest transfer.dataStreamCount
  let transferPlan ← applyLargeCdcPreflight transferPlan transfer.manifest {}
  let reused ← applyExactReusePlan transferPlan transfer.manifest transfer.reusePlan true
  buildFreshGenerationPlanWithLimits transfer.manifest reused.1 transfer.limits

/-- The plan of a session: what is left of the stripes and the files that the journal
records. -/
def plan (input : SessionInput) (journal : ResumeJournal) :
    IoResult (FreshGenerationPlan × FreshGenerationExecution) := do
  let prepared ← prepareFreshTransfer transfer.sort transfer.manifest transfer.dataStreamCount
    transfer.reusePlan transfer.limits
    (journal.completedStripes.filter (fun stripe => stripe.fileId ∉ journal.completedFileIds))
    journal.completedFileIds input.seekPenalty
  let execution ← buildFreshGenerationExecution prepared.1 prepared.2
  return (prepared.1, execution)

/-! ## The end of a session -/

/-- `fs::copy`: the bytes, then the metadata of the source. -/
def copyFile (source destination : RelativePath) : Program Nat := do
  let node ← inspect (fun files => files.openFile source)
  createNew destination
  append destination node.content.1
  Prog.modify (onFiles (fun files _ => do
    let copied ← files.openFile destination
    return files.set destination (some (.file
      { copied with lastWriteTime := node.lastWriteTime
                    fileAttributes := node.fileAttributes }))))
  return node.content.1.length

/-- The closure of `materialize_exact_reuse_files`. -/
def copyExactReuse (reuse : ExactFileReuse) (basis target : ManifestEntry) : Program Unit := do
  let partPath := temporaryPath target.relativePath reuse.targetFileId
  let copied ← copyFile basis.relativePath partPath
  let fileSize := target.fileSize
  Prog.lift (ensure (copied = fileSize)
    ⟨.unexpectedEof, s!"exact-reuse copy produced {copied} bytes, expected {fileSize}", none⟩)
  let copy ← inspect (fun files => files.openFile partPath)
  let targetFileId := reuse.targetFileId
  Prog.lift (verifyDigest
    (s!"exact-reuse target {targetFileId} (" ++ displayPath target.relativePath ++ ")")
    (transfer.blake3 copy.content.1) reuse.digest)
  replace partPath target.relativePath
  restoreFile target.relativePath target.lastWriteTime target.fileAttributes

/-- One turn of the loop of `materialize_exact_reuse_files`. -/
def materializeExactReuse (reuse : ExactFileReuse) : Program Unit := do
  let basis ← Prog.lift (okOrElse transfer.manifest[reuse.basisFileId]?
    (.invalidData "exact-reuse basis references an unknown file"))
  let target ← Prog.lift (okOrElse transfer.manifest[reuse.targetFileId]?
    (.invalidData "exact-reuse target references an unknown file"))
  let partPath := temporaryPath target.relativePath reuse.targetFileId
  inspect (fun files => files.validateResumeFile basis.relativePath basis.fileSize
    "exact-reuse basis file")
  let targetText := displayPath target.relativePath
  inspect (fun files => ensure (files.tryExists target.relativePath = false)
    ⟨.alreadyExists, s!"exact-reuse target already exists: {targetText}", none⟩)
  removeFileIfPresent partPath
  (transfer.copyExactReuse reuse basis target).onError (removeFile partPath)

/-- `finalize_large_files` for a fresh transfer. -/
def finalizeLargeFiles : Program Unit :=
  Prog.each (fun file : ManifestEntry × Nat =>
    if file.1.fileClass ≠ .large ∨ file.2 ∈ exactReuseTargetFileIds transfer.reusePlan then
      return ()
    else finalizeLargeFile file.2 file.1 .fresh) transfer.manifest.zipIdx

/-- `restore_manifest_files`. -/
def restoreManifestFiles : Program Unit :=
  Prog.each (fun entry : ManifestEntry =>
    restoreFile entry.relativePath entry.lastWriteTime entry.fileAttributes) transfer.manifest

/-- The files that the report of a session counts: those of its tasks, and those that the
duplicates, the resumed stripes and the committed files stand for. -/
def reported (f : TransferUnit → Nat) (execution : FreshGenerationExecution)
    (journal : ResumeJournal) : Nat :=
  (((execution.generationLanes.flatten ++ execution.trailingLanes).flatten.flatMap
      TransferTask.units).map f).sum +
    (transfer.reusePlan.entries.map (fun reuse => f (.file reuse.targetFileId))).sum +
    ((journal.completedStripes.filter (fun stripe => stripe.fileId ∉ journal.completedFileIds)).sum
      (fun stripe => f (.stripe stripe.fileId stripe.offset stripe.length))) +
    journal.completedFileIds.sum (fun fileId => f (.file fileId))

/-- What follows the lanes. -/
def finish (summary : ManifestSummary) (execution : FreshGenerationExecution)
    (journal : ResumeJournal) : Program Unit := do
  transfer.finalizeLargeFiles
  Prog.each transfer.materializeExactReuse transfer.reusePlan.entries
  transfer.restoreManifestFiles
  Prog.lift (ensure
    (transfer.reported TransferUnit.files execution journal = summary.entries ∧
      transfer.reported (TransferUnit.bytes transfer.manifest) execution journal =
        summary.totalFileBytes)
    (.invalidData "received payload does not match the manifest summary"))
  removeJournal

/-! ## The session -/

/-- The loop of `receive_fresh_generation_plan` and what follows it.  The lanes of a
generation are joined before the generation is committed. -/
def receiveGenerations (input : SessionInput) (last : Sys Receiver IoError) :
    List (CatalogGeneration × List (List TransferTask)) → List Nat → Sys Receiver IoError
  | [], _ => last
  | (generation, lanes) :: rest, basis =>
      .par (groupThreads transfer.blake3 input transfer.manifest (some basis) lanes)
        ((do
            let commit ← commitFreshGeneration transfer.manifest generation
            persistGenerationCommit commit
            Prog.lift (applyGeneration basis generation) : Program (List Nat)).seq
          (fun basis => receiveGenerations input last rest basis))

/-- The value of the mutex `resume_journal` is set. -/
def shareJournal (journal : ResumeJournal) : Program Unit :=
  .modify (fun state => .ok { state with journal })

/-- What a session does once its destination is prepared. -/
def receive (input : SessionInput) (summary : ManifestSummary) (journal : ResumeJournal) :
    Sys Receiver IoError :=
  (do
    let planned ← Prog.lift (transfer.plan input journal)
    let basis ← Prog.lift (basisBeforeGeneration planned.1.catalog
      planned.1.completedGenerationCount)
    shareJournal journal
    return (planned, basis) :
      Program ((FreshGenerationPlan × FreshGenerationExecution) × List Nat)).seq
  (fun planned =>
    transfer.receiveGenerations input
      (.par (groupThreads transfer.blake3 input transfer.manifest none
          planned.1.2.trailingLanes)
        ((transfer.finish summary planned.1.2 journal).seq (fun _ => .done)))
      ((planned.1.1.catalog.generations.zip planned.1.2.generationLanes).drop
        planned.1.1.completedGenerationCount)
      planned.2)

/-- A session. -/
noncomputable def session (input : SessionInput) : Sys Receiver IoError :=
  (transfer.prepare input).seq (fun prepared => transfer.receive input prepared.1 prepared.2)

/-- The receiver when a session starts.  Nothing in memory is left of earlier ones. -/
def start (files : FileTree) (clock : Nat → Nat) : Receiver where
  files := files
  journal := ⟨0, 0, ∅, ∅⟩
  holder := none
  clock := clock

/-- The files that sessions leave behind, each of which stops anywhere. -/
inductive Disk : FileTree → Prop
  | empty : Disk (fun _ => none)
  | session {files : FileTree} (before : Disk files) (input : SessionInput) (clock : Nat → Nat)
      {sys : Sys Receiver IoError} {state : Receiver}
      (run : Sys.Reach (transfer.session input, start files clock) (sys, state)) :
      Disk state.files

end Transfer

end NetworkCopy
