import NetworkCopy.Receiver.Commit
import NetworkCopy.Lane.SessionCdc

/-!
# What the lanes do to the destination

`receive_lane` and what it calls, as the file system sees it.  How records travel and how
they are decoded is in `Lane`; here a record arrives decoded, as an argument, in whatever
pieces the decoder delivers it.

The lanes of a group run at the same time.  A tiny file is written by a worker of the
materialization pool while its lane waits, so each of them is a thread of its own: every
order in which the workers can take the files is among the interleavings.
-/

namespace NetworkCopy

open Crash ByteRange

/-! ## What arrives -/

/-- The payload of a file or a stripe: the chunks that the decoder writes and the digest
that follows them. -/
structure Payload where
  chunks : List Bytes
  digest : Digest

/-- What a lane receives for a whole file: an ordinary record, or a plan against a
committed file. -/
inductive WholeFileInput where
  | record (payload : Payload)
  | sessionPlan (basisFileId expectedBasisBytes : Nat) (planWire : Bytes)

/-- What is new in a session: the records of the sender, what it answers about the files
that an earlier session has committed, whether the destination incurs a seek penalty, and
the process ID and the times that name the temporary files of reconstructions. -/
structure SessionInput where
  wholeFile : Nat → WholeFileInput
  stripe : ResumeStripe → Payload
  tinyFile : Nat → Bytes
  verifiedFileIds : Finset Nat
  seekPenalty : Bool
  processId : Nat
  nanos : Nat → Nat

/-! ## Directories -/

/-- The names of the components of a relative path. -/
def componentNames (path : RelativePath) : List (List UInt16) :=
  (pathPieces path).filter (fun piece => piece ≠ [] ∧ piece ≠ dotName)

/-- The directories on the way to a directory and the directory itself, outermost first. -/
def directoryPaths (path : RelativePath) : List RelativePath :=
  (componentNames path).inits.tail.map (List.intercalate [pathSeparator])

/-- The directories that a file lies in, outermost first. -/
def parentDirectories (path : RelativePath) : List RelativePath :=
  (directoryPaths path).dropLast

/-- `temporary_path` of `cdc_reconstruction_bench.rs`. -/
def reconstructionTemporary (outputPath : RelativePath) (processId nanos : Nat) : RelativePath :=
  outputPath ++ utf16 (".ncs-cdc-part-" ++ toString processId ++ "-" ++ toString nanos)

theorem reconstructionTemporary_ne (outputPath : RelativePath) (processId nanos : Nat) :
    reconstructionTemporary outputPath processId nanos ≠ outputPath := by
  apply append_utf16_ne
  simp [utf16]

namespace Receiver

/-- `create_destination_parent`, and `fs::create_dir_all` of the parent of a path. -/
def createDestinationParent (path : RelativePath) : Program Unit :=
  Prog.each createDirectory (parentDirectories path)

/-! ## Payloads -/

/-- The loop of `receive_payload`: the chunks are written behind each other from `base` on.
The result is what was fed to the hasher. -/
def receiveChunks (path : RelativePath) (base byteCount : Nat) :
    List Bytes → Nat → Bytes → Program Bytes
  | [], transferred, hashed =>
      if transferred < byteCount then
        .fail ⟨.unexpectedEof, "failed to fill whole buffer", none⟩
      else return hashed
  | chunk :: rest, transferred, hashed =>
      if transferred < byteCount then do
        let length := chunk.length
        Prog.lift (ensure (chunk ≠ [] ∧ transferred + length ≤ byteCount)
          (.invalidData s!"received invalid raw compression chunk length {length}"))
        writeAt path (base + transferred) chunk
        receiveChunks path base byteCount rest (transferred + length) (hashed ++ chunk)
      else return hashed

section

variable (blake3 : Bytes → Digest)

/-- `receive_payload`. -/
def receivePayload (path : RelativePath) (base byteCount : Nat) (context : String)
    (payload : Payload) : Program Unit := do
  let hashed ← receiveChunks path base byteCount payload.chunks 0 []
  Prog.lift (verifyDigest context (blake3 hashed) payload.digest)

/-- `receive_file`. -/
def receiveFile (fileId : Nat) (entry : ManifestEntry) (payload : Payload) : Program Unit := do
  let partPath := temporaryPath entry.relativePath fileId
  createNew partPath
  setLen partPath entry.fileSize
  (receivePayload blake3 partPath 0 entry.fileSize
    (s!"file {fileId} (" ++ displayPath entry.relativePath ++ ")") payload).onError
      (removeFile partPath)
  replace partPath entry.relativePath

/-- `receive_file_stripe`. -/
def receiveFileStripe (fileId offset length : Nat) (entry : ManifestEntry) (payload : Payload) :
    Program Unit := do
  Prog.lift (validateStripe entry offset length)
  let partPath := temporaryPath entry.relativePath fileId
  let _ ← inspect (fun files => files.openFile partPath)
  let stripeEnd ← Prog.lift
    (okOrElse (checkedAdd offset length) (.other "stripe description overflowed"))
  receivePayload blake3 partPath offset length
    (s!"file {fileId} stripe {offset}..{stripeEnd} (" ++ displayPath entry.relativePath ++ ")")
    payload

/-! ## Tiny files -/

/-- `tiny_file_materialize::write_verified`. -/
def writeVerified (fileId : Nat) (path : RelativePath) (contents : Bytes) : Program Unit := do
  let partPath := temporaryPath path fileId
  createNew partPath
  (do
    setLen partPath contents.length
    writeAt partPath 0 contents : Program Unit).onError (removeFile partPath)
  replace partPath path

/-- The job of a worker of the pool: one file of a pack, with the part of the decoded pack
that has its size. -/
def materializeTinyFile (manifest : Manifest) (contents : Nat → Bytes) (fileId : Nat) :
    Program Unit := do
  let entry ← Prog.lift (okOrElse manifest[fileId]?
    (.invalidData "tiny pack referenced an unknown file"))
  Prog.lift (ensure ((contents fileId).length = entry.fileSize)
    (.invalidData "tiny-pack file contents exceed the decoded payload"))
  writeVerified fileId entry.relativePath (contents fileId)

/-! ## Reconstruction -/

/-- The loop of `reconstruct_into`.  The result is what was fed to the hasher. -/
def reconstructOperations (temporary : RelativePath) (basis : Bytes) :
    List ReconstructionOp → Bytes → Program Bytes
  | [], written => return written
  | .basis offset length :: rest, written => do
      let rangeEnd ← Prog.lift (okOrElse (checkedAdd offset length)
        (.invalidData "basis reconstruction range overflowed"))
      let basisBytes := basis.length
      Prog.lift (ensure (rangeEnd ≤ basisBytes)
        (.invalidData
          (s!"basis reconstruction range {offset}..{rangeEnd} exceeds {basisBytes} " ++
            "bytes")))
      writeAt temporary written.length (range basis offset length)
      reconstructOperations temporary basis rest (written ++ range basis offset length)
  | .literal contents :: rest, written => do
      writeAt temporary written.length contents
      reconstructOperations temporary basis rest (written ++ contents)

/-- `reconstruct_into`. -/
def reconstructInto (temporary : RelativePath) (basis : Bytes) (plan : ReconstructionPlan) :
    Program Unit := do
  setLen temporary plan.targetBytes
  let written ← reconstructOperations temporary basis plan.operations []
  let writtenBytes := written.length
  let targetBytes := plan.targetBytes
  Prog.lift (ensure (writtenBytes = targetBytes)
    (.invalidData s!"reconstruction wrote {writtenBytes} bytes, expected {targetBytes}"))
  Prog.lift (ensure (blake3 written = plan.targetDigest)
    (.invalidData
      ("reconstructed BLAKE3 mismatch: expected " ++ formatDigest plan.targetDigest ++
        ", found " ++ formatDigest (blake3 written))))

/-- `reconstruct`. -/
def reconstruct (temporary basisPath outputPath : RelativePath) (expectedBasisBytes : Nat)
    (plan : ReconstructionPlan) : Program Unit := do
  createDestinationParent outputPath
  let basis ← inspect (fun files => files.openFile basisPath)
  let actualBasisBytes := basis.content.1.length
  Prog.lift (ensure (actualBasisBytes = expectedBasisBytes)
    (.invalidData
      (s!"basis file size changed: expected {expectedBasisBytes}, found " ++
        s!"{actualBasisBytes}")))
  createNew temporary
  (reconstructInto blake3 temporary basis.content.1 plan).onError (removeFile temporary)
  (replace temporary outputPath).onError (removeFile temporary)
  let targetBytes := plan.targetBytes
  inspect (fun files => do
    let output ← files.openFile outputPath
    let outputBytes := output.content.1.length
    ensure (outputBytes = targetBytes)
      (.invalidData
        s!"reconstructed output has {outputBytes} bytes, expected {targetBytes}"))

/-- The checks of `receiver_apply_plan` on what it has read: the entries of the target and
of the basis, and the plan. -/
def checkSessionPlan (manifest : Manifest) (targetFileId : Nat) (allowedBasisFileIds : List Nat)
    (basisFileId expectedBasisBytes : Nat) (planWire : Bytes) :
    IoResult (ManifestEntry × ManifestEntry × ReconstructionPlan) := do
  let targetEntry ← okOrElse manifest[targetFileId]?
    (.invalidData s!"session CDC receiver expected unknown target file ID {targetFileId}")
  ensure (targetEntry.fileClass = .medium ∧ minimumTargetBytes ≤ targetEntry.fileSize)
    (.invalidData "session CDC plan targeted an ineligible file")
  ensure (basisFileId ≠ targetFileId)
    (.invalidData "session CDC plan attempted to reference its target as its own basis")
  ensure (basisFileId ∈ allowedBasisFileIds)
    (.invalidData s!"session CDC plan referenced unpublished basis file ID {basisFileId}")
  let basisEntry ← okOrElse manifest[basisFileId]?
    (.invalidData s!"session CDC plan referenced unknown basis file ID {basisFileId}")
  ensure (basisEntry.fileClass = .medium ∨ basisEntry.fileClass = .large)
    (.invalidData "session CDC plan referenced an ineligible basis file")
  let basisBytes := basisEntry.fileSize
  ensure (expectedBasisBytes = basisBytes)
    (.invalidData
      (s!"session CDC plan declared {expectedBasisBytes} basis bytes, but manifest file " ++
        s!"{basisFileId} contains {basisBytes}"))
  let wireBytes := planWire.length
  ensure (¬ (wireBytes = 0 ∨ maximumPlanWireBytes < wireBytes))
    (.invalidData
      (s!"session CDC reconstruction plan contains {wireBytes} bytes; supported range is " ++
        s!"1..={maximumPlanWireBytes}"))
  let plan ← ReconstructionPlan.decodeWire planWire
  let targetBytes := plan.targetBytes
  let fileSize := targetEntry.fileSize
  ensure (targetBytes = fileSize)
    (.invalidData
      (s!"session CDC plan targets {targetBytes} bytes, but manifest file " ++
        s!"{targetFileId} requires {fileSize}"))
  ensure (plan.referencedBytes ≠ 0)
    (.invalidData "session CDC plan does not reference any basis data")
  ensure (plan.literalBytes ≤ maximumLiteralBytes)
    (.invalidData "session CDC plan exceeds the literal staging limit")
  let totalWireBytes ← addCounter sessionCdcPlanFixedWireBytes planWire.length
    "session CDC wire size overflowed"
  ensure (totalWireBytes < fileSize)
    (.invalidData "session CDC plan is not smaller than an ordinary whole-file transfer")
  return (targetEntry, basisEntry, plan)

/-- `validate_committed_basis` on the files. -/
def checkCommittedBasis (path : RelativePath) (expectedBytes basisFileId : Nat)
    (files : FileTree) : IoResult Unit :=
  let shown := displayPath path
  match files path with
  | none => .error ⟨.notFound,
      s!"session CDC committed basis file {basisFileId} is unavailable: " ++ shown, none⟩
  | some .directory => .error (.invalidData
      (s!"session CDC committed basis file {basisFileId} is not a regular file: " ++ shown))
  | some (.file node) => do
      ensure (node.isReparsePoint = false)
        (.invalidData
          (s!"session CDC committed basis file {basisFileId} is not a regular file: " ++ shown))
      let foundBytes := node.content.1.length
      ensure (foundBytes = expectedBytes)
        (.invalidData
          (s!"session CDC committed basis file {basisFileId} contains {foundBytes} bytes, " ++
            s!"expected {expectedBytes}: " ++ shown))

/-- `receiver_apply_plan` and `complete_received_cdc_file`. -/
def applySessionPlan (input : SessionInput) (manifest : Manifest) (targetFileId : Nat)
    (allowedBasisFileIds : List Nat) (basisFileId expectedBasisBytes : Nat)
    (planWire : Bytes) : Program Unit := do
  let checked ← Prog.lift (checkSessionPlan manifest targetFileId allowedBasisFileIds
    basisFileId expectedBasisBytes planWire)
  let targetEntry := checked.1
  let basisEntry := checked.2.1
  inspect (checkCommittedBasis basisEntry.relativePath expectedBasisBytes basisFileId)
  reconstruct blake3
    (reconstructionTemporary targetEntry.relativePath input.processId (input.nanos targetFileId))
    basisEntry.relativePath targetEntry.relativePath expectedBasisBytes checked.2.2
  restoreFile targetEntry.relativePath targetEntry.lastWriteTime targetEntry.fileAttributes

/-! ## Checkpoints -/

/-- `resume_journal.lock()`.  While a lane holds the lock, this action of the others cannot
succeed. -/
def lockJournal (lane : Nat) : Program Unit :=
  .modify (fun state => match state.holder with
    | none => .ok { state with holder := some lane }
    | some _ => .error (.other "resume journal lock poisoned"))

/-- The end of the lock's scope. -/
def unlockJournal : Program Unit := .modify (fun state => .ok { state with holder := none })

/-- `mark_completed` on the journal in memory: whether the stripe is new. -/
def markCompleted (stripe : ResumeStripe) : Program Bool :=
  .act (fun state => .ok { state with journal := (state.journal.markCompleted stripe).2 })
    (fun state => .ret (state.journal.markCompleted stripe).1) .fail

/-- What `checkpoint_completed_stripe` does under the lock. -/
def recordStripe (stripe : ResumeStripe) : Program Unit := do
  let newlyCompleted ← markCompleted stripe
  if newlyCompleted then do
    let journal ← Prog.query (fun state : Receiver => .ok state.journal)
    saveAtomic journal
  else return ()

/-- `checkpoint_completed_stripe`. -/
def checkpointCompletedStripe (lane : Nat) : TransferTask → Program Unit
  | .stripe fileId offset length => do
      let stripe ← Prog.lift (ResumeStripe.new fileId offset length)
      lockJournal lane
      (recordStripe stripe).onError unlockJournal
      unlockJournal
  | _ => return ()

/-! ## Lanes -/

section

variable (input : SessionInput) (manifest : Manifest) (basis : Option (List Nat))

/-- The record of a task in `receive_lane`.  The files of a pack are written by the pool. -/
def receiveRecord : TransferTask → Program Unit
  | .wholeFile fileId => do
      let entry ← Prog.lift (okOrElse manifest[fileId]?
        (.invalidData s!"received unknown file ID {fileId}"))
      match input.wholeFile fileId, basis with
      | .record payload, _ => receiveFile blake3 fileId entry payload
      | .sessionPlan basisFileId expectedBasisBytes planWire, some allowedBasisFileIds =>
          applySessionPlan blake3 input manifest fileId allowedBasisFileIds basisFileId
            expectedBasisBytes planWire
      | .sessionPlan .., none =>
          .fail (.invalidData
            ("expected whole-file message, received 0x" ++
              hexUpper 2 messageSessionCdcPlan.toNat))
  | .tinyPack .. => return ()
  | .stripe fileId offset length => do
      let entry ← Prog.lift (okOrElse manifest[fileId]?
        (.invalidData s!"received unknown striped file ID {fileId}"))
      receiveFileStripe blake3 fileId offset length entry (input.stripe ⟨fileId, offset, length⟩)

/-- One turn of the loop of `receive_lane`. -/
def receiveTask (lane : Nat) (task : TransferTask) : Program Unit := do
  receiveRecord blake3 input manifest basis task
  checkpointCompletedStripe lane task

/-- `receive_lane`. -/
def receiveLane (lane : Nat) (tasks : List TransferTask) : Program Unit :=
  Prog.each (receiveTask blake3 input manifest basis lane) tasks

/-- The files of the packs of a group. -/
def packedFileIds (lanes : List (List TransferTask)) : List Nat :=
  lanes.flatten.flatMap (fun task => match task with
    | .tinyPack fileIds _ => fileIds
    | _ => [])

/-- The threads of a group: its lanes, and the pool's work on its packs. -/
def groupThreads (lanes : List (List TransferTask)) : List (Program Unit) :=
  lanes.mapIdx (receiveLane blake3 input manifest basis) ++
    (packedFileIds lanes).map (materializeTinyFile manifest input.tinyFile)

end

end

end Receiver

end NetworkCopy
