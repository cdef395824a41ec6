import NetworkCopy.Lane.TinyPack
import NetworkCopy.Lane.SessionCdc
import NetworkCopy.ResumeState

/-!
# A lane

`send_lane` and `receive_lane` work through the same task list over one data stream.
For a whole file they first try content-defined reuse: against the committed files of
the session when the session has published a basis list, else by negotiating with the
receiver about the file that stands at the destination.  A lane ends with a message
that names the generation or ends the stream.

The receiver checkpoints every stripe in the resume journal, which the lanes of a
session share.  The result of a lane is its report; its wire bytes are counted in both
directions on both sides.
-/

namespace NetworkCopy

open Duplex ByteRange

/-- `MESSAGE_STREAM_END`. -/
def messageStreamEnd : UInt8 := 0x32

/-- `MESSAGE_GENERATION_END`. -/
def messageGenerationEnd : UInt8 := 0x3F

/-- `LaneEnd`. -/
inductive LaneEnd where
  | generation (index : Nat)
  | stream
  deriving DecidableEq, Repr

/-- `write_lane_end`. -/
def writeLaneEnd : LaneEnd → Party Unit
  | .generation generationIndex => do
      writeU8 messageGenerationEnd
      let wireIndex ← attempt .refused (u64TryFrom generationIndex
        (.invalidInput "generation index cannot be represented"))
      writeU64 wireIndex
  | .stream => writeU8 messageStreamEnd

/-- `read_lane_end`. -/
def readLaneEnd (expected : LaneEnd) : Party Unit := do
  let message ← readU8
  match expected with
  | .generation expectedIndex => do
      attempt .protocol (ensure (message = messageGenerationEnd)
        (.invalidData
          ("expected generation-end message, received 0x" ++ hexUpper 2 message.toNat)))
      let actualIndex ← readU64
      attempt .protocol (ensure (actualIndex = expectedIndex)
        (.invalidData
          s!"received generation-end index {actualIndex}, expected {expectedIndex}"))
  | .stream =>
      attempt .protocol (ensure (message = messageStreamEnd)
        (.invalidData
          ("expected stream-end message, received 0x" ++ hexUpper 2 message.toNat)))

/-! ## Reports -/

/-- `add_tiny_pack_stats`. -/
def addTinyPackStats (report : LaneReport) (transfer : TinyPackTransferSummary)
    (side : String) : IoResult LaneReport := do
  let tinyPackCount ← addCounter report.tinyPackCount 1 (side ++ " tiny-pack count overflowed")
  let compressedTinyPackCount ←
    (if transfer.compressed then
      addCounter report.compressedTinyPackCount 1
        (side ++ " compressed tiny-pack count overflowed")
    else .ok report.compressedTinyPackCount)
  let rawTinyPackCount ←
    (if transfer.compressed then .ok report.rawTinyPackCount
    else addCounter report.rawTinyPackCount 1 (side ++ " raw tiny-pack count overflowed"))
  let tinyFilesPacked ← addCounter report.tinyFilesPacked transfer.summary.files
    (side ++ " packed tiny-file count overflowed")
  let tinyBytesPacked ← addCounter report.tinyBytesPacked transfer.summary.bytes
    (side ++ " packed tiny-byte count overflowed")
  let tinyPackWireBytes ← addCounter report.tinyPackWireBytes transfer.wireBytes
    (side ++ " tiny-pack wire-byte count overflowed")
  return { report with
    tinyPackCount, compressedTinyPackCount, rawTinyPackCount, tinyFilesPacked
    tinyBytesPacked, tinyPackWireBytes }

/-- The count of a file or a stripe that was transferred as a record. -/
def addRecord (report : LaneReport) (files bytes : Nat) (compressed : Bool) (side : String) :
    IoResult LaneReport := do
  let report ← addLaneCounts report files bytes side
  addCompressedRecord report compressed

/-- The count of a tiny pack. -/
def addTinyPack (report : LaneReport) (transfer : TinyPackTransferSummary) (side : String) :
    IoResult LaneReport := do
  let report ← addRecord report transfer.summary.files transfer.summary.bytes
    transfer.compressed side
  addTinyPackStats report transfer side

/-- `report.cdc.merge(stats)?`. -/
def mergeCdc (report : LaneReport) (stats : CdcLaneStats) : IoResult LaneReport := do
  let cdc ← report.cdc.merge stats
  return { report with cdc }

/-! ## Sending -/

section

variable (env : LaneEnv) (source : FileTree) (manifest : Manifest)
  (basis : Option (List Nat)) (cached : Nat → Option BasisFileIndex)

/-- The attempt of the sender to reuse content for a whole file. -/
def senderCdc (fileId : Nat) (entry : ManifestEntry) : Party CdcLaneDecision :=
  match basis with
  | some basisFileIds => senderTryPlan env source manifest cached fileId basisFileIds
  | none => senderNegotiate env source fileId entry

/-- One turn of the loop of `send_lane`. -/
def sendTask (report : LaneReport) : TransferTask → Party LaneReport
  | .wholeFile fileId => do
      let entry ← attempt .refused (okOrElse manifest[fileId]?
        (.invalidInput "scheduler returned an invalid file ID"))
      let cdcDecision ← senderCdc env source manifest basis cached fileId entry
      let report ← attempt .refused (mergeCdc report cdcDecision.stats)
      if cdcDecision.completed then
        attempt .refused (addLaneCounts report 1 entry.fileSize "sender CDC")
      else do
        let compressed ← sendWholeFile env source fileId entry
        attempt .refused (addRecord report 1 entry.fileSize compressed "sender")
  | .tinyPack fileIds totalBytes => do
      let transfer ← sendTinyPack env source manifest fileIds totalBytes
      attempt .refused (addTinyPack report transfer "sender")
  | .stripe fileId offset length => do
      let entry ← attempt .refused (okOrElse manifest[fileId]?
        (.invalidInput "scheduler returned an invalid striped file ID"))
      let compressed ← sendFileStripe env source entry fileId offset length
      attempt .refused
        (addRecord report (if offset = 0 then 1 else 0) length compressed "sender")

/-- The loop of `send_lane`. -/
def sendTasks : List TransferTask → LaneReport → Party LaneReport
  | [], report => return report
  | task :: rest, report => do
      let report ← sendTask env source manifest basis cached report task
      sendTasks rest report

/-- `send_lane`. -/
def sendLane (tasks : List TransferTask) (laneEnd : LaneEnd) : Party LaneReport := do
  let result ← counted (do
    let report ← sendTasks env source manifest basis cached tasks {}
    writeLaneEnd laneEnd
    return report) 0 0
  let dataWireBytes ← attempt .refused
    (okOrElse (checkedAdd result.2.1 result.2.2)
      (.other "sender bidirectional wire count overflowed"))
  return { result.1 with dataWireBytes }

end

/-! ## Receiving -/

/-- What the lanes of a receiver change: the destination's files, the journal in memory
and the journal on disk. -/
structure LaneState where
  files : FileTree
  journal : ResumeJournal
  savedJournal : Option ResumeJournal

/-- `checkpoint_completed_stripe`. -/
def checkpointCompletedStripe (state : LaneState) : TransferTask → Party LaneState
  | .stripe fileId offset length => do
      let stripe ← attempt .refused (ResumeStripe.new fileId offset length)
      let marked := state.journal.markCompleted stripe
      if marked.1 then do
        let saved ← attempt .disk marked.2.saveAtomic
        return { state with journal := marked.2, savedJournal := some saved }
      else return { state with journal := marked.2 }
  | _ => return state

section

variable (env : LaneEnv) (manifest : Manifest) (basis : Option (List Nat))
  (cdcEnabled : Bool)

/-- `complete_received_cdc_file`. -/
def completeReceivedCdcFile (report : LaneReport) (files : FileTree)
    (entry : ManifestEntry) : Party (LaneReport × FileTree) := do
  let files ← attempt .disk
    (files.restoreFile entry.relativePath entry.lastWriteTime entry.fileAttributes)
  let report ← attempt .refused (addLaneCounts report 1 entry.fileSize "receiver CDC")
  return (report, files)

/-- The ordinary record of a whole file, from its message byte on. -/
def receiveOrdinaryFile (report : LaneReport) (files : FileTree) (fileId : Nat)
    (entry : ManifestEntry) (message : UInt8) : Party (LaneReport × FileTree) := do
  let received ← receiveWholeFile env files fileId entry message
  let report ← attempt .refused
    (addRecord report 1 entry.fileSize received.1 "receiver")
  return (report, received.2)

/-- The whole-file branch of `receive_lane`. -/
def receiveWholeFileTask (report : LaneReport) (files : FileTree) (fileId : Nat) :
    Party (LaneReport × FileTree) := do
  let entry ← attempt .protocol (okOrElse manifest[fileId]?
    (.invalidData s!"received unknown file ID {fileId}"))
  match basis with
  | some basisFileIds => do
      let message ← readU8
      if message = messageSessionCdcPlan then do
        let decision ← receiverApplyPlan env manifest files fileId basisFileIds
        let report ← attempt .refused (mergeCdc report decision.1.stats)
        attempt .protocol (ensure (decision.1.completed = true)
          (.invalidData "session CDC plan did not complete its target"))
        completeReceivedCdcFile report decision.2 entry
      else receiveOrdinaryFile env report files fileId entry message
  | none => do
      let decision ← receiverNegotiate env files fileId entry cdcEnabled
      let report ← attempt .refused (mergeCdc report decision.1.stats)
      if decision.1.completed then completeReceivedCdcFile report decision.2 entry
      else do
        let message ← readU8
        receiveOrdinaryFile env report decision.2 fileId entry message

/-- One turn of the loop of `receive_lane`, without the checkpoint. -/
def receiveRecord (report : LaneReport) (files : FileTree) :
    TransferTask → Party (LaneReport × FileTree)
  | .wholeFile fileId =>
      receiveWholeFileTask env manifest basis cdcEnabled report files fileId
  | .tinyPack fileIds totalBytes => do
      let transfer ← receiveTinyPack env manifest files fileIds totalBytes
      let report ← attempt .refused (addTinyPack report transfer.1 "receiver")
      return (report, transfer.2)
  | .stripe fileId offset length => do
      let received ← receiveStripe env files manifest fileId offset length
      let report ← attempt .refused
        (addRecord report (if offset = 0 then 1 else 0) length received.1 "receiver")
      return (report, received.2)

/-- The loop of `receive_lane`. -/
def receiveTasks : List TransferTask → LaneReport → LaneState →
    Party (LaneReport × LaneState)
  | [], report, state => return (report, state)
  | task :: rest, report, state => do
      let received ← receiveRecord env manifest basis cdcEnabled report state.files task
      let state ← checkpointCompletedStripe { state with files := received.2 } task
      receiveTasks rest received.1 state

/-- `receive_lane`. -/
def receiveLane (tasks : List TransferTask) (laneEnd : LaneEnd) (state : LaneState) :
    Party (LaneReport × LaneState) := do
  let result ← counted (do
    let received ← receiveTasks env manifest basis cdcEnabled tasks {} state
    readLaneEnd laneEnd
    return received) 0 0
  let dataWireBytes ← attempt .refused
    (okOrElse (checkedAdd result.2.2 result.2.1)
      (.other "receiver bidirectional wire count overflowed"))
  return ({ result.1.1 with dataWireBytes }, result.1.2)

end

end NetworkCopy
