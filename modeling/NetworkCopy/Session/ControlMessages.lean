import NetworkCopy.DesktopLayout
import NetworkCopy.Lib.OneWay
import NetworkCopy.ManifestWire
import NetworkCopy.PlanRewrite
import NetworkCopy.Receiver.Commit

/-!
# The messages of the control stream

The messages of `multistream_copy.rs` that follow each other on the control stream of a session
without framing.  Some readers start behind the message byte, since their callers branch on it.  A
`BTreeSet` is a `Finset`, which is written in ascending order, and a `BTreeMap` is an `ExtTreeMap`.
-/

namespace NetworkCopy

open Duplex ByteOrder

/-! ## Constants -/

/-- `MAX_RESUME_OFFER_STRIPES`. -/
@[irreducible] def maxResumeOfferStripes : Nat := 1000000

/-- `MAX_GENERATION_COMMIT_FILE_IDS`. -/
@[irreducible] def maxGenerationCommitFileIds : Nat := 1000000

/-- `MAX_SOURCE_DIRECTORY_NAME_UTF8_BYTES`. -/
def maxSourceDirectoryNameUtf8Bytes : Nat := 1024

/-- `MESSAGE_DESKTOP_LAYOUT_METADATA`. -/
def messageDesktopLayoutMetadata : UInt8 := 0x2E

/-- `MESSAGE_SOURCE_DIRECTORY_NAME`. -/
def messageSourceDirectoryName : UInt8 := 0x2F

/-- `MESSAGE_RECEIVER_READY`. -/
def messageReceiverReady : UInt8 := 0x30

/-- `MESSAGE_TRANSFER_ACK`. -/
def messageTransferAck : UInt8 := 0x33

/-- `MESSAGE_UPDATE_VERIFY_REQUEST`. -/
def messageUpdateVerifyRequest : UInt8 := 0x35

/-- `MESSAGE_UPDATE_VERIFY_RESPONSE`. -/
def messageUpdateVerifyResponse : UInt8 := 0x37

/-- `MESSAGE_LARGE_CDC_BEGIN`. -/
def messageLargeCdcBegin : UInt8 := 0x3C

/-- `MESSAGE_GENERATION_COMMIT`. -/
def messageGenerationCommit : UInt8 := 0x3E

/-- `MESSAGE_FRESH_RESUME_VERIFY_REQUEST`. -/
def messageFreshResumeVerifyRequest : UInt8 := 0x41

/-- `MESSAGE_FRESH_RESUME_VERIFY_RESPONSE`. -/
def messageFreshResumeVerifyResponse : UInt8 := 0x42

/-- `GENERATION_COMMIT_FIXED_WIRE_BYTES`. -/
def generationCommitFixedWireBytes : Nat := 1 + 8 + 4 + 4 + 4

/-- `GENERATION_COMMIT_FILE_ID_WIRE_BYTES`. -/
def generationCommitFileIdWireBytes : Nat := 8

/-! ## File IDs -/

/-- A `usize` written as a `u64`. -/
def writeIndex (text : String) (value : Nat) : Party Unit := do
  let wireValue ← attempt .refused (u64TryFrom value (.invalidInput text))
  writeU64 wireValue

/-- `read_file_id`.  A `u64` fits `usize`. -/
def readFileId : Party Nat := readU64

/-- A number of items that are then written, with its limit. -/
def writeCount (count limit : Nat) (tooMany exceeds : String) : Party Unit := do
  let count ← attempt .refused (u32TryFrom count (.invalidInput tooMany))
  attempt .refused (ensure (count ≤ limit) (.invalidInput exceeds))

/-- File IDs that must differ. -/
def readFileIds (duplicate : Nat → String) (count : Nat) : Party (List Nat) :=
  receiveDistinct readFileId id (fun fileId => .protocol (.invalidData (duplicate fileId)))
    (fun _ => .ok ()) count []

/-! ## Verification -/

/-- `BTreeMap<usize, FileDigest>`. -/
abbrev DigestMap := Std.ExtTreeMap Nat Digest

/-- An entry of a request. -/
def writeDigestEntry (entry : Nat × Digest) : Party Unit := do
  writeIndex "verification file ID cannot be represented" entry.1
  writeDigest entry.2

/-- `write_verification_request`. -/
def writeVerificationRequest (message : UInt8) (digests : DigestMap) : Party Unit := do
  writeCount digests.size maxUnchangedOfferFiles "verification request contains too many files"
    "verification request exceeds the supported file limit"
  writeU8 message
  writeU32 digests.size
  sendEach writeDigestEntry digests.toList

/-- An entry of a request. -/
def readDigestEntry : Party (Nat × Digest) := do
  let fileId ← readFileId
  let digest ← readDigest
  return (fileId, digest)

/-- `read_verification_request`. -/
def readVerificationRequest : Party DigestMap := do
  let count ← readU32
  attempt .protocol (ensure (count ≤ maxUnchangedOfferFiles)
    (.invalidData "verification request exceeds the supported file limit"))
  let entries ← receiveDistinct readDigestEntry Prod.fst
    (fun _ => .protocol (.invalidData "verification request contains a duplicate file ID"))
    (fun _ => .ok ()) count []
  return .ofList entries

/-- `write_verification_response`. -/
def writeVerificationResponse (message : UInt8) (matchingFileIds : Finset Nat) : Party Unit := do
  let count ← attempt .refused (u32TryFrom matchingFileIds.card
    (.invalidInput "verification response contains too many files"))
  writeU8 message
  writeU32 count
  sendEach (writeIndex "verified file ID cannot be represented") matchingFileIds.sort

/-- `read_verification_response`. -/
def readVerificationResponse (expectedMessage : UInt8) (description : String) :
    Party (Finset Nat) := do
  let message ← readU8
  let shown := hexUpper 2 message.toNat
  attempt .protocol (ensure (message = expectedMessage)
    (.invalidData s!"expected {description} response, received 0x{shown}"))
  let count ← readU32
  attempt .protocol (ensure (count ≤ maxUnchangedOfferFiles)
    (.invalidData "verification response exceeds the supported file limit"))
  let matchingFileIds ← readFileIds
    (fun _ => "verification response contains a duplicate file ID") count
  return matchingFileIds.toFinset

/-! ## Readiness -/

/-- `ReceiverReady`. -/
structure ReceiverReady where
  summary : ManifestSummary
  destinationSeekPenalty : Bool
  completedStripes : Finset ResumeStripe
  unchangedFileIds : Finset Nat
  deriving DecidableEq

/-- A stripe of the offer. -/
def writeStripe (stripe : ResumeStripe) : Party Unit := do
  writeU64 stripe.fileId
  writeU64 stripe.offset
  writeU64 stripe.length

/-- `write_receiver_ready`. -/
def writeReceiverReady (ready : ReceiverReady) : Party Unit := do
  let stripeCount := ready.completedStripes.card
  writeCount stripeCount maxResumeOfferStripes
    "resume offer contains too many completed stripes"
    s!"resume offer contains {stripeCount} stripes, exceeding the supported limit"
  writeU8 messageReceiverReady
  writeU64 ready.summary.entries
  writeU64 ready.summary.directories
  writeU64 ready.summary.totalFileBytes
  writeU64 ready.summary.fingerprint
  writeU8 (if ready.destinationSeekPenalty then 1 else 0)
  writeU32 stripeCount
  sendEach writeStripe ready.completedStripes.sort
  let unchangedCount := ready.unchangedFileIds.card
  writeCount unchangedCount maxUnchangedOfferFiles
    "unchanged-file offer contains too many file IDs"
    s!"unchanged-file offer contains {unchangedCount} files, exceeding the supported limit"
  writeU32 unchangedCount
  sendEach (writeIndex "unchanged file ID cannot be represented") ready.unchangedFileIds.sort

/-- A stripe of the offer. -/
def readStripe : Party ResumeStripe := do
  let fileId ← readU64
  let offset ← readU64
  let length ← readU64
  attempt .protocol ((ResumeStripe.new fileId offset length).mapError (fun error =>
    .invalidData ("received invalid resume stripe: " ++ error.message)))

/-- The seek-penalty flag. -/
def seekPenaltyFlag (value : UInt8) : IoResult Bool :=
  if value = 0 then .ok false
  else if value = 1 then .ok true
  else .error (.invalidData s!"receiver-ready seek-penalty flag has invalid value {value}")

/-- `read_receiver_ready_after_message`. -/
def readReceiverReadyAfterMessage (message : UInt8) : Party ReceiverReady := do
  let shown := hexUpper 2 message.toNat
  attempt .protocol (ensure (message = messageReceiverReady)
    (.invalidData s!"expected receiver-ready message, received 0x{shown}"))
  let entries ← readU64
  let directories ← readU64
  let totalFileBytes ← readU64
  let fingerprint ← readU64
  let flag ← readU8
  let destinationSeekPenalty ← attempt .protocol (seekPenaltyFlag flag)
  let stripeCount ← readU32
  attempt .protocol (ensure (stripeCount ≤ maxResumeOfferStripes) (.invalidData
    s!"receiver offered {stripeCount} completed stripes, exceeding the supported limit"))
  let completedStripes ← receiveDistinct readStripe id
    (fun _ => .protocol (.invalidData "receiver offered a duplicate completed stripe"))
    (fun _ => .ok ()) stripeCount []
  let unchangedCount ← readU32
  attempt .protocol (ensure (unchangedCount ≤ maxUnchangedOfferFiles) (.invalidData
    s!"receiver offered {unchangedCount} unchanged files, exceeding the supported limit"))
  let unchangedFileIds ← readFileIds
    (fun _ => "receiver offered a duplicate unchanged file ID") unchangedCount
  return {
    summary := { entries, directories, totalFileBytes, fingerprint }
    destinationSeekPenalty
    completedStripes := completedStripes.toFinset
    unchangedFileIds := unchangedFileIds.toFinset }

/-! ## Generations -/

/-- `generation_commit_list_count`. -/
def generationCommitListCount (fileIds : List Nat) (description : String) : IoResult Nat := do
  let count ← u32TryFrom fileIds.length
    (.invalidInput s!"{description} count cannot be represented")
  ensure (count ≤ maxGenerationCommitFileIds) (.invalidInput
    s!"{description} contains {count} file IDs, exceeding the supported limit")
  return count

/-- `generation_commit_wire_bytes`. -/
def generationCommitWireBytes (commit : GenerationCommit) : IoResult Nat := do
  let committed ← generationCommitListCount commit.committedFileIds
    "generation committed-file list"
  let published ← generationCommitListCount commit.publishedFileIds
    "generation published-file list"
  let evicted ← generationCommitListCount commit.evictedFileIds "generation evicted-file list"
  let totalFileIds ← okOrElse ((checkedAdd committed published).bind (checkedAdd · evicted))
    (.other "generation-commit file-ID count overflowed")
  let fileIdBytes ← okOrElse (checkedMul totalFileIds generationCommitFileIdWireBytes)
    (.other "generation-commit file-ID wire size overflowed")
  okOrElse (checkedAdd generationCommitFixedWireBytes fileIdBytes)
    (.other "generation-commit wire size overflowed")

/-- The loop of `validate_generation_file_ids_for_write`. -/
def checkDistinct (description : String) : List Nat → List Nat → IoResult Unit
  | [], _ => .ok ()
  | fileId :: rest, seen => do
      ensure (fileId ∉ seen)
        (.invalidInput s!"{description} contains duplicate file ID {fileId}")
      checkDistinct description rest (fileId :: seen)

/-- `validate_generation_file_ids_for_write`. -/
def validateGenerationFileIdsForWrite (fileIds : List Nat) (description : String) :
    IoResult Unit := do
  let _ ← generationCommitListCount fileIds description
  checkDistinct description fileIds []

/-- `write_generation_file_ids`. -/
def writeGenerationFileIds (fileIds : List Nat) (description : String) : Party Unit := do
  let count ← attempt .refused (generationCommitListCount fileIds description)
  writeU32 count
  sendEach (writeIndex s!"{description} file ID cannot be represented") fileIds

/-- `read_generation_file_ids`. -/
def readGenerationFileIds (description : String) : Party (List Nat) := do
  let count ← readU32
  attempt .protocol (ensure (count ≤ maxGenerationCommitFileIds) (.invalidData
    s!"{description} contains {count} file IDs, exceeding the supported limit"))
  readFileIds (fun fileId => s!"{description} contains duplicate file ID {fileId}") count

/-- `write_generation_commit`. -/
def writeGenerationCommit (commit : GenerationCommit) : Party Unit := do
  attempt .refused (validateGenerationFileIdsForWrite commit.committedFileIds
    "generation committed-file list")
  attempt .refused (validateGenerationFileIdsForWrite commit.publishedFileIds
    "generation published-file list")
  attempt .refused (validateGenerationFileIdsForWrite commit.evictedFileIds
    "generation evicted-file list")
  let _ ← attempt .refused (generationCommitWireBytes commit)
  writeU8 messageGenerationCommit
  writeIndex "generation-commit index cannot be represented" commit.generationIndex
  writeGenerationFileIds commit.committedFileIds "generation committed-file list"
  writeGenerationFileIds commit.publishedFileIds "generation published-file list"
  writeGenerationFileIds commit.evictedFileIds "generation evicted-file list"

/-- `read_generation_commit`. -/
def readGenerationCommit : Party GenerationCommit := do
  let message ← readU8
  let shown := hexUpper 2 message.toNat
  attempt .protocol (ensure (message = messageGenerationCommit)
    (.invalidData s!"expected generation-commit message, received 0x{shown}"))
  let generationIndex ← readU64
  let committedFileIds ← readGenerationFileIds "generation committed-file list"
  let publishedFileIds ← readGenerationFileIds "generation published-file list"
  let evictedFileIds ← readGenerationFileIds "generation evicted-file list"
  let commit : GenerationCommit :=
    { generationIndex, committedFileIds, publishedFileIds, evictedFileIds }
  let _ ← attempt .protocol ((generationCommitWireBytes commit).mapError (fun error =>
    .invalidData ("received generation commit has an invalid wire size: " ++ error.message)))
  return commit

/-! ## Large files -/

/-- `write_large_cdc_begin`. -/
def writeLargeCdcBegin (fileIds : List Nat) : Party Unit := do
  writeCount fileIds.length maxUnchangedOfferFiles
    "large CDC candidate count cannot be represented"
    "large CDC candidate count exceeds the supported limit"
  writeU8 messageLargeCdcBegin
  writeU32 fileIds.length
  sendEach (writeIndex "large CDC file ID cannot be represented") fileIds

/-- The checks of a candidate. -/
def checkLargeCdcCandidate (manifest : Manifest) (fileId : Nat) : IoResult Unit := do
  let entry ← okOrElse manifest[fileId]?
    (.invalidData "large CDC candidate references an unknown file")
  ensure (entry.fileClass = .large) (.invalidData "large CDC candidate is not a large file")

/-- `read_large_cdc_candidate_file_ids`. -/
def readLargeCdcCandidateFileIds (manifest : Manifest) : Party (List Nat) := do
  let count ← readU32
  attempt .protocol (ensure (count ≤ maxUnchangedOfferFiles)
    (.invalidData "large CDC candidate count exceeds the supported limit"))
  receiveDistinct readFileId id
    (fun _ => .protocol
      (.invalidData "large CDC candidate list contains a duplicate file ID"))
    (fun fileId => (checkLargeCdcCandidate manifest fileId).mapError .protocol) count []

/-! ## The acknowledgement -/

/-- `TransferAck`. -/
structure TransferAck where
  filesCopied : Nat
  bytesCopied : Nat
  dataWireBytes : Nat
  compressedRecords : Nat
  cdc : CdcLaneStats
  tinyMaterializationWorkers : Nat
  tinyPackCount : Nat
  compressedTinyPackCount : Nat
  rawTinyPackCount : Nat
  tinyFilesPacked : Nat
  tinyBytesPacked : Nat
  tinyPackWireBytes : Nat
  deriving DecidableEq

/-- `write_transfer_ack`. -/
def writeTransferAck (ack : TransferAck) : Party Unit := do
  writeU8 messageTransferAck
  writeU64 ack.filesCopied
  writeU64 ack.bytesCopied
  writeU64 ack.dataWireBytes
  writeU64 ack.compressedRecords
  writeU64 ack.cdc.offeredFiles
  writeU64 ack.cdc.completedFiles
  writeU64 ack.cdc.fallbackFiles
  writeU64 ack.cdc.logicalBytes
  writeU64 ack.cdc.reusedBytes
  writeU64 ack.cdc.literalBytes
  writeU64 ack.cdc.indexWireBytes
  writeU64 ack.cdc.planWireBytes
  writeU32 ack.tinyMaterializationWorkers
  writeU64 ack.tinyPackCount
  writeU64 ack.compressedTinyPackCount
  writeU64 ack.rawTinyPackCount
  writeU64 ack.tinyFilesPacked
  writeU64 ack.tinyBytesPacked
  writeU64 ack.tinyPackWireBytes

/-- `read_transfer_ack`. -/
def readTransferAck : Party TransferAck := do
  let message ← readU8
  let shown := hexUpper 2 message.toNat
  attempt .protocol (ensure (message = messageTransferAck)
    (.invalidData s!"expected transfer acknowledgement, received 0x{shown}"))
  let filesCopied ← readU64
  let bytesCopied ← readU64
  let dataWireBytes ← readU64
  let compressedRecords ← readU64
  let offeredFiles ← readU64
  let completedFiles ← readU64
  let fallbackFiles ← readU64
  let logicalBytes ← readU64
  let reusedBytes ← readU64
  let literalBytes ← readU64
  let indexWireBytes ← readU64
  let planWireBytes ← readU64
  let tinyMaterializationWorkers ← readU32
  let tinyPackCount ← readU64
  let compressedTinyPackCount ← readU64
  let rawTinyPackCount ← readU64
  let tinyFilesPacked ← readU64
  let tinyBytesPacked ← readU64
  let tinyPackWireBytes ← readU64
  return {
    filesCopied, bytesCopied, dataWireBytes, compressedRecords
    cdc := {
      offeredFiles, completedFiles, fallbackFiles, logicalBytes, reusedBytes, literalBytes
      indexWireBytes, planWireBytes }
    tinyMaterializationWorkers, tinyPackCount, compressedTinyPackCount, rawTinyPackCount
    tinyFilesPacked, tinyBytesPacked, tinyPackWireBytes }

/-! ## Metadata -/

/-- A block of bytes behind its length, with its limit. -/
def writeBlock (message : UInt8) (limit : Nat) (bytes : Bytes) (exceeds unrepresented : String) :
    Party Unit := do
  attempt .refused (ensure (bytes.length ≤ limit) (.invalidInput exceeds))
  let byteCount ← attempt .refused (u32TryFrom bytes.length (.invalidInput unrepresented))
  writeU8 message
  writeU32 byteCount
  Proc.write bytes

/-- A block of bytes that is absent when it is empty. -/
def readBlock {α : Type} (expectedMessage : UInt8) (limit : Nat) (expected : String)
    (exceeds : Nat → String) (decode : Bytes → IoResult α) : Party (Option α) := do
  let message ← readU8
  let shown := hexUpper 2 message.toNat
  attempt .protocol (ensure (message = expectedMessage)
    (.invalidData s!"expected {expected} metadata, received 0x{shown}"))
  let byteCount ← readU32
  attempt .protocol (ensure (byteCount ≤ limit) (.invalidData (exceeds byteCount)))
  if byteCount = 0 then return none
  else do
    let bytes ← Proc.read byteCount
    let value ← attempt .protocol (decode bytes)
    return some value

section

variable {Address : Type} (texts : TextSupport Address)

/-- `write_source_directory_name`. -/
def writeSourceDirectoryName (sourceDirectoryName : Option SourceDirectoryName) : Party Unit :=
  let bytes := (sourceDirectoryName.map (fun name => stringBytes name.value)).getD []
  let length := bytes.length
  writeBlock messageSourceDirectoryName maxSourceDirectoryNameUtf8Bytes bytes
    (s!"source directory name requires {length} UTF-8 bytes, exceeding the " ++
      s!"{maxSourceDirectoryNameUtf8Bytes} byte wire limit")
    "source directory name byte count cannot be represented"

/-- The decoding in `read_source_directory_name`. -/
def decodeSourceDirectoryName (bytes : Bytes) : IoResult SourceDirectoryName := do
  let reason := texts.utf8Error bytes
  let value ← okOrElse (String.fromUTF8? bytes.toByteArray)
    (.invalidData s!"received source directory name was not valid UTF-8: {reason}")
  (SourceDirectoryName.parse texts value).mapError (fun error =>
    .invalidData ("received invalid source directory name: " ++ error.message))

/-- `read_source_directory_name`. -/
def readSourceDirectoryName : Party (Option SourceDirectoryName) :=
  readBlock messageSourceDirectoryName maxSourceDirectoryNameUtf8Bytes "source-directory-name"
    (fun byteCount =>
      s!"received source directory name contains {byteCount} UTF-8 bytes, exceeding the " ++
        s!"{maxSourceDirectoryNameUtf8Bytes} byte wire limit")
    (decodeSourceDirectoryName texts)

/-- `write_desktop_layout_metadata`. -/
def writeDesktopLayoutMetadata (desktopLayout : Option DesktopLayoutSnapshot) : Party Unit := do
  let encoded ← attempt .refused (desktopLayout.mapM (encodeDesktopLayout texts))
  let bytes := encoded.getD []
  let length := bytes.length
  writeBlock messageDesktopLayoutMetadata maxDesktopLayoutBytes bytes
    (s!"desktop layout metadata contains {length} bytes, exceeding the " ++
      s!"{maxDesktopLayoutBytes} byte wire limit")
    "desktop layout metadata byte count cannot be represented"

/-- `read_desktop_layout_metadata`. -/
def readDesktopLayoutMetadata : Party (Option DesktopLayoutSnapshot) :=
  readBlock messageDesktopLayoutMetadata maxDesktopLayoutBytes "desktop-layout"
    (fun byteCount =>
      s!"received desktop layout metadata contains {byteCount} bytes, exceeding the " ++
        s!"{maxDesktopLayoutBytes} byte wire limit")
    (fun bytes => (decodeDesktopLayout texts bytes).mapError (fun error =>
      .invalidData ("received invalid desktop layout metadata: " ++ error.message)))

end

end NetworkCopy
