import NetworkCopy.Management.Snapshot
import NetworkCopy.Manifest

/-!
# Requests and responses about jobs

The payloads with which a manager prepares a receiver, starts a sender, asks for the status of a
job and cancels it.  A request to start a sender has three versions; the encoder writes the
last one, and the decoder reads all.
-/

namespace NetworkCopy

open ByteOrder ManagementJobRegistry

/-- `PREPARE_REQUEST_VERSION`. -/
def prepareRequestVersion : Nat := 1

/-- `PREPARE_REQUEST_HEADER_BYTES`. -/
def prepareRequestHeaderBytes : Nat := 8

/-- `START_SEND_REQUEST_VERSION_V1`. -/
def startSendRequestVersionV1 : Nat := 1

/-- `START_SEND_REQUEST_VERSION_V2`. -/
def startSendRequestVersionV2 : Nat := 2

/-- `START_SEND_REQUEST_VERSION`. -/
def startSendRequestVersion : Nat := 3

/-- `START_SEND_REQUEST_HEADER_BYTES_V1`. -/
def startSendRequestHeaderBytesV1 : Nat := 24

/-- `START_SEND_REQUEST_HEADER_BYTES`. -/
def startSendRequestHeaderBytes : Nat := 28

/-- `START_SEND_RESPONSE_VERSION`. -/
def startSendResponseVersion : Nat := 1

/-- `START_SEND_RESPONSE_HEADER_BYTES`. -/
def startSendResponseHeaderBytes : Nat := 12

/-- `JOB_STATUS_VERSION`. -/
def jobStatusVersion : Nat := 3

/-- `JOB_STATUS_HEADER_BYTES`. -/
def jobStatusHeaderBytes : Nat := 20

/-- `CANCEL_REQUEST_VERSION`. -/
def cancelRequestVersion : Nat := 1

/-- `CANCEL_REQUEST_BYTES`. -/
def cancelRequestBytes : Nat := 12

/-- `MAX_DESTINATION_PATH_BYTES`. -/
@[irreducible] def maxDestinationPathBytes : Nat := 32 * 1024

/-- `MAX_SOURCE_PATH_BYTES`. -/
@[irreducible] def maxSourcePathBytes : Nat := 32 * 1024

/-- `MIB`. -/
@[irreducible] def mib : Nat := 1024 * 1024

/-- `MAX_TOTAL_BYTES` of the calibration. -/
@[irreducible] def maxTotalBytes : Nat := 1024 * 1024 * 1024 * 1024

/-- `MATRIX_STREAM_COUNTS`. -/
def matrixStreamCounts : List Nat := [1, 2, 4, 8]

/-! ## Checks -/

/-- `std::str::from_utf8`, with the text of its error. -/
def decodeUtf8 (texts : TextSupport SocketAddr) (bytes : List UInt8) (description : String) :
    IoResult String :=
  let reason := texts.utf8Error bytes
  okOrElse (String.fromUTF8? bytes.toByteArray)
    (.invalidData s!"{description} was not valid UTF-8: {reason}")

section

variable (texts : TextSupport SocketAddr) (isAbsolute : String → Bool)

/-- What `validate_source_path` and `validate_destination_path` have in common.  `isAbsolute` is
`Path::is_absolute`. -/
def validateRootPath (description : String) (maximumBytes : Nat) (root : String) :
    IoResult Unit := do
  ensure (root ≠ "") (.invalidInput s!"{description} must not be empty")
  let length := root.utf8ByteSize
  ensure (length ≤ maximumBytes) (.invalidInput
    s!"{description} contains {length} bytes, exceeding the {maximumBytes} byte limit")
  ensure (isAbsolute root) (.invalidInput s!"{description} must be an absolute path")

/-- `validate_source_path`. -/
def validateSourcePath (sourceRoot : String) : IoResult Unit :=
  validateRootPath isAbsolute "sender source" maxSourcePathBytes sourceRoot

/-- `validate_destination_path`. -/
def validateDestinationPath (destinationRoot : String) : IoResult Unit :=
  validateRootPath isAbsolute "receiver destination" maxDestinationPathBytes destinationRoot

/-- `decode_destination_path`. -/
def decodeDestinationPath (bytes : List UInt8) : IoResult String := do
  let path ← decodeUtf8 texts bytes "receiver destination"
  invalidData (validateDestinationPath isAbsolute path)
  return path

/-- `bytes_from_mib`. -/
def bytesFromMib (totalMib : Nat) : IoResult Nat := do
  let totalBytes ← okOrElse (checkedMul totalMib mib)
    (.invalidInput "network calibration byte count overflowed")
  ensure (totalBytes ≠ 0) (.invalidInput "network calibration size must not be zero")
  ensure (totalBytes ≤ maxTotalBytes)
    (.invalidInput s!"network calibration size exceeds the {maxTotalBytes}-byte limit")
  return totalBytes

/-- `validate_matrix_stream_count`. -/
def validateMatrixStreamCount (dataStreamCount : Nat) : IoResult Unit :=
  ensure (dataStreamCount ∈ matrixStreamCounts) (.invalidInput
    (s!"calibrated transfer stream count {dataStreamCount} is not present in the calibration " ++
      s!"matrix {matrixStreamCounts}"))

/-- `validate_forced_data_stream_count`. -/
def validateForcedDataStreamCount : Option Nat → IoResult Unit
  | some dataStreamCount => validateMatrixStreamCount dataStreamCount
  | none => .ok ()

/-- `validate_send_parameters`. -/
def validateSendParameters (receiverAddress : SocketAddr) (sourceRoot : String)
    (workerCount calibrationMib : Nat) : IoResult Unit := do
  ensure (receiverAddress.port ≠ 0) (.invalidInput "receiver endpoint must not use port zero")
  let length := (texts.display receiverAddress).utf8ByteSize
  ensure (length ≤ maxReceiverEndpointBytes) (.invalidInput
    (s!"receiver endpoint contains {length} bytes, exceeding the " ++
      s!"{maxReceiverEndpointBytes} byte limit"))
  validateSourcePath isAbsolute sourceRoot
  validateWorkerCount workerCount
  let _ ← bytesFromMib calibrationMib

/-! ## Prepare -/

/-- `decode_prepare_flags`. -/
def decodePrepareFlags (flags : Nat) : IoResult (Bool × Bool) := do
  let shown := hexUpper 2 flags
  ensure (flags < 4)
    (.invalidData s!"prepare-receive flags contained unknown bits 0x{shown}")
  return (flags % 2 = 1, flags / 2 = 1)

/-- `encode_prepare_request_with_resume`.  Bit 0 of the flags is `UPDATE_EXISTING_FLAG`, bit 1 is
`RESUME_TRANSFER_FLAG`. -/
def encodePrepareRequest (request : PrepareReceiveRequest) : IoResult (List UInt8) := do
  validateDestinationPath isAbsolute request.destinationRoot
  ensure (request.destinationRoot.utf8ByteSize < 2 ^ 32)
    (.invalidInput "receiver destination length cannot be represented")
  return leBytes 2 prepareRequestVersion ++
    leBytes 1 (request.updateExisting.toNat + 2 * request.resume.toNat) ++ leBytes 1 0 ++
    leBytes 4 request.destinationRoot.utf8ByteSize ++ stringBytes request.destinationRoot

/-- `decode_prepare_request`. -/
def readPrepareRequest : ByteReader IoError PrepareReceiveRequest := do
  ByteReader.need prepareRequestHeaderBytes fun length => .invalidData
    (s!"prepare-receive request has {length} bytes, expected at least " ++
      s!"{prepareRequestHeaderBytes}")
  let version ← headerField 2 "prepare-receive version"
  ByteReader.check (version = prepareRequestVersion)
    (.invalidData s!"unsupported prepare-receive request version {version}")
  let flags ← headerField 1 "prepare-receive flags"
  let (updateExisting, resume) ← decodePrepareFlags flags
  let reserved ← headerField 1 "prepare-receive reserved byte"
  ByteReader.check (reserved = 0) (.invalidData "prepare-receive reserved byte was not zero")
  let pathLength ← headerField 4 "prepare-receive path length"
  let expectedLength := prepareRequestHeaderBytes + pathLength
  ByteReader.exactly pathLength fun left =>
    let length := prepareRequestHeaderBytes + left
    .invalidData s!"prepare-receive request has {length} bytes, expected {expectedLength}"
  let pathBytes ← ByteReader.takeAll
  let destinationRoot ← decodeDestinationPath texts isAbsolute pathBytes
  return { destinationRoot, updateExisting, resume }

/-! ## Start -/

/-- `encode_start_send_request_with_stream_count_and_desktop_layout`. -/
def encodeStartSendRequest (request : StartSendRequest SocketAddr) : IoResult (List UInt8) := do
  validateSendParameters texts isAbsolute request.receiverAddress request.sourceRoot
    request.workerCount request.calibrationMib
  validateForcedDataStreamCount request.forcedDataStreamCount
  let receiverText := texts.display request.receiverAddress
  ensure (receiverText.utf8ByteSize < 2 ^ 16)
    (.invalidInput "receiver endpoint length cannot be represented")
  ensure (request.sourceRoot.utf8ByteSize < 2 ^ 32)
    (.invalidInput "sender source length cannot be represented")
  ensure (request.workerCount < 2 ^ 32)
    (.invalidInput "sender worker count cannot be represented")
  let forcedDataStreamCount := request.forcedDataStreamCount.getD 0
  ensure (forcedDataStreamCount < 2 ^ 32)
    (.invalidInput "forced data stream count cannot be represented")
  return leBytes 2 startSendRequestVersion ++ leBytes 2 request.preserveDesktopLayout.toNat ++
    leBytes 4 request.workerCount ++ leBytes 8 request.calibrationMib ++
    leBytes 2 receiverText.utf8ByteSize ++ leBytes 2 0 ++
    leBytes 4 request.sourceRoot.utf8ByteSize ++ leBytes 4 forcedDataStreamCount ++
    stringBytes receiverText ++ stringBytes request.sourceRoot

/-- A header of the later versions, of which two fields have been read. -/
def needStartSendHeader (version : String) : ByteReader IoError Unit :=
  ByteReader.need (startSendRequestHeaderBytes - 4) fun left =>
    let length := left + 4
    .invalidData (s!"start-send {version} request has {length} bytes, expected at least " ++
      s!"{startSendRequestHeaderBytes}")

/-- The `match` over the version: the width of the forced stream count, which the first version
does not have, and the flag of the Desktop layout. -/
def readStartSendVersion (version flags : Nat) : ByteReader IoError (Nat × Bool) :=
  match version with
  | 1 => do
      ByteReader.check (flags = 0) (.invalidData "start-send v1 reserved field was not zero")
      return (0, false)
  | 2 => do
      needStartSendHeader "v2"
      ByteReader.check (flags = 0) (.invalidData "start-send v2 reserved field was not zero")
      return (4, false)
  | 3 => do
      needStartSendHeader "v3"
      let unknown := hexUpper 4 (flags - flags % 2)
      ByteReader.check (flags < 2)
        (.invalidData s!"start-send request contains unknown flags 0x{unknown}")
      return (4, flags = 1)
  | unknown => throw (.invalidData s!"unsupported start-send request version {unknown}")

/-- The value of the forced stream count. -/
def forcedStreamCount (encoded : Nat) : Option Nat := if encoded = 0 then none else some encoded

/-- `decode_start_send_request`. -/
def readStartSendRequest : ByteReader IoError (StartSendRequest SocketAddr) := do
  ByteReader.need startSendRequestHeaderBytesV1 fun length => .invalidData
    (s!"start-send request has {length} bytes, expected at least " ++
      s!"{startSendRequestHeaderBytesV1}")
  let version ← headerField 2 "start-send version"
  let flags ← headerField 2 "start-send flags field"
  let (forcedWidth, preserveDesktopLayout) ← readStartSendVersion version flags
  let workerCount ← headerField 4 "start-send worker count"
  let calibrationMib ← headerField 8 "start-send calibration size"
  let receiverLength ← headerField 2 "start-send receiver length"
  let secondReserved ← headerField 2 "start-send secondary reserved field"
  ByteReader.check (secondReserved = 0)
    (.invalidData "start-send secondary reserved field was not zero")
  let sourceLength ← headerField 4 "start-send source length"
  -- Without the field this reads no byte and gives zero.
  let encoded ← headerField forcedWidth "forced data stream count"
  let headerBytes := startSendRequestHeaderBytesV1 + forcedWidth
  let expectedLength := headerBytes + receiverLength + sourceLength
  ByteReader.exactly (receiverLength + sourceLength) fun left =>
    let length := headerBytes + left
    .invalidData s!"start-send request has {length} bytes, expected {expectedLength}"
  let receiverBytes ← ByteReader.take receiverLength
    (.invalidData "start-send receiver position overflowed")
  let receiverText ← decodeUtf8 texts receiverBytes "receiver endpoint"
  ByteReader.check (receiverText ≠ "" ∧ receiverText.utf8ByteSize ≤ maxReceiverEndpointBytes)
    (.invalidData "receiver endpoint length was invalid")
  let receiverAddress ← parseEndpoint texts receiverText "receiver endpoint"
  let sourceBytes ← ByteReader.takeAll
  let sourceRoot ← decodeUtf8 texts sourceBytes "sender source"
  let forcedDataStreamCount := forcedStreamCount encoded
  invalidData do
    validateSendParameters texts isAbsolute receiverAddress sourceRoot workerCount calibrationMib
    validateForcedDataStreamCount forcedDataStreamCount
  return {
    receiverAddress
    sourceRoot
    workerCount
    calibrationMib
    forcedDataStreamCount
    preserveDesktopLayout }

/-- The request that a response to a start repeats. -/
def StartedSendJob.request (job : StartedSendJob SocketAddr) (forced : Option Nat)
    (preserve : Bool) : StartSendRequest SocketAddr where
  receiverAddress := job.receiverAddress
  sourceRoot := job.sourceRoot
  workerCount := job.workerCount
  calibrationMib := job.calibrationMib
  forcedDataStreamCount := forced
  preserveDesktopLayout := preserve

/-- `encode_started_send_response`. -/
def encodeStartedSendResponse (job : StartedSendJob SocketAddr) : IoResult (List UInt8) := do
  ensure (job.jobId ≠ 0) (.invalidInput "started sender response used job ID zero")
  let request ← encodeStartSendRequest texts isAbsolute (job.request none false)
  return leBytes 2 startSendResponseVersion ++ leBytes 2 0 ++ leBytes 8 job.jobId ++ request

/-- `decode_started_send_response`. -/
def readStartedSendResponse : ByteReader IoError (StartedSendJob SocketAddr) := do
  ByteReader.need startSendResponseHeaderBytes fun length => .invalidData
    (s!"start-send response has {length} bytes, expected at least " ++
      s!"{startSendResponseHeaderBytes}")
  let version ← headerField 2 "start-send response version"
  ByteReader.check (version = startSendResponseVersion)
    (.invalidData s!"unsupported start-send response version {version}")
  let reserved ← headerField 2 "start-send response reserved field"
  ByteReader.check (reserved = 0)
    (.invalidData "start-send response reserved field was not zero")
  let jobId ← headerField 8 "start-send response job ID"
  ByteReader.check (jobId ≠ 0) (.invalidData "start-send response used job ID zero")
  let request ← readStartSendRequest texts isAbsolute
  return {
    jobId
    receiverAddress := request.receiverAddress
    sourceRoot := request.sourceRoot
    workerCount := request.workerCount
    calibrationMib := request.calibrationMib }

/-! ## Status -/

/-- `phase as u8`. -/
def ManagementJobPhase.code : ManagementJobPhase → Nat
  | .idle => 0
  | .receiverPrepared => 1
  | .senderRunning => 2

/-- `ManagementJobPhase::try_from`. -/
def ManagementJobPhase.tryFrom (value : Nat) : IoResult ManagementJobPhase :=
  match value with
  | 0 => .ok .idle
  | 1 => .ok .receiverPrepared
  | 2 => .ok .senderRunning
  | unknown => .error (.invalidData s!"unknown management job phase {unknown}")

/-- The `match` over the phase in `encode_status`: the job ID, the transfer port and the
destination that are written. -/
def statusFields (status : ManagementJobStatus) : IoResult (Nat × Nat × String) :=
  match status.phase with
  | .idle => do
      ensure (status.jobId.isNone ∧ status.transferPort.isNone ∧ status.destinationRoot.isNone ∧
          status.updateExisting = false)
        (.invalidInput "idle management job status contained active-job fields")
      return (0, 0, "")
  | .receiverPrepared => do
      let jobId ← okOrElse status.jobId
        (.invalidInput "prepared receiver status omitted its job ID")
      ensure (jobId ≠ 0) (.invalidInput "prepared receiver status used job ID zero")
      let transferPort ← okOrElse status.transferPort
        (.invalidInput "prepared receiver status omitted its transfer port")
      ensure (transferPort ≠ 0) (.invalidInput "prepared receiver status used transfer port zero")
      let destinationRoot ← okOrElse status.destinationRoot
        (.invalidInput "prepared receiver status omitted its destination")
      validateDestinationPath isAbsolute destinationRoot
      return (jobId, transferPort, destinationRoot)
  | .senderRunning => do
      let jobId ← okOrElse status.jobId (.invalidInput "sender status omitted its job ID")
      ensure (jobId ≠ 0) (.invalidInput "sender status used job ID zero")
      ensure (status.transferPort.isNone ∧ status.destinationRoot.isNone ∧
          status.updateExisting = false)
        (.invalidInput "sender status contained receiver-only fields")
      return (jobId, 0, "")

/-- `encode_status`. -/
def encodeStatus (status : ManagementJobStatus) : IoResult (List UInt8) := do
  let (jobId, transferPort, destinationRoot) ← statusFields isAbsolute status
  ensure (destinationRoot.utf8ByteSize < 2 ^ 32)
    (.invalidInput "management job destination length cannot be represented")
  return leBytes 2 jobStatusVersion ++ leBytes 1 (ManagementJobPhase.code status.phase) ++
    leBytes 1 status.updateExisting.toNat ++ leBytes 8 jobId ++ leBytes 2 transferPort ++
    leBytes 2 0 ++ leBytes 4 destinationRoot.utf8ByteSize ++ stringBytes destinationRoot

/-- The `match` over the phase in `decode_status`, with the bytes behind the header. -/
def statusOf (phase : ManagementJobPhase) (updateExisting : Bool)
    (jobId transferPort pathLength : Nat) (pathBytes : List UInt8) :
    IoResult ManagementJobStatus :=
  match phase with
  | .idle => do
      ensure (jobId = 0 ∧ transferPort = 0 ∧ pathLength = 0 ∧ updateExisting = false)
        (.invalidData "idle management job status contained active-job fields")
      return ⟨.idle, none, none, none, false⟩
  | .receiverPrepared => do
      ensure (jobId ≠ 0) (.invalidData "prepared receiver status used job ID zero")
      ensure (transferPort ≠ 0) (.invalidData "prepared receiver status used transfer port zero")
      let destinationRoot ← decodeDestinationPath texts isAbsolute pathBytes
      return ⟨.receiverPrepared, some jobId, some transferPort, some destinationRoot,
        updateExisting⟩
  | .senderRunning => do
      ensure (jobId ≠ 0) (.invalidData "sender status used job ID zero")
      ensure (transferPort = 0 ∧ pathLength = 0 ∧ updateExisting = false)
        (.invalidData "sender status contained receiver-only fields")
      return ⟨.senderRunning, some jobId, none, none, false⟩

/-- `decode_status`. -/
def readStatus : ByteReader IoError ManagementJobStatus := do
  ByteReader.need jobStatusHeaderBytes fun length => .invalidData
    s!"management job status has {length} bytes, expected at least {jobStatusHeaderBytes}"
  let version ← headerField 2 "management job status version"
  ByteReader.check (version = jobStatusVersion)
    (.invalidData s!"unsupported management job status version {version}")
  let phaseCode ← headerField 1 "management job phase"
  let phase ← ManagementJobPhase.tryFrom phaseCode
  let flags ← headerField 1 "management job flags"
  let shown := hexUpper 2 flags
  let updateExisting ← flagOf flags
    (.invalidData s!"management job flags contained unknown bits 0x{shown}")
  let jobId ← headerField 8 "management job ID"
  let transferPort ← headerField 2 "management transfer port"
  let reserved ← headerField 2 "management job reserved field"
  ByteReader.check (reserved = 0) (.invalidData "management job reserved field was not zero")
  let pathLength ← headerField 4 "management job path length"
  let expectedLength := jobStatusHeaderBytes + pathLength
  ByteReader.exactly pathLength fun left =>
    let length := jobStatusHeaderBytes + left
    .invalidData s!"management job status has {length} bytes, expected {expectedLength}"
  let pathBytes ← ByteReader.takeAll
  statusOf texts isAbsolute phase updateExisting jobId transferPort pathLength pathBytes

/-- The status of a receiver that has been prepared. -/
def PreparedReceiveJob.status (job : PreparedReceiveJob) : ManagementJobStatus :=
  ⟨.receiverPrepared, some job.jobId, some job.transferPort, some job.destinationRoot,
    job.updateExisting⟩

/-- `encode_prepared_response`. -/
def encodePreparedResponse (job : PreparedReceiveJob) : IoResult (List UInt8) :=
  encodeStatus isAbsolute job.status

/-- `decode_prepared_response`. -/
def readPreparedResponse : ByteReader IoError PreparedReceiveJob := do
  let status ← readStatus texts isAbsolute
  ByteReader.check (status.phase = .receiverPrepared)
    (.invalidData "prepare-receive response did not describe a prepared receiver")
  let jobId ← okOrElse status.jobId
    (.invalidData "prepared receiver response omitted its job ID")
  let transferPort ← okOrElse status.transferPort
    (.invalidData "prepared receiver response omitted its transfer port")
  let destinationRoot ← okOrElse status.destinationRoot
    (.invalidData "prepared receiver response omitted its destination")
  return { jobId, transferPort, destinationRoot, updateExisting := status.updateExisting }

end

/-! ## Cancel -/

/-- `encode_cancel_request`. -/
def encodeCancelRequest (jobId : UInt64) : IoResult (List UInt8) := do
  ensure (jobId ≠ 0) (.invalidInput "management job ID must not be zero")
  return leBytes 2 cancelRequestVersion ++ leBytes 2 0 ++ leBytes 8 jobId.toNat

/-- `decode_cancel_request`. -/
def readCancelRequest : ByteReader IoError UInt64 := do
  ByteReader.exactly cancelRequestBytes fun length =>
    .invalidData s!"cancel-job request has {length} bytes, expected {cancelRequestBytes}"
  let version ← headerField 2 "cancel-job version"
  ByteReader.check (version = cancelRequestVersion)
    (.invalidData s!"unsupported cancel-job version {version}")
  let reserved ← headerField 2 "cancel-job reserved field"
  ByteReader.check (reserved = 0) (.invalidData "cancel-job reserved field was not zero")
  let jobId ← headerField 8 "cancel-job ID"
  ByteReader.check (jobId ≠ 0) (.invalidData "cancel-job request used job ID zero")
  return UInt64.ofNat jobId

end NetworkCopy
