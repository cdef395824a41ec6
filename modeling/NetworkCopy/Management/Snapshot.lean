import NetworkCopy.Lib.ByteReader
import NetworkCopy.Management.Orchestration

/-!
# Snapshots of an agent

The wire format of `ManagementAgentSnapshot`: a header, the active job and the latest result,
each behind a presence flag.  Numbers are little-endian, and every text has its length in front
and a limit of its own.
-/

namespace NetworkCopy

open ByteOrder

/-! ## Snapshots -/

/-- `ManagementActiveJobDetails`. -/
inductive ManagementActiveJobDetails where
  | sender (receiverAddress : SocketAddr) (sourceRoot : String) (workerCount : UInt64)
      (calibrationMib : UInt64)
  | receiver (transferPort : UInt16) (destinationRoot : String) (updateExisting : Bool)
  deriving DecidableEq

/-- `ManagementActiveJobSnapshot`. -/
structure ManagementActiveJobSnapshot where
  role : ManagementJobRole
  jobId : UInt64
  phase : String
  completed : UInt64
  total : UInt64
  cancelRequested : Bool
  details : ManagementActiveJobDetails
  deriving DecidableEq

/-- `ManagementAgentSnapshot`. -/
structure ManagementAgentSnapshot where
  agentInstanceId : AgentInstanceId
  active : Option ManagementActiveJobSnapshot
  latestResult : Option { result : ManagementJobResult // result.Fits }
  deriving DecidableEq

/-- `MAX_MANAGEMENT_PAYLOAD_BYTES`. -/
@[irreducible] def maxManagementPayloadBytes : Nat := 1024 * 1024

theorem maxManagementPayloadBytes_eq : maxManagementPayloadBytes = 1048576 := by
  simp [maxManagementPayloadBytes]

/-- `SNAPSHOT_VERSION`. -/
def snapshotVersion : Nat := 3

/-- `SNAPSHOT_HEADER_BYTES`. -/
def snapshotHeaderBytes : Nat := 20

/-- `ACTIVE_HEADER_BYTES`. -/
def activeHeaderBytes : Nat := 32

/-- `SENDER_DETAIL_HEADER_BYTES`. -/
def senderDetailHeaderBytes : Nat := 20

/-- `RECEIVER_DETAIL_HEADER_BYTES`. -/
def receiverDetailHeaderBytes : Nat := 8

/-- `RESULT_HEADER_BYTES`. -/
def resultHeaderBytes : Nat := 40

/-- `MAX_PHASE_BYTES`. -/
def maxPhaseBytes : Nat := 1024

/-- `MAX_MESSAGE_BYTES`. -/
def maxMessageBytes : Nat := 4096

/-- `MAX_ACTIVE_PATH_BYTES`. -/
@[irreducible] def maxActivePathBytes : Nat := 32 * 1024

/-- `MAX_RECEIVER_ENDPOINT_BYTES`. -/
def maxReceiverEndpointBytes : Nat := 128

/-! ## Texts -/

/-- `validate_text`. -/
def validateWireText (value : String) (maximumBytes : Nat) (description : String)
    (allowEmpty : Bool) : IoResult Unit := do
  ensure (allowEmpty ∨ value ≠ "") (.invalidInput s!"{description} must not be empty")
  let length := value.utf8ByteSize
  ensure (length ≤ maximumBytes) (.invalidInput
    s!"{description} contains {length} bytes, exceeding the {maximumBytes} byte limit")

/-- `validate_job_id`. -/
def validateJobId (jobId : Nat) : IoResult Unit :=
  ensure (jobId ≠ 0) (.invalidInput "management job ID must not be zero")

theorem AgentInstanceId.pos_of {value : Nat} (h : 0 < value ∧ value < 2 ^ 128) : 0 < value := h.1

theorem AgentInstanceId.lt_of {value : Nat} (h : 0 < value ∧ value < 2 ^ 128) :
    value < 2 ^ 128 := h.2

/-- `AgentInstanceId::from_raw`. -/
def AgentInstanceId.fromRaw (value : Nat) : Option AgentInstanceId :=
  if h : 0 < value ∧ value < 2 ^ 128 then some ⟨value, pos_of h, lt_of h⟩ else none

variable (texts : TextSupport SocketAddr)

/-- `decode_text`. -/
def decodeWireText (bytes : List UInt8) (maximumBytes : Nat) (description : String)
    (allowEmpty : Bool) : IoResult String := do
  let reason := texts.utf8Error bytes
  let value ← okOrElse (String.fromUTF8? bytes.toByteArray)
    (.invalidData s!"{description} was not valid UTF-8: {reason}")
  invalidData (validateWireText value maximumBytes description allowEmpty)
  return value

/-- `receiver_text.parse::<SocketAddr>()`. -/
def parseEndpoint (text description : String) : IoResult SocketAddr :=
  match texts.fromStr text with
  | .ok address => .ok address
  | .error error => .error (.invalidData s!"{description} was invalid: {error}")

/-! ## Encoding -/

/-- `encode_active_details`. -/
def encodeActiveDetails (role : ManagementJobRole) :
    ManagementActiveJobDetails → IoResult (List UInt8)
  | .sender receiverAddress sourceRoot workerCount calibrationMib => do
      ensure (role = .sender)
        (.invalidInput "active management role did not match its detail payload")
      ensure (receiverAddress.port ≠ 0)
        (.invalidInput "active sender receiver address used port zero")
      ensure (workerCount ≠ 0) (.invalidInput "active sender worker count must not be zero")
      ensure (calibrationMib ≠ 0)
        (.invalidInput "active sender calibration size must not be zero")
      validateWireText sourceRoot maxActivePathBytes "active sender source path" false
      let receiverText := texts.display receiverAddress
      validateWireText receiverText maxReceiverEndpointBytes "active sender receiver endpoint" false
      ensure (receiverText.utf8ByteSize < 2 ^ 16)
        (.invalidInput "active sender receiver endpoint length cannot be represented")
      ensure (sourceRoot.utf8ByteSize < 2 ^ 32)
        (.invalidInput "active sender source path length cannot be represented")
      ensure (workerCount.toNat < 2 ^ 32)
        (.invalidInput "active sender worker count cannot be represented")
      return leBytes 4 workerCount.toNat ++ leBytes 8 calibrationMib.toNat ++
        leBytes 2 receiverText.utf8ByteSize ++ leBytes 2 0 ++ leBytes 4 sourceRoot.utf8ByteSize ++
        stringBytes receiverText ++ stringBytes sourceRoot
  | .receiver transferPort destinationRoot updateExisting => do
      ensure (role = .receiver)
        (.invalidInput "active management role did not match its detail payload")
      ensure (transferPort ≠ 0)
        (.invalidInput "active receiver transfer port must not be zero")
      validateWireText destinationRoot maxActivePathBytes "active receiver destination path" false
      ensure (destinationRoot.utf8ByteSize < 2 ^ 32)
        (.invalidInput "active receiver destination length cannot be represented")
      return leBytes 2 transferPort.toNat ++ leBytes 1 updateExisting.toNat ++ leBytes 1 0 ++
        leBytes 4 destinationRoot.utf8ByteSize ++ stringBytes destinationRoot

/-- `encode_active`. -/
def encodeActive (active : ManagementActiveJobSnapshot) : IoResult (List UInt8) := do
  validateJobId active.jobId.toNat
  validateWireText active.phase maxPhaseBytes "management progress phase" false
  ensure (active.phase.utf8ByteSize < 2 ^ 16)
    (.invalidInput "management progress phase length cannot be represented")
  let details ← encodeActiveDetails texts active.role active.details
  ensure (details.length < 2 ^ 32)
    (.invalidInput "active management details length cannot be represented")
  return leBytes 1 active.role.code ++ leBytes 1 active.cancelRequested.toNat ++
    leBytes 2 active.phase.utf8ByteSize ++ leBytes 8 active.jobId.toNat ++
    leBytes 8 active.completed.toNat ++ leBytes 8 active.total.toNat ++
    leBytes 4 details.length ++ stringBytes active.phase ++ details

/-- `encode_result`. -/
def encodeWireResult (result : ManagementJobResult) : IoResult (List UInt8) := do
  validateJobId result.jobId
  validateWireText result.message maxMessageBytes "management result message" true
  ensure (result.message.utf8ByteSize < 2 ^ 16)
    (.invalidInput "management result message length cannot be represented")
  return leBytes 1 result.role.code ++ leBytes 1 result.outcome.code ++
    leBytes 2 result.message.utf8ByteSize ++ leBytes 4 result.dataStreamCount ++
    leBytes 8 result.jobId ++ leBytes 8 result.files ++ leBytes 8 result.logicalBytes ++
    leBytes 8 result.wireBytes ++ stringBytes result.message

/-- `if let Some(value) = &option { encode(value, &mut payload)? }`. -/
def encodeOption {α : Type} (encode : α → IoResult (List UInt8)) :
    Option α → IoResult (List UInt8)
  | none => .ok []
  | some value => encode value

/-- `encode_snapshot`.  Bit 0 of the flags is `ACTIVE_PRESENT_FLAG`, bit 1 is
`RESULT_PRESENT_FLAG`. -/
def encodeSnapshot (snapshot : ManagementAgentSnapshot) : IoResult (List UInt8) := do
  let flags := snapshot.active.isSome.toNat + 2 * snapshot.latestResult.isSome.toNat
  let active ← encodeOption (encodeActive texts) snapshot.active
  let result ← encodeOption (fun result => encodeWireResult result.val) snapshot.latestResult
  let payload := leBytes 2 snapshotVersion ++ leBytes 1 flags ++ leBytes 1 0 ++
    leBytes 16 snapshot.agentInstanceId.value ++ active ++ result
  let length := payload.length
  ensure (length ≤ maxManagementPayloadBytes) (.invalidInput
    (s!"management snapshot requires {length} bytes, exceeding the " ++
      s!"{maxManagementPayloadBytes} byte limit"))
  return payload

/-! ## Decoding -/

/-- The error of a short read in a snapshot. -/
def endedInside (description : String) : IoError :=
  ⟨.unexpectedEof, s!"management snapshot ended inside {description}", none⟩

/-- A field of a header that has been read; its bytes are there. -/
def headerField (width : Nat) (description : String) : ByteReader IoError Nat :=
  ByteReader.uint width (.invalidData s!"{description} was malformed")

/-- A byte that is 0 or 1. -/
def flagOf (value : Nat) (error : IoError) : IoResult Bool :=
  match value with
  | 0 => .ok false
  | 1 => .ok true
  | _ => .error error

/-- The role of a job, from its byte. -/
def roleOf (value : Nat) : IoResult ManagementJobRole :=
  ManagementJobRole.tryFrom (UInt8.ofNat value)

/-- The outcome of a job, from its byte. -/
def outcomeOf (value : Nat) : IoResult ManagementJobOutcome :=
  ManagementJobOutcome.tryFrom (UInt8.ofNat value)

/-- The branch of a sender in `decode_active_details`. -/
def decodeSenderDetails : ByteReader IoError ManagementActiveJobDetails := do
  ByteReader.need senderDetailHeaderBytes fun _ =>
    ⟨.unexpectedEof, "active sender details ended inside its header", none⟩
  let workerCount ← headerField 4 "active sender worker count"
  ByteReader.check (workerCount ≠ 0) (.invalidData "active sender worker count was zero")
  let calibrationMib ← headerField 8 "active sender calibration size"
  ByteReader.check (calibrationMib ≠ 0) (.invalidData "active sender calibration size was zero")
  let receiverLength ← headerField 2 "active sender receiver length"
  let reserved ← headerField 2 "active sender reserved field"
  ByteReader.check (reserved = 0) (.invalidData "active sender reserved field was not zero")
  let sourceLength ← headerField 4 "active sender source length"
  let expectedLength := senderDetailHeaderBytes + receiverLength + sourceLength
  ByteReader.exactly (receiverLength + sourceLength) fun left =>
    let length := senderDetailHeaderBytes + left
    .invalidData s!"active sender details contain {length} bytes, expected {expectedLength}"
  -- The length has been checked, so this cannot fail.
  let receiverBytes ← ByteReader.take receiverLength
    (.invalidData "active sender receiver position overflowed")
  let receiverText ← decodeWireText texts receiverBytes maxReceiverEndpointBytes
    "active sender receiver endpoint" false
  let receiverAddress ← parseEndpoint texts receiverText "active sender receiver endpoint"
  ByteReader.check (receiverAddress.port ≠ 0)
    (.invalidData "active sender receiver endpoint used port zero")
  let sourceBytes ← ByteReader.takeAll
  let sourceRoot ← decodeWireText texts sourceBytes maxActivePathBytes
    "active sender source path" false
  return .sender receiverAddress sourceRoot (UInt64.ofNat workerCount)
    (UInt64.ofNat calibrationMib)

/-- The branch of a receiver in `decode_active_details`. -/
def decodeReceiverDetails : ByteReader IoError ManagementActiveJobDetails := do
  ByteReader.need receiverDetailHeaderBytes fun _ =>
    ⟨.unexpectedEof, "active receiver details ended inside its header", none⟩
  let transferPort ← headerField 2 "active receiver transfer port"
  ByteReader.check (transferPort ≠ 0) (.invalidData "active receiver transfer port was zero")
  let flags ← headerField 1 "active receiver flags"
  let unknown := hexUpper 2 flags
  let updateExisting ← flagOf flags
    (.invalidData s!"active receiver flags contained unknown bits 0x{unknown}")
  let reserved ← headerField 1 "active receiver reserved byte"
  ByteReader.check (reserved = 0) (.invalidData "active receiver reserved byte was not zero")
  let destinationLength ← headerField 4 "active receiver destination length"
  let expectedLength := receiverDetailHeaderBytes + destinationLength
  ByteReader.exactly destinationLength fun left =>
    let length := receiverDetailHeaderBytes + left
    .invalidData s!"active receiver details contain {length} bytes, expected {expectedLength}"
  let destinationBytes ← ByteReader.takeAll
  let destinationRoot ← decodeWireText texts destinationBytes maxActivePathBytes
    "active receiver destination path" false
  return .receiver (UInt16.ofNat transferPort) destinationRoot updateExisting

/-- `decode_active_details`. -/
def decodeActiveDetails (role : ManagementJobRole) (payload : List UInt8) :
    IoResult ManagementActiveJobDetails :=
  match role with
  | .sender => (decodeSenderDetails texts).run' payload
  | .receiver => (decodeReceiverDetails texts).run' payload

/-- `decode_active`. -/
def decodeActive : ByteReader IoError ManagementActiveJobSnapshot := do
  ByteReader.need activeHeaderBytes fun _ => endedInside "active management job header"
  let roleCode ← headerField 1 "active role"
  let role ← roleOf roleCode
  let cancelFlag ← headerField 1 "active cancellation flag"
  let cancelRequested ← flagOf cancelFlag
    (.invalidData s!"active management job used invalid cancellation flag {cancelFlag}")
  let phaseLength ← headerField 2 "active phase length"
  let jobId ← headerField 8 "active management job ID"
  invalidData (validateJobId jobId)
  let completed ← headerField 8 "active completed byte count"
  let total ← headerField 8 "active total byte count"
  let detailsLength ← headerField 4 "active details length"
  let phaseBytes ← ByteReader.take phaseLength (endedInside "active management phase")
  let phase ← decodeWireText texts phaseBytes maxPhaseBytes "management progress phase" false
  let detailsBytes ← ByteReader.take detailsLength (endedInside "active management details")
  let details ← decodeActiveDetails texts role detailsBytes
  return {
    role
    jobId := UInt64.ofNat jobId
    phase
    completed := UInt64.ofNat completed
    total := UInt64.ofNat total
    cancelRequested
    details }

/-- `decode_result`. -/
def decodeWireResult : ByteReader IoError { result : ManagementJobResult // result.Fits } := do
  ByteReader.need resultHeaderBytes fun _ => endedInside "management result header"
  let roleCode ← headerField 1 "management result role"
  let role ← roleOf roleCode
  let outcomeCode ← headerField 1 "management result outcome"
  let outcome ← outcomeOf outcomeCode
  let messageLength ← headerField 2 "management result message length"
  let dataStreamCount ← headerField 4 "management result stream count"
  let jobId ← headerField 8 "management result job ID"
  invalidData (validateJobId jobId)
  let files ← headerField 8 "management result file count"
  let logicalBytes ← headerField 8 "management result logical byte count"
  let wireBytes ← headerField 8 "management result wire byte count"
  let messageBytes ← ByteReader.take messageLength (endedInside "management result message")
  let message ← decodeWireText texts messageBytes maxMessageBytes "management result message" true
  return {
    val := {
      role
      outcome
      jobId := (UInt64.ofNat jobId).toNat
      files := (UInt64.ofNat files).toNat
      logicalBytes := (UInt64.ofNat logicalBytes).toNat
      wireBytes := (UInt64.ofNat wireBytes).toNat
      dataStreamCount := (UInt32.ofNat dataStreamCount).toNat
      message }
    property := ⟨UInt64.toNat_lt _, UInt64.toNat_lt _, UInt64.toNat_lt _, UInt64.toNat_lt _,
      UInt32.toNat_lt _⟩ }

/-- `if flags & FLAG != 0 { Some(decode(payload, &mut cursor)?) } else { None }`. -/
def decodeOption {α : Type} (present : Bool) (decode : ByteReader IoError α) :
    ByteReader IoError (Option α) :=
  if present then do
    let value ← decode
    return some value
  else pure none

/-- `decode_snapshot`, as a reader of the payload. -/
def readSnapshot : ByteReader IoError ManagementAgentSnapshot := do
  ByteReader.need snapshotHeaderBytes fun length => .invalidData
    s!"management snapshot has {length} bytes, expected at least {snapshotHeaderBytes}"
  let version ← headerField 2 "management snapshot version"
  ByteReader.check (version = snapshotVersion)
    (.invalidData s!"unsupported management snapshot version {version}")
  let flags ← headerField 1 "management snapshot flags"
  let unknown := hexUpper 2 flags
  ByteReader.check (flags < 4)
    (.invalidData s!"management snapshot flags contained unknown bits 0x{unknown}")
  let reserved ← headerField 1 "management snapshot reserved byte"
  ByteReader.check (reserved = 0) (.invalidData "management snapshot reserved byte was not zero")
  let instanceId ← headerField 16 "management agent instance ID"
  let agentInstanceId ← okOrElse (AgentInstanceId.fromRaw instanceId)
    (.invalidData "management agent instance ID was zero")
  let active ← decodeOption (flags % 2 = 1) (decodeActive texts)
  let latestResult ← decodeOption (flags / 2 = 1) (decodeWireResult texts)
  ByteReader.exactly 0 fun left =>
    .invalidData s!"management snapshot contains {left} trailing bytes"
  return { agentInstanceId, active, latestResult }

/-- `decode_snapshot`. -/
def decodeSnapshot (payload : List UInt8) : IoResult ManagementAgentSnapshot :=
  (readSnapshot texts).run' payload

end NetworkCopy
