import NetworkCopy.Lib.LineText
import NetworkCopy.Management.Jobs

/-!
# The state file of the manager

The manager keeps its settings, its queue and the history of its transfers in one text
file.  `encodeState` writes format 3, `encodeStateWithV4` splices the active binding of the
queue into that text, and `encodeStateWithV5` adds a line with the desktop flag to every
item.  The decoders undo this: `decodeStateWithV5` takes the flags out, and
`decodeStateWithV4` takes the binding out, before `decodeState` reads what is left.

A text is a list of characters.  Every encoder of the source appends whole lines to its
output, so the model lists these lines and `unlines` makes the text of them.  A decoder is a
`LineReader`: it takes lines from the front of the lines that are left.
-/

namespace NetworkCopy

open LineText

/-! ## States -/

/-- `MAX_STATE_BYTES`. -/
@[irreducible] def maxStateBytes : Nat := 4 * 1024 * 1024

/-- `MAX_HISTORY_ENTRIES`. -/
def maxHistoryEntries : Nat := 20

/-- `MAX_TEXT_BYTES`. -/
@[irreducible] def maxTextBytes : Nat := 64 * 1024

/-- `ManagedTransferRecord`. -/
structure ManagedTransferRecord (Address : Type) where
  senderAgent : Address
  senderJobId : UInt64
  receiverAgent : Address
  receiverJobId : UInt64
  receiverPayload : Address
  sourceRoot : String
  destinationRoot : String
  updateExisting : Bool
  workerCount : UInt64
  calibrationMib : UInt64
  deriving DecidableEq

/-- The counters of a result are values of their types. -/
structure ManagementJobResult.Fits (result : ManagementJobResult) : Prop where
  jobId : result.jobId < 2 ^ 64
  files : result.files < 2 ^ 64
  logicalBytes : result.logicalBytes < 2 ^ 64
  wireBytes : result.wireBytes < 2 ^ 64
  dataStreamCount : result.dataStreamCount < 2 ^ 32

/-- `ManagerHistoryEntry`. -/
structure ManagerHistoryEntry (Address : Type) where
  transfer : ManagedTransferRecord Address
  senderResult : ManagementJobResult
  receiverResult : ManagementJobResult
  senderResult_fits : senderResult.Fits
  receiverResult_fits : receiverResult.Fits
  deriving DecidableEq

/-- `ManagerPersistedState`. -/
structure ManagerPersistedState (Address : Type) where
  senderAgent : String
  receiverAgent : String
  sourceRoot : String
  destinationRoot : String
  workerCount : UInt64
  calibrationMib : UInt64
  updateExisting : Bool
  routeMode : ManagementRouteMode
  queue : TransferQueue Address
  history : List (ManagerHistoryEntry Address)
  deriving DecidableEq

/-- `ManagementRouteMode::code`. -/
def ManagementRouteMode.code : ManagementRouteMode → Nat
  | .automaticLan => 0
  | .directLink => 1
  | .explicitIp => 2

/-- `ManagementRouteMode::from_code`. -/
def ManagementRouteMode.fromCode (value : UInt8) : Option ManagementRouteMode :=
  match value.toNat with
  | 0 => some .automaticLan
  | 1 => some .directLink
  | 2 => some .explicitIp
  | _ => none

/-- `role as u8`. -/
def ManagementJobRole.code : ManagementJobRole → Nat
  | .sender => 1
  | .receiver => 2

/-- `ManagementJobRole::try_from`. -/
def ManagementJobRole.tryFrom (value : UInt8) : IoResult ManagementJobRole :=
  match value.toNat with
  | 1 => .ok .sender
  | 2 => .ok .receiver
  | unknown => .error (.invalidData s!"unknown management job role {unknown}")

/-- `outcome as u8`. -/
def ManagementJobOutcome.code : ManagementJobOutcome → Nat
  | .completed => 1
  | .cancelled => 2
  | .failed => 3

/-- `ManagementJobOutcome::try_from`. -/
def ManagementJobOutcome.tryFrom (value : UInt8) : IoResult ManagementJobOutcome :=
  match value.toNat with
  | 1 => .ok .completed
  | 2 => .ok .cancelled
  | 3 => .ok .failed
  | unknown => .error (.invalidData s!"unknown management job outcome {unknown}")

/-- `queue_state_code`. -/
def queueStateCode : QueuedTransferState → Nat
  | .pending => 0
  | .running => 1
  | .blocked => 2
  | .failed => 3
  | .completed => 4
  | .cancelled => 5

/-- `decode_queue_state`. -/
def decodeQueueState (value : UInt8) : IoResult QueuedTransferState :=
  match value.toNat with
  | 0 => .ok .pending
  | 1 => .ok .running
  | 2 => .ok .blocked
  | 3 => .ok .failed
  | 4 => .ok .completed
  | 5 => .ok .cancelled
  | unknown => .error (.invalidData s!"queued transfer used unknown state {unknown}")

/-- `decode_route_mode`. -/
def decodeRouteMode (value : UInt8) : IoResult ManagementRouteMode :=
  let code := value.toNat
  okOrElse (ManagementRouteMode.fromCode value) (.invalidData s!"manager state used unknown route mode {code}")

/-! ## Texts -/

/-- What the codec takes from the standard library: how a socket address is printed and
parsed, how a text is shown by `{:?}`, and what an error says of bytes that are not
UTF-8. -/
structure TextSupport (Address : Type) where
  display : Address → String
  fromStr : String → Except String Address
  debug : List Char → String
  utf8Error : List UInt8 → String

/-- Addresses with flow information zero print and parse back; the longest text is that of
an IPv6 address with a scope, `[ffff:ffff:ffff:ffff:ffff:ffff:ffff:ffff%4294967295]:65535`. -/
structure TextSupport.Lawful {Address : Type} (texts : TextSupport Address) : Prop where
  fromStr_display : ∀ address, texts.fromStr (texts.display address) = .ok address
  display_le : ∀ address, (texts.display address).utf8ByteSize ≤ 58

/-- The bytes of a text. -/
def textBytes (text : List Char) : List UInt8 := text.flatMap String.utf8EncodeChar

/-- The bytes of a string. -/
def stringBytes (value : String) : List UInt8 := value.toUTF8.data.toList

/-- `HEX`. -/
def hexDigits : List Char :=
  ['0', '1', '2', '3', '4', '5', '6', '7', '8', '9', 'A', 'B', 'C', 'D', 'E', 'F']

/-- `hex_encode`. -/
def hexEncode (bytes : List UInt8) : List Char :=
  bytes.flatMap fun byte : UInt8 =>
    [hexDigits.getD (byte >>> 4).toNat '0', hexDigits.getD (byte &&& 0x0F).toNat '0']

/-- `decode_hex_nibble`. -/
def decodeHexNibble (value : UInt8) : IoResult UInt8 :=
  if 0x30 ≤ value ∧ value ≤ 0x39 then .ok (value - 0x30)
  else if 0x41 ≤ value ∧ value ≤ 0x46 then .ok (value - 0x41 + 10)
  else if 0x61 ≤ value ∧ value ≤ 0x66 then .ok (value - 0x61 + 10)
  else
    let digits := hexUpper 2 value.toNat
    .error (.invalidData s!"invalid hexadecimal digit 0x{digits}")

/-- The loop of `hex_decode` over the pairs of bytes. -/
def hexPairs : List UInt8 → IoResult (List UInt8)
  | first :: second :: rest => do
      let high ← decodeHexNibble first
      let low ← decodeHexNibble second
      let decoded ← hexPairs rest
      return (high <<< 4 ||| low) :: decoded
  | _ => .ok []

/-- `hex_decode`. -/
def hexDecode (encoded : List Char) : IoResult (List UInt8) := do
  ensure ((textBytes encoded).length % 2 = 0)
    (.invalidData "hexadecimal manager-state field has odd length")
  hexPairs (textBytes encoded)

/-- `push_text_field`: the line of a text. -/
def textField (key value : String) : List Char :=
  key.toList ++ ' ' :: hexEncode (stringBytes value)

/-- `push_number_field`: the line of a number. -/
def numberField (key : String) (value : Nat) : List Char :=
  key.toList ++ ' ' :: Nat.toDigits 10 value

/-- `push_bool_field`: the line of a flag. -/
def boolField (key : String) (value : Bool) : List Char := numberField key value.toNat

/-- `{:032X}` of an instance ID. -/
def AgentInstanceId.display (id : AgentInstanceId) : List Char := (hexUpper 32 id.value).toList

/-- `str::trim`. -/
def trim (text : List Char) : List Char :=
  (text.dropWhile isWhitespace).rdropWhile isWhitespace

/-- `{error}` of a `ParseIntError`. -/
def parseIntMessage : ParseIntError → String
  | .empty => "cannot parse integer from empty string"
  | .invalidDigit => "invalid digit found in string"
  | .posOverflow => "number too large to fit in target type"

/-- `AgentInstanceId::from_str`, with the text of its error. -/
def AgentInstanceId.fromStr (value : List Char) : Except String AgentInstanceId :=
  let value := trim value
  let length := (textBytes value).length
  if length ≠ 32 then
    .error s!"agent instance ID must contain exactly 32 hexadecimal characters, found {length}"
  else
    match parseUnsigned 16 (2 ^ 128) value with
    | .error error =>
        let reason := parseIntMessage error
        .error s!"agent instance ID is not valid hexadecimal: {reason}"
    | .ok raw =>
        if h : 0 < raw ∧ raw < 2 ^ 128 then .ok ⟨raw, h.1, h.2⟩
        else .error "agent instance ID must not be zero"

/-- `map_err(|error| io::Error::new(kind, error))` of a result with a text as error. -/
def fromText (error : String → IoError) (result : Except String Unit) : IoResult Unit :=
  result.mapError error

/-! ## Reading fields -/

/-- A decoder that takes lines. -/
abbrev LineReader := StateT (List (List Char)) (Except IoError)

section

variable {Address : Type} (texts : TextSupport Address)

/-- `required_line`.  `subject` is what the text belongs to: the codec of the active binding
has its own copies of these functions, and they differ in the subject of their errors. -/
def requiredLine (subject : String) : LineReader (List Char) := fun lines =>
  match lines with
  | [] => .error ⟨.unexpectedEof, s!"{subject} ended unexpectedly", none⟩
  | line :: rest => .ok (line, rest)

/-- `expect_line`. -/
def expectLine (expected : String) : LineReader Unit := do
  let actual ← requiredLine "manager state"
  let wanted := texts.debug expected.toList
  let found := texts.debug actual
  ensure (actual = expected.toList)
    (.invalidData s!"manager state expected line {wanted}, found {found}")

/-- `field_value`. -/
def fieldValue (subject : String) (line : List Char) (expectedKey : String) :
    IoResult (List Char) := do
  let shown := texts.debug line
  let (actualKey, value) ← okOrElse (splitOnce ' ' line)
    (.invalidData s!"{subject} field {shown} has no value")
  let wanted := texts.debug expectedKey.toList
  let found := texts.debug actualKey
  ensure (actualKey = expectedKey.toList)
    (.invalidData s!"{subject} expected field {wanted}, found {found}")
  return value

/-- `parse_number_field`, for a type with `limit` values. -/
def parseNumberField (subject : String) (limit : Nat) (line : List Char) (key : String) :
    IoResult Nat := do
  let value ← fieldValue texts subject line key
  match parseUnsigned 10 limit value with
  | .ok number => .ok number
  | .error error =>
      let wanted := texts.debug key.toList
      let reason := parseIntMessage error
      .error (.invalidData s!"{subject} field {wanted} was invalid: {reason}")

/-- `parse_u8_field`. -/
def parseU8Field (subject : String) (line : List Char) (key : String) : IoResult UInt8 :=
  UInt8.ofNat <$> parseNumberField texts subject (2 ^ 8) line key

/-- `parse_u32_field`. -/
def parseU32Field (subject : String) (line : List Char) (key : String) : IoResult UInt32 :=
  UInt32.ofNat <$> parseNumberField texts subject (2 ^ 32) line key

/-- `parse_u64_field`, and `parse_usize_field`. -/
def parseU64Field (subject : String) (line : List Char) (key : String) : IoResult UInt64 :=
  UInt64.ofNat <$> parseNumberField texts subject (2 ^ 64) line key

/-- `parse_bool_field`. -/
def parseBoolField (subject : String) (line : List Char) (key : String) : IoResult Bool := do
  let value ← parseU8Field texts subject line key
  match value.toNat with
  | 0 => .ok false
  | 1 => .ok true
  | unknown =>
      let wanted := texts.debug key.toList
      .error (.invalidData s!"{subject} field {wanted} used invalid boolean {unknown}")

/-- `decode_text_field`. -/
def decodeTextField (line : List Char) (key : String) : IoResult String := do
  let encoded ← fieldValue texts "manager state" line key
  let bytes ← hexDecode encoded
  let length := bytes.length
  ensure (length ≤ maxTextBytes)
    (.invalidData s!"{key} contains {length} bytes, exceeding the {maxTextBytes} byte limit")
  let reason := texts.utf8Error bytes
  okOrElse (String.fromUTF8? bytes.toByteArray)
    (.invalidData s!"{key} was not valid UTF-8: {reason}")

/-- `parse_socket_address`. -/
def parseSocketAddress (value description : String) : IoResult Address :=
  match texts.fromStr value with
  | .ok address => .ok address
  | .error error => .error (.invalidData s!"{description} was invalid: {error}")

/-- `decode_text_field(required_line(lines)?, key)`. -/
def nextText (key : String) : LineReader String := do
  decodeTextField texts (← requiredLine "manager state") key

/-- `parse_u8_field(required_line(lines)?, key)`. -/
def nextU8 (key : String) : LineReader UInt8 := do
  parseU8Field texts "manager state" (← requiredLine "manager state") key

/-- `parse_u32_field(required_line(lines)?, key)`. -/
def nextU32 (key : String) : LineReader UInt32 := do
  parseU32Field texts "manager state" (← requiredLine "manager state") key

/-- `parse_u64_field(required_line(lines)?, key)`. -/
def nextU64 (subject key : String) : LineReader UInt64 := do
  parseU64Field texts subject (← requiredLine subject) key

/-- `parse_bool_field(required_line(lines)?, key)`. -/
def nextBool (subject key : String) : LineReader Bool := do
  parseBoolField texts subject (← requiredLine subject) key

/-- `parse_socket_address(&decode_text_field(required_line(lines)?, key)?, description)`. -/
def nextAddress (key description : String) : LineReader Address := do
  parseSocketAddress texts (← nextText texts key) description

/-- `if let Some(trailing) = lines.find(|line| !line.trim().is_empty())`, with the first words
of the error. -/
def checkTrailing (description : String) : LineReader Unit := do
  let rest ← get
  match rest.find? (fun line => !line.all isWhitespace) with
  | none => pure ()
  | some trailing =>
      let shown := texts.debug trailing
      throw (.invalidData s!"{description} trailing line {shown}")

/-! ## The active binding -/

/-- The subject of the errors of the codec of the active binding. -/
def bindingSubject : String := "active queue binding"

/-- `encode_active_binding`: its lines. -/
def encodeActiveBinding : Option ActiveQueueBinding → List (List Char)
  | none => [numberField "active_binding_present" 0]
  | some binding =>
      [ numberField "active_binding_present" 1,
        numberField "active_binding_queue_id" binding.queueId.value,
        "active_binding_sender_instance".toList ++ ' ' :: binding.senderInstanceId.display,
        numberField "active_binding_sender_job_id" binding.senderJobId,
        "active_binding_receiver_instance".toList ++ ' ' :: binding.receiverInstanceId.display,
        numberField "active_binding_receiver_job_id" binding.receiverJobId ]

/-- `parse_instance_field(required_line(lines)?, key)`. -/
def nextInstance (key : String) : LineReader AgentInstanceId := do
  let value ← fieldValue texts bindingSubject (← requiredLine bindingSubject) key
  match AgentInstanceId.fromStr value with
  | .ok id => pure id
  | .error error =>
      let wanted := texts.debug key.toList
      throw (.invalidData s!"active queue binding field {wanted} was invalid: {error}")

/-- `ActiveQueueBinding::new`, with the error as `invalid_data` makes it. -/
def ActiveQueueBinding.new (queueId : QueuedTransferId) (senderInstanceId : AgentInstanceId)
    (senderJobId : UInt64) (receiverInstanceId : AgentInstanceId) (receiverJobId : UInt64) :
    IoResult ActiveQueueBinding :=
  if hsender : 0 < senderJobId.toNat then
    if hreceiver : 0 < receiverJobId.toNat then
      .ok {
        queueId
        senderInstanceId
        senderJobId := senderJobId.toNat
        receiverInstanceId
        receiverJobId := receiverJobId.toNat
        senderJobId_pos := hsender
        receiverJobId_pos := hreceiver
        senderJobId_lt := by simpa [u64Limit] using senderJobId.toNat_lt
        receiverJobId_lt := by simpa [u64Limit] using receiverJobId.toNat_lt }
    else .error (.invalidData "active queue binding receiver job ID must not be zero")
  else .error (.invalidData "active queue binding sender job ID must not be zero")

/-- `QueuedTransferId::from_raw` of a `u64`. -/
def queuedTransferId (raw : UInt64) (message : String) : IoResult QueuedTransferId :=
  okOrElse (QueuedTransferId.fromRaw raw.toNat (by simpa [u64Limit] using raw.toNat_lt))
    (.invalidData message)

/-- `decode_active_binding`. -/
def decodeActiveBinding : LineReader (Option ActiveQueueBinding) := do
  let present ← nextBool texts bindingSubject "active_binding_present"
  if present then
    let queueIdRaw ← nextU64 texts bindingSubject "active_binding_queue_id"
    let queueId ← queuedTransferId queueIdRaw "active queue binding used queue ID zero"
    let senderInstanceId ← nextInstance texts "active_binding_sender_instance"
    let senderJobId ← nextU64 texts bindingSubject "active_binding_sender_job_id"
    let receiverInstanceId ← nextInstance texts "active_binding_receiver_instance"
    let receiverJobId ← nextU64 texts bindingSubject "active_binding_receiver_job_id"
    let binding ← ActiveQueueBinding.new queueId senderInstanceId senderJobId
      receiverInstanceId receiverJobId
    return some binding
  else return none

/-! ## Queue entries -/

/-- The kind of a queued transfer as two numbers. -/
def kindCodes : QueuedTransferKind → Nat × Nat
  | .fresh => (0, 0)
  | .resume dataStreamCount => (1, dataStreamCount.toNat)

/-- The lines of an item in `encode_queue`. -/
def encodeQueueEntry (item : QueuedTransfer Address) : List (List Char) :=
  let (kind, resumeStreamCount) := kindCodes item.request.kind
  [ "queue_begin".toList,
    numberField "queue_id" item.id.value,
    numberField "queue_kind" kind,
    numberField "queue_resume_stream_count" resumeStreamCount,
    numberField "queue_state" (queueStateCode item.state),
    numberField "queue_route_mode" item.request.routeMode.code,
    textField "queue_sender_agent" (texts.display item.request.senderAgent),
    textField "queue_receiver_agent" (texts.display item.request.receiverAgent),
    textField "queue_source_root" item.request.sourceRoot,
    textField "queue_destination_root" item.request.destinationRoot,
    boolField "queue_update_existing" item.request.updateExisting,
    numberField "queue_worker_count" item.request.workerCount.toNat,
    numberField "queue_calibration_mib" item.request.calibrationMib.toNat,
    textField "queue_status_message" item.statusMessage,
    "queue_end".toList ]

/-- `encode_queue`: its lines. -/
def encodeQueue (queue : TransferQueue Address) : List (List Char) :=
  [ numberField "queue_next_id" queue.nextId,
    boolField "queue_paused_after_current" queue.pausedAfterCurrent,
    numberField "queue_count" queue.items.length ] ++
  queue.items.flatMap (encodeQueueEntry texts)

/-- The kind of a queued transfer from its two numbers. -/
def decodeKind (kindCode : UInt8) (resumeStreamCount : UInt64) : IoResult QueuedTransferKind :=
  match kindCode.toNat, resumeStreamCount.toNat with
  | 0, 0 => .ok .fresh
  | 0, _ => .error (.invalidData "fresh queued transfer used a resume stream count")
  | 1, 0 => .error (.invalidData "resumed queued transfer used stream count zero")
  | 1, _ => .ok (.resume resumeStreamCount)
  | unknown, _ => .error (.invalidData s!"queued transfer used unknown kind {unknown}")

/-- `decode_route_mode(parse_u8_field(required_line(lines)?, key)?)`; formats without a route
mode used the automatic one. -/
def nextRouteMode (hasRouteMode : Bool) (key : String) : LineReader ManagementRouteMode :=
  if hasRouteMode then do
    let code ← nextU8 texts key
    decodeRouteMode code
  else pure .automaticLan

/-- `decode_queue_entry`. -/
def decodeQueueEntry (hasRouteMode : Bool) : LineReader (QueuedTransfer Address) := do
  expectLine texts "queue_begin"
  let idValue ← nextU64 texts "manager state" "queue_id"
  let id ← queuedTransferId idValue "persisted queue entry used ID zero"
  let kindCode ← nextU8 texts "queue_kind"
  let resumeStreamCount ← nextU64 texts "manager state" "queue_resume_stream_count"
  let kind ← decodeKind kindCode resumeStreamCount
  let stateCode ← nextU8 texts "queue_state"
  let state ← decodeQueueState stateCode
  let routeMode ← nextRouteMode texts hasRouteMode "queue_route_mode"
  let senderAgent ← nextAddress texts "queue_sender_agent" "queued sender agent"
  let receiverAgent ← nextAddress texts "queue_receiver_agent" "queued receiver agent"
  let sourceRoot ← nextText texts "queue_source_root"
  let destinationRoot ← nextText texts "queue_destination_root"
  let updateExisting ← nextBool texts "manager state" "queue_update_existing"
  let workerCount ← nextU64 texts "manager state" "queue_worker_count"
  let calibrationMib ← nextU64 texts "manager state" "queue_calibration_mib"
  let statusMessage ← nextText texts "queue_status_message"
  expectLine texts "queue_end"
  return {
    id
    request := {
      senderAgent
      receiverAgent
      routeMode
      sourceRoot
      destinationRoot
      updateExisting
      workerCount
      calibrationMib
      kind }
    preserveDesktopLayout := false
    state
    statusMessage }

/-- `for _ in 0..count { entries.push(decode_entry(lines)?) }`. -/
def decodeMany {α : Type} (decodeEntry : LineReader α) : Nat → LineReader (List α)
  | 0 => pure []
  | count + 1 => do
      let entry ← decodeEntry
      let entries ← decodeMany decodeEntry count
      return entry :: entries

/-- `decode_queue`. -/
def decodeQueue [DecidableEq Address] (hasRouteMode : Bool) :
    LineReader (TransferQueue Address) := do
  let nextId ← nextU64 texts "manager state" "queue_next_id"
  let pausedAfterCurrent ← nextBool texts "manager state" "queue_paused_after_current"
  let count ← nextU64 texts "manager state" "queue_count"
  let length := count.toNat
  ensure (length ≤ maxQueueEntries)
    (.invalidData (s!"manager state contains {length} queue entries, exceeding the " ++
      s!"{maxQueueEntries} entry limit"))
  let items ← decodeMany (decodeQueueEntry texts hasRouteMode) length
  let queue : TransferQueue Address := {
    nextId := nextId.toNat
    nextId_lt := by simpa [u64Limit] using nextId.toNat_lt
    pausedAfterCurrent
    items
    activeBinding := none }
  fromText .invalidData queue.validate
  return queue

/-! ## History entries -/

/-- `encode_result`: its lines. -/
def encodeResult (result : ManagementJobResult) : List (List Char) :=
  [ numberField "role" result.role.code,
    numberField "outcome" result.outcome.code,
    numberField "job_id" result.jobId,
    numberField "files" result.files,
    numberField "logical_bytes" result.logicalBytes,
    numberField "wire_bytes" result.wireBytes,
    numberField "data_stream_count" result.dataStreamCount,
    textField "message" result.message ]

/-- `encode_history_entry`: its lines. -/
def encodeHistoryEntry (entry : ManagerHistoryEntry Address) : List (List Char) :=
  [ "history_begin".toList,
    textField "sender_agent" (texts.display entry.transfer.senderAgent),
    numberField "sender_job_id" entry.transfer.senderJobId.toNat,
    textField "receiver_agent" (texts.display entry.transfer.receiverAgent),
    numberField "receiver_job_id" entry.transfer.receiverJobId.toNat,
    textField "receiver_payload" (texts.display entry.transfer.receiverPayload),
    textField "source_root" entry.transfer.sourceRoot,
    textField "destination_root" entry.transfer.destinationRoot,
    boolField "update_existing" entry.transfer.updateExisting,
    numberField "worker_count" entry.transfer.workerCount.toNat,
    numberField "calibration_mib" entry.transfer.calibrationMib.toNat,
    "sender_result".toList ] ++
  encodeResult entry.senderResult ++
  ["receiver_result".toList] ++
  encodeResult entry.receiverResult ++
  ["history_end".toList]

/-- `decode_result`. -/
def decodeResult : LineReader { result : ManagementJobResult // result.Fits } := do
  let roleCode ← nextU8 texts "role"
  let role ← ManagementJobRole.tryFrom roleCode
  let outcomeCode ← nextU8 texts "outcome"
  let outcome ← ManagementJobOutcome.tryFrom outcomeCode
  let jobId ← nextU64 texts "manager state" "job_id"
  let files ← nextU64 texts "manager state" "files"
  let logicalBytes ← nextU64 texts "manager state" "logical_bytes"
  let wireBytes ← nextU64 texts "manager state" "wire_bytes"
  let dataStreamCount ← nextU32 texts "data_stream_count"
  let message ← nextText texts "message"
  return {
    val := {
      role
      outcome
      jobId := jobId.toNat
      files := files.toNat
      logicalBytes := logicalBytes.toNat
      wireBytes := wireBytes.toNat
      dataStreamCount := dataStreamCount.toNat
      message }
    property := ⟨jobId.toNat_lt, files.toNat_lt, logicalBytes.toNat_lt, wireBytes.toNat_lt,
      dataStreamCount.toNat_lt⟩ }

/-- `decode_history_entry`. -/
def decodeHistoryEntry : LineReader (ManagerHistoryEntry Address) := do
  expectLine texts "history_begin"
  let senderAgent ← nextAddress texts "sender_agent" "history sender agent"
  let senderJobId ← nextU64 texts "manager state" "sender_job_id"
  let receiverAgent ← nextAddress texts "receiver_agent" "history receiver agent"
  let receiverJobId ← nextU64 texts "manager state" "receiver_job_id"
  let receiverPayload ← nextAddress texts "receiver_payload" "history receiver payload"
  let sourceRoot ← nextText texts "source_root"
  let destinationRoot ← nextText texts "destination_root"
  let updateExisting ← nextBool texts "manager state" "update_existing"
  let workerCount ← nextU64 texts "manager state" "worker_count"
  let calibrationMib ← nextU64 texts "manager state" "calibration_mib"
  expectLine texts "sender_result"
  let senderResult ← decodeResult texts
  expectLine texts "receiver_result"
  let receiverResult ← decodeResult texts
  expectLine texts "history_end"
  ensure (senderResult.val.role = .sender ∧ senderResult.val.jobId = senderJobId.toNat)
    (.invalidData "persisted sender result does not match its transfer record")
  ensure (receiverResult.val.role = .receiver ∧ receiverResult.val.jobId = receiverJobId.toNat)
    (.invalidData "persisted receiver result does not match its transfer record")
  return {
    transfer := {
      senderAgent
      senderJobId
      receiverAgent
      receiverJobId
      receiverPayload
      sourceRoot
      destinationRoot
      updateExisting
      workerCount
      calibrationMib }
    senderResult := senderResult.val
    receiverResult := receiverResult.val
    senderResult_fits := senderResult.property
    receiverResult_fits := receiverResult.property }

/-! ## The whole state -/

/-- `validate_text`. -/
def validateText (value description : String) : IoResult Unit :=
  let length := value.utf8ByteSize
  ensure (length ≤ maxTextBytes)
    (.invalidInput
      s!"{description} contains {length} bytes, exceeding the {maxTextBytes} byte limit")

/-- `validate_history_entry`. -/
def validateHistoryEntry (entry : ManagerHistoryEntry Address) : IoResult Unit := do
  let transfer := entry.transfer
  ensure (transfer.senderJobId ≠ 0 ∧ transfer.receiverJobId ≠ 0)
    (.invalidInput "persisted transfer used job ID zero")
  ensure (transfer.workerCount ≠ 0 ∧ transfer.calibrationMib ≠ 0)
    (.invalidInput "persisted transfer used zero workers or calibration size")
  validateText transfer.sourceRoot "history source root"
  validateText transfer.destinationRoot "history destination root"
  validateText entry.senderResult.message "sender result message"
  validateText entry.receiverResult.message "receiver result message"
  ensure (entry.senderResult.role = .sender ∧
      entry.senderResult.jobId = transfer.senderJobId.toNat)
    (.invalidInput "sender result does not match its persisted transfer")
  ensure (entry.receiverResult.role = .receiver ∧
      entry.receiverResult.jobId = transfer.receiverJobId.toNat)
    (.invalidInput "receiver result does not match its persisted transfer")

/-- `for entry in &state.history { validate_history_entry(entry)?; }`. -/
def validateHistory : List (ManagerHistoryEntry Address) → IoResult Unit
  | [] => .ok ()
  | entry :: rest => do
      validateHistoryEntry entry
      validateHistory rest

/-- `validate_state`. -/
def validateState [DecidableEq Address] (state : ManagerPersistedState Address) :
    IoResult Unit := do
  ensure (state.workerCount ≠ 0) (.invalidInput "persisted worker count must not be zero")
  ensure (state.calibrationMib ≠ 0)
    (.invalidInput "persisted calibration size must not be zero")
  let length := state.history.length
  ensure (length ≤ maxHistoryEntries)
    (.invalidInput (s!"manager state contains {length} history entries, exceeding the " ++
      s!"{maxHistoryEntries} entry limit"))
  validateText state.senderAgent "sender agent"
  validateText state.receiverAgent "receiver agent"
  validateText state.sourceRoot "source root"
  validateText state.destinationRoot "destination root"
  fromText .invalidInput state.queue.validate
  validateHistory state.history

/-- `invalid_data`. -/
def invalidData {α : Type} (result : IoResult α) : IoResult α :=
  result.mapError (fun error => .invalidData error.message)

/-- `STATE_MAGIC_V1`. -/
def stateMagicV1 : List Char := "NCMS1".toList

/-- `STATE_MAGIC_V2`. -/
def stateMagicV2 : List Char := "NCMS2".toList

/-- `STATE_MAGIC_V3`. -/
def stateMagicV3 : List Char := "NCMS3".toList

/-- `STATE_MAGIC_V4`. -/
def stateMagicV4 : List Char := "NCMS4".toList

/-- `STATE_MAGIC_V5`. -/
def stateMagicV5 : List Char := "NCMS5".toList

/-- The guard of the encoders. -/
def checkEncodedSize (output : List Char) : IoResult Unit :=
  let length := (textBytes output).length
  ensure (length ≤ maxStateBytes)
    (.invalidInput
      s!"manager state requires {length} bytes, exceeding the {maxStateBytes} byte limit")

/-- The guard of the decoders. -/
def checkDecodedSize (text : List Char) : IoResult Unit :=
  let length := (textBytes text).length
  ensure (length ≤ maxStateBytes)
    (.invalidData
      s!"manager state contains {length} bytes, exceeding the {maxStateBytes} byte limit")

/-- The settings, as `encode_state` writes them. -/
def encodeSettings (state : ManagerPersistedState Address) : List (List Char) :=
  [ textField "sender_agent" state.senderAgent,
    textField "receiver_agent" state.receiverAgent,
    textField "source_root" state.sourceRoot,
    textField "destination_root" state.destinationRoot,
    numberField "worker_count" state.workerCount.toNat,
    numberField "calibration_mib" state.calibrationMib.toNat,
    boolField "update_existing" state.updateExisting,
    numberField "route_mode" state.routeMode.code ]

/-- What `encode_state` writes after the queue. -/
def encodeHistory (history : List (ManagerHistoryEntry Address)) : List (List Char) :=
  numberField "history_count" history.length ::
    (history.flatMap (encodeHistoryEntry texts) ++ ["end".toList])

variable [DecidableEq Address]

/-- `encode_state`. -/
def encodeState (state : ManagerPersistedState Address) : IoResult (List Char) := do
  validateState state
  let output := unlines
    (stateMagicV3 :: (encodeSettings state ++ encodeQueue texts state.queue ++
      encodeHistory texts state.history))
  checkEncodedSize output
  return output

/-- `(has_queue, has_route_mode)`: what the formats that `decode_state` reads hold. -/
structure StateFormat where
  hasQueue : Bool
  hasRouteMode : Bool

/-- The format that a first line names. -/
def stateFormat (magic : List Char) : IoResult StateFormat :=
  if magic = stateMagicV1 then .ok ⟨false, false⟩
  else if magic = stateMagicV2 then .ok ⟨true, false⟩
  else if magic = stateMagicV3 then .ok ⟨true, true⟩
  else
    let unknown := texts.debug magic
    .error (.invalidData s!"manager state used unsupported format {unknown}")

/-- The queue of a state; a format without one had none. -/
def nextQueue (format : StateFormat) : LineReader (TransferQueue Address) :=
  if format.hasQueue then decodeQueue texts format.hasRouteMode else pure TransferQueue.default

/-- `decode_state` after the first line. -/
def decodeStateBody (format : StateFormat) : LineReader (ManagerPersistedState Address) := do
  let senderAgent ← nextText texts "sender_agent"
  let receiverAgent ← nextText texts "receiver_agent"
  let sourceRoot ← nextText texts "source_root"
  let destinationRoot ← nextText texts "destination_root"
  let workerCount ← nextU64 texts "manager state" "worker_count"
  let calibrationMib ← nextU64 texts "manager state" "calibration_mib"
  let updateExisting ← nextBool texts "manager state" "update_existing"
  let routeMode ← nextRouteMode texts format.hasRouteMode "route_mode"
  let queue ← nextQueue texts format
  let historyCount ← nextU64 texts "manager state" "history_count"
  let length := historyCount.toNat
  ensure (length ≤ maxHistoryEntries)
    (.invalidData (s!"manager state contains {length} history entries, exceeding the " ++
      s!"{maxHistoryEntries} entry limit"))
  let history ← decodeMany (decodeHistoryEntry texts) length
  expectLine texts "end"
  checkTrailing texts "manager state contains"
  let state : ManagerPersistedState Address := {
    senderAgent
    receiverAgent
    sourceRoot
    destinationRoot
    workerCount
    calibrationMib
    updateExisting
    routeMode
    queue
    history }
  invalidData (validateState state)
  return state

/-- `decode_state`, from the lines of the text. -/
def decodeStateLines : LineReader (ManagerPersistedState Address) := do
  let magic ← requiredLine "manager state"
  let format ← stateFormat texts magic
  decodeStateBody texts format

/-- `decode_state`. -/
def decodeState (text : List Char) : IoResult (ManagerPersistedState Address) := do
  checkDecodedSize text
  (decodeStateLines texts).run' (lines text)

/-! ## Format 4 -/

/-- `history_marker`, without the line feed in front of it. -/
def historyMarker : List Char := "history_count ".toList

/-- `ACTIVE_BINDING_PRESENT_PREFIX`. -/
def activeBindingPresentPrefix : List Char := "active_binding_present ".toList

/-- `encode_state_with_v4`. -/
def encodeStateWithV4 (state : ManagerPersistedState Address) : IoResult (List Char) := do
  let output ← encodeState texts state
  ensure (stateMagicV3.isPrefixOf output)
    (.other "legacy manager-state encoder did not produce NCMS3")
  let output := stateMagicV4 ++ output.drop stateMagicV3.length
  let index ← okOrElse (find ('\n' :: historyMarker) output)
    (.other "legacy manager-state encoder omitted history_count")
  let bindingText := unlines (encodeActiveBinding state.queue.activeBinding)
  let output := output.take (index + 1) ++ bindingText ++ output.drop (index + 1)
  checkEncodedSize output
  return output

/-- The places of the lines in front of the history that start a binding block. -/
def bindingPositions (front : List (List Char)) : List Nat :=
  (front.zipIdx.filter (fun place => activeBindingPresentPrefix.isPrefixOf place.1)).map
    (fun place => place.2)

/-- The only place of a binding block. -/
def bindingPosition (front : List (List Char)) : IoResult Nat :=
  match bindingPositions front with
  | [index] => .ok index
  | [] => .error (.invalidData "NCMS4 manager state omitted its active-binding block")
  | _ => .error (.invalidData "NCMS4 manager state contained multiple active-binding blocks")

/-- The line in front of the binding block must end the queue. -/
def checkPreceding (ls : List (List Char)) (bindingIndex : Nat) : IoResult Unit := do
  let precedingLine ← okOrElse
    (match bindingIndex with
      | 0 => none
      | index + 1 => ls[index]?)
    (.invalidData "NCMS4 active-binding block appeared before the queue")
  ensure (precedingLine = "queue_end".toList ∨ "queue_count ".toList.isPrefixOf precedingLine)
    (.invalidData "NCMS4 active-binding block did not immediately follow the queue")

/-- `decode_active_binding` on the lines of the block, and the check of what it leaves. -/
def decodeBindingBlock : LineReader (Option ActiveQueueBinding) := do
  let binding ← decodeActiveBinding texts
  checkTrailing texts "NCMS4 active-binding block contained"
  return binding

/-- `set_active_binding` with the decoded binding. -/
def restoreBinding (state : ManagerPersistedState Address) :
    Option ActiveQueueBinding → IoResult (ManagerPersistedState Address)
  | none => .ok state
  | some binding => do
      let (result, queue) := state.queue.setActiveBinding binding
      fromText .invalidData result
      return { state with queue }

/-- `decode_state_with_v4`. -/
def decodeStateWithV4 (text : List Char) : IoResult (ManagerPersistedState Address) := do
  checkDecodedSize text
  let ls := lines text
  let firstLine ← okOrElse ls.head? ⟨.unexpectedEof, "manager state was empty", none⟩
  if firstLine ≠ stateMagicV4 then decodeState texts text
  else
    let historyIndex ← okOrElse (ls.findIdx? (fun line => historyMarker.isPrefixOf line))
      (.invalidData "NCMS4 manager state omitted history_count")
    let bindingIndex ← bindingPosition (ls.take historyIndex)
    checkPreceding ls bindingIndex
    let block := (ls.take historyIndex).drop bindingIndex
    let bindingText := List.intercalate ['\n'] block ++ ['\n']
    let activeBinding ← (decodeBindingBlock texts).run' (lines bindingText)
    let legacyLines := (ls.take bindingIndex ++ ls.drop historyIndex).set 0 stateMagicV3
    let legacyText := List.intercalate ['\n'] legacyLines ++ ['\n']
    let state ← decodeState texts legacyText
    let state ← restoreBinding state activeBinding
    invalidData (validateState state)
    return state

/-! ## Format 5 -/

/-- `QUEUE_PRESERVE_DESKTOP_LAYOUT_PREFIX`, without the space at its end. -/
def desktopLayoutKey : String := "queue_preserve_desktop_layout"

/-- The loop of `encode_state_with_v5`: a line with the flag of the next item after every
line of `queue_update_existing`.  The items that got no line are left. -/
def insertFlags : List (List Char) → List (QueuedTransfer Address) →
    IoResult (List (List Char) × List (QueuedTransfer Address))
  | [], items => .ok ([], items)
  | line :: rest, items =>
      if "queue_update_existing ".toList.isPrefixOf line then
        match items with
        | [] => .error (.other "NCMS5 encoder found more queue fields than queue items")
        | item :: items => do
            let (output, left) ← insertFlags rest items
            return (line :: boolField desktopLayoutKey item.preserveDesktopLayout :: output, left)
      else do
        let (output, left) ← insertFlags rest items
        return (line :: output, left)

/-- `encode_state_with_v5`. -/
def encodeStateWithV5 (state : ManagerPersistedState Address) : IoResult (List Char) := do
  let encodedV4 ← encodeStateWithV4 texts state
  match lines encodedV4 with
  | [] => .error (.other "NCMS4 encoder produced an empty manager state")
  | first :: rest => do
      ensure (first = stateMagicV4)
        (.other "NCMS4 encoder produced an unexpected manager-state format")
      let (ls, left) ← insertFlags (stateMagicV5 :: rest) state.queue.items
      let length := state.queue.items.length
      let queueIndex := length - left.length
      ensure (left.length = 0)
        (.other (s!"NCMS5 encoder found {queueIndex} queue entries in the legacy state but " ++
          s!"expected {length}"))
      let output := List.intercalate ['\n'] ls ++ ['\n']
      checkEncodedSize output
      return output

/-- The loop of `decode_state_with_v5` over the lines after the first one. -/
def splitFlags : List (List Char) → IoResult (List (List Char) × List Bool)
  | [] => .ok ([], [])
  | line :: rest =>
      if (desktopLayoutKey.toList ++ [' ']).isPrefixOf line then do
        let flag ← parseBoolField texts "manager state" line desktopLayoutKey
        let (legacyLines, flags) ← splitFlags rest
        return (legacyLines, flag :: flags)
      else do
        let (legacyLines, flags) ← splitFlags rest
        return (line :: legacyLines, flags)

/-- The items with their flags. -/
def withFlags (state : ManagerPersistedState Address) (flags : List Bool) :
    ManagerPersistedState Address :=
  { state with
    queue := { state.queue with
      items := state.queue.items.zipWith
        (fun item preserveDesktopLayout => { item with preserveDesktopLayout }) flags } }

/-- `decode_state_with_v5`. -/
def decodeStateWithV5 (text : List Char) : IoResult (ManagerPersistedState Address) := do
  checkDecodedSize text
  let ls := lines text
  let firstLine ← okOrElse ls.head? ⟨.unexpectedEof, "manager state was empty", none⟩
  if firstLine ≠ stateMagicV5 then decodeStateWithV4 texts text
  else
    let (legacyLines, flags) ← splitFlags texts ls.tail
    let legacyText := List.intercalate ['\n'] (stateMagicV4 :: legacyLines) ++ ['\n']
    let state ← decodeStateWithV4 texts legacyText
    let flagCount := flags.length
    let length := state.queue.items.length
    ensure (flagCount = length)
      (.invalidData (s!"NCMS5 manager state contained {flagCount} Desktop-layout queue flags " ++
        s!"for {length} queue entries"))
    let state := withFlags state flags
    invalidData (validateState state)
    return state

end

end NetworkCopy
