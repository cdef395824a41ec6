import NetworkCopy.Management.Snapshot

/-!
# Frames and the payloads about an agent

Every message of the control protocol is a frame.  The payloads here say who an agent is and what
its file system holds: hello, the roots, a directory, and whether a path is the Desktop.
-/

namespace NetworkCopy

open ByteOrder

/-! ## Frames -/

/-- `ManagementMessageKind`. -/
inductive ManagementMessageKind where
  | helloRequest
  | helloResponse
  | listRootsRequest
  | listRootsResponse
  | listDirectoryRequest
  | listDirectoryResponse
  | isDesktopPathRequest
  | isDesktopPathResponse
  | prepareReceiveRequest
  | prepareReceiveResponse
  | startSendRequest
  | startSendResponse
  | cancelJobRequest
  | cancelJobResponse
  | jobStatusRequest
  | jobStatusResponse
  | agentSnapshotRequest
  | agentSnapshotResponse
  | errorResponse
  deriving DecidableEq, Repr

/-- `kind as u8`. -/
def ManagementMessageKind.code : ManagementMessageKind → Nat
  | .helloRequest => 0x01
  | .helloResponse => 0x02
  | .listRootsRequest => 0x10
  | .listRootsResponse => 0x11
  | .listDirectoryRequest => 0x12
  | .listDirectoryResponse => 0x13
  | .isDesktopPathRequest => 0x14
  | .isDesktopPathResponse => 0x15
  | .prepareReceiveRequest => 0x20
  | .prepareReceiveResponse => 0x21
  | .startSendRequest => 0x22
  | .startSendResponse => 0x23
  | .cancelJobRequest => 0x24
  | .cancelJobResponse => 0x25
  | .jobStatusRequest => 0x26
  | .jobStatusResponse => 0x27
  | .agentSnapshotRequest => 0x28
  | .agentSnapshotResponse => 0x29
  | .errorResponse => 0xFF

/-- `ManagementMessageKind::try_from`. -/
def ManagementMessageKind.tryFrom (value : Nat) : IoResult ManagementMessageKind :=
  match value with
  | 0x01 => .ok .helloRequest
  | 0x02 => .ok .helloResponse
  | 0x10 => .ok .listRootsRequest
  | 0x11 => .ok .listRootsResponse
  | 0x12 => .ok .listDirectoryRequest
  | 0x13 => .ok .listDirectoryResponse
  | 0x14 => .ok .isDesktopPathRequest
  | 0x15 => .ok .isDesktopPathResponse
  | 0x20 => .ok .prepareReceiveRequest
  | 0x21 => .ok .prepareReceiveResponse
  | 0x22 => .ok .startSendRequest
  | 0x23 => .ok .startSendResponse
  | 0x24 => .ok .cancelJobRequest
  | 0x25 => .ok .cancelJobResponse
  | 0x26 => .ok .jobStatusRequest
  | 0x27 => .ok .jobStatusResponse
  | 0x28 => .ok .agentSnapshotRequest
  | 0x29 => .ok .agentSnapshotResponse
  | 0xFF => .ok .errorResponse
  | unknown =>
      let shown := hexUpper 2 unknown
      .error (.invalidData s!"unknown management message kind 0x{shown}")

/-- `ManagementFrame`. -/
structure ManagementFrame where
  requestId : UInt64
  kind : ManagementMessageKind
  payload : List UInt8
  deriving DecidableEq

/-- `MANAGEMENT_MAGIC`. -/
def managementMagic : List UInt8 := [78, 67, 77, 49]

/-- `MANAGEMENT_PROTOCOL_VERSION`. -/
def managementProtocolVersion : Nat := 2

/-- `MANAGEMENT_HEADER_BYTES`. -/
def managementHeaderBytes : Nat := 20

/-- `validate_payload_length`. -/
def validatePayloadLength (length : Nat) : IoResult Unit :=
  ensure (length ≤ maxManagementPayloadBytes) (.invalidInput
    (s!"management payload contains {length} bytes, exceeding the " ++
      s!"{maxManagementPayloadBytes} byte limit"))

/-- `ManagementFrame::new`. -/
def ManagementFrame.new (requestId : UInt64) (kind : ManagementMessageKind)
    (payload : List UInt8) : IoResult ManagementFrame := do
  validatePayloadLength payload.length
  return { requestId, kind, payload }

/-- `write_frame`, as the bytes that are written. -/
def writeFrame (frame : ManagementFrame) : IoResult (List UInt8) := do
  validatePayloadLength frame.payload.length
  ensure (frame.payload.length < 2 ^ 32)
    (.invalidInput "management payload length cannot be represented")
  return managementMagic ++ leBytes 2 managementProtocolVersion ++ leBytes 1 frame.kind.code ++
    leBytes 1 0 ++ leBytes 8 frame.requestId.toNat ++ leBytes 4 frame.payload.length ++
    frame.payload

/-- The error of `read_exact` at the end of a stream. -/
def failedToFillWholeBuffer : IoError := ⟨.unexpectedEof, "failed to fill whole buffer", none⟩

/-- `read_frame`, from the bytes of a stream. -/
def readFrame : ByteReader IoError ManagementFrame := do
  ByteReader.need managementHeaderBytes fun _ => failedToFillWholeBuffer
  let magic ← ByteReader.take managementMagic.length failedToFillWholeBuffer
  ByteReader.check (magic = managementMagic)
    (.invalidData "management frame used an invalid magic value")
  let version ← headerField 2 "management protocol version"
  ByteReader.check (version = managementProtocolVersion)
    (.invalidData s!"unsupported management protocol version {version}")
  let kindCode ← headerField 1 "management message kind"
  let kind ← ManagementMessageKind.tryFrom kindCode
  let reserved ← headerField 1 "management frame reserved byte"
  ByteReader.check (reserved = 0) (.invalidData "management frame reserved byte was not zero")
  let requestId ← headerField 8 "management request ID"
  let payloadLength ← headerField 4 "management payload length"
  ByteReader.check (payloadLength ≤ maxManagementPayloadBytes) (.invalidData
    (s!"management payload contains {payloadLength} bytes, exceeding the " ++
      s!"{maxManagementPayloadBytes} byte limit"))
  let payload ← ByteReader.take payloadLength failedToFillWholeBuffer
  return { requestId := UInt64.ofNat requestId, kind, payload }

/-! ## Hello -/

/-- `AgentState`. -/
inductive AgentState where
  | idle
  | busy
  deriving DecidableEq, Repr

/-- `state as u8`. -/
def AgentState.code : AgentState → Nat
  | .idle => 0
  | .busy => 1

/-- `AgentState::try_from`. -/
def AgentState.tryFrom (value : Nat) : IoResult AgentState :=
  match value with
  | 0 => .ok .idle
  | 1 => .ok .busy
  | unknown => .error (.invalidData s!"unknown management agent state {unknown}")

/-- `AgentCapabilities`: at least one of the three known bits. -/
structure AgentCapabilities where
  bits : Nat
  pos : 0 < bits
  lt : bits < 8
  deriving DecidableEq

theorem AgentCapabilities.three_pos : 0 < 3 := by decide

theorem AgentCapabilities.three_lt : 3 < 8 := by decide

/-- `AgentCapabilities::from_bits`. -/
def AgentCapabilities.fromBits (bits : Nat) : IoResult AgentCapabilities :=
  let shown := hexUpper 2 bits
  okOrElse (if h : 0 < bits ∧ bits < 8 then some ⟨bits, h.1, h.2⟩ else none)
    (.invalidData s!"invalid management agent capability bits 0x{shown}")

/-- `ManagementHello`. -/
structure ManagementHello where
  hostname : String
  applicationVersion : String
  protocolVersion : Nat
  state : AgentState
  capabilities : AgentCapabilities
  deriving DecidableEq

/-- `HELLO_PAYLOAD_VERSION`. -/
def helloPayloadVersion : Nat := 1

/-- `HELLO_HEADER_BYTES`. -/
def helloHeaderBytes : Nat := 8

/-- `MAX_HOSTNAME_BYTES`. -/
def maxHostnameBytes : Nat := 255

/-- `MAX_APPLICATION_VERSION_BYTES`. -/
def maxApplicationVersionBytes : Nat := 64

/-- `env!("CARGO_PKG_VERSION")`. -/
def cargoPkgVersion : String := "2.7.0-dev"

/-- `encode_hello_payload`.  The application version is always that of the agent itself. -/
def encodeHelloPayload (hostname : String) (state : AgentState)
    (capabilities : AgentCapabilities) : IoResult (List UInt8) := do
  validateWireText hostname maxHostnameBytes "management hostname" false
  validateWireText cargoPkgVersion maxApplicationVersionBytes "application version" false
  ensure (cargoPkgVersion.utf8ByteSize < 2 ^ 16)
    (.invalidInput "application version length cannot be represented")
  ensure (hostname.utf8ByteSize < 2 ^ 16)
    (.invalidInput "management hostname length cannot be represented")
  return leBytes 2 helloPayloadVersion ++ leBytes 1 state.code ++ leBytes 1 capabilities.bits ++
    leBytes 2 cargoPkgVersion.utf8ByteSize ++ leBytes 2 hostname.utf8ByteSize ++
    stringBytes cargoPkgVersion ++ stringBytes hostname

section

variable (texts : TextSupport SocketAddr)

/-- `decode_hello_payload`. -/
def readHelloPayload : ByteReader IoError ManagementHello := do
  ByteReader.need helloHeaderBytes fun length => .invalidData
    s!"management hello payload has {length} bytes, expected at least {helloHeaderBytes}"
  let version ← headerField 2 "management hello version"
  ByteReader.check (version = helloPayloadVersion)
    (.invalidData s!"unsupported management hello payload version {version}")
  let stateCode ← headerField 1 "management agent state"
  let state ← AgentState.tryFrom stateCode
  let bits ← headerField 1 "management agent capability bits"
  let capabilities ← AgentCapabilities.fromBits bits
  let applicationVersionLength ← headerField 2 "application version length"
  let hostnameLength ← headerField 2 "management hostname length"
  let expectedLength := helloHeaderBytes + applicationVersionLength + hostnameLength
  ByteReader.exactly (applicationVersionLength + hostnameLength) fun left =>
    let length := helloHeaderBytes + left
    .invalidData s!"management hello payload has {length} bytes, expected {expectedLength}"
  let applicationVersionBytes ← ByteReader.take applicationVersionLength
    (.invalidData "management hello payload length overflowed")
  let applicationVersion ← decodeWireText texts applicationVersionBytes maxApplicationVersionBytes
    "application version" false
  let hostnameBytes ← ByteReader.takeAll
  let hostname ← decodeWireText texts hostnameBytes maxHostnameBytes "management hostname" false
  return {
    hostname
    applicationVersion
    protocolVersion := managementProtocolVersion
    state
    capabilities }

/-! ## Roots -/

/-- `ManagementRoot`. -/
structure ManagementRoot where
  path : String
  deriving DecidableEq, Repr

/-- `ROOTS_PAYLOAD_VERSION`. -/
def rootsPayloadVersion : Nat := 1

/-- `ROOTS_HEADER_BYTES`. -/
def rootsHeaderBytes : Nat := 4

/-- `MAX_ROOTS`. -/
def maxRoots : Nat := 26

/-- `MAX_ROOT_PATH_BYTES`. -/
def maxRootPathBytes : Nat := 1024

/-- One root in the payload. -/
def encodeRoot (root : ManagementRoot) : IoResult (List UInt8) := do
  ensure (root.path.utf8ByteSize < 2 ^ 16)
    (.invalidInput "management root path length cannot be represented")
  return leBytes 2 root.path.utf8ByteSize ++ stringBytes root.path

/-- `encode_roots_payload`. -/
def encodeRootsPayload (roots : List ManagementRoot) : IoResult (List UInt8) := do
  let count := roots.length
  ensure (count ≤ maxRoots) (.invalidInput
    s!"management root list contains {count} entries, exceeding the {maxRoots} entry limit")
  ensure (count < 2 ^ 16) (.invalidInput "management root count cannot be represented")
  let _ ← roots.mapM fun root =>
    validateWireText root.path maxRootPathBytes "management root path" false
  let encoded ← roots.mapM encodeRoot
  return leBytes 2 rootsPayloadVersion ++ leBytes 2 count ++ encoded.flatten

/-- One turn of the loop of `decode_roots_payload`. -/
def readRoot : ByteReader IoError ManagementRoot := do
  ByteReader.need 2 fun _ =>
    ⟨.unexpectedEof, "management roots payload ended before a root length", none⟩
  let rootLength ← headerField 2 "management root length"
  let pathBytes ← ByteReader.take rootLength
    ⟨.unexpectedEof, "management roots payload ended inside a root path", none⟩
  let path ← decodeWireText texts pathBytes maxRootPathBytes "management root path" false
  return { path }

/-- `decode_roots_payload`. -/
def readRootsPayload : ByteReader IoError (List ManagementRoot) := do
  ByteReader.need rootsHeaderBytes fun length => .invalidData
    s!"management roots payload has {length} bytes, expected at least {rootsHeaderBytes}"
  let version ← headerField 2 "management roots version"
  ByteReader.check (version = rootsPayloadVersion)
    (.invalidData s!"unsupported management roots payload version {version}")
  let rootCount ← headerField 2 "management root count"
  ByteReader.check (rootCount ≤ maxRoots) (.invalidData
    s!"management root list contains {rootCount} entries, exceeding the {maxRoots} entry limit")
  let roots ← ByteReader.many rootCount (readRoot texts)
  ByteReader.exactly 0 fun left =>
    .invalidData s!"management roots payload contains {left} trailing bytes"
  return roots

/-! ## Desktop path -/

/-- `DESKTOP_PATH_RESPONSE_VERSION`. -/
def desktopPathResponseVersion : Nat := 1

/-- `DESKTOP_PATH_RESPONSE_BYTES`. -/
def desktopPathResponseBytes : Nat := 4

/-- `encode_desktop_path_response`. -/
def encodeDesktopPathResponse (isDesktop : Bool) : List UInt8 :=
  leBytes 2 desktopPathResponseVersion ++ leBytes 1 isDesktop.toNat ++ leBytes 1 0

/-- `decode_desktop_path_response`. -/
def readDesktopPathResponse : ByteReader IoError Bool := do
  ByteReader.exactly desktopPathResponseBytes fun length =>
    .invalidData s!"Desktop-path response has {length} bytes, expected {desktopPathResponseBytes}"
  let version ← headerField 2 "Desktop-path response version"
  ByteReader.check (version = desktopPathResponseVersion)
    (.invalidData s!"unsupported Desktop-path response version {version}")
  let value ← headerField 1 "Desktop-path response result"
  let isDesktop ← flagOf value
    (.invalidData s!"Desktop-path response used invalid result value {value}")
  let reserved ← headerField 1 "Desktop-path response reserved byte"
  ByteReader.check (reserved = 0) (.invalidData "Desktop-path response reserved byte was not zero")
  return isDesktop

/-! ## Directories -/

/-- `ManagementEntryKind`. -/
inductive ManagementEntryKind where
  | directory
  | file
  | other
  deriving DecidableEq, Repr

/-- `kind as u8`. -/
def ManagementEntryKind.code : ManagementEntryKind → Nat
  | .directory => 1
  | .file => 2
  | .other => 3

/-- `ManagementEntryKind::try_from`. -/
def ManagementEntryKind.tryFrom (value : Nat) : IoResult ManagementEntryKind :=
  match value with
  | 1 => .ok .directory
  | 2 => .ok .file
  | 3 => .ok .other
  | unknown => .error (.invalidData s!"unknown management directory entry kind {unknown}")

/-- `ManagementDirectoryEntry`. -/
structure ManagementDirectoryEntry where
  name : String
  kind : ManagementEntryKind
  size : UInt64
  modifiedUnixSeconds : Option UInt64
  deriving DecidableEq

/-- `DIRECTORY_REQUEST_VERSION`. -/
def directoryRequestVersion : Nat := 1

/-- `DIRECTORY_REQUEST_HEADER_BYTES`. -/
def directoryRequestHeaderBytes : Nat := 4

/-- `DIRECTORY_RESPONSE_VERSION`. -/
def directoryResponseVersion : Nat := 1

/-- `DIRECTORY_RESPONSE_HEADER_BYTES`. -/
def directoryResponseHeaderBytes : Nat := 8

/-- `DIRECTORY_ENTRY_HEADER_BYTES`. -/
def directoryEntryHeaderBytes : Nat := 20

/-- `MAX_REMOTE_PATH_BYTES`. -/
@[irreducible] def maxRemotePathBytes : Nat := 32 * 1024

/-- `MAX_ENTRY_NAME_BYTES`. -/
def maxEntryNameBytes : Nat := 1024

/-- `MAX_DIRECTORY_ENTRIES`. -/
@[irreducible] def maxDirectoryEntries : Nat := 50000

/-- `UNKNOWN_MODIFIED_TIME`. -/
@[irreducible] def unknownModifiedTime : Nat := 2 ^ 64 - 1

/-- `management_directory::encode_request`. -/
def encodeDirectoryRequest (path : String) : IoResult (List UInt8) := do
  validateWireText path maxRemotePathBytes "remote directory path" false
  ensure (path.utf8ByteSize < 2 ^ 16)
    (.invalidInput "remote directory path length cannot be represented")
  return leBytes 2 directoryRequestVersion ++ leBytes 2 path.utf8ByteSize ++ stringBytes path

/-- `management_directory::decode_request`. -/
def readDirectoryRequest : ByteReader IoError String := do
  ByteReader.need directoryRequestHeaderBytes fun length => .invalidData
    (s!"directory request payload has {length} bytes, expected at least " ++
      s!"{directoryRequestHeaderBytes}")
  let version ← headerField 2 "directory request version"
  ByteReader.check (version = directoryRequestVersion)
    (.invalidData s!"unsupported directory request version {version}")
  let pathLength ← headerField 2 "directory request path length"
  let expectedLength := directoryRequestHeaderBytes + pathLength
  ByteReader.exactly pathLength fun left =>
    let length := directoryRequestHeaderBytes + left
    .invalidData s!"directory request payload has {length} bytes, expected {expectedLength}"
  let pathBytes ← ByteReader.takeAll
  decodeWireText texts pathBytes maxRemotePathBytes "remote directory path" false

/-- One entry in the payload. -/
def encodeListedEntry (entry : ManagementDirectoryEntry) : IoResult (List UInt8) := do
  ensure (entry.name.utf8ByteSize < 2 ^ 16)
    (.invalidInput "directory entry name length cannot be represented")
  return leBytes 1 entry.kind.code ++ leBytes 1 0 ++ leBytes 2 entry.name.utf8ByteSize ++
    leBytes 8 entry.size.toNat ++
    leBytes 8 (entry.modifiedUnixSeconds.elim unknownModifiedTime UInt64.toNat) ++
    stringBytes entry.name

/-- The length of a response, as it is summed up before the payload is made. -/
def directoryPayloadLength (entries : List ManagementDirectoryEntry) : Nat :=
  directoryResponseHeaderBytes +
    (entries.map fun entry => directoryEntryHeaderBytes + entry.name.utf8ByteSize).sum

/-- `management_directory::encode_response`. -/
def encodeDirectoryResponse (entries : List ManagementDirectoryEntry) : IoResult (List UInt8) := do
  let count := entries.length
  ensure (count ≤ maxDirectoryEntries) (.invalidInput
    (s!"directory response contains {count} entries, exceeding the " ++
      s!"{maxDirectoryEntries} entry limit"))
  ensure (count < 2 ^ 32)
    (.invalidInput "directory response entry count cannot be represented")
  let _ ← entries.mapM fun entry =>
    validateWireText entry.name maxEntryNameBytes "directory entry name" false
  let payloadLength := directoryPayloadLength entries
  ensure (payloadLength ≤ maxManagementPayloadBytes) (.invalidInput
    (s!"directory response requires {payloadLength} bytes, exceeding the " ++
      s!"{maxManagementPayloadBytes} byte management limit"))
  let encoded ← entries.mapM encodeListedEntry
  return leBytes 2 directoryResponseVersion ++ leBytes 2 0 ++ leBytes 4 count ++ encoded.flatten

/-- One turn of the loop of `management_directory::decode_response`. -/
def readListedEntry : ByteReader IoError ManagementDirectoryEntry := do
  ByteReader.need directoryEntryHeaderBytes fun _ =>
    ⟨.unexpectedEof, "directory response ended inside an entry header", none⟩
  let kindCode ← headerField 1 "directory entry kind"
  let kind ← ManagementEntryKind.tryFrom kindCode
  let reserved ← headerField 1 "directory entry reserved byte"
  ByteReader.check (reserved = 0) (.invalidData "directory entry reserved byte was not zero")
  let nameLength ← headerField 2 "directory entry name length"
  let size ← headerField 8 "directory entry size"
  let modified ← headerField 8 "directory entry modification time"
  let nameBytes ← ByteReader.take nameLength
    ⟨.unexpectedEof, "directory response ended inside an entry name", none⟩
  let name ← decodeWireText texts nameBytes maxEntryNameBytes "directory entry name" false
  return {
    name
    kind
    size := UInt64.ofNat size
    modifiedUnixSeconds :=
      if modified = unknownModifiedTime then none else some (UInt64.ofNat modified) }

/-- `management_directory::decode_response`. -/
def readDirectoryResponse : ByteReader IoError (List ManagementDirectoryEntry) := do
  ByteReader.need directoryResponseHeaderBytes fun length => .invalidData
    (s!"directory response payload has {length} bytes, expected at least " ++
      s!"{directoryResponseHeaderBytes}")
  let version ← headerField 2 "directory response version"
  ByteReader.check (version = directoryResponseVersion)
    (.invalidData s!"unsupported directory response version {version}")
  let reserved ← headerField 2 "directory response reserved field"
  ByteReader.check (reserved = 0) (.invalidData "directory response reserved field was not zero")
  let entryCount ← headerField 4 "directory response entry count"
  ByteReader.check (entryCount ≤ maxDirectoryEntries) (.invalidData
    (s!"directory response contains {entryCount} entries, exceeding the " ++
      s!"{maxDirectoryEntries} entry limit"))
  let entries ← ByteReader.many entryCount (readListedEntry texts)
  ByteReader.exactly 0 fun left =>
    .invalidData s!"directory response contains {left} trailing bytes"
  return entries

end

end NetworkCopy
