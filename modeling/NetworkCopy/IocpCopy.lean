import NetworkCopy.ContentHash
import NetworkCopy.Lib.ByteRange

/-!
# The overlapped copy

`iocp_copy::run` copies a file with a pool of operations.  An operation reads a chunk into its
buffer, writes the buffer at the same offset and then takes the next chunk, and Windows carries out
the requests of all operations at the same time and reports them in any order.

The state holds the variables of the function and, below them, what the other side knows: the
requests Windows still has, the bytes of the destination, and which transfers it has reported.  The
durations of the report are left out.
-/

namespace NetworkCopy

open ByteRange

/-! ## The configuration -/

def maxBufferMib : Nat := 1024

def maxBufferCount : Nat := 256

def maxPoolMib : Nat := 4096

/-- `copy_bench::buffer_bytes_from_mib`. -/
def bufferBytesFromMib (bufferMib : Nat) : IoResult Nat := do
  ensure (1 ≤ bufferMib ∧ bufferMib ≤ maxBufferMib)
    (.invalidInput s!"buffer size must be between 1 and {maxBufferMib} MiB")
  okOrElse (checkedMul bufferMib (1024 * 1024)) (.invalidInput "buffer size overflowed")

/-- `pipeline_bench::validate_config`: the bytes of a chunk and of the pool. -/
def validateConfig (chunkMib bufferCount : Nat) : IoResult (Nat × Nat) := do
  let chunkBytes ← bufferBytesFromMib chunkMib
  ensure (1 ≤ bufferCount ∧ bufferCount ≤ maxBufferCount)
    (.invalidInput s!"buffer count must be between 1 and {maxBufferCount}")
  let poolMib ← okOrElse (checkedMul chunkMib bufferCount)
    (.invalidInput "buffer pool size overflowed")
  ensure (poolMib ≤ maxPoolMib)
    (.invalidInput s!"buffer pool must not exceed {maxPoolMib} MiB")
  let poolBytes ← okOrElse (checkedMul chunkBytes bufferCount)
    (.invalidInput "buffer pool byte size overflowed")
  .ok (chunkBytes, poolBytes)

/-- `request_size`: how much is requested at an offset, as a `u32`. -/
def requestSize (fileLen offset chunkBytes : Nat) : IoResult Nat := do
  ensure (offset ≤ fileLen) (.invalidInput "file offset exceeds the source length")
  let requested := min (fileLen - offset) chunkBytes
  ensure (requested < 2 ^ 32)
    (.invalidInput "chunk exceeds the native ReadFile byte-count limit")
  .ok requested

/-! ## Operations and requests -/

def sourceCompletionKey : Nat := 0x4E435352

def destinationCompletionKey : Nat := 0x4E435357

inductive OperationStage where
  | idle
  | reading
  | writing
  deriving DecidableEq, Repr

/-- The offset form of `OVERLAPPED`: two halves of 32 bits. -/
structure OffsetOverlapped where
  offset : Nat
  offsetHigh : Nat
  deriving DecidableEq, Repr

def OffsetOverlapped.new (offset : Nat) : OffsetOverlapped where
  offset := offset % 2 ^ 32
  offsetHigh := offset / 2 ^ 32 % 2 ^ 32

/-- The offset that Windows reads from the structure. -/
def OffsetOverlapped.position (overlapped : OffsetOverlapped) : Nat :=
  overlapped.offset + 2 ^ 32 * overlapped.offsetHigh

structure IoOperation where
  overlapped : OffsetOverlapped
  buffer : Bytes
  stage : OperationStage
  fileOffset : Nat
  requestedBytes : Nat
  deriving DecidableEq, Repr

def IoOperation.new (chunkBytes : Nat) : IoOperation where
  overlapped := .new 0
  buffer := List.replicate chunkBytes 0
  stage := .idle
  fileOffset := 0
  requestedBytes := 0

def IoOperation.prepare (operation : IoOperation) (stage : OperationStage)
    (fileOffset requestedBytes : Nat) : IoOperation :=
  { operation with
    overlapped := .new fileOffset
    stage := stage
    fileOffset := fileOffset
    requestedBytes := requestedBytes }

/-- `ReadFile` or `WriteFile`. -/
inductive IoKind where
  | read
  | write
  deriving DecidableEq, Repr

/-- How a request has ended: the bytes moved and the error, if there is one. -/
structure TransferOutcome where
  bytesTransferred : Nat
  errorCode : Option Int
  deriving DecidableEq, Repr

/-- A request that Windows has accepted and not reported.  The `OVERLAPPED` pointer is the place of
its operation in the pool: the allocations stay where they are. -/
structure IoRequest where
  overlapped : Nat
  key : Nat
  kind : IoKind
  position : Nat
  bytes : Nat
  /-- Set when the data has been moved and the completion is in the port. -/
  outcome : Option TransferOutcome
  deriving DecidableEq, Repr

/-- What `GetQueuedCompletionStatus` returns. -/
structure CompletionPacket where
  bytesTransferred : Nat
  completionKey : Nat
  overlapped : Nat
  errorCode : Option Int
  deriving DecidableEq, Repr

def IoRequest.packet (request : IoRequest) (outcome : TransferOutcome) : CompletionPacket where
  bytesTransferred := outcome.bytesTransferred
  completionKey := request.key
  overlapped := request.overlapped
  errorCode := outcome.errorCode

/-- The bytes from `position` on, moved through the buffer of an operation. -/
structure MovedBlock where
  overlapped : Nat
  position : Nat
  bytes : Nat
  deriving DecidableEq, Repr

/-- What a reported request has moved. -/
def CompletionPacket.block (packet : CompletionPacket) (position : Nat) : MovedBlock where
  overlapped := packet.overlapped
  position := position
  bytes := packet.bytesTransferred

inductive Submission where
  | immediate
  | pending
  deriving DecidableEq, Repr

/-- The return value of `ReadFile` or `WriteFile` and the last error. -/
structure SubmitCall where
  submitted : Int
  lastError : Int

def errorIoPending : Int := 997

/-! ## The state of the copy -/

structure IocpCopyReport where
  bytesCopied : Nat
  chunkBytes : Nat
  operationCount : Nat
  poolBytes : Nat
  readSubmissions : Nat
  writeSubmissions : Nat
  immediateReadSubmissions : Nat
  immediateWriteSubmissions : Nat
  deriving DecidableEq, Repr

/-- Where the function is: at an operation of its first loop, in its second loop, or back with a
result.  `abandoned` is the return after a failed `wait_io`, with the operations forgotten. -/
inductive CopyPhase where
  | filling (place : Nat)
  | draining
  | returned (result : IoResult IocpCopyReport)
  | abandoned (error : IoError)

/-- What the function has returned. -/
def CopyPhase.result : CopyPhase → Option (IoResult IocpCopyReport)
  | .filling _ => none
  | .draining => none
  | .returned result => some result
  | .abandoned error => some (.error error)

/-- What stays the same during a copy.  The source is not written while it is copied. -/
structure CopyEnv where
  source : Bytes
  chunkBytes : Nat
  operationCount : Nat
  poolBytes : Nat
  /-- `io::Error::from_raw_os_error`. -/
  fromRawOsError : Int → IoError

/-- `source_len`. -/
def CopyEnv.sourceLen (env : CopyEnv) : Nat := env.source.length

structure CopyState where
  operations : List IoOperation
  nextOffset : Nat
  outstanding : Nat
  bytesRead : Nat
  bytesWritten : Nat
  readSubmissions : Nat
  writeSubmissions : Nat
  immediateReadSubmissions : Nat
  immediateWriteSubmissions : Nat
  firstError : Option IoError
  cancellationRequested : Bool
  phase : CopyPhase
  /-- The requests that Windows has accepted and not reported. -/
  inFlight : List IoRequest
  destination : Bytes
  /-- What the reported reads and writes have moved. -/
  reads : List MovedBlock
  writes : List MovedBlock
  /-- An operation was submitted that was still in flight. -/
  reused : Bool

/-- The state in front of the first loop: `set_len` has filled the destination with zeros. -/
def CopyEnv.start (env : CopyEnv) : CopyState where
  operations := List.replicate env.operationCount (.new env.chunkBytes)
  nextOffset := 0
  outstanding := 0
  bytesRead := 0
  bytesWritten := 0
  readSubmissions := 0
  writeSubmissions := 0
  immediateReadSubmissions := 0
  immediateWriteSubmissions := 0
  firstError := none
  cancellationRequested := false
  phase := .filling 0
  inFlight := []
  destination := List.replicate env.sourceLen 0
  reads := []
  writes := []
  reused := false

/-! ## Submitting -/

def parseSubmissionResult (env : CopyEnv) (call : SubmitCall) : IoResult Submission :=
  if call.submitted ≠ 0 then
    .ok .immediate
  else if call.lastError = errorIoPending then
    .ok .pending
  else
    .error (env.fromRawOsError call.lastError)

namespace CopyState

/-- Hand a prepared operation to Windows.  A request that is refused has no completion; one that is
finished at once has one like the others. -/
def submit (s : CopyState) (place key : Nat) (kind : IoKind) (operation : IoOperation)
    (answer : IoResult Submission) : CopyState :=
  { s with
    operations := s.operations.set place operation
    reused := s.reused || decide (place ∈ s.inFlight.map (·.overlapped))
    inFlight :=
      match answer with
      | .ok _ =>
          s.inFlight ++ [⟨place, key, kind, operation.overlapped.position,
            operation.requestedBytes, none⟩]
      | .error _ => s.inFlight }

/-- `submit_read`. -/
def submitRead (env : CopyEnv) (s : CopyState) (place : Nat) (operation : IoOperation)
    (offset requestedBytes : Nat) (call : SubmitCall) : CopyState × IoResult Submission :=
  let answer := parseSubmissionResult env call
  (s.submit place sourceCompletionKey .read
    (operation.prepare .reading offset requestedBytes) answer, answer)

/-- `submit_write`. -/
def submitWrite (env : CopyEnv) (s : CopyState) (place : Nat) (operation : IoOperation)
    (requestedBytes : Nat) (call : SubmitCall) : CopyState × IoResult Submission :=
  let answer := parseSubmissionResult env call
  (s.submit place destinationCompletionKey .write
    (operation.prepare .writing operation.fileOffset requestedBytes) answer, answer)

/-- `record_failure`.  Cancelled requests are reported with an error, or as if nothing happened. -/
def recordFailure (s : CopyState) (error : IoError) : CopyState :=
  { s with
    firstError := s.firstError.or (some error)
    cancellationRequested := true }

/-- The counters after an accepted read. -/
def readSubmitted (s : CopyState) (requestedBytes : Nat) (submission : Submission) :
    CopyState :=
  { s with
    outstanding := s.outstanding + 1
    readSubmissions := s.readSubmissions + 1
    immediateReadSubmissions :=
      s.immediateReadSubmissions + (if submission = .immediate then 1 else 0)
    nextOffset := s.nextOffset + requestedBytes }

/-- The counters after an accepted write. -/
def writeSubmitted (s : CopyState) (submission : Submission) : CopyState :=
  { s with
    outstanding := s.outstanding + 1
    writeSubmissions := s.writeSubmissions + 1
    immediateWriteSubmissions :=
      s.immediateWriteSubmissions + (if submission = .immediate then 1 else 0) }

/-! ## The two loops -/

/-- One pass of the first loop, over the operations of the pool. -/
def fillStep (env : CopyEnv) (s : CopyState) (place : Nat) (call : SubmitCall) : CopyState :=
  match s.operations[place]? with
  | none => { s with phase := .draining }
  | some operation =>
      if env.sourceLen ≤ s.nextOffset then
        { s with phase := .draining }
      else
        match requestSize env.sourceLen s.nextOffset env.chunkBytes with
        | .error error => { s with phase := .returned (.error error) }
        | .ok requestedBytes =>
            match s.submitRead env place operation s.nextOffset requestedBytes call with
            | (s, .ok submission) =>
                { s.readSubmitted requestedBytes submission with phase := .filling (place + 1) }
            | (s, .error error) => { s.recordFailure error with phase := .draining }

/-- The error of a transfer that has moved another number of bytes than was requested. -/
def transferError (kind : ErrorKind) (name : String) (operation : IoOperation)
    (packet : CompletionPacket) : IoError :=
  ⟨kind, s!"{name} at offset {operation.fileOffset} requested {operation.requestedBytes} bytes " ++
    s!"but completed with {packet.bytesTransferred}", none⟩

/-- The arm of a completed read: its buffer is written at the same offset. -/
def readCompleted (env : CopyEnv) (s : CopyState) (operation : IoOperation)
    (packet : CompletionPacket) (call : SubmitCall) : IoResult CopyState :=
  if packet.completionKey ≠ sourceCompletionKey then
    .ok (s.recordFailure (.other "read operation completed with the wrong key"))
  else if packet.bytesTransferred ≠ operation.requestedBytes then
    .ok (s.recordFailure (transferError .unexpectedEof "read" operation packet))
  else do
    let bytesRead ← okOrElse (checkedAdd s.bytesRead packet.bytesTransferred)
      (.other "read byte count overflowed")
    match { s with bytesRead }.submitWrite env packet.overlapped operation
        packet.bytesTransferred call with
    | (s, .ok submission) => .ok (s.writeSubmitted submission)
    | (s, .error error) => .ok (s.recordFailure error)

/-- The arm of a completed write: the operation takes the next chunk, while there is one. -/
def writeCompleted (env : CopyEnv) (s : CopyState) (operation : IoOperation)
    (packet : CompletionPacket) (call : SubmitCall) : IoResult CopyState :=
  if packet.completionKey ≠ destinationCompletionKey then
    .ok (s.recordFailure (.other "write operation completed with the wrong key"))
  else if packet.bytesTransferred ≠ operation.requestedBytes then
    .ok (s.recordFailure (transferError .writeZero "write" operation packet))
  else do
    let bytesWritten ← okOrElse (checkedAdd s.bytesWritten packet.bytesTransferred)
      (.other "written byte count overflowed")
    let operation := { operation with stage := .idle }
    let s := { s with bytesWritten, operations := s.operations.set packet.overlapped operation }
    if s.nextOffset < env.sourceLen then
      let requestedBytes ← requestSize env.sourceLen s.nextOffset env.chunkBytes
      match s.submitRead env packet.overlapped operation s.nextOffset requestedBytes call with
      | (s, .ok submission) => .ok (s.readSubmitted requestedBytes submission)
      | (s, .error error) => .ok (s.recordFailure error)
    else
      .ok s

/-- The body of the second loop behind `outstanding -= 1`; an error is a return by `?`. -/
def handlePacket (env : CopyEnv) (s : CopyState) (packet : CompletionPacket)
    (call : SubmitCall) : IoResult CopyState :=
  if s.firstError.isSome then
    .ok s
  else
    match packet.errorCode with
    | some errorCode => .ok (s.recordFailure (env.fromRawOsError errorCode))
    | none =>
        match s.operations[packet.overlapped]? with
        | none => .ok (s.recordFailure (.other "IOCP returned an unknown OVERLAPPED pointer"))
        | some operation =>
            match operation.stage with
            | .reading => s.readCompleted env operation packet call
            | .writing => s.writeCompleted env operation packet call
            | .idle =>
                .ok (s.recordFailure (.other "idle operation produced an IOCP completion"))

/-- One pass of the second loop, with the packet that `wait_io` has returned. -/
def drainStep (env : CopyEnv) (s : CopyState) (packet : CompletionPacket) (call : SubmitCall) :
    CopyState :=
  let s := { s with outstanding := s.outstanding - 1 }
  match s.handlePacket env packet call with
  | .ok s' => s'
  | .error error => { s with phase := .returned (.error error) }

/-- What follows the second loop. -/
def finish (env : CopyEnv) (s : CopyState) (flush : IoResult Unit) : IoResult IocpCopyReport :=
  match s.firstError with
  | some error => .error error
  | none => do
      flush
      ensure (s.bytesRead = env.sourceLen)
        ⟨.unexpectedEof, "source length changed during transfer: " ++
          s!"expected {env.sourceLen} bytes, read {s.bytesRead} bytes", none⟩
      ensure (s.bytesWritten = env.sourceLen)
        ⟨.writeZero, "destination is incomplete: " ++
          s!"expected {env.sourceLen} bytes, wrote {s.bytesWritten} bytes", none⟩
      .ok {
        bytesCopied := s.bytesWritten
        chunkBytes := env.chunkBytes
        operationCount := env.operationCount
        poolBytes := env.poolBytes
        readSubmissions := s.readSubmissions
        writeSubmissions := s.writeSubmissions
        immediateReadSubmissions := s.immediateReadSubmissions
        immediateWriteSubmissions := s.immediateWriteSubmissions }

/-! ## What Windows does -/

/-- Windows moves the bytes of a request, all or some of them. -/
def moveBytes (env : CopyEnv) (s : CopyState) (request : IoRequest) (count : Nat) : CopyState :=
  match s.operations[request.overlapped]? with
  | none => s
  | some operation =>
      match request.kind with
      | .read =>
          { s with
            operations := s.operations.set request.overlapped { operation with
              buffer := overwrite 0 operation.buffer 0 (range env.source request.position count) } }
      | .write =>
          { s with
            destination := overwrite 0 s.destination request.position
              (operation.buffer.take count) }

/-- A completion leaves the port: its request is no longer in flight. -/
def report (s : CopyState) (rest : List IoRequest) (request : IoRequest)
    (outcome : TransferOutcome) : CopyState :=
  let block := (request.packet outcome).block request.position
  match request.kind with
  | .read => { s with inFlight := rest, reads := block :: s.reads }
  | .write => { s with inFlight := rest, writes := block :: s.writes }

end CopyState

/-- One step of the function or of Windows.  Every accepted request is reported once, in any order,
with its own pointer and the key of its handle. -/
inductive CopyStep (env : CopyEnv) : CopyState → CopyState → Prop
  | fill {s : CopyState} {place : Nat} (call : SubmitCall) (hphase : s.phase = .filling place) :
      CopyStep env s (s.fillStep env place call)
  | move {s : CopyState} {before after : List IoRequest} {request : IoRequest}
      (outcome : TransferOutcome) (hflight : s.inFlight = before ++ request :: after)
      (hopen : request.outcome = none) (hcount : outcome.bytesTransferred ≤ request.bytes) :
      CopyStep env s { s.moveBytes env request outcome.bytesTransferred with
        inFlight := before ++ { request with outcome := some outcome } :: after }
  | drain {s : CopyState} {before after : List IoRequest} {request : IoRequest}
      {outcome : TransferOutcome} (call : SubmitCall) (hphase : s.phase = .draining)
      (hbusy : 0 < s.outstanding) (hflight : s.inFlight = before ++ request :: after)
      (hdone : request.outcome = some outcome) :
      CopyStep env s
        ((s.report (before ++ after) request outcome).drainStep env (request.packet outcome) call)
  | waitFailed {s : CopyState} (error : IoError) (hphase : s.phase = .draining)
      (hbusy : 0 < s.outstanding) : CopyStep env s { s with phase := .abandoned error }
  | finish {s : CopyState} (flush : IoResult Unit) (hphase : s.phase = .draining)
      (hidle : s.outstanding = 0) :
      CopyStep env s { s with phase := .returned (s.finish env flush) }

/-- The steps of a copy. -/
abbrev CopySteps (env : CopyEnv) : CopyState → CopyState → Prop :=
  Relation.ReflTransGen (CopyStep env)

/-! ## Before the loops -/

/-- What is found when the source is opened; its length is a `u64`. -/
structure OpenedSource where
  isFile : Bool
  content : Bytes
  length_lt : content.length < u64Limit

/-- What the system answers before the first loop. -/
structure CopySetup where
  sourceName : String
  overlappedLayout : IoResult Unit
  sameFile : IoResult Unit
  openSource : IoResult OpenedSource
  openDestination : IoResult Unit
  setLen : IoResult Unit
  completionPort : IoResult Unit
  associateSource : IoResult Unit
  associateDestination : IoResult Unit
  fromRawOsError : Int → IoError

/-- The part of `run` in front of its loops. -/
def CopySetup.prepare (setup : CopySetup) (chunkMib operationCount : Nat) : IoResult CopyEnv := do
  let (chunkBytes, poolBytes) ← validateConfig chunkMib operationCount
  setup.overlappedLayout
  setup.sameFile
  let source ← setup.openSource
  ensure (source.isFile = true)
    (.invalidInput s!"source is not a regular file: {setup.sourceName}")
  setup.openDestination
  setup.setLen
  setup.completionPort
  setup.associateSource
  setup.associateDestination
  .ok {
    source := source.content
    chunkBytes := chunkBytes
    operationCount := operationCount
    poolBytes := poolBytes
    fromRawOsError := setup.fromRawOsError }

end NetworkCopy
