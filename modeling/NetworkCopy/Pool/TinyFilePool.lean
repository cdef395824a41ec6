import NetworkCopy.FileSystem
import NetworkCopy.Lib.ByteRange

/-!
# The pool that writes tiny files

The lanes hand the decoded tiny packs to a few workers.  A call of `materialize_batch` puts one job
for each file on a bounded queue and waits until the counter of its batch is zero.  A worker takes a
job, writes its slice of the payload under the part name and renames it.  The first failure is kept
in the queue, and everybody who looks at the queue afterwards stops.

A step is what one thread does between two looks of the others: a section under the lock, an
operation on the counter of a batch, or a call to the file system.  A wait on the condition variable
ends after 50 milliseconds at the latest or at a notification, so a thread that waits is one that
has not looked again yet.  The lists of the jobs that were queued, taken, completed and failed, of
the calls and of what was renamed into place are records of the run that no step reads.
-/

namespace NetworkCopy

open ByteRange

/-! ## Requests -/

/-- `TinyFileMaterializeRequest`. -/
structure TinyFileMaterializeRequest where
  fileId : Nat
  relativePath : RelativePath
  start : Nat
  stop : Nat
  deriving DecidableEq

namespace TinyFileMaterializeRequest

/-- `validate`. -/
def validate (request : TinyFileMaterializeRequest) (payloadBytes : Nat) : IoResult Unit :=
  let start := request.start
  let stop := request.stop
  ensure (¬ (stop < start ∨ payloadBytes < stop))
    (.invalidInput
      (s!"tiny-file materialization range {start}..{stop} exceeds " ++
        s!"the {payloadBytes}-byte decoded payload"))

/-- The name under which the file is written. -/
def partPath (request : TinyFileMaterializeRequest) : RelativePath :=
  temporaryPath request.relativePath request.fileId

/-- The slice of the payload. -/
def contents (request : TinyFileMaterializeRequest) (payload : Bytes) : Bytes :=
  range payload request.start (request.stop - request.start)

end TinyFileMaterializeRequest

/-- A call of `materialize_batch`. -/
structure PoolCall where
  payload : Bytes
  requests : List TinyFileMaterializeRequest
  deriving DecidableEq

/-- The loop that validates the requests. -/
def PoolCall.validate (call : PoolCall) : IoResult Unit :=
  call.requests.forM (fun request => request.validate call.payload.length)

/-- `MaterializeJob`.  The batch is the number of its call. -/
structure MaterializeJob where
  request : TinyFileMaterializeRequest
  payload : Bytes
  batch : Nat
  deriving DecidableEq

/-- What the job writes. -/
def MaterializeJob.contents (job : MaterializeJob) : Bytes := job.request.contents job.payload

/-! ## The queue -/

/-- `SharedError`. -/
structure SharedError where
  kind : ErrorKind
  message : String
  deriving DecidableEq

/-- `SharedError::from_error`. -/
def SharedError.fromError (error : IoError) : SharedError := ⟨error.kind, error.message⟩

/-- `SharedError::to_io_error`. -/
def SharedError.toIoError (error : SharedError) : IoError := ⟨error.kind, error.message, none⟩

/-- `QueueState`. -/
structure QueueState where
  jobs : List MaterializeJob
  shutdown : Bool
  failure : Option SharedError

/-- What `check_cancelled` returns after a cancellation. -/
def poolCancelled : IoError := ⟨.interrupted, "transfer cancelled by the user", none⟩

/-- How a turn of the loop in `take_job` ends. -/
inductive TakenJob where
  | job (job : MaterializeJob)
  | none
  | wait

namespace QueueState

/-- `record_failure_locked`. -/
def recordFailureLocked (state : QueueState) (error : IoError) : QueueState :=
  { state with
    failure := some (state.failure.getD (SharedError.fromError error))
    shutdown := true }

/-- One turn of the loop in `enqueue`; `false` stands for another wait. -/
def enqueue (queueCapacity : Nat) (cancelled : Bool) (job : MaterializeJob) (state : QueueState) :
    IoResult Bool × QueueState :=
  match state.failure with
  | some failure => (.error failure.toIoError, state)
  | none =>
      if state.shutdown then
        (.error ⟨.brokenPipe, "tiny-file materialization pool has shut down", none⟩, state)
      else if cancelled then (.error poolCancelled, state.recordFailureLocked poolCancelled)
      else if state.jobs.length < queueCapacity then
        (.ok true, { state with jobs := state.jobs ++ [job] })
      else (.ok false, state)

/-- One turn of the loop in `wait_for_batch`; `false` stands for another wait. -/
def waitForBatch (remaining : Nat) (cancelled : Bool) (state : QueueState) :
    IoResult Bool × QueueState :=
  match state.failure with
  | some failure => (.error failure.toIoError, state)
  | none =>
      if remaining = 0 then (.ok true, state)
      else if cancelled then (.error poolCancelled, state.recordFailureLocked poolCancelled)
      else (.ok false, state)

/-- One turn of the loop in `take_job`. -/
def takeJob (state : QueueState) : TakenJob × QueueState :=
  if state.failure.isSome ∨ state.shutdown then (.none, state)
  else
    match state.jobs with
    | job :: rest => (.job job, { state with jobs := rest })
    | [] => (.wait, state)

/-- `request_shutdown`. -/
def requestShutdown (state : QueueState) : QueueState := { state with shutdown := true }

end QueueState

/-! ## Threads -/

/-- What the threads share, and the record of the run. -/
structure PoolShared where
  queue : QueueState
  cancelled : Bool
  /-- The counters of the batches. -/
  remaining : Nat → Nat
  files : FileTree
  calls : List PoolCall
  enqueued : List MaterializeJob
  taken : List MaterializeJob
  completed : List MaterializeJob
  failed : List MaterializeJob
  published : List (RelativePath × Bytes)

/-- Where a worker is in `worker_loop` and `write_verified`. -/
inductive PoolWorker where
  | ready
  | taken (job : MaterializeJob)
  /-- Not cancelled when it looked. -/
  | checked (job : MaterializeJob)
  | created (job : MaterializeJob)
  | sized (job : MaterializeJob)
  /-- The part file is complete and closed. -/
  | written (job : MaterializeJob)
  /-- Before the part file of a failed write is removed. -/
  | cleaning (job : MaterializeJob) (error : IoError)
  /-- The file has its name; before `fetch_sub`. -/
  | published (job : MaterializeJob)
  /-- Before `record_failure`. -/
  | failing (job : MaterializeJob) (error : IoError)
  | returned (result : IoResult Unit)

/-- Where a lane is in `materialize_batch`: it still has to queue some requests of its call, or it
waits when there are none. -/
inductive PoolLane where
  | idle
  | sending (call : PoolCall) (batch : Nat) (rest : List TinyFileMaterializeRequest)

/-- Where `finish` is. -/
inductive PoolFinisher where
  | running
  | joining
  | finished (result : IoResult Unit)

/-- `QUEUED_JOBS_PER_WORKER`. -/
def queuedJobsPerWorker : Nat := 64

/-- The steps of a worker.  A call to the file system fails for any reason. -/
inductive WorkerStep : PoolShared × PoolWorker → PoolShared × PoolWorker → Prop
  | takes (shared job queue) (h : shared.queue.takeJob = (.job job, queue)) :
      WorkerStep (shared, .ready) ({ shared with queue, taken := shared.taken ++ [job] }, .taken job)
  | leaves (shared queue) (h : shared.queue.takeJob = (.none, queue)) :
      WorkerStep (shared, .ready) (shared, .returned (.ok ()))
  | checks (shared job) (h : shared.cancelled = false) :
      WorkerStep (shared, .taken job) (shared, .checked job)
  | stops (shared job) (h : shared.cancelled = true) :
      WorkerStep (shared, .taken job)
        ({ shared with failed := shared.failed ++ [job] }, .failing job poolCancelled)
  | creates (shared job now files)
      (h : shared.files.createNew job.request.partPath now = .ok files) :
      WorkerStep (shared, .checked job) ({ shared with files }, .created job)
  | createFails (shared job error) :
      WorkerStep (shared, .checked job)
        ({ shared with failed := shared.failed ++ [job] }, .failing job error)
  | sizes (shared job now files)
      (h : shared.files.setLen job.request.partPath job.contents.length now = .ok files) :
      WorkerStep (shared, .created job) ({ shared with files }, .sized job)
  | writes (shared job now files)
      (h : shared.files.writeAt job.request.partPath 0 job.contents now = .ok files) :
      WorkerStep (shared, .sized job) ({ shared with files }, .written job)
  | writeFails (shared worker job error node)
      (h : worker = .created job ∨ worker = .sized job) :
      WorkerStep (shared, worker)
        ({ shared with files := shared.files.set job.request.partPath (some (.file node)) },
          .cleaning job error)
  | removes (shared job error files)
      (h : shared.files.removeFile job.request.partPath = .ok files) :
      WorkerStep (shared, .cleaning job error)
        ({ shared with files, failed := shared.failed ++ [job] }, .failing job error)
  | removeFails (shared job error) :
      WorkerStep (shared, .cleaning job error)
        ({ shared with failed := shared.failed ++ [job] }, .failing job error)
  | replaces (shared job content files)
      (hcontent : shared.files.contentAt job.request.partPath = some content)
      (h : shared.files.replace job.request.partPath job.request.relativePath = .ok files) :
      WorkerStep (shared, .written job)
        ({ shared with
          files
          published := shared.published ++ [(job.request.relativePath, content)] },
          .published job)
  | replaceFails (shared job error) :
      WorkerStep (shared, .written job)
        ({ shared with failed := shared.failed ++ [job] }, .failing job error)
  | counts (shared job) (h : shared.remaining job.batch ≠ 0) :
      WorkerStep (shared, .published job)
        ({ shared with
          remaining := Function.update shared.remaining job.batch
            (shared.remaining job.batch - 1)
          completed := shared.completed ++ [job] }, .ready)
  | underflows (shared job) (h : shared.remaining job.batch = 0) :
      WorkerStep (shared, .published job)
        ({ shared with
          remaining := Function.update shared.remaining job.batch (u64Limit - 1)
          failed := shared.failed ++ [job] },
          .failing job (.other "tiny-file materialization batch counter underflowed"))
  | records (shared job error) :
      WorkerStep (shared, .failing job error)
        ({ shared with queue := shared.queue.recordFailureLocked error },
          .returned (.error error))

/-- A call and what it returned. -/
structure PoolReturn where
  call : PoolCall
  result : IoResult Unit

/-- The job for a request of a call. -/
def PoolCall.job (call : PoolCall) (batch : Nat) (request : TinyFileMaterializeRequest) :
    MaterializeJob := ⟨request, call.payload, batch⟩

/-- The steps of a lane in `materialize_batch`. -/
inductive LaneStep (queueCapacity : Nat) :
    PoolShared × PoolLane → Option PoolReturn → PoolShared × PoolLane → Prop
  | empty (shared call) (h : call.requests = []) :
      LaneStep queueCapacity (shared, .idle) (some ⟨call, .ok ()⟩) (shared, .idle)
  | rejects (shared call error) (hsome : call.requests ≠ []) (h : call.validate = .error error) :
      LaneStep queueCapacity (shared, .idle) (some ⟨call, .error error⟩) (shared, .idle)
  | begins (shared call) (hsome : call.requests ≠ []) (h : call.validate = .ok ()) :
      LaneStep queueCapacity (shared, .idle) none
        ({ shared with
          remaining := Function.update shared.remaining shared.calls.length call.requests.length
          calls := shared.calls ++ [call] },
          .sending call shared.calls.length call.requests)
  | sends (shared call batch request rest queue)
      (h : shared.queue.enqueue queueCapacity shared.cancelled (call.job batch request) =
        (.ok true, queue)) :
      LaneStep queueCapacity (shared, .sending call batch (request :: rest)) none
        ({ shared with queue, enqueued := shared.enqueued ++ [call.job batch request] },
          .sending call batch rest)
  | sendFails (shared call batch request rest queue error)
      (h : shared.queue.enqueue queueCapacity shared.cancelled (call.job batch request) =
        (.error error, queue)) :
      LaneStep queueCapacity (shared, .sending call batch (request :: rest))
        (some ⟨call, .error error⟩) ({ shared with queue }, .idle)
  | returns (shared call batch queue)
      (h : shared.queue.waitForBatch (shared.remaining batch) shared.cancelled =
        (.ok true, queue)) :
      LaneStep queueCapacity (shared, .sending call batch []) (some ⟨call, .ok ()⟩) (shared, .idle)
  | waitFails (shared call batch queue error)
      (h : shared.queue.waitForBatch (shared.remaining batch) shared.cancelled =
        (.error error, queue)) :
      LaneStep queueCapacity (shared, .sending call batch [])
        (some ⟨call, .error error⟩) ({ shared with queue }, .idle)

/-! ## The pool -/

/-- The result of `finish` from the failure and the results of the workers. -/
def finishResult (failure : Option SharedError) (results : List (IoResult Unit)) : IoResult Unit :=
  match failure with
  | some failure => .error failure.toIoError
  | none => results.forM id

/-- The pool with the lanes that use it. -/
structure PoolSystem where
  shared : PoolShared
  workers : List PoolWorker
  lanes : List PoolLane
  finisher : PoolFinisher

namespace PoolSystem

/-- The capacity of the queue for some workers. -/
def queueCapacity (workerCount : Nat) : Nat := workerCount * queuedJobsPerWorker

/-- A path that a request of a call names, for the file or for its part. -/
def Names (calls : List PoolCall) (path : RelativePath) : Prop :=
  ∃ call ∈ calls, ∃ request ∈ call.requests,
    path = request.relativePath ∨ path = request.partPath

/-- The steps of the pool.  The rest of the session cancels it and changes other files. -/
inductive Step (workerCount : Nat) : PoolSystem → Option PoolReturn → PoolSystem → Prop
  | worker (shared shared' left right worker worker' lanes finisher)
      (h : WorkerStep (shared, worker) (shared', worker')) :
      Step workerCount ⟨shared, left ++ worker :: right, lanes, finisher⟩ none
        ⟨shared', left ++ worker' :: right, lanes, finisher⟩
  | lane (shared shared' workers left right lane lane' finisher event)
      (h : LaneStep (queueCapacity workerCount) (shared, lane) event (shared', lane')) :
      Step workerCount ⟨shared, workers, left ++ lane :: right, finisher⟩ event
        ⟨shared', workers, left ++ lane' :: right, finisher⟩
  | cancels (shared workers lanes finisher) :
      Step workerCount ⟨shared, workers, lanes, finisher⟩ none
        ⟨{ shared with cancelled := true }, workers, lanes, finisher⟩
  | elsewhere (shared workers lanes finisher path node) (h : ¬ Names shared.calls path) :
      Step workerCount ⟨shared, workers, lanes, finisher⟩ none
        ⟨{ shared with files := shared.files.set path node }, workers, lanes, finisher⟩
  | shutsDown (shared workers lanes) :
      Step workerCount ⟨shared, workers, lanes, .running⟩ none
        ⟨{ shared with queue := shared.queue.requestShutdown }, workers, lanes, .joining⟩
  | joins (shared results lanes) :
      Step workerCount ⟨shared, results.map .returned, lanes, .joining⟩ none
        ⟨shared, results.map .returned, lanes,
          .finished (finishResult shared.queue.failure results)⟩

/-- The start: some workers, some lanes and the files that are there. -/
def start (workerCount laneCount : Nat) (files : FileTree) : PoolSystem where
  shared := {
    queue := ⟨[], false, none⟩
    cancelled := false
    remaining := fun _ => 0
    files
    calls := []
    enqueued := []
    taken := []
    completed := []
    failed := []
    published := [] }
  workers := List.replicate workerCount .ready
  lanes := List.replicate laneCount .idle
  finisher := .running

/-- The states of the pool in any interleaving. -/
inductive Reached (workerCount laneCount : Nat) (files : FileTree) : PoolSystem → Prop
  | start : Reached workerCount laneCount files (start workerCount laneCount files)
  | step {system system' : PoolSystem} {event : Option PoolReturn}
      (before : Reached workerCount laneCount files system)
      (h : Step workerCount system event system') : Reached workerCount laneCount files system'

end PoolSystem

end NetworkCopy
