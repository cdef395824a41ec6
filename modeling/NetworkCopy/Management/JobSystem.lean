import NetworkCopy.Management.Jobs

/-!
# Connections, workers and the registry

`JobSystem` is the registry with all threads that call it.  A connection runs one method at a
time, and `Request` says how far it has come.  `JobSystem.step` is one section of one thread;
a run is any sequence of such steps.

The four lists at the end of `JobSystem` record what has happened.  No step reads them.
-/

namespace NetworkCopy

/-- What a connection may ask for to start a job. -/
inductive JobRequest (Address : Type) where
  | prepareReceive (request : PrepareReceiveRequest)
  | startSend (request : StartSendRequest Address)
  deriving DecidableEq, Repr

/-- The job that a request makes, once it has its ID.  `port` is the port of the listener. -/
def JobRequest.makeJob {Address : Type} (jobId port : Nat) :
    JobRequest Address → ManagedJob Address
  | .prepareReceive request =>
      .receive
        { jobId := jobId
          transferPort := port
          destinationRoot := request.destinationRoot
          updateExisting := request.updateExisting }
  | .startSend request =>
      .send
        { jobId := jobId
          receiverAddress := request.receiverAddress
          sourceRoot := request.sourceRoot
          workerCount := request.workerCount
          calibrationMib := request.calibrationMib }

/-- What comes between the first section and `fetch_add`.  A receiver is refused when its
listener has port zero; a sender has no listener. -/
def JobRequest.checkPort {Address : Type} (port : Nat) : JobRequest Address → IoResult Unit
  | .prepareReceive _ =>
      ensure (port ≠ 0) (.other "managed receiver obtained transfer port zero")
  | .startSend _ => .ok ()

/-- How far a connection has come in its method. -/
inductive Request (Address : Type) where
  /-- Outside the methods that change the registry. -/
  | idle
  /-- The first section has found the slot free. -/
  | checked (request : JobRequest Address)
  /-- The job has its ID and its counter; the slot has not been checked again. -/
  | drawn (job : ManagedJob Address) (progress : ProgressCounter)
  /-- The slot is filled; the thread of the worker has not been made. -/
  | spawning (job : ManagedJob Address) (progress : ProgressCounter)
  /-- The thread could not be made; the slot has not been cleared. -/
  | clearing (job : ManagedJob Address)
  /-- `cancel` has emptied the slot; the worker has not been told. -/
  | cancelling (jobId : Nat) (cancelled : JobRegistryInner.CancelledJob)
  /-- `cancel` has told the worker; the result has not been published. -/
  | publishing (jobId : Nat) (role : ManagementJobRole) (dataStreamCount : Nat)
  deriving DecidableEq, Repr

/-- A worker thread between its start and its `finish_receive` or `finish_send`. -/
@[ext] structure Worker (Address : Type) where
  job : ManagedJob Address
  progress : ProgressCounter
  deriving DecidableEq, Repr

/-- The registry, the connections and the live workers. -/
structure JobSystem (Address : Type) where
  registry : ManagementJobRegistry Address
  requests : Nat → Request Address
  workers : List (Worker Address)
  /-- How many progress counters have been made. -/
  counters : Nat
  /-- The progress counters whose `cancelled` flag is set. -/
  flagged : List ProgressCounter
  /-- The IDs given to jobs, the newest first. -/
  drawnIds : List Nat
  /-- The jobs that have held the slot. -/
  startedIds : List Nat
  /-- The jobs whose worker thread was made. -/
  spawnedIds : List Nat
  /-- The results written to `latest_result`, the newest first. -/
  published : List ManagementJobResult

/-- One section of one thread. -/
inductive JobAction (Address : Type) where
  /-- The first section of a method that starts a job. -/
  | submit (connection : Nat) (request : JobRequest Address)
  /-- The work up to `fetch_add`, with the port of the listener as its outcome. -/
  | draw (connection : Nat) (outcome : IoResult Nat)
  /-- The second section. -/
  | fill (connection : Nat)
  /-- `thread::Builder::spawn`. -/
  | spawn (connection : Nat) (outcome : IoResult Unit)
  /-- `clear_receive` or `clear_send`. -/
  | clear (connection : Nat)
  /-- The first section of `cancel`. -/
  | cancel (connection : Nat) (jobId : Nat)
  /-- `progress.cancel()`, and the read of the stream count from the journal. -/
  | interrupt (connection : Nat) (stored : IoResult (Option Nat))
  /-- The second section of `cancel`. -/
  | publish (connection : Nat)
  /-- `is_busy`, `status` or `snapshot`. -/
  | query (connection : Nat)
  /-- The end of a worker, with the outcome of its transfer. -/
  | finish (index : Nat) (stored : IoResult (Option Nat)) (outcome : IoResult TransferReport)

namespace JobSystem

variable {Address : Type}

/-- `ManagementJobRegistry::new`, before the first connection. -/
def init : JobSystem Address :=
  { registry := {}
    requests := fun _ => .idle
    workers := []
    counters := 0
    flagged := []
    drawnIds := []
    startedIds := []
    spawnedIds := []
    published := [] }

/-- The connection goes on to another place. -/
def goto (s : JobSystem Address) (connection : Nat) (place : Request Address) :
    JobSystem Address :=
  { s with requests := Function.update s.requests connection place }

/-- The guarded part of the registry. -/
def inner (s : JobSystem Address) : JobRegistryInner Address := s.registry.inner

/-- A section leaves this in the mutex. -/
def setInner (s : JobSystem Address) (inner : JobRegistryInner Address) : JobSystem Address :=
  { s with registry := { s.registry with inner := inner } }

/-- A section writes `latest_result`. -/
def record (s : JobSystem Address) (result : ManagementJobResult) : JobSystem Address :=
  { s with published := result :: s.published }

/-- The first section of a method that starts a job. -/
def submit (s : JobSystem Address) (connection : Nat) (request : JobRequest Address) :
    JobSystem Address :=
  match s.inner.checkIdle with
  | .error _ => s
  | .ok () => s.goto connection (.checked request)

/-- From the first section to the new job: the slow work, `fetch_add`, and the check that the
ID is not zero. -/
def draw (s : JobSystem Address) (connection : Nat) (request : JobRequest Address)
    (outcome : IoResult Nat) : JobSystem Address :=
  match outcome >>= fun port => request.checkPort port >>= fun _ => .ok port with
  | .error _ => s.goto connection .idle
  | .ok port =>
      let (jobId, registry) := s.registry.fetchAdd
      let s := { s with registry := registry }
      if jobId = 0 then
        s.goto connection .idle
      else
        let progress : ProgressCounter := ⟨s.counters + 1⟩
        { s.goto connection (.drawn (request.makeJob jobId port) progress) with
          counters := s.counters + 1
          drawnIds := jobId :: s.drawnIds }

/-- The second section. -/
def fill (s : JobSystem Address) (connection : Nat) (job : ManagedJob Address)
    (progress : ProgressCounter) : JobSystem Address :=
  match s.inner.fill job progress with
  | .error _ => s.goto connection .idle
  | .ok inner =>
      { (s.setInner inner).goto connection (.spawning job progress) with
        startedIds := job.jobId :: s.startedIds }

/-- The start of the worker thread. -/
def spawn (s : JobSystem Address) (connection : Nat) (job : ManagedJob Address)
    (progress : ProgressCounter) (outcome : IoResult Unit) : JobSystem Address :=
  match outcome with
  | .error _ => s.goto connection (.clearing job)
  | .ok () =>
      { s.goto connection .idle with
        workers := s.workers ++ [⟨job, progress⟩]
        spawnedIds := job.jobId :: s.spawnedIds }

/-- The first section of `cancel`. -/
def cancel (s : JobSystem Address) (connection : Nat) (jobId : Nat) : JobSystem Address :=
  if jobId = 0 then
    s
  else
    match s.inner.takeCancelled jobId with
    | .error _ => s
    | .ok (cancelled, inner) =>
        (s.setInner inner).goto connection (.cancelling jobId cancelled)

/-- `progress.cancel()`, and the stream count of the destination of a receiver. -/
def interrupt (s : JobSystem Address) (connection : Nat) (jobId : Nat)
    (cancelled : JobRegistryInner.CancelledJob) (stored : IoResult (Option Nat)) :
    JobSystem Address :=
  let dataStreamCount := cancelled.resumeDestination.elim 0 fun _ => resumeStreamCount stored
  { s.goto connection (.publishing jobId cancelled.role dataStreamCount) with
    flagged := cancelled.progress :: s.flagged }

/-- The second section of `cancel`. -/
def publish (s : JobSystem Address) (connection : Nat) (jobId : Nat)
    (role : ManagementJobRole) (dataStreamCount : Nat) : JobSystem Address :=
  let result := JobRegistryInner.cancelledResult jobId role dataStreamCount
  ((s.setInner (s.inner.publishCancelled result)).record result).goto connection .idle

/-- `finish_receive` or `finish_send` of the worker at a position. -/
def finish (s : JobSystem Address) (index : Nat) (worker : Worker Address)
    (stored : IoResult (Option Nat)) (outcome : IoResult TransferReport) : JobSystem Address :=
  let result := worker.job.terminalResult stored outcome
  let ended := { s.setInner (s.inner.finish worker.job result) with
    workers := s.workers.eraseIdx index }
  if s.inner.matchesJob worker.job then ended.record result else ended

/-- One step.  A thread can only take the step that comes next in its method. -/
def step (s : JobSystem Address) : JobAction Address → Option (JobSystem Address)
  | .submit connection request =>
      match s.requests connection with
      | .idle => some (s.submit connection request)
      | _ => none
  | .draw connection outcome =>
      match s.requests connection with
      | .checked request => some (s.draw connection request outcome)
      | _ => none
  | .fill connection =>
      match s.requests connection with
      | .drawn job progress => some (s.fill connection job progress)
      | _ => none
  | .spawn connection outcome =>
      match s.requests connection with
      | .spawning job progress => some (s.spawn connection job progress outcome)
      | _ => none
  | .clear connection =>
      match s.requests connection with
      | .clearing job => some ((s.setInner (s.inner.clear job)).goto connection .idle)
      | _ => none
  | .cancel connection jobId =>
      match s.requests connection with
      | .idle => some (s.cancel connection jobId)
      | _ => none
  | .interrupt connection stored =>
      match s.requests connection with
      | .cancelling jobId cancelled => some (s.interrupt connection jobId cancelled stored)
      | _ => none
  | .publish connection =>
      match s.requests connection with
      | .publishing jobId role dataStreamCount =>
          some (s.publish connection jobId role dataStreamCount)
      | _ => none
  | .query connection =>
      match s.requests connection with
      | .idle => some s
      | _ => none
  | .finish index stored outcome =>
      match s.workers[index]? with
      | some worker => some (s.finish index worker stored outcome)
      | none => none

/-- The state after a sequence of steps. -/
def run (s : JobSystem Address) : List (JobAction Address) → Option (JobSystem Address)
  | [] => some s
  | action :: rest => (s.step action).bind fun next => next.run rest

/-- A run from the start in which every step is allowed. -/
inductive Reaches (Allowed : JobSystem Address → JobAction Address → Prop) :
    JobSystem Address → Prop
  | init : Reaches Allowed init
  | step {s next : JobSystem Address} (action : JobAction Address) (h : Reaches Allowed s)
      (hallowed : Allowed s action) (hstep : s.step action = some next) :
      Reaches Allowed next

/-- Every step of a sequence is allowed where it is taken. -/
def Along (Allowed : JobSystem Address → JobAction Address → Prop) (s : JobSystem Address) :
    List (JobAction Address) → Prop
  | [] => True
  | action :: rest => Allowed s action ∧
      match s.step action with
      | some next => next.Along Allowed rest
      | none => False

instance decidableAlong {Allowed : JobSystem Address → JobAction Address → Prop}
    [∀ s action, Decidable (Allowed s action)] (s : JobSystem Address) :
    (actions : List (JobAction Address)) → Decidable (s.Along Allowed actions)
  | [] => inferInstanceAs (Decidable True)
  | action :: rest =>
      have : Decidable (match s.step action with
          | some next => next.Along Allowed rest
          | none => False) :=
        match s.step action with
        | some next => decidableAlong next rest
        | none => inferInstanceAs (Decidable False)
      inferInstanceAs (Decidable (_ ∧ _))

end JobSystem

end NetworkCopy
