import NetworkCopy.Management.Queue

/-!
# The job registry of a management agent

`ManagementJobRegistry` holds the one job that an agent runs.  Several connections call it:
the IPv4 and the IPv6 control server share it, and every worker thread reports to it.  The
first part models what its methods do inside one `lock_inner` section each.  The second part
puts the sections in sequence: a method is a connection that takes one step per section, and
between two sections the steps of all other threads may come.

What a method does between its sections (path checks, file-system calls, the bind of the
listener, the start of a thread) touches nothing of the registry.  Its outcome is an argument
of the step, so every outcome is covered.
-/

namespace NetworkCopy

/-! ## Jobs and results -/

/-- `ManagementJobRole`. -/
inductive ManagementJobRole where
  | sender
  | receiver
  deriving DecidableEq, Repr

/-- `ManagementJobOutcome`. -/
inductive ManagementJobOutcome where
  | completed
  | cancelled
  | failed
  deriving DecidableEq, Repr

/-- `ManagementJobResult`. -/
structure ManagementJobResult where
  role : ManagementJobRole
  outcome : ManagementJobOutcome
  jobId : Nat
  files : Nat
  logicalBytes : Nat
  wireBytes : Nat
  dataStreamCount : Nat
  message : String
  deriving DecidableEq, Repr

/-- `PrepareReceiveRequest`. -/
structure PrepareReceiveRequest where
  destinationRoot : String
  updateExisting : Bool
  resume : Bool
  deriving DecidableEq, Repr

/-- `StartSendRequest`. -/
structure StartSendRequest (Address : Type) where
  receiverAddress : Address
  sourceRoot : String
  workerCount : Nat
  calibrationMib : Nat
  forcedDataStreamCount : Option Nat
  preserveDesktopLayout : Bool
  deriving DecidableEq, Repr

/-- `PreparedReceiveJob`. -/
structure PreparedReceiveJob where
  jobId : Nat
  transferPort : Nat
  destinationRoot : String
  updateExisting : Bool
  deriving DecidableEq, Repr

/-- `StartedSendJob`. -/
structure StartedSendJob (Address : Type) where
  jobId : Nat
  receiverAddress : Address
  sourceRoot : String
  workerCount : Nat
  calibrationMib : Nat
  deriving DecidableEq, Repr

/-- `ProgressCounter`: a handle that the registry and the worker of a job share.  The counters
are told apart by the order in which they were made. -/
structure ProgressCounter where
  serial : Nat
  deriving DecidableEq, Repr

/-- `ActiveReceiveJob`. -/
structure ActiveReceiveJob where
  job : PreparedReceiveJob
  progress : ProgressCounter
  deriving DecidableEq, Repr

/-- `ActiveSendJob`. -/
structure ActiveSendJob (Address : Type) where
  job : StartedSendJob Address
  progress : ProgressCounter
  deriving DecidableEq, Repr

/-- `JobRegistryInner`, what the mutex of the registry guards. -/
structure JobRegistryInner (Address : Type) where
  activeReceive : Option ActiveReceiveJob := none
  activeSend : Option (ActiveSendJob Address) := none
  latestResult : Option ManagementJobResult := none
  deriving DecidableEq, Repr

/-- `ManagementJobRegistry`: the counter of the job IDs, and the guarded part. -/
structure ManagementJobRegistry (Address : Type) where
  nextJobId : Nat := 1
  inner : JobRegistryInner Address := {}
  deriving DecidableEq, Repr

/-- A job that `prepare_receive_on_configured` or `start_send_with_desktop_layout` has made. -/
inductive ManagedJob (Address : Type) where
  | receive (job : PreparedReceiveJob)
  | send (job : StartedSendJob Address)
  deriving DecidableEq, Repr

/-- The ID of a job. -/
def ManagedJob.jobId {Address : Type} : ManagedJob Address → Nat
  | .receive job => job.jobId
  | .send job => job.jobId

/-! ## The results of a worker -/

/-- What a worker reports of a finished transfer: `ReceiveReport` with no wire bytes, or
`MultistreamCopyReport`. -/
structure TransferReport where
  files : Nat
  bytes : Nat
  wireBytes : Nat
  dataStreamCount : Nat
  deriving DecidableEq, Repr

/-- `stream_count_u32`. -/
def streamCountU32 (streamCount : Nat) : Nat :=
  if streamCount < 2 ^ 32 then streamCount else 2 ^ 32 - 1

/-- `resume_stream_count`, from the stream count that the journal of the destination holds. -/
def resumeStreamCount (stored : IoResult (Option Nat)) : Nat :=
  match stored with
  | .ok (some streamCount) => streamCountU32 streamCount
  | _ => 0

/-- `build_error_result`. -/
def buildErrorResult (role : ManagementJobRole) (jobId : Nat) (error : IoError) :
    ManagementJobResult :=
  { role := role
    outcome := if error.kind = .interrupted then .cancelled else .failed
    jobId := jobId
    files := 0
    logicalBytes := 0
    wireBytes := 0
    dataStreamCount := 0
    message := error.message }

/-- `build_receive_result`, and `build_resumed_receive_result`, which has the same fields. -/
def buildReceiveResult (jobId : Nat) (stored : IoResult (Option Nat))
    (result : IoResult TransferReport) : ManagementJobResult :=
  match result with
  | .ok report =>
      { role := .receiver
        outcome := .completed
        jobId := jobId
        files := report.files
        logicalBytes := report.bytes
        wireBytes := 0
        dataStreamCount := streamCountU32 report.dataStreamCount
        message := "" }
  | .error error =>
      { buildErrorResult .receiver jobId error with
        dataStreamCount := resumeStreamCount stored }

/-- `build_send_result`, and `build_resumed_send_result`, which has the same fields. -/
def buildSendResult (jobId : Nat) (result : IoResult TransferReport) : ManagementJobResult :=
  match result with
  | .ok report =>
      { role := .sender
        outcome := .completed
        jobId := jobId
        files := report.files
        logicalBytes := report.bytes
        wireBytes := report.wireBytes
        dataStreamCount := streamCountU32 report.dataStreamCount
        message := "" }
  | .error error => buildErrorResult .sender jobId error

/-- The terminal result of the worker of a job. -/
def ManagedJob.terminalResult {Address : Type} (stored : IoResult (Option Nat))
    (result : IoResult TransferReport) : ManagedJob Address → ManagementJobResult
  | .receive job => buildReceiveResult job.jobId stored result
  | .send job => buildSendResult job.jobId result

@[simp] theorem ManagedJob.terminalResult_jobId {Address : Type}
    (stored : IoResult (Option Nat)) (result : IoResult TransferReport)
    (job : ManagedJob Address) : (job.terminalResult stored result).jobId = job.jobId := by
  cases job <;> cases result <;> rfl

/-! ## The sections of the registry -/

namespace JobRegistryInner

variable {Address : Type}

/-- `active_job_id`. -/
def activeJobId (inner : JobRegistryInner Address) : Option Nat :=
  match inner.activeReceive with
  | some active => some active.job.jobId
  | none => inner.activeSend.map fun active => active.job.jobId

/-- The error of a request that finds the slot taken. -/
def alreadyActive (jobId : Nat) : IoError :=
  ⟨.wouldBlock, s!"management agent already has active job {jobId}", none⟩

/-- The first section of `prepare_receive_on_configured` and
`start_send_with_desktop_layout`, and the check of the second. -/
def checkIdle (inner : JobRegistryInner Address) : IoResult Unit :=
  match inner.activeJobId with
  | some existing => .error (alreadyActive existing)
  | none => .ok ()

/-- The second section of the two: the slot is checked again, and filled. -/
def fill (inner : JobRegistryInner Address) (job : ManagedJob Address)
    (progress : ProgressCounter) : IoResult (JobRegistryInner Address) := do
  inner.checkIdle
  match job with
  | .receive job => return { inner with activeReceive := some ⟨job, progress⟩ }
  | .send job => return { inner with activeSend := some ⟨job, progress⟩ }

/-- The job in the slot of a role is the given one. -/
def matchesJob (inner : JobRegistryInner Address) : ManagedJob Address → Bool
  | .receive job => inner.activeReceive.any fun active => active.job.jobId == job.jobId
  | .send job => inner.activeSend.any fun active => active.job.jobId == job.jobId

/-- `active_receive.take()` or `active_send.take()`. -/
def takeSlot (inner : JobRegistryInner Address) : ManagedJob Address → JobRegistryInner Address
  | .receive _ => { inner with activeReceive := none }
  | .send _ => { inner with activeSend := none }

/-- `finish_receive` and `finish_send`. -/
def finish (inner : JobRegistryInner Address) (job : ManagedJob Address)
    (result : ManagementJobResult) : JobRegistryInner Address :=
  if inner.matchesJob job then
    { inner.takeSlot job with latestResult := some result }
  else
    inner

/-- `clear_receive` and `clear_send`. -/
def clear (inner : JobRegistryInner Address) (job : ManagedJob Address) :
    JobRegistryInner Address :=
  if inner.matchesJob job then inner.takeSlot job else inner

/-- What the first section of `cancel` hands on. -/
structure CancelledJob where
  progress : ProgressCounter
  role : ManagementJobRole
  resumeDestination : Option String
  deriving DecidableEq, Repr

/-- The first section of `cancel`: the slot is emptied. -/
def takeCancelled (inner : JobRegistryInner Address) (jobId : Nat) :
    IoResult (CancelledJob × JobRegistryInner Address) := do
  let existing ← okOrElse inner.activeJobId ⟨.notFound, "management agent has no active job", none⟩
  ensure (existing = jobId) ⟨.notFound,
    s!"management agent has active job {existing}, not requested job {jobId}", none⟩
  match inner.activeReceive, inner.activeSend with
  | some active, _ =>
      return (⟨active.progress, .receiver, some active.job.destinationRoot⟩,
        { inner with activeReceive := none })
  | none, some active =>
      return (⟨active.progress, .sender, none⟩, { inner with activeSend := none })
  | none, none =>
      throw (.other "active management job disappeared during cancellation")

/-- The result that `cancel` publishes. -/
def cancelledResult (jobId : Nat) (role : ManagementJobRole) (dataStreamCount : Nat) :
    ManagementJobResult :=
  { role := role
    outcome := .cancelled
    jobId := jobId
    files := 0
    logicalBytes := 0
    wireBytes := 0
    dataStreamCount := dataStreamCount
    message := "cancelled by management request" }

/-- The second section of `cancel`. -/
def publishCancelled (inner : JobRegistryInner Address) (result : ManagementJobResult) :
    JobRegistryInner Address :=
  { inner with latestResult := some result }

end JobRegistryInner

namespace ManagementJobRegistry

variable {Address : Type}

/-- `is_busy`. -/
def isBusy (registry : ManagementJobRegistry Address) : Bool :=
  registry.inner.activeJobId.isSome

/-- `next_job_id.fetch_add(1)`, which wraps around. -/
def fetchAdd (registry : ManagementJobRegistry Address) :
    Nat × ManagementJobRegistry Address :=
  (registry.nextJobId, { registry with nextJobId := (registry.nextJobId + 1) % u64Limit })

/-- `ManagementJobPhase`. -/
inductive ManagementJobPhase where
  | idle
  | receiverPrepared
  | senderRunning
  deriving DecidableEq, Repr

/-- `ManagementJobStatus`. -/
structure ManagementJobStatus where
  phase : ManagementJobPhase
  jobId : Option Nat
  transferPort : Option Nat
  destinationRoot : Option String
  updateExisting : Bool
  deriving DecidableEq, Repr

/-- `status`. -/
def status (registry : ManagementJobRegistry Address) : ManagementJobStatus :=
  match registry.inner.activeReceive, registry.inner.activeSend with
  | some active, _ =>
      ⟨.receiverPrepared, some active.job.jobId, some active.job.transferPort,
        some active.job.destinationRoot, active.job.updateExisting⟩
  | none, some active => ⟨.senderRunning, some active.job.jobId, none, none, false⟩
  | none, none => ⟨.idle, none, none, none, false⟩

end ManagementJobRegistry

end NetworkCopy
