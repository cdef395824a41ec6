import NetworkCopy.Management.Jobs
import NetworkCopy.Receiver.JournalCodec

/-!
# What a result says about resuming

The result of a receive job that was cancelled or failed holds the stream count of the journal at
its destination.  The worker reads the journal when its transfer has ended.  `cancel` reads it when
it has told the worker, which may still create, replace or remove it.

`ReceiveRun` is one receive job: its slot in the registry, its worker, the connection that cancels
it, and the journal.  A run is any sequence of their steps.
-/

namespace NetworkCopy

/-! ## The journal -/

/-- `stored_data_stream_count`, from the content of the journal file. -/
def storedDataStreamCount : Option Bytes → IoResult (Option Nat)
  | none => .ok none
  | some content => do
      let journal ← ResumeJournal.readPath content
      return some journal.dataStreamCount

/-- `load_existing`, from the content of the journal file. -/
def loadExistingFrom (content : Option Bytes) (expectedManifestFingerprint : Nat)
    (expectedDataStreamCount : Nat) : IoResult ResumeJournal := do
  let content ← okOrElse content (osError .notFound)
  let journal ← ResumeJournal.readPath content
  journal.loadExisting expectedManifestFingerprint expectedDataStreamCount

/-- The journal that a file holds. -/
def remainingJournal (content : Option Bytes) : Option ResumeJournal :=
  content.bind (fun content => (ResumeJournal.readPath content).toOption)

/-- The stream count of the journal that remains, 0 when none does. -/
def remainingStreamCount (content : Option Bytes) : Nat :=
  (remainingJournal content).elim 0 ResumeJournal.dataStreamCount

theorem resumeStreamCount_stored (content : Option Bytes) :
    resumeStreamCount (storedDataStreamCount content) = remainingStreamCount content := by
  cases content with
  | none => rfl
  | some content =>
    unfold storedDataStreamCount remainingStreamCount remainingJournal
    cases hread : ResumeJournal.readPath content with
    | error error => simp [hread, resumeStreamCount, Except.toOption]
    | ok journal =>
      have hbound := (ResumeJournal.readable_of_readPath hread).streams
      simp only [ok_bind, Option.bind_some, hread]
      show streamCountU32 journal.dataStreamCount = journal.dataStreamCount
      rw [streamCountU32, if_pos (by omega)]

/-! ## The Manager -/

/-- `paired_outcome`. -/
def pairedOutcome (sender receiver : ManagementJobResult) : ManagementJobOutcome :=
  if sender.outcome = .failed ∨ receiver.outcome = .failed then .failed
  else if sender.outcome = .cancelled ∨ receiver.outcome = .cancelled then .cancelled
  else .completed

/-- `resume_data_stream_count` of a history entry. -/
def resumeDataStreamCount (senderResult receiverResult : ManagementJobResult) : Option Nat :=
  if pairedOutcome senderResult receiverResult = .completed then none
  else if receiverResult.dataStreamCount = 0 then none
  else some receiverResult.dataStreamCount

/-- The result of a receiver tells what remains of its journal, and the Manager offers exactly the
resume that `load_existing` accepts for the manifest of that journal. -/
structure Truthful (content : Option Bytes) (result : ManagementJobResult) : Prop where
  count : result.dataStreamCount = remainingStreamCount content
  zero : result.dataStreamCount = 0 ↔ remainingJournal content = none
  offered : ∀ (senderResult : ManagementJobResult) (fingerprint : Nat),
    (∀ journal ∈ remainingJournal content, journal.manifestFingerprint = fingerprint) →
    ∀ dataStreamCount, resumeDataStreamCount senderResult result = some dataStreamCount ↔
      ∃ journal, loadExistingFrom content fingerprint dataStreamCount = .ok journal

/-! ## One job -/

/-- The worker of a receive job. -/
inductive ReceiveWorker where
  | running
  /-- The transfer has ended and its result has been built. -/
  | ended (result : ManagementJobResult)
  /-- `finish_receive` has returned. -/
  | finished
  deriving DecidableEq, Repr

/-- The connection that cancels the job. -/
inductive Canceller where
  | idle
  /-- The slot has been emptied. -/
  | taken (cancelled : JobRegistryInner.CancelledJob)
  /-- `progress.cancel()` has been called. -/
  | told (cancelled : JobRegistryInner.CancelledJob)
  /-- The journal has been read. -/
  | counted (role : ManagementJobRole) (dataStreamCount : Nat)
  | published
  deriving DecidableEq, Repr

/-- One receive job with its journal.  No step reads `results`. -/
structure ReceiveRun (Address : Type) where
  inner : JobRegistryInner Address
  journal : Option Bytes
  worker : ReceiveWorker
  canceller : Canceller
  /-- The results of the job that have been published, the newest first. -/
  results : List ManagementJobResult

/-- A step of the worker or of the canceller.  `fault` is an error of the read of the journal. -/
inductive ReceiveAction where
  /-- `save_atomic` publishes a journal: the one that the worker creates, or a checkpoint. -/
  | save (journal : ResumeJournal)
  /-- `ResumeJournal::remove`. -/
  | remove
  /-- The transfer ends, and `build_receive_result` reads the journal. -/
  | stop (fault : Option IoError) (outcome : IoResult TransferReport)
  /-- `finish_receive`. -/
  | finish
  /-- The first section of `cancel`. -/
  | take
  /-- `progress.cancel()`. -/
  | tell
  /-- `resume_stream_count` in `cancel`. -/
  | count (fault : Option IoError)
  /-- The second section of `cancel`. -/
  | publish

namespace ReceiveRun

variable {Address : Type}

/-- A job that has just been started, over a destination that may hold a journal. -/
def start (job : PreparedReceiveJob) (progress : ProgressCounter) (journal : Option Bytes) :
    ReceiveRun Address where
  inner := { activeReceive := some ⟨job, progress⟩ }
  journal := journal
  worker := .running
  canceller := .idle
  results := []

/-- What a read of the journal gives. -/
def stored (s : ReceiveRun Address) : Option IoError → IoResult (Option Nat)
  | some error => .error error
  | none => storedDataStreamCount s.journal

/-- One step of the job with this ID and destination. -/
def step (job : PreparedReceiveJob) (s : ReceiveRun Address) :
    ReceiveAction → Option (ReceiveRun Address)
  | .save journal => match s.worker with
      -- `save_atomic` publishes what it has read back.
      | .running => if ResumeJournal.readPath journal.encode = .ok journal then
            some { s with journal := some journal.encode }
          else none
      | _ => none
  | .remove => match s.worker with
      | .running => some { s with journal := none }
      | _ => none
  | .stop fault outcome => match s.worker with
      | .running => some { s with
          worker := .ended (buildReceiveResult job.jobId (s.stored fault) outcome) }
      | _ => none
  | .finish => match s.worker with
      | .ended result => some { s with
          inner := s.inner.finish (.receive job) result
          worker := .finished
          results := if s.inner.matchesJob (.receive job) then result :: s.results
            else s.results }
      | _ => none
  | .take => match s.canceller, s.inner.takeCancelled job.jobId with
      | .idle, .ok (cancelled, inner) => some { s with
          inner := inner
          canceller := .taken cancelled }
      | _, _ => none
  | .tell => match s.canceller with
      | .taken cancelled => some { s with canceller := .told cancelled }
      | _ => none
  | .count fault => match s.canceller with
      | .told cancelled =>
          let dataStreamCount := cancelled.resumeDestination.elim 0
            (fun _ => resumeStreamCount (s.stored fault))
          some { s with canceller := .counted cancelled.role dataStreamCount }
      | _ => none
  | .publish => match s.canceller with
      | .counted role dataStreamCount =>
          let result := JobRegistryInner.cancelledResult job.jobId role dataStreamCount
          some { s with
            inner := s.inner.publishCancelled result
            canceller := .published
            results := result :: s.results }
      | _ => none

/-- The state after a sequence of steps. -/
def run (job : PreparedReceiveJob) (s : ReceiveRun Address) :
    List ReceiveAction → Option (ReceiveRun Address)
  | [] => some s
  | action :: rest => (s.step job action).bind (fun next => next.run job rest)

/-- `cancel` has read the journal. -/
def Counted (s : ReceiveRun Address) : Prop :=
  (∃ role dataStreamCount, s.canceller = .counted role dataStreamCount) ∨ s.canceller = .published

/-- The reads of the journal succeed.  After the read of `cancel` the stream count of the journal
stays the same. -/
def Orderly (s : ReceiveRun Address) : ReceiveAction → Prop
  | .save journal => s.Counted → journal.dataStreamCount = remainingStreamCount s.journal
  | .remove => s.Counted → remainingStreamCount s.journal = 0
  | .stop fault _ => fault = none
  | .count fault => fault = none
  | _ => True

/-- A run of orderly steps. -/
inductive Reaches (job : PreparedReceiveJob) (start : ReceiveRun Address) :
    ReceiveRun Address → Prop
  | start : Reaches job start start
  | step {s next : ReceiveRun Address} (action : ReceiveAction) (h : Reaches job start s)
      (horderly : s.Orderly action) (hstep : s.step job action = some next) :
      Reaches job start next

/-! ## What a run keeps -/

/-- What has been read of the journal is still true. -/
structure Informed (job : PreparedReceiveJob) (s : ReceiveRun Address) : Prop where
  slot : ∀ active, s.inner.activeReceive = some active → active.job = job
  free : s.inner.activeSend = none
  destination : ∀ cancelled, s.canceller = .taken cancelled ∨ s.canceller = .told cancelled →
    cancelled.role = .receiver ∧ cancelled.resumeDestination = some job.destinationRoot
  ended : ∀ result, s.worker = .ended result → result.role = .receiver ∧
    (result.outcome ≠ .completed → result.dataStreamCount = remainingStreamCount s.journal)
  counted : ∀ role dataStreamCount, s.canceller = .counted role dataStreamCount →
    role = .receiver ∧ dataStreamCount = remainingStreamCount s.journal
  results : ∀ result ∈ s.results, result.role = .receiver ∧
    (result.outcome ≠ .completed → result.dataStreamCount = remainingStreamCount s.journal)
  published : s.results ≠ [] → s.worker = .finished ∨ s.canceller = .published

variable {job : PreparedReceiveJob} {s after : ReceiveRun Address}
variable {cancelled : JobRegistryInner.CancelledJob}

theorem Informed.start (progress : ProgressCounter) (journal : Option Bytes) :
    Informed job (start job progress journal : ReceiveRun Address) where
  slot := fun active h => by cases h; rfl
  free := rfl
  destination := fun _ h => by rcases h with h | h <;> cases h
  ended := fun _ h => by cases h
  counted := fun _ _ h => by cases h
  results := fun _ h => absurd h List.not_mem_nil
  published := fun h => absurd rfl h

/-- A step of a running worker on its journal. -/
theorem Informed.journal (h : Informed job s) (hrunning : s.worker = .running)
    {journal : Option Bytes}
    (hkeeps : s.Counted → remainingStreamCount journal = remainingStreamCount s.journal) :
    Informed job { s with journal := journal } where
  slot := h.slot
  free := h.free
  destination := h.destination
  ended := fun result hended => by rw [hrunning] at hended; cases hended
  counted := fun role dataStreamCount hcounted => by
    rw [hkeeps (.inl ⟨role, dataStreamCount, hcounted⟩)]
    exact h.counted role dataStreamCount hcounted
  results := fun result hmem => by
    have hpublished : s.canceller = .published := by
      rcases h.published (List.ne_nil_of_mem hmem) with hfinished | hpublished
      · rw [hrunning] at hfinished
        cases hfinished
      · exact hpublished
    rw [hkeeps (.inr hpublished)]
    exact h.results result hmem
  published := h.published

theorem Informed.stop (h : Informed job s) (outcome : IoResult TransferReport)
    (hrunning : s.worker = .running) :
    Informed job { s with
      worker := .ended (buildReceiveResult job.jobId (s.stored none) outcome) } where
  slot := h.slot
  free := h.free
  destination := h.destination
  ended := fun result hended => by
    cases hended
    cases outcome with
    | ok report => exact ⟨rfl, fun hne => absurd rfl hne⟩
    | error error => exact ⟨rfl, fun _ => resumeStreamCount_stored s.journal⟩
  counted := h.counted
  results := h.results
  published := fun hne => by
    rcases h.published hne with hfinished | hpublished
    · rw [hrunning] at hfinished
      cases hfinished
    · exact .inr hpublished

theorem Informed.finish (h : Informed job s) {result : ManagementJobResult}
    (hended : s.worker = .ended result) :
    Informed job { s with
      inner := s.inner.finish (.receive job) result
      worker := .finished
      results := if s.inner.matchesJob (.receive job) then result :: s.results
        else s.results } where
  slot := fun active hactive => by
    unfold JobRegistryInner.finish at hactive
    split at hactive
    · cases hactive
    · exact h.slot active hactive
  free := by
    show (s.inner.finish (.receive job) result).activeSend = none
    unfold JobRegistryInner.finish
    split
    · exact h.free
    · exact h.free
  destination := h.destination
  ended := fun _ hended => by cases hended
  counted := h.counted
  results := fun found hmem => by
    dsimp only at hmem
    split at hmem
    · rcases List.mem_cons.mp hmem with rfl | hmem
      · exact h.ended found hended
      · exact h.results found hmem
    · exact h.results found hmem
  published := fun _ => .inl rfl

theorem Informed.take (h : Informed job s) {inner : JobRegistryInner Address}
    (hidle : s.canceller = .idle)
    (htake : s.inner.takeCancelled job.jobId = .ok (cancelled, inner)) :
    Informed job { s with inner := inner, canceller := .taken cancelled } := by
  unfold JobRegistryInner.takeCancelled at htake
  simp only [bind_eq_ok] at htake
  obtain ⟨_, _, _, _, htake⟩ := htake
  have hfree := h.free
  cases hactive : s.inner.activeReceive with
  | none =>
    rw [hactive, hfree] at htake
    cases htake
  | some active =>
    rw [hactive] at htake
    cases htake
    exact {
      slot := fun _ hnone => by cases hnone
      free := hfree
      destination := fun found hfound => by
        rcases hfound with hfound | hfound
        · cases hfound
          rw [h.slot active hactive]
          exact ⟨rfl, rfl⟩
        · cases hfound
      ended := h.ended
      counted := fun _ _ hcounted => by cases hcounted
      results := h.results
      published := fun hne => by
        rcases h.published hne with hfinished | hpublished
        · exact .inl hfinished
        · rw [hidle] at hpublished
          cases hpublished }

theorem Informed.tell (h : Informed job s) (htaken : s.canceller = .taken cancelled) :
    Informed job { s with canceller := .told cancelled } where
  slot := h.slot
  free := h.free
  destination := fun found hfound => by
    rcases hfound with hfound | hfound
    · cases hfound
    · cases hfound
      exact h.destination cancelled (.inl htaken)
  ended := h.ended
  counted := fun _ _ hcounted => by cases hcounted
  results := h.results
  published := fun hne => by
    rcases h.published hne with hfinished | hpublished
    · exact .inl hfinished
    · rw [htaken] at hpublished
      cases hpublished

theorem Informed.count (h : Informed job s) (htold : s.canceller = .told cancelled) :
    Informed job { s with
      canceller := .counted cancelled.role
        (cancelled.resumeDestination.elim 0 (fun _ => resumeStreamCount (s.stored none))) } where
  slot := h.slot
  free := h.free
  destination := fun _ hfound => by rcases hfound with hfound | hfound <;> cases hfound
  ended := h.ended
  counted := fun role dataStreamCount hcounted => by
    obtain ⟨hrole, hdestination⟩ := h.destination cancelled (.inr htold)
    rw [hdestination] at hcounted
    cases hcounted
    exact ⟨hrole, resumeStreamCount_stored s.journal⟩
  results := h.results
  published := fun hne => by
    rcases h.published hne with hfinished | hpublished
    · exact .inl hfinished
    · rw [htold] at hpublished
      cases hpublished

theorem Informed.publish (h : Informed job s) {role : ManagementJobRole} {dataStreamCount : Nat}
    (hcounted : s.canceller = .counted role dataStreamCount) :
    Informed job { s with
      inner := s.inner.publishCancelled
        (JobRegistryInner.cancelledResult job.jobId role dataStreamCount)
      canceller := .published
      results := JobRegistryInner.cancelledResult job.jobId role dataStreamCount ::
        s.results } where
  slot := h.slot
  free := h.free
  destination := fun _ hfound => by rcases hfound with hfound | hfound <;> cases hfound
  ended := h.ended
  counted := fun _ _ hcounted => by cases hcounted
  results := fun found hmem => by
    obtain ⟨hrole, hcount⟩ := h.counted role dataStreamCount hcounted
    rcases List.mem_cons.mp hmem with rfl | hmem
    · exact ⟨hrole, fun _ => hcount⟩
    · exact h.results found hmem
  published := fun _ => .inr rfl

theorem Informed.next (h : Informed job s) {action : ReceiveAction} (horderly : s.Orderly action)
    (hstep : s.step job action = some after) : Informed job after := by
  cases action with
  | save journal =>
    cases hworker : s.worker <;> simp only [step, hworker, reduceCtorEq] at hstep
    split at hstep
    · next hread =>
        cases hstep
        have hcount : remainingStreamCount (some journal.encode) = journal.dataStreamCount := by
          rw [remainingStreamCount, remainingJournal, Option.bind_some, hread]
          rfl
        rw [← hworker]
        exact h.journal hworker (fun hcounted => hcount.trans (horderly hcounted))
    · cases hstep
  | remove =>
    cases hworker : s.worker <;> simp only [step, hworker, reduceCtorEq] at hstep
    cases hstep
    have hkeeps : s.Counted → remainingStreamCount none = remainingStreamCount s.journal :=
      fun hcounted => (horderly hcounted).symm
    rw [← hworker]
    exact h.journal hworker hkeeps
  | stop fault outcome =>
    cases hworker : s.worker <;> simp only [step, hworker, reduceCtorEq] at hstep
    cases hstep
    obtain rfl : fault = none := horderly
    exact h.stop outcome hworker
  | finish =>
    cases hworker : s.worker <;> simp only [step, hworker, reduceCtorEq] at hstep
    cases hstep
    exact h.finish hworker
  | take =>
    cases hcanceller : s.canceller <;> simp only [step, hcanceller, reduceCtorEq] at hstep
    split at hstep
    · next cancelled inner _ htake =>
        cases hstep
        exact h.take hcanceller htake
    · cases hstep
  | tell =>
    cases hcanceller : s.canceller <;> simp only [step, hcanceller, reduceCtorEq] at hstep
    cases hstep
    exact h.tell hcanceller
  | count fault =>
    cases hcanceller : s.canceller <;> simp only [step, hcanceller, reduceCtorEq] at hstep
    cases hstep
    obtain rfl : fault = none := horderly
    exact h.count hcanceller
  | publish =>
    cases hcanceller : s.canceller <;> simp only [step, hcanceller, reduceCtorEq] at hstep
    cases hstep
    exact h.publish hcanceller

theorem reaches_informed {progress : ProgressCounter} {journal : Option Bytes}
    (h : Reaches job (start job progress journal) s) : Informed job s := by
  induction h with
  | start => exact .start progress journal
  | step action _ horderly hstep ih => exact ih.next horderly hstep

/-! ## What the Manager offers -/

variable {content : Option Bytes}

theorem remainingJournal_eq_some {journal : ResumeJournal} :
    remainingJournal content = some journal ↔
      ∃ bytes, content = some bytes ∧ ResumeJournal.readPath bytes = .ok journal := by
  cases content with
  | none => simp [remainingJournal]
  | some bytes =>
    simp only [remainingJournal, Option.bind_some, Option.some.injEq, exists_eq_left']
    cases ResumeJournal.readPath bytes <;> simp [Except.toOption]

theorem remainingStreamCount_eq_zero :
    remainingStreamCount content = 0 ↔ remainingJournal content = none := by
  cases hremaining : remainingJournal content with
  | none => simp [remainingStreamCount, hremaining]
  | some journal =>
    obtain ⟨bytes, _, hread⟩ := remainingJournal_eq_some.mp hremaining
    have hne := (ResumeJournal.readable_of_readPath hread).streams_ne
    simp [remainingStreamCount, hremaining, hne]

/-- What `load_existing` accepts is the journal that remains, under its own manifest and count. -/
theorem loadExistingFrom_ok {fingerprint dataStreamCount : Nat}
    (hsame : ∀ journal ∈ remainingJournal content, journal.manifestFingerprint = fingerprint) :
    (∃ journal, loadExistingFrom content fingerprint dataStreamCount = .ok journal) ↔
      ∃ journal, remainingJournal content = some journal ∧
        journal.dataStreamCount = dataStreamCount := by
  constructor
  · rintro ⟨loaded, hload⟩
    obtain ⟨bytes, hbytes, hload⟩ := bind_eq_ok.mp hload
    obtain ⟨journal, hread, hload⟩ := bind_eq_ok.mp hload
    obtain ⟨_, hload⟩ := bind_rest hload
    obtain ⟨_, hload⟩ := bind_rest hload
    obtain ⟨_, hcount, _⟩ := bind_eq_ok.mp hload
    exact ⟨journal, remainingJournal_eq_some.mpr ⟨bytes, okOrElse_eq_ok.mp hbytes, hread⟩,
      ensure_eq_ok.mp hcount⟩
  · rintro ⟨journal, hremaining, rfl⟩
    obtain ⟨bytes, rfl, hread⟩ := remainingJournal_eq_some.mp hremaining
    have hbound := (ResumeJournal.readable_of_readPath hread).streams
    refine ⟨journal, bind_eq_ok.mpr ⟨bytes, rfl, bind_eq_ok.mpr ⟨journal, hread, ?_⟩⟩⟩
    refine bind_eq_ok.mpr ⟨(), ensure_eq_ok.mpr (by omega), ?_⟩
    refine bind_eq_ok.mpr ⟨(), ensure_eq_ok.mpr (hsame journal hremaining), ?_⟩
    exact bind_eq_ok.mpr ⟨(), ensure_eq_ok.mpr rfl, rfl⟩

theorem truthful_of_count {result : ManagementJobResult} (hne : result.outcome ≠ .completed)
    (hcount : result.dataStreamCount = remainingStreamCount content) :
    Truthful content result where
  count := hcount
  zero := by rw [hcount, remainingStreamCount_eq_zero]
  offered := by
    intro sender fingerprint hsame dataStreamCount
    have hpaired : pairedOutcome sender result ≠ .completed := by
      unfold pairedOutcome
      cases houtcome : result.outcome with
      | completed => exact absurd houtcome hne
      | failed => simp
      | cancelled => split <;> simp
    rw [loadExistingFrom_ok hsame, resumeDataStreamCount, if_neg hpaired, hcount]
    cases hremaining : remainingJournal content with
    | none =>
      rw [if_pos (remainingStreamCount_eq_zero.mpr hremaining)]
      simp
    | some journal =>
      have hnonzero : remainingStreamCount content ≠ 0 := by
        rw [Ne, remainingStreamCount_eq_zero, hremaining]
        exact Option.some_ne_none journal
      rw [if_neg hnonzero, remainingStreamCount, hremaining]
      simp

/-- In every run in which the reads succeed and the worker keeps the stream count of its journal
once `cancel` has read it, a published result that is not of a completed transfer is truthful. -/
theorem resume_information_truthful {progress : ProgressCounter} {journal : Option Bytes}
    (h : Reaches job (start job progress journal) s) {result : ManagementJobResult}
    (hresult : result ∈ s.results) (hne : result.outcome ≠ .completed) :
    result.role = .receiver ∧ Truthful s.journal result := by
  obtain ⟨hrole, hcount⟩ := (reaches_informed h).results result hresult
  exact ⟨hrole, truthful_of_count hne (hcount hne)⟩

/-! ## Runs of one job -/

/-- A receiver for a directory. -/
def sampleJob : PreparedReceiveJob := ⟨1, 49421, "D:\\Backup", false⟩

/-- The journal of a transfer over two streams that has completed nothing. -/
def sampleJournal : ResumeJournal := ⟨7, 2, ∅, ∅⟩

theorem readPath_sampleJournal :
    ResumeJournal.readPath sampleJournal.encode = .ok sampleJournal :=
  ResumeJournal.readPath_encode {
    fingerprint := by decide
    streams := by decide
    streams_ne := by decide
    stripeCount := Nat.zero_le _
    fileCount := Nat.zero_le _
    stripes := fun _ h => absurd h (Finset.notMem_empty _)
    fileIds := fun _ h => absurd h (Finset.notMem_empty _) }

/-- The job over a destination with this journal. -/
def sampleStart (journal : Option Bytes) : ReceiveRun String := start sampleJob ⟨1⟩ journal

/-- The worker notices the cancellation. -/
def noticed : IoResult TransferReport := .error ⟨.interrupted, "transfer cancelled", none⟩

/-- The job is cancelled, and its worker leaves its journal. -/
theorem resume_information_truthful_cancelled : ∃ s result,
    Reaches sampleJob (sampleStart (some sampleJournal.encode)) s ∧ s.worker = .finished ∧
      result ∈ s.results ∧ result.outcome ≠ .completed ∧ result.role = .receiver ∧
      Truthful s.journal result := by
  have htaken : Reaches sampleJob (sampleStart (some sampleJournal.encode)) _ :=
    .step .tell (.step .take .start trivial rfl) trivial rfl
  have hpublished : Reaches sampleJob (sampleStart (some sampleJournal.encode)) _ :=
    .step .publish (.step (.count none) htaken rfl rfl) trivial rfl
  have hfinished : Reaches sampleJob (sampleStart (some sampleJournal.encode)) _ :=
    .step .finish (.step (.stop none noticed) hpublished rfl rfl) trivial rfl
  have hmem : JobRegistryInner.cancelledResult 1 .receiver
      (resumeStreamCount (storedDataStreamCount (some sampleJournal.encode))) ∈ [
        JobRegistryInner.cancelledResult 1 .receiver
          (resumeStreamCount (storedDataStreamCount (some sampleJournal.encode)))] :=
    List.mem_singleton_self _
  have hne : (JobRegistryInner.cancelledResult 1 .receiver (resumeStreamCount
      (storedDataStreamCount (some sampleJournal.encode)))).outcome ≠ .completed := by
    exact fun h => by cases h
  exact ⟨_, _, hfinished, rfl, hmem, hne, resume_information_truthful hfinished hmem hne⟩

/-- `cancel` reads the journal and then the worker completes and removes it, or `cancel` finds none
and then the worker creates one. -/
theorem resume_information_stale :
    (∃ s result, (sampleStart (some sampleJournal.encode)).run sampleJob
        [.take, .tell, .count none, .publish, .remove, .stop none (.ok ⟨1, 1, 1, 2⟩), .finish] =
          some s ∧ s.worker = .finished ∧ s.results = [result] ∧ result.outcome = .cancelled ∧
      result.dataStreamCount = 2 ∧ remainingJournal s.journal = none) ∧
    ∃ s result, (sampleStart none).run sampleJob
        [.take, .tell, .count none, .publish, .save sampleJournal, .stop none noticed, .finish] =
          some s ∧ s.worker = .finished ∧ s.results = [result] ∧ result.outcome = .cancelled ∧
      result.dataStreamCount = 0 ∧ remainingJournal s.journal = some sampleJournal := by
  have hremaining : remainingJournal (some sampleJournal.encode) = some sampleJournal :=
    remainingJournal_eq_some.mpr ⟨_, rfl, readPath_sampleJournal⟩
  constructor
  · refine ⟨_, _, rfl, rfl, rfl, rfl, ?_, rfl⟩
    show resumeStreamCount (storedDataStreamCount (some sampleJournal.encode)) = 2
    rw [resumeStreamCount_stored, remainingStreamCount, hremaining]
    rfl
  · have hsave (s : ReceiveRun String) (hrunning : s.worker = .running) :
        s.step sampleJob (.save sampleJournal) =
          some { s with journal := some sampleJournal.encode } := by
      simp only [step, hrunning, readPath_sampleJournal, if_true]
    have hrun : (sampleStart none).run sampleJob
        [.take, .tell, .count none, .publish, .save sampleJournal, .stop none noticed, .finish] =
          (step sampleJob
            { inner := { latestResult := some (JobRegistryInner.cancelledResult 1 .receiver 0) }
              journal := none
              worker := .running
              canceller := .published
              results := [JobRegistryInner.cancelledResult 1 .receiver 0] }
            (.save sampleJournal)).bind
            (fun next => next.run sampleJob [.stop none noticed, .finish]) := rfl
    rw [hrun, hsave _ rfl]
    exact ⟨_, _, rfl, rfl, rfl, rfl, rfl, hremaining⟩

end ReceiveRun

end NetworkCopy
