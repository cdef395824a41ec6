import NetworkCopy.Pool.TinyFilePool

/-!
# Where every job is

A job is queued once, taken at most once, and then held by one worker until it is completed or has
failed.  The counter of a batch is the number of its jobs that are not completed, so a worker that
counts a job never finds it at zero, and a batch whose counter is zero is completed.
-/

namespace NetworkCopy

/-! ## The queue -/

namespace QueueState

variable {state queue : QueueState}
variable {cancelled : Bool}

theorem takeJob_eq_job {job : MaterializeJob} (h : state.takeJob = (.job job, queue)) :
    state.failure = none ∧ state.shutdown = false ∧ state.jobs = job :: queue.jobs ∧
      queue.failure = none ∧ queue.shutdown = false := by
  unfold takeJob at h
  by_cases hstop : state.failure.isSome ∨ state.shutdown
  · rw [if_pos hstop] at h
    cases h
  · rw [if_neg hstop] at h
    rw [not_or, Bool.not_eq_true, Option.isSome_eq_false_iff, Option.isNone_iff_eq_none,
      Bool.not_eq_true] at hstop
    cases hjobs : state.jobs with
    | nil =>
      rw [hjobs] at h
      cases h
    | cons first rest =>
      rw [hjobs] at h
      cases h
      exact ⟨hstop.1, hstop.2, rfl, hstop.1, hstop.2⟩

/-- A job that `enqueue` pushes fits. -/
theorem enqueue_eq_pushed {queueCapacity : Nat} {job : MaterializeJob}
    (h : state.enqueue queueCapacity cancelled job = (.ok true, queue)) :
    state.failure = none ∧ state.jobs.length < queueCapacity ∧
      queue = { state with jobs := state.jobs ++ [job] } := by
  unfold enqueue at h
  cases hfailure : state.failure with
  | some failure =>
    rw [hfailure] at h
    cases h
  | none =>
    rw [hfailure] at h
    simp only at h
    by_cases hshutdown : state.shutdown = true
    · rw [if_pos hshutdown] at h
      cases h
    · rw [if_neg hshutdown] at h
      by_cases hcancelled : cancelled = true
      · rw [if_pos hcancelled] at h
        cases h
      · rw [if_neg hcancelled] at h
        by_cases hroom : state.jobs.length < queueCapacity
        · rw [if_pos hroom] at h
          cases h
          exact ⟨rfl, hroom, rfl⟩
        · rw [if_neg hroom] at h
          cases h

/-- An error of `enqueue` leaves the jobs alone and keeps a failure that is there. -/
theorem enqueue_eq_error {queueCapacity : Nat} {job : MaterializeJob} {error : IoError}
    (h : state.enqueue queueCapacity cancelled job = (.error error, queue)) :
    queue.jobs = state.jobs ∧ (state.failure.isSome → queue.failure = state.failure) := by
  unfold enqueue at h
  cases hfailure : state.failure with
  | some failure =>
    rw [hfailure] at h
    cases h
    exact ⟨rfl, fun _ => hfailure⟩
  | none =>
    rw [hfailure] at h
    simp only at h
    by_cases hshutdown : state.shutdown = true
    · rw [if_pos hshutdown] at h
      cases h
      exact ⟨rfl, fun _ => hfailure⟩
    · rw [if_neg hshutdown] at h
      by_cases hcancelled : cancelled = true
      · rw [if_pos hcancelled] at h
        cases h
        exact ⟨rfl, fun habsurd => by cases habsurd⟩
      · rw [if_neg hcancelled] at h
        by_cases hroom : state.jobs.length < queueCapacity
        · rw [if_pos hroom] at h
          cases h
        · rw [if_neg hroom] at h
          cases h

theorem waitForBatch_eq_done {remaining : Nat}
    (h : state.waitForBatch remaining cancelled = (.ok true, queue)) :
    state.failure = none ∧ remaining = 0 := by
  unfold waitForBatch at h
  cases hfailure : state.failure with
  | some failure =>
    rw [hfailure] at h
    cases h
  | none =>
    rw [hfailure] at h
    simp only at h
    by_cases hzero : remaining = 0
    · exact ⟨rfl, hzero⟩
    · rw [if_neg hzero] at h
      by_cases hcancelled : cancelled = true
      · rw [if_pos hcancelled] at h
        cases h
      · rw [if_neg hcancelled] at h
        cases h

theorem waitForBatch_eq_error {remaining : Nat} {error : IoError}
    (h : state.waitForBatch remaining cancelled = (.error error, queue)) :
    queue.jobs = state.jobs ∧ (state.failure.isSome → queue.failure = state.failure) := by
  unfold waitForBatch at h
  cases hfailure : state.failure with
  | some failure =>
    rw [hfailure] at h
    cases h
    exact ⟨rfl, fun _ => hfailure⟩
  | none =>
    rw [hfailure] at h
    simp only at h
    by_cases hzero : remaining = 0
    · rw [if_pos hzero] at h
      cases h
    · rw [if_neg hzero] at h
      by_cases hcancelled : cancelled = true
      · rw [if_pos hcancelled] at h
        cases h
        exact ⟨rfl, fun habsurd => by cases habsurd⟩
      · rw [if_neg hcancelled] at h
        cases h

end QueueState

/-! ## Jobs -/

/-- The job of a worker, until it is completed or has failed. -/
def PoolWorker.held : PoolWorker → List MaterializeJob
  | .taken job => [job]
  | .checked job => [job]
  | .created job => [job]
  | .sized job => [job]
  | .written job => [job]
  | .cleaning job _ => [job]
  | .published job => [job]
  | _ => []

/-- The jobs of a batch. -/
def ofBatch (batch : Nat) (jobs : List MaterializeJob) : List MaterializeJob :=
  jobs.filter (fun job => job.batch = batch)

/-- The requests of a batch that were queued. -/
def PoolShared.sent (shared : PoolShared) (batch : Nat) : List TinyFileMaterializeRequest :=
  (ofBatch batch shared.enqueued).map MaterializeJob.request

/-- Where the jobs are, when workers hold some of them. -/
structure JobsAccounted (shared : PoolShared) (held : List MaterializeJob) : Prop where
  fifo : shared.enqueued = shared.taken ++ shared.queue.jobs
  balance : shared.taken.Perm (shared.completed ++ shared.failed ++ held)
  known : ∀ job ∈ shared.enqueued, ∃ call, shared.calls[job.batch]? = some call ∧
    job.payload = call.payload
  sent : ∀ batch call, shared.calls[batch]? = some call → shared.sent batch <+: call.requests
  counters : ∀ batch call, shared.calls[batch]? = some call →
    shared.remaining batch + (ofBatch batch shared.completed).length = call.requests.length

variable {shared shared' : PoolShared} {held others : List MaterializeJob} {job : MaterializeJob}

theorem JobsAccounted.perm (h : JobsAccounted shared held) {held' : List MaterializeJob}
    (hperm : held.Perm held') : JobsAccounted shared held' where
  fifo := h.fifo
  balance := h.balance.trans (hperm.append_left _)
  known := h.known
  sent := h.sent
  counters := h.counters

/-- A held job was queued. -/
theorem JobsAccounted.mem_enqueued (h : JobsAccounted shared held) (hjob : job ∈ held) :
    job ∈ shared.enqueued := by
  rw [h.fifo]
  apply List.mem_append_left
  exact h.balance.symm.subset (List.mem_append_right _ hjob)

theorem length_ofBatch_append (batch : Nat) (left right : List MaterializeJob) :
    (ofBatch batch (left ++ right)).length =
      (ofBatch batch left).length + (ofBatch batch right).length := by
  unfold ofBatch
  rw [List.filter_append, List.length_append]

/-- The jobs of a batch: those that are completed and those that are held were queued. -/
theorem JobsAccounted.length_le (h : JobsAccounted shared held) (batch : Nat) :
    (ofBatch batch shared.completed).length + (ofBatch batch held).length ≤
      (shared.sent batch).length := by
  have htaken : (ofBatch batch shared.taken).length =
      (ofBatch batch (shared.completed ++ shared.failed ++ held)).length :=
    (h.balance.filter _).length_eq
  rw [length_ofBatch_append, length_ofBatch_append] at htaken
  unfold PoolShared.sent
  rw [List.length_map, h.fifo, length_ofBatch_append]
  omega

/-- The counter of the batch of a held job is not zero. -/
theorem JobsAccounted.remaining_ne_zero (h : JobsAccounted shared held) (hjob : job ∈ held) :
    shared.remaining job.batch ≠ 0 := by
  obtain ⟨call, hcall, _⟩ := h.known job (h.mem_enqueued hjob)
  have hcounter := h.counters job.batch call hcall
  have hsent := (h.sent job.batch call hcall).length_le
  have hlength := h.length_le job.batch
  have hheld : 0 < (ofBatch job.batch held).length := by
    apply List.length_pos_of_mem
    exact List.mem_filter.mpr ⟨hjob, decide_eq_true rfl⟩
  omega

/-- A batch whose counter is zero is completed. -/
theorem JobsAccounted.completed_of_zero (h : JobsAccounted shared held) {batch : Nat}
    {call : PoolCall}
    (hcall : shared.calls[batch]? = some call) (hzero : shared.remaining batch = 0)
    (hsent : shared.sent batch = call.requests) {request : TinyFileMaterializeRequest}
    (hrequest : request ∈ call.requests) :
    call.job batch request ∈ shared.completed := by
  have hcounter := h.counters batch call hcall
  rw [hzero, Nat.zero_add, ← hsent, PoolShared.sent, List.length_map] at hcounter
  have hsub : List.Subperm (ofBatch batch shared.completed) (ofBatch batch shared.enqueued) := by
    have htaken : List.Subperm shared.completed shared.taken := by
      refine List.Subperm.trans ?_ h.balance.symm.subperm
      rw [List.append_assoc]
      exact (List.sublist_append_left _ _).subperm
    have henqueued : List.Subperm shared.completed shared.enqueued := by
      refine htaken.trans ?_
      rw [h.fifo]
      exact (List.sublist_append_left _ _).subperm
    exact henqueued.filter _
  have hperm := hsub.perm_of_length_le (le_of_eq hcounter.symm)
  rw [← hsent, PoolShared.sent] at hrequest
  obtain ⟨found, hfound, hsame⟩ := List.mem_map.mp hrequest
  obtain ⟨henqueued, hbatch⟩ := List.mem_filter.mp hfound
  have hbatch : found.batch = batch := of_decide_eq_true hbatch
  obtain ⟨call', hcall', hpayload⟩ := h.known found henqueued
  rw [hbatch, hcall, Option.some.injEq] at hcall'
  have hjob : call.job batch request = found := by
    unfold PoolCall.job
    rw [← hsame, hcall', ← hpayload, ← hbatch]
  rw [hjob]
  exact (List.mem_filter.mp (hperm.symm.subset hfound)).1

/-! ## Steps -/

theorem JobsAccounted.balance_fail (h : JobsAccounted shared ([job] ++ others)) :
    shared.taken.Perm (shared.completed ++ (shared.failed ++ [job]) ++ others) := by
  have hbalance := h.balance
  rw [← List.append_assoc] at hbalance ⊢
  exact hbalance

/-- A held job that is counted is completed. -/
theorem JobsAccounted.count (h : JobsAccounted shared ([job] ++ others)) :
    JobsAccounted { shared with
      remaining := Function.update shared.remaining job.batch (shared.remaining job.batch - 1)
      completed := shared.completed ++ [job] } others := by
  have hpositive := h.remaining_ne_zero (List.mem_append_left _ List.mem_cons_self)
  refine ⟨h.fifo, ?_, h.known, h.sent, ?_⟩
  · refine h.balance.trans ?_
    show (shared.completed ++ shared.failed ++ ([job] ++ others)).Perm
      (shared.completed ++ [job] ++ shared.failed ++ others)
    rw [List.append_assoc, List.append_assoc, List.append_assoc]
    refine List.Perm.append_left _ ?_
    rw [← List.append_assoc, ← List.append_assoc]
    exact List.Perm.append_right _ List.perm_append_comm
  · intro batch call hcall
    have hcounter := h.counters batch call hcall
    show Function.update shared.remaining job.batch (shared.remaining job.batch - 1) batch +
      (ofBatch batch (shared.completed ++ [job])).length = call.requests.length
    rw [length_ofBatch_append]
    by_cases hbatch : batch = job.batch
    · have hone : (ofBatch batch [job]).length = 1 := by
        simp [ofBatch, hbatch]
      rw [hone, hbatch, Function.update_self]
      rw [hbatch] at hcounter
      omega
    · have hnone : (ofBatch batch [job]).length = 0 := by
        simp [ofBatch, Ne.symm hbatch]
      rw [hnone, Function.update_of_ne hbatch]
      omega

/-- A worker keeps the account. -/
theorem WorkerStep.accounted {worker worker' : PoolWorker}
    (hstep : WorkerStep (shared, worker) (shared', worker'))
    (h : JobsAccounted shared (worker.held ++ others)) :
    JobsAccounted shared' (worker'.held ++ others) := by
  cases hstep with
  | takes _ job queue hturn =>
    obtain ⟨_, _, hjobs, _, _⟩ := QueueState.takeJob_eq_job hturn
    refine ⟨?_, ?_, h.known, h.sent, h.counters⟩
    · show shared.enqueued = (shared.taken ++ [job]) ++ queue.jobs
      rw [h.fifo, hjobs, List.append_assoc, List.singleton_append]
    · show (shared.taken ++ [job]).Perm (shared.completed ++ shared.failed ++ ([job] ++ others))
      refine (h.balance.append_right [job]).trans ?_
      rw [List.append_assoc]
      exact List.Perm.append_left _ List.perm_append_comm
  | leaves => exact h
  | checks => exact h
  | creates => exact ⟨h.fifo, h.balance, h.known, h.sent, h.counters⟩
  | sizes => exact ⟨h.fifo, h.balance, h.known, h.sent, h.counters⟩
  | writes => exact ⟨h.fifo, h.balance, h.known, h.sent, h.counters⟩
  | replaces => exact ⟨h.fifo, h.balance, h.known, h.sent, h.counters⟩
  | writeFails _ _ job error node hworker =>
    have hheld : worker.held = [job] := by
      cases hworker with
      | inl hcreated => rw [hcreated]; rfl
      | inr hsized => rw [hsized]; rfl
    rw [hheld] at h
    exact ⟨h.fifo, h.balance, h.known, h.sent, h.counters⟩
  | stops => exact ⟨h.fifo, h.balance_fail, h.known, h.sent, h.counters⟩
  | createFails => exact ⟨h.fifo, h.balance_fail, h.known, h.sent, h.counters⟩
  | removes => exact ⟨h.fifo, h.balance_fail, h.known, h.sent, h.counters⟩
  | removeFails => exact ⟨h.fifo, h.balance_fail, h.known, h.sent, h.counters⟩
  | replaceFails => exact ⟨h.fifo, h.balance_fail, h.known, h.sent, h.counters⟩
  | counts => exact h.count
  | underflows _ job hzero =>
    exact absurd hzero (h.remaining_ne_zero (List.mem_append_left _ List.mem_cons_self))
  | records => exact ⟨h.fifo, h.balance, h.known, h.sent, h.counters⟩

end NetworkCopy
