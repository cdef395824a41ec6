import NetworkCopy.Pool.PartFiles

/-!
# Every interleaving of the pool

`PoolInvariant` holds at the start and after each step of a worker, a lane, `finish` or the rest of
the session.  `poolCorrect` reads off it what the callers of the pool rely on.
-/

namespace NetworkCopy

open FileTree

variable {shared shared' : PoolShared}

/-! ## Steps of a worker -/

/-- What a worker leaves alone. -/
theorem WorkerStep.frame {worker worker' : PoolWorker}
    (hstep : WorkerStep (shared, worker) (shared', worker')) :
    shared'.calls = shared.calls ∧ shared'.enqueued = shared.enqueued ∧
      shared'.queue.jobs.length ≤ shared.queue.jobs.length ∧
      (shared.queue.failure.isSome → shared'.queue.failure = shared.queue.failure) := by
  cases hstep with
  | takes _ job queue hturn =>
    obtain ⟨hnone, _, hjobs, _⟩ := QueueState.takeJob_eq_job hturn
    refine ⟨rfl, rfl, ?_, fun hfailure => ?_⟩
    · show queue.jobs.length ≤ shared.queue.jobs.length
      rw [hjobs, List.length_cons]
      omega
    · rw [hnone] at hfailure
      cases hfailure
  | records _ job error =>
    refine ⟨rfl, rfl, le_rfl, fun hfailure => ?_⟩
    obtain ⟨failure, hsome⟩ := Option.isSome_iff_exists.mp hfailure
    show some (shared.queue.failure.getD (SharedError.fromError error)) = shared.queue.failure
    rw [hsome]
    rfl
  | leaves => exact ⟨rfl, rfl, le_rfl, fun _ => rfl⟩
  | checks => exact ⟨rfl, rfl, le_rfl, fun _ => rfl⟩
  | stops => exact ⟨rfl, rfl, le_rfl, fun _ => rfl⟩
  | creates => exact ⟨rfl, rfl, le_rfl, fun _ => rfl⟩
  | createFails => exact ⟨rfl, rfl, le_rfl, fun _ => rfl⟩
  | sizes => exact ⟨rfl, rfl, le_rfl, fun _ => rfl⟩
  | writes => exact ⟨rfl, rfl, le_rfl, fun _ => rfl⟩
  | writeFails => exact ⟨rfl, rfl, le_rfl, fun _ => rfl⟩
  | removes => exact ⟨rfl, rfl, le_rfl, fun _ => rfl⟩
  | removeFails => exact ⟨rfl, rfl, le_rfl, fun _ => rfl⟩
  | replaces => exact ⟨rfl, rfl, le_rfl, fun _ => rfl⟩
  | replaceFails => exact ⟨rfl, rfl, le_rfl, fun _ => rfl⟩
  | counts => exact ⟨rfl, rfl, le_rfl, fun _ => rfl⟩
  | underflows => exact ⟨rfl, rfl, le_rfl, fun _ => rfl⟩

/-- The worker is about to record a failure. -/
def PoolWorker.IsFailing (worker : PoolWorker) : Prop := ∃ job error, worker = .failing job error

/-- A failed job is in the failure of the queue or with a worker that is about to record it. -/
theorem WorkerStep.failures {worker worker' : PoolWorker} {elsewhere : Prop}
    (hstep : WorkerStep (shared, worker) (shared', worker'))
    (h : shared.failed ≠ [] → shared.queue.failure.isSome ∨ worker.IsFailing ∨ elsewhere) :
    shared'.failed ≠ [] → shared'.queue.failure.isSome ∨ worker'.IsFailing ∨ elsewhere := by
  have hquiet : ¬ worker.IsFailing → shared'.failed = shared.failed →
      (shared.queue.failure.isSome → shared'.queue.failure.isSome) →
      shared'.failed ≠ [] → shared'.queue.failure.isSome ∨ worker'.IsFailing ∨ elsewhere := by
    intro hnot hsame hfailure hfailed
    rw [hsame] at hfailed
    cases h hfailed with
    | inl hrecorded => exact .inl (hfailure hrecorded)
    | inr hothers =>
      cases hothers with
      | inl hmine => exact absurd hmine hnot
      | inr hthere => exact .inr (.inr hthere)
  have hfails : ∀ job error, worker' = .failing job error →
      shared'.failed ≠ [] → shared'.queue.failure.isSome ∨ worker'.IsFailing ∨ elsewhere :=
    fun job error hworker _ => .inr (.inl ⟨job, error, hworker⟩)
  cases hstep with
  | takes _ job queue hturn =>
    obtain ⟨hnone, _⟩ := QueueState.takeJob_eq_job hturn
    refine hquiet (fun hfailing => ?_) rfl (fun hsome => ?_)
    · obtain ⟨_, _, habsurd⟩ := hfailing
      cases habsurd
    · rw [hnone] at hsome
      cases hsome
  | records => exact fun _ => .inl rfl
  | leaves => exact hquiet (fun ⟨_, _, habsurd⟩ => by cases habsurd) rfl id
  | checks => exact hquiet (fun ⟨_, _, habsurd⟩ => by cases habsurd) rfl id
  | creates => exact hquiet (fun ⟨_, _, habsurd⟩ => by cases habsurd) rfl id
  | sizes => exact hquiet (fun ⟨_, _, habsurd⟩ => by cases habsurd) rfl id
  | writes => exact hquiet (fun ⟨_, _, habsurd⟩ => by cases habsurd) rfl id
  | replaces => exact hquiet (fun ⟨_, _, habsurd⟩ => by cases habsurd) rfl id
  | counts => exact hquiet (fun ⟨_, _, habsurd⟩ => by cases habsurd) rfl id
  | writeFails _ _ job error node hworker =>
    refine hquiet (fun hfailing => ?_) rfl id
    obtain ⟨_, _, hsame⟩ := hfailing
    rw [hsame] at hworker
    cases hworker with
    | inl habsurd => cases habsurd
    | inr habsurd => cases habsurd
  | stops _ job => exact hfails job _ rfl
  | createFails _ job error => exact hfails job error rfl
  | removes _ job error => exact hfails job error rfl
  | removeFails _ job error => exact hfails job error rfl
  | replaceFails _ job error => exact hfails job error rfl
  | underflows _ job => exact hfails job _ rfl

/-! ## Steps of a lane -/

/-- The batch of a lane in a call. -/
def PoolLane.batches : PoolLane → List Nat
  | .idle => []
  | .sending _ batch _ => [batch]

/-- The lane has queued the requests of its call up to those that are left. -/
def PoolLane.Sends (shared : PoolShared) : PoolLane → Prop
  | .idle => True
  | .sending call batch rest =>
      shared.calls[batch]? = some call ∧ shared.sent batch ++ rest = call.requests

theorem sent_append (shared : PoolShared) (call : PoolCall) (batch other : Nat)
    (request : TinyFileMaterializeRequest) :
    (ofBatch other (shared.enqueued ++ [call.job batch request])).map MaterializeJob.request =
      shared.sent other ++ (if batch = other then [request] else []) := by
  unfold PoolShared.sent ofBatch
  rw [List.filter_append, List.map_append]
  by_cases hbatch : batch = other
  · simp [hbatch, PoolCall.job]
  · have hne : ¬ (call.job batch request).batch = other := hbatch
    simp [hbatch, hne]

/-- No job belongs to a call that has not begun. -/
theorem JobsAccounted.sent_new {held : List MaterializeJob} (h : JobsAccounted shared held) :
    ofBatch shared.calls.length shared.enqueued = [] ∧
      ofBatch shared.calls.length shared.completed = [] := by
  have hnone : ∀ job ∈ shared.enqueued, job.batch ≠ shared.calls.length := by
    intro job hjob hbatch
    obtain ⟨call, hcall, _⟩ := h.known job hjob
    rw [hbatch, List.getElem?_eq_none le_rfl] at hcall
    cases hcall
  have hfilter : ∀ jobs : List MaterializeJob, (∀ job ∈ jobs, job ∈ shared.enqueued) →
      ofBatch shared.calls.length jobs = [] := by
    intro jobs hjobs
    unfold ofBatch
    rw [List.filter_eq_nil_iff]
    intro job hjob hbatch
    exact hnone job (hjobs job hjob) (of_decide_eq_true hbatch)
  refine ⟨hfilter _ (fun _ => id), hfilter _ (fun job hjob => ?_)⟩
  rw [h.fifo]
  apply List.mem_append_left
  apply h.balance.symm.subset
  rw [List.append_assoc]
  exact List.mem_append_left _ hjob

theorem LaneStep.accounted {queueCapacity : Nat} {lane lane' : PoolLane}
    {event : Option PoolReturn} {held : List MaterializeJob}
    (hstep : LaneStep queueCapacity (shared, lane) event (shared', lane'))
    (hlane : lane.Sends shared) (h : JobsAccounted shared held) : JobsAccounted shared' held := by
  cases hstep with
  | empty => exact h
  | rejects => exact h
  | returns => exact h
  | begins _ call =>
    obtain ⟨hsent, hcompleted⟩ := h.sent_new
    refine ⟨h.fifo, h.balance, ?_, ?_, ?_⟩
    · intro job hjob
      obtain ⟨found, hfound, hpayload⟩ := h.known job hjob
      refine ⟨found, ?_, hpayload⟩
      rw [List.getElem?_append_left (List.getElem?_eq_some_iff.mp hfound).1]
      exact hfound
    · intro batch found hfound
      by_cases hnew : batch = shared.calls.length
      · show (ofBatch batch shared.enqueued).map MaterializeJob.request <+: found.requests
        rw [hnew, hsent]
        exact List.nil_prefix
      · have hlt : batch < shared.calls.length := by
          have hlength := (List.getElem?_eq_some_iff.mp hfound).1
          rw [List.length_append, List.length_singleton] at hlength
          omega
        rw [List.getElem?_append_left hlt] at hfound
        exact h.sent batch found hfound
    · intro batch found hfound
      show Function.update shared.remaining shared.calls.length call.requests.length batch +
        (ofBatch batch shared.completed).length = found.requests.length
      by_cases hnew : batch = shared.calls.length
      · rw [hnew, List.getElem?_concat_length, Option.some.injEq] at hfound
        rw [hnew, Function.update_self, hcompleted, ← hfound]
        rfl
      · have hlt : batch < shared.calls.length := by
          have hlength := (List.getElem?_eq_some_iff.mp hfound).1
          rw [List.length_append, List.length_singleton] at hlength
          omega
        rw [List.getElem?_append_left hlt] at hfound
        rw [Function.update_of_ne hnew]
        exact h.counters batch found hfound
  | sends _ call batch request rest queue hturn =>
    obtain ⟨_, _, hqueue⟩ := QueueState.enqueue_eq_pushed hturn
    obtain ⟨hcall, hrest⟩ := hlane
    refine ⟨?_, h.balance, ?_, ?_, h.counters⟩
    · show shared.enqueued ++ [call.job batch request] = shared.taken ++ queue.jobs
      rw [hqueue, h.fifo, List.append_assoc]
    · intro job hjob
      cases List.mem_append.mp hjob with
      | inl hbefore => exact h.known job hbefore
      | inr hnew =>
        rw [List.mem_singleton.mp hnew]
        exact ⟨call, hcall, rfl⟩
    · intro other found hfound
      show (ofBatch other (shared.enqueued ++ [call.job batch request])).map
        MaterializeJob.request <+: found.requests
      rw [sent_append]
      by_cases hbatch : batch = other
      · rw [if_pos hbatch]
        rw [hbatch] at hcall hrest
        have hsame : found = call := Option.some.inj (hfound.symm.trans hcall)
        rw [hsame, ← hrest]
        exact ⟨rest, by simp⟩
      · rw [if_neg hbatch, List.append_nil]
        exact h.sent other found hfound
  | sendFails _ call batch request rest queue error hturn =>
    obtain ⟨hjobs, _⟩ := QueueState.enqueue_eq_error hturn
    refine ⟨?_, h.balance, h.known, h.sent, h.counters⟩
    show shared.enqueued = shared.taken ++ queue.jobs
    rw [hjobs]
    exact h.fifo
  | waitFails _ call batch queue error hturn =>
    obtain ⟨hjobs, _⟩ := QueueState.waitForBatch_eq_error hturn
    refine ⟨?_, h.balance, h.known, h.sent, h.counters⟩
    show shared.enqueued = shared.taken ++ queue.jobs
    rw [hjobs]
    exact h.fifo

/-- What a lane does to the rest of the state. -/
theorem LaneStep.frame {queueCapacity : Nat} {lane lane' : PoolLane} {event : Option PoolReturn}
    (hstep : LaneStep queueCapacity (shared, lane) event (shared', lane')) :
    shared'.files = shared.files ∧ shared'.published = shared.published ∧
      shared'.completed = shared.completed ∧ shared'.failed = shared.failed ∧
      (∀ call ∈ shared.calls, call ∈ shared'.calls) ∧
      (shared.queue.jobs.length ≤ queueCapacity → shared'.queue.jobs.length ≤ queueCapacity) ∧
      (shared.queue.failure.isSome → shared'.queue.failure = shared.queue.failure) := by
  cases hstep with
  | empty => exact ⟨rfl, rfl, rfl, rfl, fun _ => id, id, fun _ => rfl⟩
  | rejects => exact ⟨rfl, rfl, rfl, rfl, fun _ => id, id, fun _ => rfl⟩
  | returns => exact ⟨rfl, rfl, rfl, rfl, fun _ => id, id, fun _ => rfl⟩
  | begins => exact ⟨rfl, rfl, rfl, rfl, fun _ => List.mem_append_left _, id, fun _ => rfl⟩
  | sends _ call batch request rest queue hturn =>
    obtain ⟨hnone, hroom, hqueue⟩ := QueueState.enqueue_eq_pushed hturn
    refine ⟨rfl, rfl, rfl, rfl, fun _ => id, fun _ => ?_, fun hsome => ?_⟩
    · show queue.jobs.length ≤ queueCapacity
      rw [hqueue, List.length_append, List.length_singleton]
      omega
    · rw [hnone] at hsome
      cases hsome
  | sendFails _ call batch request rest queue error hturn =>
    obtain ⟨hjobs, hfailure⟩ := QueueState.enqueue_eq_error hturn
    refine ⟨rfl, rfl, rfl, rfl, fun _ => id, fun hroom => ?_, hfailure⟩
    show queue.jobs.length ≤ queueCapacity
    rw [hjobs]
    exact hroom
  | waitFails _ call batch queue error hturn =>
    obtain ⟨hjobs, hfailure⟩ := QueueState.waitForBatch_eq_error hturn
    refine ⟨rfl, rfl, rfl, rfl, fun _ => id, fun hroom => ?_, hfailure⟩
    show queue.jobs.length ≤ queueCapacity
    rw [hjobs]
    exact hroom

theorem PartNamesApart.mono (hnames : PartNamesApart shared')
    (hcalls : ∀ call ∈ shared.calls, call ∈ shared'.calls) : PartNamesApart shared := by
  intro request other hrequest hother
  obtain ⟨call, hcall, hmem⟩ := hrequest
  obtain ⟨call', hcall', hmem'⟩ := hother
  exact hnames request other ⟨call, hcalls call hcall, hmem⟩ ⟨call', hcalls call' hcall', hmem'⟩

/-- A lane keeps what the lanes have sent. -/
theorem LaneStep.lane_sends {queueCapacity : Nat} {lane lane' : PoolLane}
    {event : Option PoolReturn} {held : List MaterializeJob}
    (hstep : LaneStep queueCapacity (shared, lane) event (shared', lane'))
    (haccount : JobsAccounted shared held) (hlane : lane.Sends shared) :
    lane'.Sends shared' ∧ (∀ batch ∈ lane'.batches, batch ∈ lane.batches ∨
      (batch = shared.calls.length ∧ lane = .idle)) ∧ lane'.batches.Nodup ∧
      ∀ other : PoolLane, other.Sends shared → (∀ batch ∈ other.batches, batch ∉ lane.batches) →
        other.Sends shared' := by
  cases hstep with
  | empty => exact ⟨trivial, fun _ => .inl, List.nodup_nil, fun _ h _ => h⟩
  | rejects => exact ⟨trivial, fun _ => .inl, List.nodup_nil, fun _ h _ => h⟩
  | returns =>
    exact ⟨trivial, by simp [PoolLane.batches], List.nodup_nil, fun _ h _ => h⟩
  | sendFails =>
    refine ⟨trivial, by simp [PoolLane.batches], List.nodup_nil, fun other h _ => ?_⟩
    cases other with
    | idle => trivial
    | sending call batch rest => exact h
  | waitFails =>
    refine ⟨trivial, by simp [PoolLane.batches], List.nodup_nil, fun other h _ => ?_⟩
    cases other with
    | idle => trivial
    | sending call batch rest => exact h
  | begins _ call =>
    refine ⟨⟨List.getElem?_concat_length, ?_⟩, fun batch hbatch => ?_, List.nodup_singleton _,
      fun other h _ => ?_⟩
    · show (ofBatch shared.calls.length shared.enqueued).map MaterializeJob.request ++
        call.requests = call.requests
      rw [haccount.sent_new.1]
      rfl
    · exact .inr ⟨List.mem_singleton.mp hbatch, rfl⟩
    · cases other with
      | idle => trivial
      | sending found batch rest =>
        obtain ⟨hfound, hrest⟩ := h
        refine ⟨?_, hrest⟩
        rw [List.getElem?_append_left (List.getElem?_eq_some_iff.mp hfound).1]
        exact hfound
  | sends _ call batch request rest =>
    obtain ⟨hcall, hrest⟩ := hlane
    refine ⟨⟨hcall, ?_⟩, fun _ => .inl, List.nodup_singleton _, fun other h hne => ?_⟩
    · show (ofBatch batch (shared.enqueued ++ [call.job batch request])).map
        MaterializeJob.request ++ rest = call.requests
      rw [sent_append, if_pos rfl, List.append_assoc]
      exact hrest
    · cases other with
      | idle => trivial
      | sending found batch' rest' =>
        obtain ⟨hfound, hrest'⟩ := h
        have hdifferent : batch ≠ batch' := by
          intro hsame
          exact hne batch' List.mem_cons_self (by rw [hsame]; exact List.mem_cons_self)
        refine ⟨hfound, ?_⟩
        show (ofBatch batch' (shared.enqueued ++ [call.job batch request])).map
          MaterializeJob.request ++ rest' = found.requests
        rw [sent_append, if_neg hdifferent, List.append_nil]
        exact hrest'

/-! ## The invariant -/

namespace PoolSystem

/-- What holds in every state of the pool. -/
structure PoolInvariant (workerCount : Nat) (system : PoolSystem) : Prop where
  account : JobsAccounted system.shared (system.workers.flatMap PoolWorker.held)
  disk : PartNamesApart system.shared → OnDisk system.shared system.workers
  sending : ∀ lane ∈ system.lanes, lane.Sends system.shared
  batches : (system.lanes.flatMap PoolLane.batches).Nodup
  capacity : system.shared.queue.jobs.length ≤ queueCapacity workerCount
  failures : system.shared.failed ≠ [] → system.shared.queue.failure.isSome ∨
    ∃ worker ∈ system.workers, worker.IsFailing
  finished : ∀ result, system.finisher = .finished result →
    (∀ worker ∈ system.workers, ∃ value, worker = .returned value) ∧
      (result = .ok () → system.shared.failed = [])

theorem poolInvariant_start (workerCount laneCount : Nat) (files : FileTree) :
    PoolInvariant workerCount (start workerCount laneCount files) := by
  have hready : ∀ worker ∈ List.replicate workerCount PoolWorker.ready, worker = .ready :=
    fun worker hworker => List.eq_of_mem_replicate hworker
  have hidle : ∀ lane ∈ List.replicate laneCount PoolLane.idle, lane = .idle :=
    fun lane hlane => List.eq_of_mem_replicate hlane
  have hheld : (List.replicate workerCount PoolWorker.ready).flatMap PoolWorker.held = [] := by
    rw [List.flatMap_eq_nil_iff]
    intro worker hworker
    rw [hready worker hworker]
    rfl
  have hbatches : (List.replicate laneCount PoolLane.idle).flatMap PoolLane.batches = [] := by
    rw [List.flatMap_eq_nil_iff]
    intro lane hlane
    rw [hidle lane hlane]
    rfl
  constructor
  · show JobsAccounted _ ((List.replicate workerCount PoolWorker.ready).flatMap PoolWorker.held)
    rw [hheld]
    exact ⟨rfl, List.Perm.nil, by simp [start], by simp [start], by simp [start]⟩
  · intro _
    refine ⟨?_, ?_, by simp [start], by simp [start], ?_⟩
    · intro worker hworker
      rw [hready worker hworker]
      trivial
    · refine List.pairwise_replicate.mpr (.inr ?_)
      intro job hjob
      cases hjob
    · intro path content hlast
      obtain ⟨front, rest, hsplit, _⟩ := hlast
      simp [start] at hsplit
  · intro lane hlane
    rw [hidle lane hlane]
    trivial
  · show ((List.replicate laneCount PoolLane.idle).flatMap PoolLane.batches).Nodup
    rw [hbatches]
    exact List.nodup_nil
  · exact Nat.zero_le _
  · intro hfailed
    exact absurd rfl hfailed
  · intro result habsurd
    cases habsurd

variable {workerCount : Nat} {system system' : PoolSystem} {event : Option PoolReturn}

theorem PoolInvariant.worker {left right : List PoolWorker} {worker worker' : PoolWorker}
    {lanes : List PoolLane} {finisher : PoolFinisher}
    (h : PoolInvariant workerCount ⟨shared, left ++ worker :: right, lanes, finisher⟩)
    (hstep : WorkerStep (shared, worker) (shared', worker')) :
    PoolInvariant workerCount ⟨shared', left ++ worker' :: right, lanes, finisher⟩ := by
  obtain ⟨hcalls, henqueued, hjobs, _⟩ := hstep.frame
  have hfront : (left ++ worker :: right).Perm (worker :: (left ++ right)) := List.perm_middle
  have hfront' : (left ++ worker' :: right).Perm (worker' :: (left ++ right)) := List.perm_middle
  have haccount : JobsAccounted shared ((worker :: (left ++ right)).flatMap PoolWorker.held) :=
    h.account.perm (hfront.flatMap_right _)
  have hsubmitted : ∀ request, shared'.Submitted request ↔ shared.Submitted request := by
    intro request
    unfold PoolShared.Submitted
    rw [hcalls]
  constructor
  · exact (hstep.accounted haccount).perm (hfront'.flatMap_right _).symm
  · intro hnames
    have hbefore : PartNamesApart shared := fun request other hrequest hother =>
      hnames request other ((hsubmitted request).mpr hrequest) ((hsubmitted other).mpr hother)
    have hdisk := (h.disk hbefore).perm hfront
    exact (hstep.onDisk hbefore haccount hdisk).perm hfront'.symm
  · intro lane hlane
    have hsends := h.sending lane hlane
    cases lane with
    | idle => trivial
    | sending call batch rest =>
      obtain ⟨hcall, hrest⟩ := hsends
      unfold PoolShared.sent at hrest
      refine ⟨by rw [hcalls]; exact hcall, ?_⟩
      unfold PoolShared.sent
      rw [henqueued]
      exact hrest
  · exact h.batches
  · exact hjobs.trans h.capacity
  · have hfailures : shared'.failed ≠ [] → shared'.queue.failure.isSome ∨ worker'.IsFailing ∨
        ∃ other ∈ left ++ right, other.IsFailing := by
      apply hstep.failures
      intro hfailed
      cases h.failures hfailed with
      | inl hrecorded => exact .inl hrecorded
      | inr hfailing =>
        obtain ⟨other, hother, hthere⟩ := hfailing
        cases List.mem_cons.mp (hfront.mem_iff.mp hother) with
        | inl hsame =>
          rw [hsame] at hthere
          exact .inr (.inl hthere)
        | inr hmem => exact .inr (.inr ⟨other, hmem, hthere⟩)
    intro hfailed
    cases hfailures hfailed with
    | inl hrecorded => exact .inl hrecorded
    | inr hfailing =>
      cases hfailing with
      | inl hmine =>
        exact .inr ⟨worker', hfront'.mem_iff.mpr List.mem_cons_self, hmine⟩
      | inr hothers =>
        obtain ⟨other, hother, hthere⟩ := hothers
        exact .inr ⟨other, hfront'.mem_iff.mpr (List.mem_cons_of_mem _ hother), hthere⟩
  · -- A worker that has returned takes no step.
    intro result hresult
    exfalso
    obtain ⟨hreturned, _⟩ := h.finished result hresult
    obtain ⟨value, hvalue⟩ := hreturned worker (hfront.mem_iff.mpr List.mem_cons_self)
    rw [hvalue] at hstep
    cases hstep with
    | writeFails _ _ _ _ _ hworker =>
      cases hworker with
      | inl habsurd => cases habsurd
      | inr habsurd => cases habsurd

theorem PoolInvariant.lane {left right : List PoolLane} {lane lane' : PoolLane}
    {workers : List PoolWorker} {finisher : PoolFinisher}
    (h : PoolInvariant workerCount ⟨shared, workers, left ++ lane :: right, finisher⟩)
    (hstep : LaneStep (queueCapacity workerCount) (shared, lane) event (shared', lane')) :
    PoolInvariant workerCount ⟨shared', workers, left ++ lane' :: right, finisher⟩ := by
  obtain ⟨hfiles, hpublished, hcompleted, hfailed, hcalls, hroom, hfailure⟩ := hstep.frame
  have hfront : (left ++ lane :: right).Perm (lane :: (left ++ right)) := List.perm_middle
  have hfront' : (left ++ lane' :: right).Perm (lane' :: (left ++ right)) := List.perm_middle
  have hlane : lane.Sends shared := h.sending lane (hfront.mem_iff.mpr List.mem_cons_self)
  obtain ⟨hmine, hbatches, hone, hothers⟩ := hstep.lane_sends h.account hlane
  have hnodup := (hfront.flatMap_right PoolLane.batches).nodup_iff.mp h.batches
  rw [List.flatMap_cons, List.nodup_append] at hnodup
  obtain ⟨_, hrest, hdisjoint⟩ := hnodup
  constructor
  · exact hstep.accounted hlane h.account
  · intro hnames
    refine (h.disk (hnames.mono hcalls)).frame ?_ ?_ hpublished
      (fun job hjob => .inl (by rw [← hcompleted]; exact hjob)) hcalls
    · intro worker _ job _
      rw [hfiles]
    · intro entry _
      rw [hfiles]
  · intro other hother
    cases List.mem_cons.mp (hfront'.mem_iff.mp hother) with
    | inl hsame =>
      rw [hsame]
      exact hmine
    | inr hmem =>
      refine hothers other (h.sending other (hfront.mem_iff.mpr (List.mem_cons_of_mem _ hmem))) ?_
      intro batch hbatch hsame
      exact hdisjoint batch hsame batch (List.mem_flatMap.mpr ⟨other, hmem, hbatch⟩) rfl
  · apply (hfront'.flatMap_right PoolLane.batches).nodup_iff.mpr
    rw [List.flatMap_cons, List.nodup_append]
    refine ⟨hone, hrest, ?_⟩
    intro batch hbatch other hother hsame
    cases hbatches batch hbatch with
    | inl hold => exact hdisjoint batch hold other hother hsame
    | inr hnew =>
      obtain ⟨found, hfound, hmem⟩ := List.mem_flatMap.mp hother
      have hsends := h.sending found (hfront.mem_iff.mpr (List.mem_cons_of_mem _ hfound))
      cases found with
      | idle => cases hmem
      | sending call batch' rest =>
        obtain ⟨hcall, _⟩ := hsends
        rw [← List.mem_singleton.mp hmem, ← hsame, hnew.1,
          List.getElem?_eq_none le_rfl] at hcall
        cases hcall
  · exact hroom h.capacity
  · intro hsome
    have hsome' : shared.failed ≠ [] := by
      rw [← hfailed]
      exact hsome
    cases h.failures hsome' with
    | inl hrecorded =>
      left
      show shared'.queue.failure.isSome
      rw [hfailure hrecorded]
      exact hrecorded
    | inr hfailing => exact .inr hfailing
  · intro result hresult
    obtain ⟨hreturned, hnone⟩ := h.finished result hresult
    refine ⟨hreturned, fun hok => ?_⟩
    show shared'.failed = []
    rw [hfailed]
    exact hnone hok

/-- Every step keeps the invariant. -/
theorem PoolInvariant.step (h : PoolInvariant workerCount system)
    (hstep : Step workerCount system event system') : PoolInvariant workerCount system' := by
  cases hstep with
  | worker _ _ left right worker worker' lanes finisher hworker => exact h.worker hworker
  | lane _ _ workers left right lane lane' finisher _ hlane => exact h.lane hlane
  | cancels shared workers lanes finisher =>
    refine ⟨?_, fun hnames => ?_, h.sending, h.batches, h.capacity, h.failures, h.finished⟩
    · exact ⟨h.account.fifo, h.account.balance, h.account.known, h.account.sent,
        h.account.counters⟩
    · exact (h.disk hnames).frame (fun _ _ _ _ => rfl) (fun _ _ => rfl) rfl (fun _ => .inl)
        (fun _ => id)
  | elsewhere shared workers lanes finisher path node hpath =>
    refine ⟨?_, fun hnames => ?_, h.sending, h.batches, h.capacity, h.failures, h.finished⟩
    · exact ⟨h.account.fifo, h.account.balance, h.account.known, h.account.sent,
        h.account.counters⟩
    · have hdisk := h.disk hnames
      have hstays : ∀ other, Names shared.calls other →
          (shared.files.set path node).contentAt other = shared.files.contentAt other := by
        intro other hother
        unfold contentAt
        rw [set_ne]
        intro hsame
        rw [hsame] at hother
        exact hpath hother
      refine hdisk.frame (fun worker hworker job hjob => ?_) (fun entry hentry => ?_) rfl
        (fun _ => .inl) (fun _ => id)
      · apply hstays
        obtain ⟨call, hcall, hrequest⟩ := h.account.submitted
          (List.mem_flatMap.mpr ⟨worker, hworker, PoolWorker.held_of_owned hjob⟩)
        exact ⟨call, hcall, job.request, hrequest, .inr rfl⟩
      · apply hstays
        obtain ⟨request, ⟨call, hcall, hrequest⟩, hsame⟩ := hdisk.paths entry hentry
        exact ⟨call, hcall, request, hrequest, .inl hsame.symm⟩
  | shutsDown shared workers lanes =>
    refine ⟨?_, fun hnames => ?_, h.sending, h.batches, h.capacity, h.failures, ?_⟩
    · exact ⟨h.account.fifo, h.account.balance, h.account.known, h.account.sent,
        h.account.counters⟩
    · exact (h.disk hnames).frame (fun _ _ _ _ => rfl) (fun _ _ => rfl) rfl (fun _ => .inl)
        (fun _ => id)
    · intro result habsurd
      cases habsurd
  | joins shared results lanes =>
    refine ⟨h.account, h.disk, h.sending, h.batches, h.capacity, h.failures, ?_⟩
    intro result hresult
    have hreturned : ∀ worker ∈ results.map PoolWorker.returned, ∃ value,
        worker = .returned value := by
      intro worker hworker
      obtain ⟨value, _, hsame⟩ := List.mem_map.mp hworker
      exact ⟨value, hsame.symm⟩
    refine ⟨hreturned, fun hok => ?_⟩
    by_contra hfailed
    cases h.failures hfailed with
    | inl hrecorded =>
      obtain ⟨failure, hsome⟩ := Option.isSome_iff_exists.mp hrecorded
      cases hresult
      change shared.queue.failure = some failure at hsome
      unfold finishResult at hok
      rw [hsome] at hok
      cases hok
    | inr hfailing =>
      obtain ⟨worker, hworker, job, error, hsame⟩ := hfailing
      obtain ⟨value, hvalue⟩ := hreturned worker hworker
      rw [hvalue] at hsame
      cases hsame

theorem Reached.invariant {laneCount : Nat} {files : FileTree}
    (h : Reached workerCount laneCount files system) : PoolInvariant workerCount system := by
  induction h with
  | start => exact poolInvariant_start workerCount laneCount files
  | step _ hstep ih => exact ih.step hstep

end PoolSystem

end NetworkCopy
