import NetworkCopy.Management.JobSystem

/-!
# What the threads of the registry keep

`Move` says once what a step can do.  Three structures hold in every state of a run in which
the counter of the job IDs has not wrapped around: `Numbered` for the IDs, `Running` for the
slot and the workers, and `Recorded` for the published results.  Each is kept by each move.
-/

namespace NetworkCopy

open JobRegistryInner

/-! ## One slot for two roles -/

namespace JobRegistryInner

variable {Address : Type}
variable {inner : JobRegistryInner Address}

/-- The job in the slot, of whichever role. -/
def active (inner : JobRegistryInner Address) : Option (Worker Address) :=
  match inner.activeReceive with
  | some active => some ⟨.receive active.job, active.progress⟩
  | none => inner.activeSend.map fun active => ⟨.send active.job, active.progress⟩

/-- At most one of `active_receive` and `active_send` is set. -/
def OneSlot (inner : JobRegistryInner Address) : Prop :=
  inner.activeReceive = none ∨ inner.activeSend = none

theorem activeJobId_eq (inner : JobRegistryInner Address) :
    inner.activeJobId = inner.active.map fun worker => worker.job.jobId := by
  unfold activeJobId active
  cases inner.activeReceive with
  | some active => rfl
  | none => cases inner.activeSend <;> rfl

theorem checkIdle_eq_ok {u : Unit} :
    inner.checkIdle = .ok u ↔ inner.active = none := by
  unfold checkIdle
  rw [activeJobId_eq]
  cases inner.active <;> simp

theorem active_eq_none :
    inner.active = none ↔ inner.activeReceive = none ∧ inner.activeSend = none := by
  unfold active
  cases inner.activeReceive <;> simp

/-- The slot with a job in it. -/
def put (inner : JobRegistryInner Address) (worker : Worker Address) :
    JobRegistryInner Address :=
  match worker.job with
  | .receive job => { inner with activeReceive := some ⟨job, worker.progress⟩ }
  | .send job => { inner with activeSend := some ⟨job, worker.progress⟩ }

theorem fill_eq_ok {inner filled : JobRegistryInner Address} {job : ManagedJob Address}
    {progress : ProgressCounter} :
    inner.fill job progress = .ok filled ↔
      inner.active = none ∧ filled = inner.put ⟨job, progress⟩ := by
  unfold fill
  simp only [bind_eq_ok, checkIdle_eq_ok, exists_const]
  cases job <;> simp [put, eq_comm]

theorem active_put (h : inner.active = none) (worker : Worker Address) :
    (inner.put worker).active = some worker := by
  obtain ⟨hreceive, hsend⟩ := active_eq_none.mp h
  obtain ⟨job, progress⟩ := worker
  cases job <;> simp [put, active, hreceive]

theorem oneSlot_put (h : inner.active = none) (worker : Worker Address) :
    (inner.put worker).OneSlot := by
  obtain ⟨hreceive, hsend⟩ := active_eq_none.mp h
  obtain ⟨job, progress⟩ := worker
  cases job <;> simp [put, OneSlot, hreceive, hsend]

@[simp] theorem latestResult_put (inner : JobRegistryInner Address) (worker : Worker Address) :
    (inner.put worker).latestResult = inner.latestResult := by
  obtain ⟨job, progress⟩ := worker
  cases job <;> rfl

@[simp] theorem latestResult_takeSlot (inner : JobRegistryInner Address)
    (job : ManagedJob Address) : (inner.takeSlot job).latestResult = inner.latestResult := by
  cases job <;> rfl

/-- A job that matches is in the slot under its ID, and taking it empties the slot. -/
theorem matchesJob_eq_true (hone : inner.OneSlot) {job : ManagedJob Address}
    (h : inner.matchesJob job = true) :
    (∃ worker, inner.active = some worker ∧ worker.job.jobId = job.jobId) ∧
      (inner.takeSlot job).active = none := by
  unfold OneSlot at hone
  cases job with
  | receive job =>
    cases hreceive : inner.activeReceive with
    | none => simp [matchesJob, hreceive] at h
    | some found =>
      have hsend : inner.activeSend = none := by simpa [hreceive] using hone
      have hid : found.job.jobId = job.jobId := by simpa [matchesJob, hreceive] using h
      simp [active, hreceive, takeSlot, hsend, ManagedJob.jobId, hid]
  | send job =>
    cases hsend : inner.activeSend with
    | none => simp [matchesJob, hsend] at h
    | some found =>
      have hreceive : inner.activeReceive = none := by simpa [hsend] using hone
      have hid : found.job.jobId = job.jobId := by simpa [matchesJob, hsend] using h
      simp [active, hreceive, takeSlot, hsend, ManagedJob.jobId, hid]

/-- The job in the slot matches. -/
theorem matchesJob_of_active {worker : Worker Address} (h : inner.active = some worker) :
    inner.matchesJob worker.job = true := by
  unfold active at h
  cases hreceive : inner.activeReceive with
  | some found =>
    rw [hreceive] at h
    cases h
    simp [matchesJob, hreceive]
  | none =>
    rw [hreceive] at h
    cases hsend : inner.activeSend with
    | none => simp [hsend] at h
    | some found =>
      simp only [hsend, Option.map_some, Option.some.injEq] at h
      cases h
      simp [matchesJob, hsend]

theorem oneSlot_takeSlot (h : inner.OneSlot) (job : ManagedJob Address) :
    (inner.takeSlot job).OneSlot := by
  unfold OneSlot at h ⊢
  cases job with
  | receive job => exact .inl rfl
  | send job => exact .inr rfl

/-- `cancel` takes the job with the ID that it was asked for. -/
theorem takeCancelled_eq_ok {inner after : JobRegistryInner Address} {jobId : Nat}
    {cancelled : CancelledJob} (h : inner.takeCancelled jobId = .ok (cancelled, after)) :
    ∃ worker, inner.active = some worker ∧ worker.job.jobId = jobId ∧
      cancelled.progress = worker.progress ∧ after = inner.takeSlot worker.job := by
  unfold takeCancelled at h
  rw [activeJobId_eq] at h
  simp only [bind_eq_ok, okOrElse_eq_ok, ensure_eq_ok, exists_const] at h
  obtain ⟨existing, hactive, hid, h⟩ := h
  unfold active at hactive ⊢
  cases hreceive : inner.activeReceive with
  | some found =>
    simp only [hreceive, pure_eq_ok, Except.ok.injEq, Prod.mk.injEq] at h
    simp only [hreceive, Option.map_some, Option.some.injEq] at hactive
    refine ⟨_, rfl, hactive.trans hid, ?_, ?_⟩
    · rw [← h.1]
    · exact h.2.symm
  | none =>
    cases hsend : inner.activeSend with
    | none => simp [hreceive, hsend] at hactive
    | some found =>
      simp only [hreceive, hsend, pure_eq_ok, Except.ok.injEq, Prod.mk.injEq] at h
      simp only [hreceive, hsend, Option.map_some, Option.some.injEq] at hactive
      refine ⟨_, rfl, hactive.trans hid, ?_, ?_⟩
      · rw [← h.1]
      · simp [takeSlot, hreceive, ← h.2]

@[simp] theorem active_publishCancelled (inner : JobRegistryInner Address)
    (result : ManagementJobResult) : (inner.publishCancelled result).active = inner.active := rfl

end JobRegistryInner

/-! ## What a step can do -/

namespace Request

variable {Address : Type}

/-- The ID of a job that does not hold the slot yet. -/
def drawnId : Request Address → Option Nat
  | .drawn job _ => some job.jobId
  | _ => none

/-- The ID of a job whose thread has not been made, or could not be made. -/
def startingId : Request Address → Option Nat
  | .spawning job _ | .clearing job => some job.jobId
  | _ => none

/-- The ID of a job that `cancel` has taken and not published. -/
def cancelId : Request Address → Option Nat
  | .cancelling jobId _ | .publishing jobId _ _ => some jobId
  | _ => none

end Request

namespace JobSystem

variable {Address : Type}

@[simp] theorem goto_requests (s : JobSystem Address) (connection other : Nat)
    (place : Request Address) :
    (s.goto connection place).requests other =
      if other = connection then place else s.requests other := by
  simp [goto, Function.update_apply]

@[simp] theorem setInner_requests (s : JobSystem Address) (inner : JobRegistryInner Address) :
    (s.setInner inner).requests = s.requests := rfl

@[simp] theorem record_requests (s : JobSystem Address) (result : ManagementJobResult) :
    (s.record result).requests = s.requests := rfl

/-- A connection that is elsewhere keeps its place. -/
theorem goto_keeps {s : JobSystem Address} {connection other : Nat}
    {old before place : Request Address} (hbefore : s.requests connection = before)
    (hother : s.requests other = old) (hne : old ≠ before) :
    (s.goto connection place).requests other = old := by
  rw [goto_requests, if_neg]
  · exact hother
  · rintro rfl
    exact hne (hother.symm.trans hbefore)

/-- What a step does, with the checks that it has passed. -/
inductive Move (s : JobSystem Address) : JobSystem Address → Prop
  /-- A request is refused, or only reads. -/
  | stay : Move s s
  | check (connection : Nat) (request : JobRequest Address)
      (hplace : s.requests connection = .idle) : Move s (s.goto connection (.checked request))
  /-- A request fails before its job holds the slot. -/
  | leave (connection : Nat)
      (hplace : (∃ request, s.requests connection = .checked request) ∨
        ∃ job progress, s.requests connection = .drawn job progress) :
      Move s (s.goto connection .idle)
  /-- `fetch_add` gives an ID that is not zero. -/
  | draw (connection : Nat) (request : JobRequest Address) (port : Nat)
      (hplace : s.requests connection = .checked request)
      (hzero : s.registry.nextJobId ≠ 0) :
      Move s
        { s.goto connection
            (.drawn (request.makeJob s.registry.nextJobId port) ⟨s.counters + 1⟩) with
          registry := s.registry.fetchAdd.2
          counters := s.counters + 1
          drawnIds := s.registry.nextJobId :: s.drawnIds }
  | fill (connection : Nat) (worker : Worker Address)
      (hplace : s.requests connection = .drawn worker.job worker.progress)
      (hfree : s.inner.active = none) :
      Move s
        { (s.setInner (s.inner.put worker)).goto connection
            (.spawning worker.job worker.progress) with
          startedIds := worker.job.jobId :: s.startedIds }
  | spawn (connection : Nat) (worker : Worker Address)
      (hplace : s.requests connection = .spawning worker.job worker.progress) :
      Move s
        { s.goto connection .idle with
          workers := s.workers ++ [worker]
          spawnedIds := worker.job.jobId :: s.spawnedIds }
  | fail (connection : Nat) (worker : Worker Address)
      (hplace : s.requests connection = .spawning worker.job worker.progress) :
      Move s (s.goto connection (.clearing worker.job))
  | clear (connection : Nat) (job : ManagedJob Address)
      (hplace : s.requests connection = .clearing job) :
      Move s ((s.setInner (s.inner.clear job)).goto connection .idle)
  | cancel (connection : Nat) (worker : Worker Address)
      (cancelled : JobRegistryInner.CancelledJob)
      (hplace : s.requests connection = .idle) (hactive : s.inner.active = some worker)
      (hprogress : cancelled.progress = worker.progress) :
      Move s ((s.setInner (s.inner.takeSlot worker.job)).goto connection
        (.cancelling worker.job.jobId cancelled))
  | interrupt (connection jobId : Nat) (cancelled : JobRegistryInner.CancelledJob)
      (dataStreamCount : Nat) (hplace : s.requests connection = .cancelling jobId cancelled) :
      Move s
        { s.goto connection (.publishing jobId cancelled.role dataStreamCount) with
          flagged := cancelled.progress :: s.flagged }
  | publish (connection : Nat) (result : ManagementJobResult) (role : ManagementJobRole)
      (dataStreamCount : Nat)
      (hplace : s.requests connection = .publishing result.jobId role dataStreamCount) :
      Move s (((s.setInner (s.inner.publishCancelled result)).record result).goto
        connection .idle)
  /-- The worker of the job in the slot ends. -/
  | finish (index : Nat) (worker : Worker Address) (result : ManagementJobResult)
      (hworker : s.workers[index]? = some worker)
      (hmatches : s.inner.matchesJob worker.job = true)
      (hresult : result.jobId = worker.job.jobId) :
      Move s
        { (s.setInner { s.inner.takeSlot worker.job with latestResult := some result }).record
            result with
          workers := s.workers.eraseIdx index }
  /-- A worker ends whose job does not hold the slot. -/
  | vanish (index : Nat) (worker : Worker Address)
      (hworker : s.workers[index]? = some worker)
      (hmatches : s.inner.matchesJob worker.job = false) :
      Move s { s with workers := s.workers.eraseIdx index }

/-- The counter of the job IDs has not wrapped around when an ID is drawn from it. -/
def Unwrapped (s : JobSystem Address) : JobAction Address → Prop
  | .draw _ _ => s.registry.nextJobId ≠ 0
  | _ => True

theorem draw_move {s : JobSystem Address} {connection : Nat} {request : JobRequest Address}
    (hplace : s.requests connection = .checked request) (hzero : s.registry.nextJobId ≠ 0)
    (outcome : IoResult Nat) : Move s (s.draw connection request outcome) := by
  unfold draw
  split
  · exact .leave connection (.inl ⟨request, hplace⟩)
  · rename_i port _
    have hid : s.registry.fetchAdd.1 ≠ 0 := hzero
    simp only [hid, if_false]
    exact .draw connection request port hplace hzero

theorem fill_move {s : JobSystem Address} {connection : Nat} {job : ManagedJob Address}
    {progress : ProgressCounter} (hplace : s.requests connection = .drawn job progress) :
    Move s (s.fill connection job progress) := by
  unfold fill
  split
  · exact .leave connection (.inr ⟨job, progress, hplace⟩)
  · rename_i inner hfill
    obtain ⟨hfree, rfl⟩ := fill_eq_ok.mp hfill
    exact .fill connection ⟨job, progress⟩ hplace hfree

theorem cancel_move {s : JobSystem Address} {connection : Nat}
    (hplace : s.requests connection = .idle) (jobId : Nat) :
    Move s (s.cancel connection jobId) := by
  unfold cancel
  split
  · exact .stay
  split
  · exact .stay
  · rename_i cancelled inner htake
    obtain ⟨worker, hactive, rfl, hprogress, rfl⟩ :=
      takeCancelled_eq_ok htake
    exact .cancel connection worker cancelled hplace hactive hprogress

theorem finish_move {s : JobSystem Address} {index : Nat} {worker : Worker Address}
    (hworker : s.workers[index]? = some worker) (stored : IoResult (Option Nat))
    (outcome : IoResult TransferReport) : Move s (s.finish index worker stored outcome) := by
  unfold finish
  cases hmatches : s.inner.matchesJob worker.job with
  | true =>
    simp only [JobRegistryInner.finish, hmatches, if_true]
    exact .finish index worker _ hworker hmatches (ManagedJob.terminalResult_jobId _ _ _)
  | false =>
    simp only [JobRegistryInner.finish, hmatches, Bool.false_eq_true, if_false]
    exact .vanish index worker hworker hmatches

/-- Every step is a move. -/
theorem step_move {s next : JobSystem Address} {action : JobAction Address}
    (hunwrapped : s.Unwrapped action) (hstep : s.step action = some next) : Move s next := by
  cases action with
  | submit connection request =>
    cases hplace : s.requests connection <;> simp only [step, hplace, reduceCtorEq] at hstep
    simp only [Option.some.injEq] at hstep
    subst hstep
    unfold submit
    split
    · exact .stay
    · exact .check connection request hplace
  | draw connection outcome =>
    cases hplace : s.requests connection <;> simp only [step, hplace, reduceCtorEq] at hstep
    simp only [Option.some.injEq] at hstep
    subst hstep
    exact draw_move hplace hunwrapped outcome
  | fill connection =>
    cases hplace : s.requests connection <;> simp only [step, hplace, reduceCtorEq] at hstep
    simp only [Option.some.injEq] at hstep
    subst hstep
    exact fill_move hplace
  | spawn connection outcome =>
    cases hplace : s.requests connection <;> simp only [step, hplace, reduceCtorEq] at hstep
    rename_i job progress
    simp only [Option.some.injEq] at hstep
    subst hstep
    unfold spawn
    split
    · exact .fail connection ⟨job, progress⟩ hplace
    · exact .spawn connection ⟨job, progress⟩ hplace
  | clear connection =>
    cases hplace : s.requests connection <;> simp only [step, hplace, reduceCtorEq] at hstep
    simp only [Option.some.injEq] at hstep
    subst hstep
    exact .clear connection _ hplace
  | cancel connection jobId =>
    cases hplace : s.requests connection <;> simp only [step, hplace, reduceCtorEq] at hstep
    simp only [Option.some.injEq] at hstep
    subst hstep
    exact cancel_move hplace jobId
  | interrupt connection stored =>
    cases hplace : s.requests connection <;> simp only [step, hplace, reduceCtorEq] at hstep
    simp only [Option.some.injEq] at hstep
    subst hstep
    exact .interrupt connection _ _ _ hplace
  | publish connection =>
    cases hplace : s.requests connection <;> simp only [step, hplace, reduceCtorEq] at hstep
    simp only [Option.some.injEq] at hstep
    subst hstep
    exact .publish connection _ _ _ hplace
  | query connection =>
    cases hplace : s.requests connection <;> simp only [step, hplace, reduceCtorEq] at hstep
    simp only [Option.some.injEq] at hstep
    subst hstep
    exact .stay
  | finish index stored outcome =>
    cases hworker : s.workers[index]? with
    | none => simp [step, hworker] at hstep
    | some worker =>
      simp only [step, hworker, Option.some.injEq] at hstep
      subst hstep
      exact finish_move hworker stored outcome

instance (s : JobSystem Address) : DecidablePred s.Unwrapped
  | .draw _ _ => inferInstanceAs (Decidable (_ ≠ _))
  | .submit _ _ | .fill _ | .spawn _ _ | .clear _ | .cancel _ _ | .interrupt _ _ | .publish _
  | .query _ | .finish _ _ _ => inferInstanceAs (Decidable True)

/-! ## The IDs -/

/-- Every ID below this one has been drawn.  After the last `u64` the counter stands at zero. -/
def bound (s : JobSystem Address) : Nat :=
  if s.registry.nextJobId = 0 then u64Limit else s.registry.nextJobId

/-- An ID is drawn once, and holds the slot at most once. -/
structure Numbered (s : JobSystem Address) : Prop where
  limit : s.registry.nextJobId < u64Limit
  below : ∀ jobId ∈ s.drawnIds, jobId < s.bound
  increasing : s.drawnIds.Pairwise (· > ·)
  drawn : ∀ connection jobId, (s.requests connection).drawnId = some jobId →
    jobId ∈ s.drawnIds ∧ jobId ∉ s.startedIds
  drawn_unique : ∀ connection other jobId, (s.requests connection).drawnId = some jobId →
    (s.requests other).drawnId = some jobId → connection = other
  started : ∀ jobId ∈ s.startedIds, jobId ∈ s.drawnIds

theorem Numbered.init : Numbered (init : JobSystem Address) := by
  constructor <;> simp [JobSystem.init, Request.drawnId, u64Limit]

@[simp] theorem makeJob_jobId (request : JobRequest Address) (jobId port : Nat) :
    (request.makeJob jobId port).jobId = jobId := by
  cases request <;> rfl

/-- Only the place of one connection changes, and it has no drawn ID there. -/
theorem Numbered.goto {s : JobSystem Address} (h : Numbered s) (connection : Nat)
    (place : Request Address) (hplace : place.drawnId = none) :
    Numbered (s.goto connection place) := by
  constructor
  · exact h.limit
  · exact h.below
  · exact h.increasing
  · intro other jobId hother
    rw [goto_requests] at hother
    split at hother
    · rw [hplace] at hother
      cases hother
    · exact h.drawn other jobId hother
  · intro first second jobId hfirst hsecond
    rw [goto_requests] at hfirst hsecond
    split at hfirst
    · rw [hplace] at hfirst
      cases hfirst
    · split at hsecond
      · rw [hplace] at hsecond
        cases hsecond
      · exact h.drawn_unique first second jobId hfirst hsecond
  · exact h.started

theorem bound_fetchAdd {s : JobSystem Address} (hlimit : s.registry.nextJobId < u64Limit)
    (hzero : s.registry.nextJobId ≠ 0) :
    (if s.registry.fetchAdd.2.nextJobId = 0 then u64Limit else s.registry.fetchAdd.2.nextJobId) =
      s.bound + 1 := by
  have hnext : s.registry.fetchAdd.2.nextJobId = (s.registry.nextJobId + 1) % u64Limit := rfl
  unfold bound
  rw [if_neg hzero, hnext]
  by_cases hlast : s.registry.nextJobId + 1 = u64Limit
  · rw [hlast, Nat.mod_self, if_pos rfl]
  · rw [Nat.mod_eq_of_lt (by omega), if_neg (by omega)]

theorem Numbered.move {s next : JobSystem Address} (h : Numbered s) (hmove : Move s next) :
    Numbered next := by
  cases hmove with
  | stay => exact h
  | check connection request hplace => exact h.goto _ _ rfl
  | leave connection hplace => exact h.goto _ _ rfl
  | draw connection request port hplace hzero =>
    have hbound := bound_fetchAdd h.limit hzero
    have hnew : s.registry.nextJobId = s.bound := by
      rw [bound, if_neg hzero]
    have hfresh : s.registry.nextJobId ∉ s.drawnIds := fun hmem => by
      have := h.below _ hmem
      omega
    constructor
    · exact Nat.mod_lt _ (by simp [u64Limit])
    · intro jobId hmem
      have hlt : jobId < s.bound + 1 := by
        rcases List.mem_cons.mp hmem with rfl | hmem
        · omega
        · have := h.below jobId hmem
          omega
      exact hlt.trans_eq hbound.symm
    · refine List.pairwise_cons.mpr ⟨fun jobId hmem => ?_, h.increasing⟩
      have := h.below jobId hmem
      omega
    · intro other jobId hother
      simp only [goto_requests] at hother
      split at hother
      · simp only [Request.drawnId, makeJob_jobId, Option.some.injEq] at hother
        subst hother
        exact ⟨List.mem_cons_self, fun hmem => hfresh (h.started _ hmem)⟩
      · obtain ⟨hmem, hnot⟩ := h.drawn other jobId hother
        exact ⟨List.mem_cons_of_mem _ hmem, hnot⟩
    · intro first second jobId hfirst hsecond
      simp only [goto_requests] at hfirst hsecond
      split at hfirst <;> split at hsecond
      · omega
      · simp only [Request.drawnId, makeJob_jobId, Option.some.injEq] at hfirst
        subst hfirst
        exact absurd (h.drawn second _ hsecond).1 hfresh
      · simp only [Request.drawnId, makeJob_jobId, Option.some.injEq] at hsecond
        subst hsecond
        exact absurd (h.drawn first _ hfirst).1 hfresh
      · exact h.drawn_unique first second jobId hfirst hsecond
    · exact fun jobId hmem => List.mem_cons_of_mem _ (h.started jobId hmem)
  | fill connection worker hplace hfree =>
    have hown : (s.requests connection).drawnId = some worker.job.jobId := by
      rw [hplace]
      rfl
    have hgoto : Numbered ((s.setInner (s.inner.put worker)).goto connection
        (.spawning worker.job worker.progress)) :=
      Numbered.goto (s := s.setInner (s.inner.put worker)) ⟨h.limit, h.below, h.increasing,
        h.drawn, h.drawn_unique, h.started⟩ _ _ rfl
    refine { hgoto with drawn := ?_, started := ?_ }
    · intro other jobId hother
      obtain ⟨hmem, hnot⟩ := hgoto.drawn other jobId hother
      refine ⟨hmem, List.not_mem_cons_of_ne_of_not_mem ?_ hnot⟩
      rintro rfl
      simp only [goto_requests] at hother
      split at hother
      · cases hother
      · rename_i hne
        exact hne (h.drawn_unique other connection _ hother hown)
    · intro jobId hmem
      rcases List.mem_cons.mp hmem with rfl | hmem
      · exact (h.drawn connection _ hown).1
      · exact h.started jobId hmem
  | spawn connection worker hplace =>
    exact { h.goto connection .idle rfl with }
  | fail connection worker hplace => exact h.goto _ _ rfl
  | clear connection job hplace =>
    exact { h.goto connection .idle rfl with }
  | cancel connection worker cancelled hplace hactive hprogress =>
    exact { h.goto connection (.cancelling worker.job.jobId cancelled) rfl with }
  | interrupt connection jobId cancelled dataStreamCount hplace =>
    exact { h.goto connection (.publishing jobId cancelled.role dataStreamCount) rfl with }
  | publish connection result role dataStreamCount hplace =>
    exact { h.goto connection .idle rfl with }
  | finish index worker result hworker hmatches hresult => exact { h with }
  | vanish index worker hworker hmatches => exact { h with }

/-! ## The slot and the workers -/

/-- The worker lives, or its connection is about to start it or has failed to. -/
def Runs (s : JobSystem Address) (worker : Worker Address) : Prop :=
  worker ∈ s.workers ∨
    (∃ connection, s.requests connection = .spawning worker.job worker.progress) ∨
    ∃ connection, s.requests connection = .clearing worker.job

/-- A `cancel` has set the flag of the counter, or is about to. -/
def Asked (s : JobSystem Address) (progress : ProgressCounter) : Prop :=
  progress ∈ s.flagged ∨ ∃ connection jobId cancelled,
    s.requests connection = .cancelling jobId cancelled ∧ cancelled.progress = progress

theorem Asked.mono {s next : JobSystem Address} {progress : ProgressCounter}
    (h : s.Asked progress) (hflagged : s.flagged ⊆ next.flagged)
    (hrequests : ∀ connection jobId cancelled,
      s.requests connection = .cancelling jobId cancelled →
      cancelled.progress ∈ next.flagged ∨
        next.requests connection = .cancelling jobId cancelled) : next.Asked progress := by
  rcases h with hmem | ⟨connection, jobId, cancelled, hplace, rfl⟩
  · exact .inl (hflagged hmem)
  · rcases hrequests connection jobId cancelled hplace with hmem | hkept
    · exact .inl hmem
    · exact .inr ⟨connection, jobId, cancelled, hkept, rfl⟩

/-- The slot belongs to one job, and a worker without the slot has been asked to stop. -/
structure Running (s : JobSystem Address) : Prop where
  oneSlot : s.inner.OneSlot
  starting : ∀ connection jobId, (s.requests connection).startingId = some jobId →
    jobId ∈ s.startedIds ∧ jobId ∉ s.spawnedIds
  starting_unique : ∀ connection other jobId,
    (s.requests connection).startingId = some jobId →
    (s.requests other).startingId = some jobId → connection = other
  spawned : ∀ jobId ∈ s.spawnedIds, jobId ∈ s.startedIds
  live : ∀ worker ∈ s.workers, worker.job.jobId ∈ s.spawnedIds
  nodup : (s.workers.map fun worker => worker.job.jobId).Nodup
  slot : ∀ worker, s.inner.active = some worker → s.Runs worker
  asked : ∀ worker, worker ∈ s.workers ∨
      (∃ connection, s.requests connection = .spawning worker.job worker.progress) →
    s.inner.active = some worker ∨ s.Asked worker.progress

theorem Running.init : Running (init : JobSystem Address) := by
  constructor <;>
    simp [JobSystem.init, Request.startingId, OneSlot, JobSystem.inner,
      active]

/-- The live worker with the ID of the job in the slot is the worker of that job. -/
theorem Running.slot_live {s : JobSystem Address} (h : Running s)
    {worker other : Worker Address} (hactive : s.inner.active = some worker)
    (hlive : other ∈ s.workers) (hid : worker.job.jobId = other.job.jobId) :
    worker = other := by
  have hspawned := h.live other hlive
  rcases h.slot worker hactive with hworker | ⟨connection, hplace⟩ | ⟨connection, hplace⟩
  · exact List.inj_on_of_nodup_map h.nodup hworker hlive hid
  · exact absurd (hid ▸ hspawned) (h.starting connection _ (by rw [hplace]; rfl)).2
  · exact absurd (hid ▸ hspawned) (h.starting connection _ (by rw [hplace]; rfl)).2

/-- The place says nothing about a worker or about a `cancel` before its flag. -/
def Quiet : Request Address → Prop
  | .spawning _ _ | .clearing _ | .cancelling _ _ => False
  | _ => True

theorem Quiet.startingId_eq_none {place : Request Address} (h : Quiet place) :
    place.startingId = none := by
  cases place <;> first | rfl | cases h

/-- One connection goes from a quiet place to a quiet place. -/
theorem Running.goto {s next : JobSystem Address} (h : Running s) {connection : Nat}
    (place : Request Address) (hbefore : Quiet (s.requests connection)) (hafter : Quiet place)
    (hrequests : ∀ other, next.requests other =
      if other = connection then place else s.requests other)
    (hone : next.inner.OneSlot) (hactive : next.inner.active = s.inner.active)
    (hworkers : next.workers = s.workers) (hflagged : next.flagged = s.flagged)
    (hstarted : next.startedIds = s.startedIds) (hspawned : next.spawnedIds = s.spawnedIds) :
    Running next := by
  have hkeep : ∀ {other : Nat} {old : Request Address}, ¬ Quiet old →
      (next.requests other = old ↔ s.requests other = old) := by
    intro other old hold
    rw [hrequests]
    by_cases hsame : other = connection
    · subst hsame
      rw [if_pos rfl]
      constructor
      · rintro rfl
        exact absurd hafter hold
      · rintro rfl
        exact absurd hbefore hold
    · rw [if_neg hsame]
  have hstarting : ∀ {other jobId : Nat}, (next.requests other).startingId = some jobId →
      (s.requests other).startingId = some jobId := by
    intro other jobId hother
    rw [hrequests] at hother
    split at hother
    · rw [hafter.startingId_eq_none] at hother
      cases hother
    · exact hother
  have hspawning : ∀ job progress, ¬ Quiet (.spawning job progress : Request Address) :=
    fun _ _ => id
  have hclearing : ∀ job, ¬ Quiet (.clearing job : Request Address) := fun _ => id
  have hcancelling : ∀ jobId cancelled,
      ¬ Quiet (.cancelling jobId cancelled : Request Address) := fun _ _ => id
  constructor
  · exact hone
  · intro other jobId hother
    rw [hstarted, hspawned]
    exact h.starting other jobId (hstarting hother)
  · exact fun first second jobId hfirst hsecond =>
      h.starting_unique first second jobId (hstarting hfirst) (hstarting hsecond)
  · rw [hstarted, hspawned]
    exact h.spawned
  · rw [hworkers, hspawned]
    exact h.live
  · rw [hworkers]
    exact h.nodup
  · intro worker hslot
    rw [hactive] at hslot
    simpa only [Runs, hworkers, hkeep (hspawning _ _), hkeep (hclearing _)] using
      h.slot worker hslot
  · intro worker hworker
    rw [hworkers] at hworker
    simp only [hkeep (hspawning _ _)] at hworker
    rw [hactive]
    simpa only [Asked, hflagged, hkeep (hcancelling _ _)] using h.asked worker hworker

section Running

variable {s : JobSystem Address}
variable {worker : Worker Address} {connection : Nat}
variable {cancelled : CancelledJob} {place : Request Address}

/-- A connection that starts no job has no job that is starting. -/
theorem startingId_goto {connection other jobId : Nat} (hplace : place.startingId = none)
    (hother : ((s.goto connection place).requests other).startingId = some jobId) :
    other ≠ connection ∧ (s.requests other).startingId = some jobId := by
  rw [goto_requests] at hother
  split at hother
  · rw [hplace] at hother
    cases hother
  · rename_i hne
    exact ⟨hne, hother⟩

/-- A connection that starts no job is at no `spawning`. -/
theorem spawning_goto {connection other : Nat} {job : ManagedJob Address}
    {progress : ProgressCounter} (hplace : place.startingId = none)
    (hother : (s.goto connection place).requests other = .spawning job progress) :
    s.requests other = .spawning job progress := by
  rw [goto_requests] at hother
  split at hother
  · rw [hother] at hplace
    cases hplace
  · exact hother

/-- Nor does it make a worker start. -/
theorem starts_goto (hplace : place.startingId = none) (h : worker ∈ s.workers ∨ ∃ other,
      (s.goto connection place).requests other = .spawning worker.job worker.progress) :
    worker ∈ s.workers ∨ ∃ other, s.requests other = .spawning worker.job worker.progress :=
  h.imp id (fun ⟨other, hspawning⟩ => ⟨other, spawning_goto hplace hspawning⟩)

theorem Running.fill (h : Running s) (hnumbered : Numbered s)
    (hplace : s.requests connection = .drawn worker.job worker.progress)
    (hfree : s.inner.active = none) :
    Running { (s.setInner (s.inner.put worker)).goto connection
      (.spawning worker.job worker.progress) with
        startedIds := worker.job.jobId :: s.startedIds } := by
  have hnew : worker.job.jobId ∉ s.startedIds :=
    (hnumbered.drawn connection _ (by rw [hplace]; rfl)).2
  have hput := active_put hfree worker
  constructor
  · exact oneSlot_put hfree worker
  · intro other jobId hother
    simp only [goto_requests] at hother
    split at hother
    · simp only [Request.startingId, Option.some.injEq] at hother
      subst hother
      exact ⟨List.mem_cons_self, fun hmem => hnew (h.spawned _ hmem)⟩
    · obtain ⟨hmem, hnot⟩ := h.starting other jobId hother
      exact ⟨List.mem_cons_of_mem _ hmem, hnot⟩
  · intro first second jobId hfirst hsecond
    simp only [goto_requests] at hfirst hsecond
    split at hfirst <;> split at hsecond
    · omega
    · simp only [Request.startingId, Option.some.injEq] at hfirst
      subst hfirst
      exact absurd (h.starting second _ hsecond).1 hnew
    · simp only [Request.startingId, Option.some.injEq] at hsecond
      subst hsecond
      exact absurd (h.starting first _ hfirst).1 hnew
    · exact h.starting_unique first second jobId hfirst hsecond
  · exact fun jobId hmem => List.mem_cons_of_mem _ (h.spawned jobId hmem)
  · exact h.live
  · exact h.nodup
  · intro other hactive
    have hsame : worker = other := by
      have hactive : (s.inner.put worker).active = some other := hactive
      rw [hput] at hactive
      exact Option.some.inj hactive
    subst hsame
    exact .inr (.inl ⟨connection, by simp⟩)
  · intro other hother
    by_cases hsame : other = worker
    · subst hsame
      exact .inl hput
    -- Every other worker had no slot to hold.
    · have hbefore : other ∈ s.workers ∨
          ∃ connection, s.requests connection = .spawning other.job other.progress := by
        rcases hother with hlive | ⟨place, hspawning⟩
        · exact .inl hlive
        · simp only [goto_requests] at hspawning
          split at hspawning
          · simp only [Request.spawning.injEq] at hspawning
            exact absurd (Worker.ext hspawning.1.symm hspawning.2.symm) hsame
          · exact .inr ⟨place, hspawning⟩
      rcases h.asked other hbefore with hactive | hasked
      · rw [hfree] at hactive
        cases hactive
      · exact .inr (hasked.mono (List.Subset.refl _) fun place jobId cancelled hcancel =>
          .inr (goto_keeps (s := s.setInner _) hplace hcancel (by simp)))

theorem Running.spawn (h : Running s)
    (hplace : s.requests connection = .spawning worker.job worker.progress) :
    Running { s.goto connection .idle with
      workers := s.workers ++ [worker]
      spawnedIds := worker.job.jobId :: s.spawnedIds } := by
  have hown : (s.requests connection).startingId = some worker.job.jobId := by
    rw [hplace]
    rfl
  obtain ⟨hstarted, hnew⟩ := h.starting connection _ hown
  have hidle : (Request.idle : Request Address).startingId = none := rfl
  constructor
  · exact h.oneSlot
  · intro other jobId hother
    obtain ⟨hne, hother⟩ := startingId_goto hidle hother
    obtain ⟨hmem, hnot⟩ := h.starting other jobId hother
    refine ⟨hmem, List.not_mem_cons_of_ne_of_not_mem ?_ hnot⟩
    rintro rfl
    exact hne (h.starting_unique other connection _ hother hown)
  · exact fun first second jobId hfirst hsecond =>
      h.starting_unique first second jobId (startingId_goto hidle hfirst).2
        (startingId_goto hidle hsecond).2
  · intro jobId hmem
    rcases List.mem_cons.mp hmem with rfl | hmem
    · exact hstarted
    · exact h.spawned jobId hmem
  · intro other hmem
    rcases List.mem_append.mp hmem with hmem | hmem
    · exact List.mem_cons_of_mem _ (h.live other hmem)
    · rw [List.mem_singleton.mp hmem]
      exact List.mem_cons_self
  · rw [List.map_append, List.map_singleton]
    refine List.nodup_append.mpr ⟨h.nodup, List.nodup_singleton _, ?_⟩
    intro first hfirst second hsecond hsame
    obtain ⟨other, hother, rfl⟩ := List.mem_map.mp hfirst
    rw [List.mem_singleton.mp hsecond] at hsame
    exact hnew (hsame ▸ h.live other hother)
  · intro other hactive
    rcases h.slot other hactive with hlive | ⟨place, hspawning⟩ | ⟨place, hclearing⟩
    · exact .inl (List.mem_append_left _ hlive)
    · by_cases hsame : place = connection
      · subst hsame
        rw [hplace, Request.spawning.injEq] at hspawning
        refine .inl (List.mem_append_right _ ?_)
        exact List.mem_singleton.mpr (Worker.ext hspawning.1.symm hspawning.2.symm)
      · exact .inr (.inl ⟨place, by simpa [hsame] using hspawning⟩)
    · exact .inr (.inr ⟨place, goto_keeps hplace hclearing (by simp)⟩)
  · intro other hother
    have hbefore : other ∈ s.workers ∨
        ∃ connection, s.requests connection = .spawning other.job other.progress := by
      rcases hother with hlive | ⟨place, hspawning⟩
      · rcases List.mem_append.mp hlive with hlive | hlive
        · exact .inl hlive
        · rw [List.mem_singleton.mp hlive]
          exact .inr ⟨connection, hplace⟩
      · exact .inr ⟨place, spawning_goto hidle hspawning⟩
    refine (h.asked other hbefore).imp id fun hasked => ?_
    exact hasked.mono (List.Subset.refl _) fun place jobId cancelled hcancel =>
      .inr (goto_keeps hplace hcancel (by simp))

theorem Running.fail (h : Running s)
    (hplace : s.requests connection = .spawning worker.job worker.progress) :
    Running (s.goto connection (.clearing worker.job)) := by
  have hstarting : ∀ other,
      ((s.goto connection (.clearing worker.job)).requests other).startingId =
        (s.requests other).startingId := by
    intro other
    rw [goto_requests]
    split
    · rename_i hsame
      rw [hsame, hplace]
      rfl
    · rfl
  constructor
  · exact h.oneSlot
  · intro other jobId hother
    exact h.starting other jobId ((hstarting other).symm.trans hother)
  · intro first second jobId hfirst hsecond
    exact h.starting_unique first second jobId ((hstarting first).symm.trans hfirst)
      ((hstarting second).symm.trans hsecond)
  · exact h.spawned
  · exact h.live
  · exact h.nodup
  · intro other hactive
    rcases h.slot other hactive with hlive | ⟨place, hspawning⟩ | ⟨place, hclearing⟩
    · exact .inl hlive
    · by_cases hsame : place = connection
      · subst hsame
        rw [hplace, Request.spawning.injEq] at hspawning
        exact .inr (.inr ⟨place, by simp [hspawning.1]⟩)
      · exact .inr (.inl ⟨place, by simpa [hsame] using hspawning⟩)
    · exact .inr (.inr ⟨place, goto_keeps hplace hclearing (by simp)⟩)
  · intro other hother
    have hbefore : other ∈ s.workers ∨
        ∃ connection, s.requests connection = .spawning other.job other.progress := by
      refine hother.imp id ?_
      rintro ⟨place, hspawning⟩
      rw [goto_requests] at hspawning
      split at hspawning
      · cases hspawning
      · exact ⟨place, hspawning⟩
    refine (h.asked other hbefore).imp id fun hasked => ?_
    exact hasked.mono (List.Subset.refl _) fun place jobId cancelled hcancel =>
      .inr (goto_keeps hplace hcancel (by simp))

theorem Running.clear (h : Running s) {job : ManagedJob Address}
    (hplace : s.requests connection = .clearing job) :
    Running ((s.setInner (s.inner.clear job)).goto connection .idle) := by
  have hown : (s.requests connection).startingId = some job.jobId := by
    rw [hplace]
    rfl
  have hidle : (Request.idle : Request Address).startingId = none := rfl
  obtain ⟨-, hnew⟩ := h.starting connection _ hown
  -- No live worker has this ID, so no live worker loses the slot.
  have hactive : ∀ worker, worker.job.jobId ≠ job.jobId →
      ((s.inner.clear job).active = some worker ↔ s.inner.active = some worker) := by
    intro worker hne
    unfold JobRegistryInner.clear
    split
    · rename_i hmatches
      obtain ⟨⟨holder, hholder, hid⟩, hempty⟩ :=
        JobRegistryInner.matchesJob_eq_true h.oneSlot hmatches
      rw [hempty, hholder]
      simp only [reduceCtorEq, Option.some.injEq, false_iff]
      rintro rfl
      exact hne hid
    · rfl
  constructor
  · show (s.inner.clear job).OneSlot
    unfold JobRegistryInner.clear
    split
    · exact JobRegistryInner.oneSlot_takeSlot h.oneSlot job
    · exact h.oneSlot
  · exact fun other jobId hother =>
      h.starting other jobId (startingId_goto (s := s.setInner _) hidle hother).2
  · exact fun first second jobId hfirst hsecond =>
      h.starting_unique first second jobId (startingId_goto (s := s.setInner _) hidle hfirst).2
        (startingId_goto (s := s.setInner _) hidle hsecond).2
  · exact h.spawned
  · exact h.live
  · exact h.nodup
  · intro worker hslot
    have hslot : (s.inner.clear job).active = some worker := hslot
    have hne : worker.job.jobId ≠ job.jobId := by
      intro hid
      unfold JobRegistryInner.clear at hslot
      split at hslot
      · rename_i hmatches
        rw [(JobRegistryInner.matchesJob_eq_true h.oneSlot hmatches).2] at hslot
        cases hslot
      · rename_i hmatches
        have hrole := JobRegistryInner.matchesJob_of_active hslot
        -- The runner of this ID is the connection itself.
        rcases h.slot worker hslot with hlive | ⟨place, hspawning⟩ | ⟨place, hclearing⟩
        · exact hnew (hid ▸ h.live worker hlive)
        · have hsame := h.starting_unique place connection _ (by rw [hspawning]; rfl)
            (hid ▸ hown)
          rw [hsame, hplace] at hspawning
          cases hspawning
        · have hsame := h.starting_unique place connection _ (by rw [hclearing]; rfl)
            (hid ▸ hown)
          rw [hsame, hplace, Request.clearing.injEq] at hclearing
          exact hmatches (hclearing ▸ hrole)
    rcases h.slot worker ((hactive worker hne).mp hslot) with hlive | ⟨place, hspawning⟩ |
      ⟨place, hclearing⟩
    · exact .inl hlive
    · exact .inr (.inl ⟨place, goto_keeps (s := s.setInner _) hplace hspawning (by simp)⟩)
    · refine .inr (.inr ⟨place, ?_⟩)
      refine goto_keeps (s := s.setInner _) hplace hclearing ?_
      rw [ne_eq, Request.clearing.injEq]
      rintro rfl
      exact hne rfl
  · intro other hother
    have hbefore : other ∈ s.workers ∨
        ∃ connection, s.requests connection = .spawning other.job other.progress :=
      starts_goto (s := s.setInner _) hidle hother
    have hne : other.job.jobId ≠ job.jobId := by
      intro hid
      rcases hbefore with hlive | ⟨place, hspawning⟩
      · exact hnew (hid ▸ h.live other hlive)
      · have hsame := h.starting_unique place connection _ (by rw [hspawning]; rfl) (hid ▸ hown)
        rw [hsame, hplace] at hspawning
        cases hspawning
    refine (h.asked other hbefore).imp (hactive other hne).mpr fun hasked => ?_
    exact hasked.mono (List.Subset.refl _) fun place jobId cancelled hcancel =>
      .inr (goto_keeps (s := s.setInner _) hplace hcancel (by simp))

theorem Running.cancel (h : Running s) (hplace : s.requests connection = .idle)
    (hactive : s.inner.active = some worker) (hprogress : cancelled.progress = worker.progress) :
    Running ((s.setInner (s.inner.takeSlot worker.job)).goto connection
      (.cancelling worker.job.jobId cancelled)) := by
  have hempty := (matchesJob_eq_true h.oneSlot
    (matchesJob_of_active hactive)).2
  have hquiet : (Request.cancelling worker.job.jobId cancelled : Request Address).startingId =
    none := rfl
  constructor
  · exact oneSlot_takeSlot h.oneSlot worker.job
  · exact fun other jobId hother =>
      h.starting other jobId (startingId_goto (s := s.setInner _) hquiet hother).2
  · exact fun first second jobId hfirst hsecond =>
      h.starting_unique first second jobId (startingId_goto (s := s.setInner _) hquiet hfirst).2
        (startingId_goto (s := s.setInner _) hquiet hsecond).2
  · exact h.spawned
  · exact h.live
  · exact h.nodup
  · intro other hslot
    have hslot : (s.inner.takeSlot worker.job).active = some other := hslot
    rw [hempty] at hslot
    cases hslot
  · intro other hother
    have hbefore : other ∈ s.workers ∨
        ∃ connection, s.requests connection = .spawning other.job other.progress :=
      starts_goto (s := s.setInner _) hquiet hother
    rcases h.asked other hbefore with hslot | hasked
    · rw [hactive, Option.some.injEq] at hslot
      subst hslot
      exact .inr (.inr ⟨connection, worker.job.jobId, cancelled, by simp, hprogress⟩)
    · exact .inr (hasked.mono (List.Subset.refl _) fun place jobId old hcancel =>
        .inr (goto_keeps (s := s.setInner _) hplace hcancel (by simp)))

theorem Running.interrupt (h : Running s) {connection jobId : Nat} {dataStreamCount : Nat}
    (hplace : s.requests connection = .cancelling jobId cancelled) :
    Running { s.goto connection (.publishing jobId cancelled.role dataStreamCount) with
      flagged := cancelled.progress :: s.flagged } := by
  have hquiet : (Request.publishing jobId cancelled.role dataStreamCount :
    Request Address).startingId = none := rfl
  constructor
  · exact h.oneSlot
  · exact fun other id hother => h.starting other id (startingId_goto hquiet hother).2
  · exact fun first second id hfirst hsecond =>
      h.starting_unique first second id (startingId_goto hquiet hfirst).2
        (startingId_goto hquiet hsecond).2
  · exact h.spawned
  · exact h.live
  · exact h.nodup
  · intro worker hslot
    rcases h.slot worker hslot with hlive | ⟨place, hspawning⟩ | ⟨place, hclearing⟩
    · exact .inl hlive
    · exact .inr (.inl ⟨place, goto_keeps hplace hspawning (by simp)⟩)
    · exact .inr (.inr ⟨place, goto_keeps hplace hclearing (by simp)⟩)
  · intro other hother
    have hbefore : other ∈ s.workers ∨
        ∃ connection, s.requests connection = .spawning other.job other.progress :=
      starts_goto hquiet hother
    refine (h.asked other hbefore).imp id fun hasked => ?_
    refine hasked.mono (List.subset_cons_self _ _) fun place id old hcancel => ?_
    by_cases hsame : place = connection
    · subst hsame
      rw [hplace, Request.cancelling.injEq] at hcancel
      rw [← hcancel.2]
      exact .inl List.mem_cons_self
    · exact .inr (by simpa [hsame] using hcancel)

/-- A worker that is not the one that ends lives on. -/
theorem mem_eraseIdx_of_ne {index : Nat} {worker other : Worker Address}
    (hworker : s.workers[index]? = some worker) (hlive : other ∈ s.workers)
    (hne : other ≠ worker) : other ∈ s.workers.eraseIdx index := by
  obtain ⟨place, hplace⟩ := List.mem_iff_getElem?.mp hlive
  refine List.mem_eraseIdx_iff_getElem?.mpr ⟨place, ?_, hplace⟩
  rintro rfl
  rw [hworker] at hplace
  exact hne (Option.some.inj hplace).symm

theorem Running.finish (h : Running s) {index : Nat} {result : ManagementJobResult}
    (hworker : s.workers[index]? = some worker)
    (hmatches : s.inner.matchesJob worker.job = true) :
    Running
      { (s.setInner { s.inner.takeSlot worker.job with latestResult := some result }).record
          result with
        workers := s.workers.eraseIdx index } := by
  obtain ⟨⟨holder, hholder, hid⟩, hempty⟩ :=
    matchesJob_eq_true h.oneSlot hmatches
  obtain rfl := h.slot_live hholder (List.mem_of_getElem? hworker) hid
  have hsub := List.eraseIdx_sublist s.workers index
  constructor
  · exact oneSlot_takeSlot h.oneSlot holder.job
  · exact h.starting
  · exact h.starting_unique
  · exact h.spawned
  · exact fun other hlive => h.live other (hsub.subset hlive)
  · exact h.nodup.sublist (hsub.map _)
  · intro other hslot
    have hslot : (s.inner.takeSlot holder.job).active = some other := hslot
    rw [hempty] at hslot
    cases hslot
  · intro other hother
    have hne : other ≠ holder := by
      rintro rfl
      rcases hother with hlive | ⟨place, hspawning⟩
      · obtain ⟨place, hne, hplace⟩ := List.mem_eraseIdx_iff_getElem?.mp hlive
        obtain ⟨hlt, -⟩ := List.getElem?_eq_some_iff.mp hplace
        exact hne ((List.getElem?_inj hlt (h.nodup.of_map _)).mp (hplace.trans hworker.symm))
      · have hspawning : s.requests place = .spawning other.job other.progress := hspawning
        exact (h.starting place _ (by rw [hspawning]; rfl)).2
          (h.live other (List.mem_of_getElem? hworker))
    rcases h.asked other (hother.imp (fun hlive => hsub.subset hlive) id) with hslot | hasked
    · rw [hholder, Option.some.injEq] at hslot
      exact absurd hslot.symm hne
    · exact .inr hasked

theorem Running.vanish (h : Running s) {index : Nat} (hworker : s.workers[index]? = some worker)
    (hmatches : s.inner.matchesJob worker.job = false) :
    Running { s with workers := s.workers.eraseIdx index } := by
  have hsub := List.eraseIdx_sublist s.workers index
  constructor
  · exact h.oneSlot
  · exact h.starting
  · exact h.starting_unique
  · exact h.spawned
  · exact fun other hlive => h.live other (hsub.subset hlive)
  · exact h.nodup.sublist (hsub.map _)
  · intro other hslot
    have hslot : s.inner.active = some other := hslot
    rcases h.slot other hslot with hlive | hspawning
    · refine .inl (mem_eraseIdx_of_ne hworker hlive ?_)
      rintro rfl
      rw [matchesJob_of_active hslot] at hmatches
      cases hmatches
    · exact .inr hspawning
  · exact fun other hother => h.asked other (hother.imp (fun hlive => hsub.subset hlive) id)

theorem Running.move {next : JobSystem Address} (h : Running s) (hnumbered : Numbered s)
    (hmove : Move s next) : Running next := by
  cases hmove with
  | stay => exact h
  | check connection request hplace =>
    exact h.goto (.checked request) (by rw [hplace]; trivial) trivial
      (goto_requests s connection · _) h.oneSlot rfl rfl rfl rfl rfl
  | leave connection hplace =>
    have hquiet : Quiet (s.requests connection) := by
      rcases hplace with ⟨request, hplace⟩ | ⟨job, progress, hplace⟩
      · rw [hplace]
        trivial
      · rw [hplace]
        trivial
    exact h.goto .idle hquiet trivial (goto_requests s connection · _) h.oneSlot rfl rfl rfl rfl
      rfl
  | draw connection request port hplace hzero =>
    exact h.goto (.drawn _ _) (by rw [hplace]; trivial) trivial
      (goto_requests s connection · _) h.oneSlot rfl rfl rfl rfl rfl
  | fill connection worker hplace hfree => exact h.fill hnumbered hplace hfree
  | spawn connection worker hplace => exact h.spawn hplace
  | fail connection worker hplace => exact h.fail hplace
  | clear connection job hplace => exact h.clear hplace
  | cancel connection worker cancelled hplace hactive hprogress =>
    exact h.cancel hplace hactive hprogress
  | interrupt connection jobId cancelled dataStreamCount hplace => exact h.interrupt hplace
  | publish connection result role dataStreamCount hplace =>
    exact h.goto .idle (by rw [hplace]; trivial) trivial
      (goto_requests s connection · _) h.oneSlot rfl rfl rfl rfl rfl
  | finish index worker result hworker hmatches hresult => exact h.finish hworker hmatches
  | vanish index worker hworker hmatches => exact h.vanish hworker hmatches

end Running

/-! ## Runs -/

theorem reaches_numbered {s : JobSystem Address} (h : Reaches Unwrapped s) : Numbered s := by
  induction h with
  | init => exact .init
  | step action _ hunwrapped hstep ih => exact ih.move (step_move hunwrapped hstep)

theorem reaches_running {s : JobSystem Address} (h : Reaches Unwrapped s) : Running s := by
  induction h with
  | init => exact .init
  | step action hreaches hunwrapped hstep ih =>
    exact ih.move (reaches_numbered hreaches) (step_move hunwrapped hstep)

theorem Reaches.run {Allowed : JobSystem Address → JobAction Address → Prop}
    {s next : JobSystem Address} (h : Reaches Allowed s) {actions : List (JobAction Address)}
    (hrun : s.run actions = some next) (hallowed : s.Along Allowed actions) :
    Reaches Allowed next := by
  induction actions generalizing s with
  | nil =>
    obtain rfl : s = next := Option.some.inj hrun
    exact h
  | cons action rest ih =>
    obtain ⟨hfirst, hrest⟩ := hallowed
    cases hstep : s.step action with
    | none => simp [JobSystem.run, hstep] at hrun
    | some middle =>
      simp only [JobSystem.run, hstep, Option.bind_some] at hrun
      simp only [hstep] at hrest
      exact ih (.step action h hfirst hstep) hrun hrest

/-- A sequence of steps that goes through reaches a state; `view` is what is seen of it. -/
theorem exists_reaches {α : Type} {Allowed : JobSystem Address → JobAction Address → Prop}
    (actions : List (JobAction Address)) (view : JobSystem Address → α) (value : α)
    (hrun : (init.run actions).map view = some value) (hallowed : init.Along Allowed actions) :
    ∃ s, init.run actions = some s ∧ Reaches Allowed s ∧ view s = value := by
  obtain ⟨s, hs, hview⟩ := Option.map_eq_some_iff.mp hrun
  exact ⟨s, hs, Reaches.init.run hs hallowed, hview⟩

/-- At most one live worker has not been asked to stop, and it is the worker of the job in the
slot.  When the registry is not busy, every live worker has been asked to stop. -/
theorem one_worker_unasked {s : JobSystem Address} (h : Reaches Unwrapped s) :
    (s.workers.Pairwise fun first second =>
        s.Asked first.progress ∨ s.Asked second.progress) ∧
      (∀ worker ∈ s.workers, ¬ s.Asked worker.progress → s.inner.active = some worker) ∧
      (s.registry.isBusy = false → ∀ worker ∈ s.workers, s.Asked worker.progress) := by
  have hrunning := reaches_running h
  have hholds : ∀ worker ∈ s.workers, s.inner.active = some worker ∨ s.Asked worker.progress :=
    fun worker hlive => hrunning.asked worker (.inl hlive)
  refine ⟨?_, fun worker hlive hnot => (hholds worker hlive).resolve_right hnot, ?_⟩
  · have hdistinct : s.workers.Pairwise fun first second => first ≠ second :=
      hrunning.nodup.of_map _
    refine hdistinct.imp_of_mem fun {first second} hfirst hsecond hne => ?_
    rcases hholds first hfirst with hslot | hasked
    · rcases hholds second hsecond with hother | hasked
      · rw [hslot] at hother
        exact absurd (Option.some.inj hother) hne
      · exact .inr hasked
    · exact .inl hasked
  · intro hidle worker hlive
    rcases hholds worker hlive with hslot | hasked
    · have hbusy : s.inner.activeJobId.isSome = false := hidle
      rw [JobRegistryInner.activeJobId_eq, hslot] at hbusy
      cases hbusy
    · exact hasked

/-- One connection starts a sender. -/
def startSender (connection : Nat) : List (JobAction String) :=
  [.submit connection (.startSend ⟨"192.168.1.20:7337", "C:\\Source", 4, 8, none, false⟩),
    .draw connection (.ok 0), .fill connection, .spawn connection (.ok ())]

/-- The job is cancelled, and a second sender is started before the first worker has ended. -/
def overlappingSenders : List (JobAction String) :=
  startSender 0 ++ [.cancel 0 1, .interrupt 0 (.ok none), .publish 0] ++ startSender 0

theorem two_senders_live :
    (∃ s, init.run overlappingSenders = some s ∧ Reaches (fun _ _ => True) s ∧
        s.workers.length = 2) ∧
      ∃ s, init.run (overlappingSenders.take 7) = some s ∧ Reaches (fun _ _ => True) s ∧
        (s.registry.isBusy, s.workers.length) = (false, 1) :=
  ⟨exists_reaches overlappingSenders (fun s => s.workers.length) 2 (by decide +kernel)
      (by decide +kernel),
    exists_reaches (overlappingSenders.take 7)
      (fun s => (s.registry.isBusy, s.workers.length)) (false, 1) (by decide +kernel)
      (by decide +kernel)⟩

theorem one_worker_unasked_overlapping :
    ∃ s, init.run overlappingSenders = some s ∧ Reaches Unwrapped s ∧ s.workers.length = 2 ∧
      s.workers.Pairwise fun first second =>
        s.Asked first.progress ∨ s.Asked second.progress := by
  obtain ⟨s, hrun, hreaches, hlength⟩ := exists_reaches overlappingSenders
    (fun s => s.workers.length) 2 (by decide +kernel)
    (show init.Along Unwrapped _ by decide +kernel)
  exact ⟨s, hrun, hreaches, hlength, (one_worker_unasked hreaches).1⟩

end JobSystem

end NetworkCopy
