import NetworkCopy.Management.JobExclusion

/-!
# The published results of the jobs

A job that holds the slot, or that `cancel` has taken out of it, is not settled.  A step settles
at most one job, and then it writes the result of that job to `latest_result`.  `Recorded` says
that no job is settled twice and that none is forgotten.

Which result stands last is a matter of order.  `cancel` empties the slot in one section and
writes the result in a later one, and a request draws its ID before it fills the slot.  In
between, a newer job may start and end.  `Orderly` excludes exactly these overtakings.
-/

namespace NetworkCopy

open JobRegistryInner

namespace JobSystem

variable {Address : Type}

/-! ## Each job is settled once -/

/-- The job holds the slot, or `cancel` has taken it and not published its result. -/
def Unsettled (s : JobSystem Address) (jobId : Nat) : Prop :=
  s.inner.activeJobId = some jobId ∨
    ∃ connection, (s.requests connection).cancelId = some jobId

/-- The IDs in the published results, the newest first. -/
def publishedIds (s : JobSystem Address) : List Nat :=
  s.published.map ManagementJobResult.jobId

/-- The thread of the job has been made, or is about to be. -/
def Begun (s : JobSystem Address) (jobId : Nat) : Prop :=
  jobId ∈ s.spawnedIds ∨ ∃ connection job progress,
    s.requests connection = .spawning job progress ∧ job.jobId = jobId

/-- `cancel` has taken the job for one connection only. -/
def Sole (s : JobSystem Address) : Prop :=
  ∀ connection jobId, (s.requests connection).cancelId = some jobId →
    s.inner.activeJobId ≠ some jobId ∧
      ∀ other, (s.requests other).cancelId = some jobId → other = connection

/-- No job has two results, and a job whose thread was made is open or has one. -/
structure Recorded (s : JobSystem Address) : Prop where
  sole : s.Sole
  latest : s.inner.latestResult = s.published.head?
  nodup : s.publishedIds.Nodup
  unsettled : ∀ jobId, s.Unsettled jobId → jobId ∈ s.startedIds ∧ jobId ∉ s.publishedIds
  started : ∀ jobId ∈ s.publishedIds, jobId ∈ s.startedIds
  settled : ∀ jobId, s.Begun jobId → s.Unsettled jobId ∨ jobId ∈ s.publishedIds

theorem Recorded.init : Recorded (init : JobSystem Address) := by
  constructor <;>
    simp [JobSystem.init, Sole, Unsettled, Begun, publishedIds, Request.cancelId, JobSystem.inner,
      activeJobId]

/-- A step that settles no job and starts none. -/
theorem Recorded.same {s next : JobSystem Address} (h : Recorded s) (hsole : next.Sole)
    (hunsettled : ∀ jobId, next.Unsettled jobId ↔ s.Unsettled jobId)
    (hbegun : ∀ jobId, next.Begun jobId → s.Begun jobId)
    (hlatest : next.inner.latestResult = s.inner.latestResult)
    (hpublished : next.published = s.published) (hstarted : next.startedIds = s.startedIds) :
    Recorded next := by
  have hids : next.publishedIds = s.publishedIds := by
    rw [publishedIds, hpublished, publishedIds]
  constructor
  · exact hsole
  · rw [hlatest, hpublished]
    exact h.latest
  · rw [hids]
    exact h.nodup
  · intro jobId hopen
    rw [hids, hstarted]
    exact h.unsettled jobId ((hunsettled jobId).mp hopen)
  · rw [hids, hstarted]
    exact h.started
  · intro jobId hnext
    rw [hids, hunsettled]
    exact h.settled jobId (hbegun jobId hnext)

/-- A step that settles one job and publishes its result. -/
theorem Recorded.settle {s next : JobSystem Address} (h : Recorded s) (hsole : next.Sole)
    {result : ManagementJobResult} (hopen : s.Unsettled result.jobId)
    (hunsettled : ∀ jobId, next.Unsettled jobId ↔ s.Unsettled jobId ∧ jobId ≠ result.jobId)
    (hbegun : ∀ jobId, next.Begun jobId → s.Begun jobId)
    (hlatest : next.inner.latestResult = some result)
    (hpublished : next.published = result :: s.published)
    (hstarted : next.startedIds = s.startedIds) : Recorded next := by
  have hids : next.publishedIds = result.jobId :: s.publishedIds := by
    rw [publishedIds, hpublished]
    rfl
  obtain ⟨hmem, hnew⟩ := h.unsettled _ hopen
  constructor
  · exact hsole
  · rw [hlatest, hpublished]
    rfl
  · rw [hids]
    exact List.nodup_cons.mpr ⟨hnew, h.nodup⟩
  · intro jobId hnext
    obtain ⟨hold, hne⟩ := (hunsettled jobId).mp hnext
    obtain ⟨hstart, hnot⟩ := h.unsettled jobId hold
    rw [hids, hstarted]
    exact ⟨hstart, List.not_mem_cons_of_ne_of_not_mem hne hnot⟩
  · intro jobId hjob
    rw [hids] at hjob
    rw [hstarted]
    rcases List.mem_cons.mp hjob with rfl | hjob
    · exact hmem
    · exact h.started jobId hjob
  · intro jobId hnext
    rw [hids, hunsettled]
    rcases h.settled jobId (hbegun jobId hnext) with hold | hold
    · by_cases hsame : jobId = result.jobId
      · exact .inr (hsame ▸ List.mem_cons_self)
      · exact .inl ⟨hold, hsame⟩
    · exact .inr (List.mem_cons_of_mem _ hold)

section Moves

variable {s next : JobSystem Address}
variable {connection : Nat}
variable {place : Request Address}

theorem unsettled_congr (hactive : next.inner.activeJobId = s.inner.activeJobId)
    (hcancel : ∀ connection,
      (next.requests connection).cancelId = (s.requests connection).cancelId)
    (jobId : Nat) : next.Unsettled jobId ↔ s.Unsettled jobId := by
  simp only [Unsettled, hactive, hcancel]

theorem Sole.congr (h : s.Sole) (hactive : next.inner.activeJobId = s.inner.activeJobId)
    (hcancel : ∀ connection,
      (next.requests connection).cancelId = (s.requests connection).cancelId) : next.Sole := by
  intro connection jobId hjob
  rw [hcancel] at hjob
  obtain ⟨hslot, hunique⟩ := h connection jobId hjob
  refine ⟨hactive ▸ hslot, fun other hother => hunique other ?_⟩
  rw [← hcancel]
  exact hother

/-- The place of a connection changes, and with it no cancelled job. -/
theorem cancelId_goto (connection : Nat) (place : Request Address)
    (hplace : place.cancelId = (s.requests connection).cancelId) (other : Nat) :
    ((s.goto connection place).requests other).cancelId = (s.requests other).cancelId := by
  rw [goto_requests]
  split
  · rename_i hsame
    rw [hplace, hsame]
  · rfl

/-- A connection that is not about to make a thread begins no job. -/
theorem begun_goto (hplace : place.startingId = none) {jobId : Nat}
    (h : (s.goto connection place).Begun jobId) : s.Begun jobId := by
  rcases h with hspawned | ⟨other, job, progress, hspawning, hid⟩
  · exact .inl hspawned
  · exact .inr ⟨other, job, progress, spawning_goto hplace hspawning, hid⟩

/-- One connection goes on, and the slot and the results stay as they are. -/
theorem Recorded.goto (h : Recorded s)
    (hcancel : place.cancelId = (s.requests connection).cancelId)
    (hplace : place.startingId = none) : Recorded (s.goto connection place) :=
  h.same (h.sole.congr rfl (cancelId_goto _ _ hcancel)) (unsettled_congr rfl (cancelId_goto _ _ hcancel))
    (fun _ hbegun => begun_goto hplace hbegun) rfl rfl rfl

/-- A step that gives the free slot to a new job. -/
theorem Recorded.start (h : Recorded s) (jobId : Nat) (hfree : s.inner.activeJobId = none)
    (hslot : next.inner.activeJobId = some jobId)
    (hcancel : ∀ connection,
      (next.requests connection).cancelId = (s.requests connection).cancelId)
    (hnew : jobId ∉ s.startedIds)
    (hbegun : ∀ other, next.Begun other → s.Begun other ∨ other = jobId)
    (hlatest : next.inner.latestResult = s.inner.latestResult)
    (hpublished : next.published = s.published)
    (hstarted : next.startedIds = jobId :: s.startedIds) : Recorded next := by
  have hids : next.publishedIds = s.publishedIds := by
    rw [publishedIds, hpublished, publishedIds]
  have hunsettled : ∀ other, next.Unsettled other ↔ other = jobId ∨ s.Unsettled other := by
    intro other
    simp only [Unsettled, hslot, hfree, hcancel, Option.some.injEq, reduceCtorEq, false_or]
    rw [eq_comm]
  constructor
  · intro connection other hother
    rw [hcancel] at hother
    obtain ⟨hmem, -⟩ := h.unsettled other (.inr ⟨connection, hother⟩)
    refine ⟨?_, fun second hsecond => (h.sole connection other hother).2 second ?_⟩
    · rw [hslot, ne_eq, Option.some.injEq]
      rintro rfl
      exact hnew hmem
    · rw [← hcancel]
      exact hsecond
  · rw [hlatest, hpublished]
    exact h.latest
  · rw [hids]
    exact h.nodup
  · intro other hopen
    rw [hids, hstarted]
    rcases (hunsettled other).mp hopen with rfl | hold
    · exact ⟨List.mem_cons_self, fun hmem => hnew (h.started _ hmem)⟩
    · obtain ⟨hmem, hnot⟩ := h.unsettled other hold
      exact ⟨List.mem_cons_of_mem _ hmem, hnot⟩
  · intro other hmem
    rw [hids] at hmem
    rw [hstarted]
    exact List.mem_cons_of_mem _ (h.started other hmem)
  · intro other hnext
    rw [hids, hunsettled]
    rcases hbegun other hnext with hold | rfl
    · exact (h.settled other hold).imp .inr id
    · exact .inl (.inl rfl)

/-- A step that takes the slot from a job whose thread could not be made. -/
theorem Recorded.drop (h : Recorded s) {jobId : Nat} (hslot : s.inner.activeJobId = some jobId)
    (hempty : next.inner.activeJobId = none)
    (hcancel : ∀ connection,
      (next.requests connection).cancelId = (s.requests connection).cancelId)
    (hbegun : ∀ other, next.Begun other → s.Begun other ∧ other ≠ jobId)
    (hlatest : next.inner.latestResult = s.inner.latestResult)
    (hpublished : next.published = s.published) (hstarted : next.startedIds = s.startedIds) :
    Recorded next := by
  have hids : next.publishedIds = s.publishedIds := by
    rw [publishedIds, hpublished, publishedIds]
  have hunsettled : ∀ other, next.Unsettled other → s.Unsettled other := by
    intro other hopen
    simp only [Unsettled, hempty, hcancel, reduceCtorEq, false_or] at hopen
    exact .inr hopen
  constructor
  · intro connection other hother
    rw [hcancel] at hother
    refine ⟨by simp [hempty], fun second hsecond => (h.sole connection other hother).2 second ?_⟩
    rw [← hcancel]
    exact hsecond
  · rw [hlatest, hpublished]
    exact h.latest
  · rw [hids]
    exact h.nodup
  · intro other hopen
    rw [hids, hstarted]
    exact h.unsettled other (hunsettled other hopen)
  · rw [hids, hstarted]
    exact h.started
  · intro other hnext
    obtain ⟨hold, hne⟩ := hbegun other hnext
    rw [hids]
    refine (h.settled other hold).imp (fun hopen => ?_) id
    rcases hopen with hactive | ⟨connection, hother⟩
    · rw [hslot] at hactive
      exact absurd (Option.some.inj hactive).symm hne
    · exact .inr ⟨connection, (hcancel connection).trans hother⟩

theorem Recorded.clear (h : Recorded s) (hrunning : Running s) {job : ManagedJob Address}
    (hplace : s.requests connection = .clearing job) :
    Recorded ((s.setInner (s.inner.clear job)).goto connection .idle) := by
  have hown : (s.requests connection).startingId = some job.jobId := by
    rw [hplace]
    rfl
  have hcancel := cancelId_goto (s := s.setInner (s.inner.clear job)) connection .idle
    (by rw [setInner_requests, hplace]; rfl)
  have hbegun : ∀ jobId, ((s.setInner (s.inner.clear job)).goto connection .idle).Begun jobId →
      s.Begun jobId := fun _ hnext => begun_goto (s := s.setInner _) (by rfl) hnext
  cases hmatches : s.inner.matchesJob job with
  | true =>
    obtain ⟨⟨holder, hholder, hid⟩, hempty⟩ :=
      JobRegistryInner.matchesJob_eq_true hrunning.oneSlot hmatches
    have hclear : s.inner.clear job = s.inner.takeSlot job := by
      simp [JobRegistryInner.clear, hmatches]
    refine h.drop (show s.inner.activeJobId = some job.jobId from ?_) ?_ hcancel ?_ ?_ rfl rfl
    · rw [JobRegistryInner.activeJobId_eq, hholder, Option.map_some, hid]
    · show (s.inner.clear job).activeJobId = none
      rw [hclear, JobRegistryInner.activeJobId_eq, hempty]
      rfl
    -- The ID belongs to this connection, which makes no thread.
    · intro other hnext
      refine ⟨hbegun other hnext, ?_⟩
      rintro rfl
      rcases hbegun _ hnext with hspawned | ⟨place, found, progress, hspawning, hsame⟩
      · exact (hrunning.starting connection _ hown).2 hspawned
      · have hconnection := hrunning.starting_unique place connection found.jobId
          (by rw [hspawning]; rfl) (hsame ▸ hown)
        rw [hconnection, hplace] at hspawning
        cases hspawning
    · show (s.inner.clear job).latestResult = s.inner.latestResult
      rw [hclear, JobRegistryInner.latestResult_takeSlot]
  | false =>
    have hclear : s.inner.clear job = s.inner := by
      simp [JobRegistryInner.clear, hmatches]
    have hactive : ((s.setInner (s.inner.clear job)).goto connection .idle).inner.activeJobId =
        s.inner.activeJobId := by
      show (s.inner.clear job).activeJobId = _
      rw [hclear]
    refine h.same (h.sole.congr hactive hcancel) (unsettled_congr hactive hcancel) hbegun ?_
      rfl rfl
    show (s.inner.clear job).latestResult = _
    rw [hclear]

theorem Recorded.cancel (h : Recorded s) (hrunning : Running s) {worker : Worker Address}
    {cancelled : CancelledJob} (hplace : s.requests connection = .idle)
    (hactive : s.inner.active = some worker) :
    Recorded ((s.setInner (s.inner.takeSlot worker.job)).goto connection
      (.cancelling worker.job.jobId cancelled)) := by
  have hslot : s.inner.activeJobId = some worker.job.jobId := by
    rw [activeJobId_eq, hactive]
    rfl
  have hempty : (s.inner.takeSlot worker.job).activeJobId = none := by
    rw [activeJobId_eq, (matchesJob_eq_true hrunning.oneSlot
      (matchesJob_of_active hactive)).2]
    rfl
  have hcancel : ∀ other jobId,
      (((s.setInner (s.inner.takeSlot worker.job)).goto connection
        (.cancelling worker.job.jobId cancelled)).requests other).cancelId = some jobId ↔
      (other = connection ∧ jobId = worker.job.jobId) ∨
        (s.requests other).cancelId = some jobId := by
    intro other jobId
    rw [goto_requests, setInner_requests]
    split
    · rename_i hsame
      rw [hsame, hplace]
      simp [Request.cancelId, eq_comm]
    · rename_i hne
      simp [hne]
  refine h.same ?_ ?_ ?_ ?_ rfl rfl
  · intro other jobId hother
    refine ⟨?_, fun second hsecond => ?_⟩
    · show (s.inner.takeSlot worker.job).activeJobId ≠ _
      rw [hempty]
      exact nofun
    · rcases (hcancel other jobId).mp hother with ⟨rfl, rfl⟩ | hold
      · rcases (hcancel second _).mp hsecond with ⟨hsame, -⟩ | hsecond
        · exact hsame
        · exact absurd hslot (h.sole second _ hsecond).1
      · rcases (hcancel second _).mp hsecond with ⟨-, rfl⟩ | hsecond
        · exact absurd hslot (h.sole other _ hold).1
        · exact (h.sole other jobId hold).2 second hsecond
  · intro jobId
    constructor
    · rintro (hopen | ⟨other, hother⟩)
      · have hopen : (s.inner.takeSlot worker.job).activeJobId = some jobId := hopen
        rw [hempty] at hopen
        cases hopen
      · rcases (hcancel other jobId).mp hother with ⟨-, rfl⟩ | hold
        · exact .inl hslot
        · exact .inr ⟨other, hold⟩
    · rintro (hopen | ⟨other, hother⟩)
      · rw [hslot, Option.some.injEq] at hopen
        exact .inr ⟨connection, (hcancel connection jobId).mpr (.inl ⟨rfl, hopen.symm⟩)⟩
      · exact .inr ⟨other, (hcancel other jobId).mpr (.inr hother)⟩
  · exact fun _ hbegun => begun_goto (s := s.setInner _) (by rfl) hbegun
  · exact latestResult_takeSlot s.inner worker.job

theorem Recorded.publish (h : Recorded s) {result : ManagementJobResult}
    (hplace : (s.requests connection).cancelId = some result.jobId) :
    Recorded (((s.setInner (s.inner.publishCancelled result)).record result).goto
      connection .idle) := by
  obtain ⟨hslot, hunique⟩ := h.sole connection _ hplace
  have hcancel : ∀ other jobId,
      ((((s.setInner (s.inner.publishCancelled result)).record result).goto
        connection .idle).requests other).cancelId = some jobId ↔
      (s.requests other).cancelId = some jobId ∧ jobId ≠ result.jobId := by
    intro other jobId
    rw [goto_requests, record_requests, setInner_requests]
    by_cases hsame : other = connection
    · subst hsame
      rw [if_pos rfl, hplace]
      simp [Request.cancelId, eq_comm]
    · rw [if_neg hsame]
      refine ⟨fun hother => ⟨hother, ?_⟩, And.left⟩
      rintro rfl
      exact hsame (hunique other hother)
  refine h.settle ?_ (.inr ⟨connection, hplace⟩) ?_ ?_ rfl rfl rfl
  · intro other jobId hother
    obtain ⟨hold, -⟩ := (hcancel other jobId).mp hother
    obtain ⟨hactive, honly⟩ := h.sole other jobId hold
    exact ⟨hactive, fun second hsecond => honly second ((hcancel second jobId).mp hsecond).1⟩
  · intro jobId
    simp only [Unsettled, hcancel]
    show s.inner.activeJobId = some jobId ∨ _ ↔ _
    constructor
    · rintro (hactive | ⟨other, hother, hne⟩)
      · refine ⟨.inl hactive, ?_⟩
        rintro rfl
        exact hslot hactive
      · exact ⟨.inr ⟨other, hother⟩, hne⟩
    · rintro ⟨hactive | ⟨other, hother⟩, hne⟩
      · exact .inl hactive
      · exact .inr ⟨other, hother, hne⟩
  · exact fun _ hbegun => begun_goto (s := (s.setInner _).record result) (by rfl) hbegun

theorem Recorded.finish (h : Recorded s) (hrunning : Running s) {index : Nat}
    {worker : Worker Address} {result : ManagementJobResult}
    (hmatches : s.inner.matchesJob worker.job = true)
    (hresult : result.jobId = worker.job.jobId) :
    Recorded
      { (s.setInner { s.inner.takeSlot worker.job with latestResult := some result }).record
          result with
        workers := s.workers.eraseIdx index } := by
  obtain ⟨⟨holder, hholder, hid⟩, htaken⟩ :=
    matchesJob_eq_true hrunning.oneSlot hmatches
  have hslot : s.inner.activeJobId = some result.jobId := by
    rw [activeJobId_eq, hholder, Option.map_some, hid, hresult]
  have hempty : (s.inner.takeSlot worker.job).activeJobId = none := by
    rw [activeJobId_eq, htaken]
    rfl
  refine h.settle ?_ (.inl hslot) ?_ (fun _ hbegun => hbegun) rfl rfl rfl
  · intro connection jobId hjob
    refine ⟨?_, (h.sole connection jobId hjob).2⟩
    show (s.inner.takeSlot worker.job).activeJobId ≠ _
    rw [hempty]
    exact nofun
  · intro jobId
    show (s.inner.takeSlot worker.job).activeJobId = some jobId ∨ _ ↔ _
    simp only [hempty, Unsettled, hslot, reduceCtorEq, false_or, Option.some.injEq]
    constructor
    · rintro ⟨connection, hjob⟩
      refine ⟨.inr ⟨connection, hjob⟩, ?_⟩
      rintro rfl
      exact (h.sole connection _ hjob).1 hslot
    · rintro ⟨rfl | hjob, hne⟩
      · exact absurd rfl hne
      · exact hjob

theorem Recorded.move (h : Recorded s) (hnumbered : Numbered s) (hrunning : Running s)
    (hmove : Move s next) : Recorded next := by
  cases hmove with
  | stay => exact h
  | check connection request hplace => exact h.goto (by rw [hplace]; rfl) rfl
  | leave connection hplace =>
    refine h.goto ?_ rfl
    rcases hplace with ⟨request, hplace⟩ | ⟨job, progress, hplace⟩
    · rw [hplace]
      rfl
    · rw [hplace]
      rfl
  | draw connection request port hplace hzero =>
    have hcancel := cancelId_goto connection
      (.drawn (request.makeJob s.registry.nextJobId port) ⟨s.counters + 1⟩)
      (show _ = (s.requests connection).cancelId by rw [hplace]; rfl)
    exact h.same (h.sole.congr rfl hcancel) (unsettled_congr rfl hcancel)
      (fun _ hbegun => begun_goto (by rfl) hbegun) rfl rfl rfl
  | fill connection worker hplace hfree =>
    have hown := hnumbered.drawn connection worker.job.jobId (by rw [hplace]; rfl)
    refine h.start worker.job.jobId ?_ ?_ ?_ hown.2 ?_ ?_ rfl rfl
    · rw [activeJobId_eq, hfree]
      rfl
    · show (s.inner.put worker).activeJobId = some worker.job.jobId
      rw [activeJobId_eq, active_put hfree]
      rfl
    · exact cancelId_goto (s := s.setInner (s.inner.put worker)) connection _
        (by rw [setInner_requests, hplace]; rfl)
    · rintro other (hspawned | ⟨place, job, progress, hspawning, hid⟩)
      · exact .inl (.inl hspawned)
      · simp only [goto_requests] at hspawning
        split at hspawning
        · rw [Request.spawning.injEq] at hspawning
          rw [← hid, ← hspawning.1]
          exact .inr rfl
        · exact .inl (.inr ⟨place, job, progress, hspawning, hid⟩)
    · exact latestResult_put s.inner worker
  | spawn connection worker hplace =>
    have hcancel := cancelId_goto connection .idle
      (show _ = (s.requests connection).cancelId by rw [hplace]; rfl)
    refine h.same (h.sole.congr rfl hcancel) (unsettled_congr rfl hcancel) ?_ rfl rfl rfl
    rintro jobId (hspawned | ⟨place, job, progress, hspawning, hid⟩)
    · rcases List.mem_cons.mp hspawned with rfl | hspawned
      · exact .inr ⟨connection, worker.job, worker.progress, hplace, rfl⟩
      · exact .inl hspawned
    · exact .inr ⟨place, job, progress, spawning_goto (by rfl) hspawning, hid⟩
  | fail connection worker hplace =>
    have hcancel := cancelId_goto connection (.clearing worker.job)
      (show _ = (s.requests connection).cancelId by rw [hplace]; rfl)
    refine h.same (h.sole.congr rfl hcancel) (unsettled_congr rfl hcancel) ?_ rfl rfl rfl
    rintro jobId (hspawned | ⟨place, job, progress, hspawning, hid⟩)
    · exact .inl hspawned
    · rw [goto_requests] at hspawning
      split at hspawning
      · cases hspawning
      · exact .inr ⟨place, job, progress, hspawning, hid⟩
  | clear connection job hplace => exact h.clear hrunning hplace
  | cancel connection worker cancelled hplace hactive hprogress =>
    exact h.cancel hrunning hplace hactive
  | interrupt connection jobId cancelled dataStreamCount hplace =>
    have hcancel := cancelId_goto connection
      (.publishing jobId cancelled.role dataStreamCount)
      (show _ = (s.requests connection).cancelId by rw [hplace]; rfl)
    exact h.same (h.sole.congr rfl hcancel) (unsettled_congr rfl hcancel)
      (fun _ hbegun => begun_goto (by rfl) hbegun) rfl rfl rfl
  | publish connection result role dataStreamCount hplace =>
    exact h.publish (by rw [hplace]; rfl)
  | finish index worker result hworker hmatches hresult =>
    exact h.finish hrunning hmatches hresult
  | vanish index worker hworker hmatches =>
    exact h.same h.sole (fun _ => Iff.rfl) (fun _ hbegun => hbegun) rfl rfl rfl

/-! ## The order of the results -/

variable {action : JobAction Address}

/-- A connection at a place without a cancelled job adds no open job. -/
theorem unsettled_of_goto {connection jobId : Nat} (hplace : place.cancelId = none)
    (h : (s.goto connection place).Unsettled jobId) :
    s.Unsettled jobId := by
  refine h.imp id ?_
  rintro ⟨other, hother⟩
  rw [goto_requests] at hother
  split at hother
  · rw [hplace] at hother
    cases hother
  · exact ⟨other, hother⟩

/-- The slot gets no new job. -/
theorem unsettled_of_setInner {inner : JobRegistryInner Address} {jobId : Nat}
    (hslot : inner.activeJobId = none ∨ inner.activeJobId = s.inner.activeJobId)
    (h : (s.setInner inner).Unsettled jobId) : s.Unsettled jobId := by
  refine h.imp (fun hactive => ?_) id
  have hactive : inner.activeJobId = some jobId := hactive
  rcases hslot with hnone | hsame
  · rw [hnone] at hactive
    cases hactive
  · exact hsame ▸ hactive

theorem activeJobId_takeSlot (hrunning : Running s) {job : ManagedJob Address}
    (hmatches : s.inner.matchesJob job = true) :
    s.inner.activeJobId = some job.jobId ∧ (s.inner.takeSlot job).activeJobId = none := by
  obtain ⟨⟨holder, hholder, hid⟩, htaken⟩ :=
    matchesJob_eq_true hrunning.oneSlot hmatches
  rw [activeJobId_eq, activeJobId_eq, htaken, hholder,
    Option.map_some, hid]
  exact ⟨rfl, rfl⟩

theorem activeJobId_clear (hrunning : Running s) (job : ManagedJob Address) :
    (s.inner.clear job).activeJobId = none ∨
      (s.inner.clear job).activeJobId = s.inner.activeJobId := by
  unfold clear
  split
  · rename_i hmatches
    exact .inl (activeJobId_takeSlot hrunning hmatches).2
  · exact .inr rfl

/-- What a step does to the results and to the slot.  It publishes one result, or it starts one
job, or neither. -/
theorem Move.shape (hrunning : Running s) (hmove : Move s next) :
    (∀ jobId, next.Unsettled jobId →
      s.Unsettled jobId ∨ next.startedIds = jobId :: s.startedIds) ∧
    (next.published = s.published ∨
      next.startedIds = s.startedIds ∧
        ∃ result, next.published = result :: s.published ∧ s.Unsettled result.jobId) := by
  cases hmove with
  | stay => exact ⟨fun _ h => .inl h, .inl rfl⟩
  | check connection request hplace =>
    exact ⟨fun _ h => .inl (unsettled_of_goto rfl h), .inl rfl⟩
  | leave connection hplace => exact ⟨fun _ h => .inl (unsettled_of_goto rfl h), .inl rfl⟩
  | draw connection request port hplace hzero =>
    exact ⟨fun _ h => .inl (unsettled_of_goto (by rfl) h), .inl rfl⟩
  | fill connection worker hplace hfree =>
    refine ⟨fun jobId h => ?_, .inl rfl⟩
    rcases unsettled_of_goto (s := s.setInner _) (by rfl) h with hactive | hcancel
    · have hactive : (s.inner.put worker).activeJobId = some jobId := hactive
      rw [activeJobId_eq, active_put hfree,
        Option.map_some, Option.some.injEq] at hactive
      exact .inr (by rw [hactive])
    · exact .inl (.inr hcancel)
  | spawn connection worker hplace =>
    exact ⟨fun _ h => .inl (unsettled_of_goto (by rfl) h), .inl rfl⟩
  | fail connection worker hplace =>
    exact ⟨fun _ h => .inl (unsettled_of_goto (by rfl) h), .inl rfl⟩
  | clear connection job hplace =>
    refine ⟨fun _ h => .inl ?_, .inl rfl⟩
    exact unsettled_of_setInner (activeJobId_clear hrunning job)
      (unsettled_of_goto (s := s.setInner _) (by rfl) h)
  | cancel connection worker cancelled hplace hactive hprogress =>
    obtain ⟨hslot, hempty⟩ := activeJobId_takeSlot hrunning
      (matchesJob_of_active hactive)
    refine ⟨fun jobId h => .inl ?_, .inl rfl⟩
    rcases h with hopen | ⟨other, hother⟩
    · exact unsettled_of_setInner (.inl hempty) (.inl hopen)
    · simp only [goto_requests, setInner_requests] at hother
      split at hother
      · exact .inl (hslot.trans hother)
      · exact .inr ⟨other, hother⟩
  | interrupt connection jobId cancelled dataStreamCount hplace =>
    have hcancel := cancelId_goto connection
      (.publishing jobId cancelled.role dataStreamCount)
      (show _ = (s.requests connection).cancelId by rw [hplace]; rfl)
    exact ⟨fun id h => .inl ((unsettled_congr (by rfl) hcancel id).mp h), .inl rfl⟩
  | publish connection result role dataStreamCount hplace =>
    refine ⟨fun jobId h => .inl ?_, .inr ⟨rfl, result, rfl, .inr ⟨connection, ?_⟩⟩⟩
    · exact unsettled_of_goto (s := (s.setInner _).record result) (by rfl) h
    · rw [hplace]
      rfl
  | finish index worker result hworker hmatches hresult =>
    obtain ⟨hslot, hempty⟩ := activeJobId_takeSlot hrunning hmatches
    refine ⟨fun jobId h => .inl ?_, .inr ⟨rfl, result, rfl, .inl (hresult ▸ hslot)⟩⟩
    have hempty : { s.inner.takeSlot worker.job with
        latestResult := some result }.activeJobId = none := hempty
    exact unsettled_of_setInner (.inl hempty) h
  | vanish index worker hworker hmatches => exact ⟨fun _ h => .inl h, .inl rfl⟩

/-- The results stand in the order of their IDs, and the open jobs are newer than all of
them. -/
structure Ordered (s : JobSystem Address) : Prop where
  results : s.published.Pairwise fun later earlier => earlier.jobId < later.jobId
  ahead : ∀ jobId, s.Unsettled jobId → ∀ result ∈ s.published, result.jobId < jobId

/-- No step overtakes.

* An ID is drawn only from a counter that has not wrapped around.
* A job takes the slot only while no newer job has ended.
* A job ends only while no older job holds the slot or is between the two sections of its
  `cancel`. -/
def Orderly (s : JobSystem Address) : JobAction Address → Prop
  | .draw _ _ => s.registry.nextJobId ≠ 0
  | .fill connection => ∀ jobId, (s.requests connection).drawnId = some jobId →
      ∀ result ∈ s.published, result.jobId ≤ jobId
  | .publish connection => ∀ jobId, (s.requests connection).cancelId = some jobId →
      ∀ other, s.Unsettled other → jobId ≤ other
  | .finish index _ _ => ∀ worker, s.workers[index]? = some worker →
      s.inner.matchesJob worker.job = true →
      ∀ other, s.Unsettled other → worker.job.jobId ≤ other
  | _ => True

theorem Orderly.unwrapped (h : s.Orderly action) :
    s.Unwrapped action := by
  cases action <;> first | exact h | trivial

/-- The step publishes no result and starts no job. -/
def Keeps (s next : JobSystem Address) : Prop :=
  next.published = s.published ∧ next.startedIds = s.startedIds

theorem Keeps.inOrder (h : Keeps s next) :
    (∀ result, next.published = result :: s.published →
      ∀ jobId, s.Unsettled jobId → result.jobId ≤ jobId) ∧
    ∀ jobId, next.startedIds = jobId :: s.startedIds →
      ∀ result ∈ s.published, result.jobId ≤ jobId := by
  obtain ⟨hpublished, hstarted⟩ := h
  rw [hpublished, hstarted]
  exact ⟨fun _ hcons => absurd hcons.symm (List.cons_ne_self _ _),
    fun _ hcons => absurd hcons.symm (List.cons_ne_self _ _)⟩

theorem keeps_submit (connection : Nat) (request : JobRequest Address) :
    Keeps s (s.submit connection request) := by
  unfold submit
  split <;> exact ⟨rfl, rfl⟩

theorem keeps_draw (connection : Nat) (request : JobRequest Address) (outcome : IoResult Nat) :
    Keeps s (s.draw connection request outcome) := by
  unfold draw
  split
  · exact ⟨rfl, rfl⟩
  · dsimp only
    split <;> exact ⟨rfl, rfl⟩

theorem keeps_spawn (connection : Nat) (job : ManagedJob Address) (progress : ProgressCounter)
    (outcome : IoResult Unit) : Keeps s (s.spawn connection job progress outcome) := by
  unfold spawn
  split <;> exact ⟨rfl, rfl⟩

theorem keeps_cancel (connection jobId : Nat) : Keeps s (s.cancel connection jobId) := by
  unfold cancel
  split
  · exact ⟨rfl, rfl⟩
  · split <;> exact ⟨rfl, rfl⟩

/-- An orderly step publishes the oldest open job, and starts a job that is newer than the ended
ones. -/
theorem Orderly.step (h : s.Orderly action) (hstep : s.step action = some next) :
    (∀ result, next.published = result :: s.published →
      ∀ jobId, s.Unsettled jobId → result.jobId ≤ jobId) ∧
    ∀ jobId, next.startedIds = jobId :: s.startedIds →
      ∀ result ∈ s.published, result.jobId ≤ jobId := by
  cases action with
  | submit connection request =>
    simp only [JobSystem.step] at hstep
    split at hstep <;> cases hstep
    exact (keeps_submit connection request).inOrder
  | draw connection outcome =>
    simp only [JobSystem.step] at hstep
    split at hstep <;> cases hstep
    exact (keeps_draw connection _ outcome).inOrder
  | fill connection =>
    simp only [JobSystem.step] at hstep
    split at hstep <;> cases hstep
    rename_i job progress hplace
    have hown : (s.requests connection).drawnId = some job.jobId := by
      rw [hplace]
      rfl
    unfold JobSystem.fill
    split
    · exact Keeps.inOrder ⟨rfl, rfl⟩
    · refine ⟨fun _ hcons => absurd hcons.symm (List.cons_ne_self _ _), fun jobId hcons => ?_⟩
      rw [← (List.cons.inj hcons).1]
      exact h job.jobId hown
  | spawn connection outcome =>
    simp only [JobSystem.step] at hstep
    split at hstep <;> cases hstep
    exact (keeps_spawn connection _ _ outcome).inOrder
  | clear connection =>
    simp only [JobSystem.step] at hstep
    split at hstep <;> cases hstep
    exact Keeps.inOrder ⟨rfl, rfl⟩
  | cancel connection jobId =>
    simp only [JobSystem.step] at hstep
    split at hstep <;> cases hstep
    exact (keeps_cancel connection jobId).inOrder
  | interrupt connection stored =>
    simp only [JobSystem.step] at hstep
    split at hstep <;> cases hstep
    exact Keeps.inOrder ⟨rfl, rfl⟩
  | publish connection =>
    simp only [JobSystem.step] at hstep
    split at hstep <;> cases hstep
    rename_i jobId role dataStreamCount hplace
    refine ⟨fun result hcons => ?_, fun _ hcons => absurd hcons.symm (List.cons_ne_self _ _)⟩
    rw [← (List.cons.inj hcons).1]
    exact h jobId (by rw [hplace]; rfl)
  | query connection =>
    simp only [JobSystem.step] at hstep
    split at hstep <;> cases hstep
    exact Keeps.inOrder ⟨rfl, rfl⟩
  | finish index stored outcome =>
    simp only [JobSystem.step] at hstep
    split at hstep <;> cases hstep
    rename_i worker hworker
    unfold JobSystem.finish
    split
    · rename_i hmatches
      refine ⟨fun result hcons => ?_, fun _ hcons => absurd hcons.symm (List.cons_ne_self _ _)⟩
      rw [← (List.cons.inj hcons).1, ManagedJob.terminalResult_jobId]
      exact h worker hworker hmatches
    · exact Keeps.inOrder ⟨rfl, rfl⟩

theorem Ordered.init : Ordered (init : JobSystem Address) := by
  constructor <;> simp [JobSystem.init]

theorem Ordered.step (h : Ordered s) (hrunning : Running s) (hrecorded : Recorded next)
    (horderly : s.Orderly action) (hstep : s.step action = some next) : Ordered next := by
  obtain ⟨holdest, hnewest⟩ := horderly.step hstep
  obtain ⟨hopen, hresults⟩ := Move.shape hrunning (step_move horderly.unwrapped hstep)
  -- An open job has no result, so the bounds are strict.
  have hstrict : ∀ jobId, next.Unsettled jobId → ∀ result ∈ next.published,
      result.jobId ≠ jobId := by
    rintro jobId hjob result hmem rfl
    exact (hrecorded.unsettled _ hjob).2 (List.mem_map_of_mem hmem)
  rcases hresults with hsame | ⟨hstarted, new, hnew, hunsettled⟩
  · constructor
    · rw [hsame]
      exact h.results
    · intro jobId hjob result hmem
      have hne := hstrict jobId hjob result hmem
      rw [hsame] at hmem
      rcases hopen jobId hjob with hold | hstart
      · exact h.ahead jobId hold result hmem
      · have := hnewest jobId hstart result hmem
        omega
  · constructor
    · rw [hnew]
      exact List.pairwise_cons.mpr ⟨h.ahead _ hunsettled, h.results⟩
    · intro jobId hjob result hmem
      have hne := hstrict jobId hjob result hmem
      have hold : s.Unsettled jobId := by
        rcases hopen jobId hjob with hold | hstart
        · exact hold
        · rw [hstarted] at hstart
          exact absurd hstart.symm (List.cons_ne_self _ _)
      rw [hnew] at hmem
      rcases List.mem_cons.mp hmem with rfl | hmem
      · have := holdest _ hnew jobId hold
        omega
      · exact h.ahead jobId hold result hmem

end Moves

/-! ## Runs -/

theorem Reaches.mono {Allowed Weaker : JobSystem Address → JobAction Address → Prop}
    (himp : ∀ s action, Allowed s action → Weaker s action) {s : JobSystem Address}
    (h : Reaches Allowed s) : Reaches Weaker s := by
  induction h with
  | init => exact .init
  | step action _ hallowed hstep ih => exact .step action ih (himp _ _ hallowed) hstep

theorem Orderly.reaches {s : JobSystem Address} (h : Reaches Orderly s) : Reaches Unwrapped s :=
  h.mono fun _ _ => Orderly.unwrapped

theorem reaches_recorded {s : JobSystem Address} (h : Reaches Unwrapped s) : Recorded s := by
  induction h with
  | init => exact .init
  | step action hreaches hunwrapped hstep ih =>
    exact ih.move (reaches_numbered hreaches) (reaches_running hreaches)
      (step_move hunwrapped hstep)

theorem reaches_ordered {s : JobSystem Address} (h : Reaches Orderly s) : Ordered s := by
  induction h with
  | init => exact .init
  | step action hreaches horderly hstep ih =>
    have hnext := Reaches.step action (Orderly.reaches hreaches) horderly.unwrapped hstep
    exact ih.step (reaches_running (Orderly.reaches hreaches)) (reaches_recorded hnext) horderly
      hstep

/-- A job whose thread was made has at most one result.  It has one when its worker has ended
and no `cancel` of it is under way. -/
theorem published_once {s : JobSystem Address} (h : Reaches Unwrapped s) {jobId : Nat}
    (hspawned : jobId ∈ s.spawnedIds) :
    s.publishedIds.count jobId ≤ 1 ∧
      ((∀ worker ∈ s.workers, worker.job.jobId ≠ jobId) →
        (∀ connection, (s.requests connection).cancelId ≠ some jobId) →
        s.publishedIds.count jobId = 1) := by
  have hrunning := reaches_running h
  have hrecorded := reaches_recorded h
  refine ⟨List.nodup_iff_count_le_one.mp hrecorded.nodup jobId, fun hended hquiet => ?_⟩
  refine List.count_eq_one_of_mem hrecorded.nodup ?_
  rcases hrecorded.settled jobId (.inl hspawned) with (hslot | ⟨connection, hcancel⟩) | hmem
  -- The worker of the job in the slot has not ended.
  · rw [activeJobId_eq] at hslot
    obtain ⟨worker, hactive, rfl⟩ := Option.map_eq_some_iff.mp hslot
    rcases hrunning.slot worker hactive with hlive | ⟨connection, hplace⟩ | ⟨connection, hplace⟩
    · exact absurd rfl (hended worker hlive)
    · exact absurd hspawned (hrunning.starting connection _ (by rw [hplace]; rfl)).2
    · exact absurd hspawned (hrunning.starting connection _ (by rw [hplace]; rfl)).2
  · exact absurd hcancel (hquiet connection)
  · exact hmem

/-- What a client may rely on when it reads the results of a registry. -/
structure Accountable (s : JobSystem Address) : Prop where
  /-- Every ID is greater than the IDs drawn before it. -/
  increasing : s.drawnIds.Pairwise (· > ·)
  oneSlot : ¬ (s.inner.activeReceive.isSome ∧ s.inner.activeSend.isSome)
  once : ∀ jobId ∈ s.spawnedIds, s.publishedIds.count jobId ≤ 1 ∧
    ((∀ worker ∈ s.workers, worker.job.jobId ≠ jobId) →
      (∀ connection, (s.requests connection).cancelId ≠ some jobId) →
      s.publishedIds.count jobId = 1)
  none : s.inner.latestResult = none ↔ s.published = []
  /-- The last result is that of the greatest ID among the ended jobs. -/
  latest : ∀ result, s.inner.latestResult = some result →
    result ∈ s.published ∧ ∀ other ∈ s.published, other.jobId ≤ result.jobId

/-- One sender runs to its end. -/
def oneSender : List (JobAction String) :=
  startSender 0 ++ [.finish 0 (.ok none) (.ok ⟨3, 1000, 900, 2⟩)]

theorem along_oneSender : init.Along Orderly oneSender := by
  have hreaches : Reaches Unwrapped _ :=
    Reaches.init.run (show init.run (startSender 0) = some _ from rfl) (by decide +kernel)
  apply And.intro trivial
  apply And.intro
  · exact Nat.one_ne_zero
  apply And.intro
  · intro jobId _ result hmem
    cases hmem
  apply And.intro trivial
  apply And.intro
  -- The first job is the only one, so no open job is older.
  · intro worker hworker _ other hopen
    obtain rfl := Option.some.inj hworker
    have hmem := ((reaches_recorded hreaches).unsettled other hopen).1
    exact Nat.le_of_eq (List.mem_singleton.mp hmem).symm
  trivial

/-- The ID of the last result, and the IDs of all results. -/
def resultIds (s : JobSystem String) : Option Nat × List Nat :=
  (s.inner.latestResult.map ManagementJobResult.jobId, s.publishedIds)

/-- A receiver is cancelled.  Before its result stands, the other server starts a sender, and
the sender fails. -/
def overtakenCancel : List (JobAction String) :=
  [.submit 0 (.prepareReceive ⟨"D:\\Backup", true, false⟩), .draw 0 (.ok 7337), .fill 0,
    .spawn 0 (.ok ()), .cancel 0 1, .interrupt 0 (.ok (some 4))] ++ startSender 1 ++
    [.finish 1 (.ok none) (.error (.other "connection refused")), .publish 0]

/-- A request draws its ID, and another job starts and ends before it takes the slot. -/
def overtakenRequest : List (JobAction String) :=
  (startSender 0).take 2 ++ startSender 1 ++
    [.finish 0 (.ok none) (.ok ⟨3, 1000, 900, 2⟩), .fill 0, .spawn 0 (.ok ()),
      .finish 0 (.ok none) (.ok ⟨3, 1000, 900, 2⟩)]

/-- A result that is not the newest breaks what a client relies on. -/
theorem not_accountable {s : JobSystem String} (h : s.resultIds = (some 1, [1, 2])) :
    ¬ Accountable s := by
  intro haccountable
  obtain ⟨hlatest, hpublished⟩ := Prod.mk.inj h
  obtain ⟨result, hresult, hid⟩ := Option.map_eq_some_iff.mp hlatest
  have hmem : 2 ∈ s.publishedIds := by
    rw [hpublished]
    decide
  obtain ⟨other, hother, hotherId⟩ := List.mem_map.mp hmem
  have := (haccountable.latest result hresult).2 other hother
  omega

end JobSystem

end NetworkCopy
