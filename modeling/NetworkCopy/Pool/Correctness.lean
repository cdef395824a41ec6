import NetworkCopy.Pool.Interleavings

/-!
# What the pool promises

In every state of every interleaving: a batch call returns `Ok` only when its files have been
published, a failure reaches every other call with files, and `finish` returns `Ok` only when no job
failed.  Calls without files return at once, and the files of the calls must not have each other's
part names.
-/

namespace NetworkCopy

open FileTree ByteRange

namespace PoolSystem

/-- What the callers of the pool rely on, in one state. -/
structure PoolCorrect (workerCount : Nat) (system : PoolSystem) : Prop where
  capacity : system.shared.queue.jobs.length ≤ queueCapacity workerCount
  /-- The jobs are taken in the order in which they were queued, and none twice. -/
  once : system.shared.enqueued = system.shared.taken ++ system.shared.queue.jobs
  /-- A job that was taken is completed, has failed or is with one worker. -/
  executed : system.shared.taken.Perm (system.shared.completed ++ system.shared.failed ++
    system.workers.flatMap PoolWorker.held)
  /-- A worker that counts a job does not find its counter at zero. -/
  counter : ∀ job, PoolWorker.published job ∈ system.workers →
    system.shared.remaining job.batch ≠ 0
  /-- A call returns `Ok` only when each of its files got its name with its slice. -/
  delivered : PartNamesApart system.shared → ∀ call system',
    Step workerCount system (some ⟨call, .ok ()⟩) system' → ∀ request ∈ call.requests,
      (request.relativePath, request.contents call.payload) ∈ system.shared.published
  /-- The disk shows what was published last. -/
  on_disk : PartNamesApart system.shared → ∀ path content,
    LastAt system.shared.published path content →
      system.shared.files.contentAt path = some content
  /-- The first failure stays. -/
  failure_kept : system.shared.queue.failure.isSome → ∀ event system',
    Step workerCount system event system' →
      system'.shared.queue.failure = system.shared.queue.failure
  /-- Every call with files that returns after it returns an error. -/
  failure_returned : system.shared.queue.failure.isSome → ∀ call result system',
    Step workerCount system (some ⟨call, result⟩) system' → call.requests ≠ [] →
      ∃ error, result = .error error
  /-- Every call that is queueing or waiting then returns at its next look. -/
  failure_wakes : system.shared.queue.failure.isSome → ∀ left call batch rest right,
    system.lanes = left ++ .sending call batch rest :: right →
      ∃ error, Step workerCount system (some ⟨call, .error error⟩)
        { system with lanes := left ++ .idle :: right }
  finish : system.finisher = .finished (.ok ()) → system.shared.failed = []

variable {workerCount laneCount : Nat} {files : FileTree} {system system' : PoolSystem}

theorem PoolInvariant.delivered (h : PoolInvariant workerCount system)
    (hnames : PartNamesApart system.shared) {call : PoolCall}
    (hstep : Step workerCount system (some ⟨call, .ok ()⟩) system')
    {request : TinyFileMaterializeRequest} (hrequest : request ∈ call.requests) :
    (request.relativePath, request.contents call.payload) ∈ system.shared.published := by
  cases hstep with
  | lane shared _ workers left right lane lane' finisher _ hlane =>
    cases hlane with
    | empty _ _ hnone =>
      rw [hnone] at hrequest
      cases hrequest
    | returns _ _ batch queue hturn =>
      obtain ⟨_, hzero⟩ := QueueState.waitForBatch_eq_done hturn
      obtain ⟨hcall, hsent⟩ := h.sending (.sending call batch []) (by simp)
      rw [List.append_nil] at hsent
      have hcompleted := h.account.completed_of_zero hcall hzero hsent hrequest
      exact (h.disk hnames).completed _ hcompleted

theorem failure_kept {event : Option PoolReturn} (hsome : system.shared.queue.failure.isSome)
    (hstep : Step workerCount system event system') :
    system'.shared.queue.failure = system.shared.queue.failure := by
  cases hstep with
  | worker _ _ left right worker worker' lanes finisher hworker =>
    exact hworker.frame.2.2.2 hsome
  | lane _ _ workers left right lane lane' finisher _ hlane =>
    exact hlane.frame.2.2.2.2.2.2 hsome
  | cancels => rfl
  | elsewhere => rfl
  | shutsDown => rfl
  | joins => rfl

theorem failure_returned (hsome : system.shared.queue.failure.isSome) {call : PoolCall}
    {result : IoResult Unit} (hstep : Step workerCount system (some ⟨call, result⟩) system')
    (hrequests : call.requests ≠ []) : ∃ error, result = .error error := by
  cases hstep with
  | lane shared _ workers left right lane lane' finisher _ hlane =>
    cases hlane with
    | empty _ _ hnone => exact absurd hnone hrequests
    | rejects _ _ error => exact ⟨error, rfl⟩
    | sendFails _ _ batch request rest queue error => exact ⟨error, rfl⟩
    | waitFails _ _ batch queue error => exact ⟨error, rfl⟩
    | returns _ _ batch queue hturn =>
      obtain ⟨hnone, _⟩ := QueueState.waitForBatch_eq_done hturn
      change shared.queue.failure.isSome at hsome
      rw [hnone] at hsome
      cases hsome

theorem failure_wakes (hsome : system.shared.queue.failure.isSome) {left right : List PoolLane}
    {call : PoolCall} {batch : Nat} {rest : List TinyFileMaterializeRequest}
    (hlanes : system.lanes = left ++ .sending call batch rest :: right) :
    ∃ error, Step workerCount system (some ⟨call, .error error⟩)
      { system with lanes := left ++ .idle :: right } := by
  obtain ⟨shared, workers, lanes, finisher⟩ := system
  obtain ⟨failure, hfailure⟩ := Option.isSome_iff_exists.mp hsome
  change shared.queue.failure = some failure at hfailure
  change lanes = left ++ .sending call batch rest :: right at hlanes
  rw [hlanes]
  refine ⟨failure.toIoError, Step.lane shared shared workers left right _ _ finisher _ ?_⟩
  cases rest with
  | nil =>
    refine LaneStep.waitFails shared call batch shared.queue failure.toIoError ?_
    unfold QueueState.waitForBatch
    rw [hfailure]
  | cons request rest =>
    refine LaneStep.sendFails shared call batch request rest shared.queue failure.toIoError ?_
    unfold QueueState.enqueue
    rw [hfailure]

/-! ## Runs -/

/-- A worker that has taken a job writes its part when nothing is in its way. -/
theorem Reached.writes {shared : PoolShared} {left right : List PoolWorker} {lanes : List PoolLane}
    {finisher : PoolFinisher} {job : MaterializeJob}
    (h : Reached workerCount laneCount files ⟨shared, left ++ .taken job :: right, lanes, finisher⟩)
    (hrunning : shared.cancelled = false) (hfree : shared.files job.request.partPath = none)
    (hsize : job.contents.length < fileSizeLimit) :
    ∃ files', Reached workerCount laneCount files
        ⟨{ shared with files := files' }, left ++ .written job :: right, lanes, finisher⟩ ∧
      files'.contentAt job.request.partPath = some job.contents ∧
      SameExcept [job.request.partPath] shared.files files' := by
  have hchecked := h.step (.worker _ _ left right _ _ _ _ (.checks shared job hrunning))
  obtain ⟨created, hcreate⟩ := createNew_of_none hfree 0
  obtain ⟨_, hempty, hcreateFrame⟩ := createNew_eq_ok hcreate
  have hcreated := hchecked.step (.worker _ _ left right _ _ _ _
    (.creates shared job 0 created hcreate))
  obtain ⟨sized, hset⟩ := setLen_of_contentAt hempty 0 hsize
  obtain ⟨hfilled, hsetFrame⟩ := setLen_eq_ok hempty hset
  have hsized := hcreated.step (.worker _ _ left right _ _ _ _
    (.sizes { shared with files := created } job 0 sized hset))
  have hall : overwrite 0 (resize 0 [] job.contents.length) 0 job.contents = job.contents :=
    overwrite_all 0 (resize_length 0 [] job.contents.length).symm
  have hfits : (overwrite 0 (resize 0 [] job.contents.length) 0 job.contents).length <
      fileSizeLimit := by
    rw [hall]
    exact hsize
  obtain ⟨written, hwrite⟩ := writeAt_of_contentAt hfilled 0 hfits
  obtain ⟨hcontent, hwriteFrame⟩ := writeAt_eq_ok hfilled hwrite
  rw [hall] at hcontent
  have hwritten := hsized.step (.worker _ _ left right _ _ _ _
    (.writes { shared with files := sized } job 0 written hwrite))
  exact ⟨written, hwritten, hcontent, (hcreateFrame.trans hsetFrame).trans hwriteFrame⟩

/-- What is under the part name gets the name of the file, and the job is counted. -/
theorem Reached.publishes {shared : PoolShared} {left right : List PoolWorker}
    {lanes : List PoolLane} {finisher : PoolFinisher} {job : MaterializeJob} {content : Bytes}
    (h : Reached workerCount laneCount files
      ⟨shared, left ++ .written job :: right, lanes, finisher⟩)
    (hcontent : shared.files.contentAt job.request.partPath = some content)
    (hfile : shared.files job.request.relativePath ≠ some .directory)
    (hcounter : shared.remaining job.batch ≠ 0) :
    ∃ files', Reached workerCount laneCount files
        ⟨{ shared with
            files := files'
            remaining := Function.update shared.remaining job.batch
              (shared.remaining job.batch - 1)
            completed := shared.completed ++ [job]
            published := shared.published ++ [(job.request.relativePath, content)] },
          left ++ .ready :: right, lanes, finisher⟩ ∧
      files'.contentAt job.request.relativePath = some content ∧
      SameExcept [job.request.partPath, job.request.relativePath] shared.files files' := by
  obtain ⟨files', hreplace⟩ := replace_of_contentAt hcontent hfile
  obtain ⟨hplaced, hframe⟩ := replace_eq_ok hcontent hreplace
  have hpublished := h.step (.worker _ _ left right _ _ _ _
    (.replaces shared job content files' hcontent hreplace))
  have hcounted := hpublished.step (.worker _ _ left right _ _ _ _ (.counts _ job hcounter))
  exact ⟨files', hcounted, hplaced, hframe⟩


/-- A file and another one that has its part name. -/
def partNameRequests : TinyFileMaterializeRequest × TinyFileMaterializeRequest :=
  (⟨2, [98], 0, 1⟩, ⟨3, temporaryPath [98] 2, 1, 2⟩)

/-- A call with one file. -/
def oneFileCall : PoolCall := ⟨[1, 2], [partNameRequests.1]⟩

theorem reached_oneFileCall : ∃ system system', Reached 1 1 (fun _ => none) system ∧
    Step 1 system (some ⟨oneFileCall, .ok ()⟩) system' ∧ system.shared.calls = [oneFileCall] := by
  have hbegun := (@Reached.start 1 1 (fun _ => none)).step
    (.lane _ _ _ [] [] _ _ _ _ (.begins _ oneFileCall (by decide) rfl))
  have hsent := hbegun.step (.lane _ _ _ [] [] _ _ _ _ (.sends _ oneFileCall 0 _ _ _ rfl))
  have htaken := hsent.step (.worker _ _ [] [] _ _ _ _ (.takes _ _ _ rfl))
  have hsize : ([1] : Bytes).length < fileSizeLimit := by norm_num [fileSizeLimit]
  obtain ⟨written, hwritten, hcontent, hframe⟩ := @Reached.writes 1 1 _ _ [] _ _ _ _ htaken
    rfl rfl hsize
  have hfree : written [98] ≠ some .directory := by
    rw [hframe [98] (fun hmem => temporaryPath_ne _ _ (List.mem_singleton.mp hmem).symm)]
    exact fun h => by cases h
  obtain ⟨published, hpublished, _⟩ := @Reached.publishes 1 1 _ _ [] [] _ _ _ _ hwritten hcontent
    hfree Nat.one_ne_zero
  exact ⟨_, _, hpublished, .lane _ _ _ [] [] _ _ _ _ (.returns _ oneFileCall 0 _ rfl), rfl⟩

/-! ## The pool -/

/-- The call with both files. -/
def partNameCall : PoolCall := ⟨[1, 2], [partNameRequests.1, partNameRequests.2]⟩

/-- Both workers have taken their job. -/
theorem reached_partNameJobs : ∃ shared, Reached 2 1 (fun _ => none)
      ⟨shared, [.taken (partNameCall.job 0 partNameRequests.1),
          .taken (partNameCall.job 0 partNameRequests.2)],
        [.sending partNameCall 0 []], .running⟩ ∧
    shared.queue.failure = none ∧ shared.cancelled = false ∧ shared.remaining 0 = 2 ∧
    shared.files = (fun _ => none) ∧ shared.published = [] := by
  have hbegun := (@Reached.start 2 1 (fun _ => none)).step
    (.lane _ _ _ [] [] _ _ _ _ (.begins _ partNameCall (by decide) rfl))
  have hfirst := hbegun.step (.lane _ _ _ [] [] _ _ _ _ (.sends _ partNameCall 0 _ _ _ rfl))
  have hsecond := hfirst.step (.lane _ _ _ [] [] _ _ _ _ (.sends _ partNameCall 0 _ _ _ rfl))
  have htaken := hsecond.step (.worker _ _ [] [.ready] _ _ _ _ (.takes _ _ _ rfl))
  have hboth := htaken.step (.worker _ _ [.taken _] [] _ _ _ _ (.takes _ _ _ rfl))
  exact ⟨_, hboth, rfl, rfl, rfl, rfl, rfl⟩

/-- The worker of the second file publishes under the part name that the other worker has written,
and the other worker renames what it finds there. -/
theorem reached_partNameCall : ∃ shared, Reached 2 1 (fun _ => none)
      ⟨shared, [.ready, .ready], [.sending partNameCall 0 []], .running⟩ ∧
    shared.queue.failure = none ∧ shared.remaining 0 = 0 ∧
    shared.published = [(temporaryPath [98] 2, [2]), ([98], [2])] := by
  obtain ⟨shared, htaken, hfailure, hrunning, hremaining, hfiles, hpublished⟩ :=
    reached_partNameJobs
  have hnone : ∀ path, shared.files path = none := fun path => by rw [hfiles]
  have hsize : ∀ request, (partNameCall.job 0 request).contents.length < fileSizeLimit := by
    intro request
    have hle : (partNameCall.job 0 request).contents.length ≤ 2 := by
      change (((([1, 2] : Bytes).drop request.start).take _).length ≤ 2)
      rw [List.length_take, List.length_drop]
      exact (min_le_right _ _).trans (Nat.sub_le _ _)
    refine hle.trans_lt ?_
    norm_num [fileSizeLimit]
  have hpartFirst : temporaryPath [98] 2 ≠ [98] := temporaryPath_ne _ _
  have hpartSecond : temporaryPath (temporaryPath [98] 2) 3 ≠ temporaryPath [98] 2 :=
    temporaryPath_ne _ _
  -- The first worker writes its part, and the second one writes its own.
  obtain ⟨first, hfirst, hfirstContent, hfirstFrame⟩ := @Reached.writes 2 1 _ _ [] _ _ _ _ htaken
    hrunning (hnone _) (hsize _)
  have hfirstNone : ∀ path, path ≠ temporaryPath [98] 2 → first path = none := by
    intro path hpath
    rw [hfirstFrame path (fun hmem => hpath (List.mem_singleton.mp hmem))]
    exact hnone path
  obtain ⟨second, hsecond, hsecondContent, hsecondFrame⟩ := @Reached.writes 2 1 _ _ [_] [] _ _ _
    hfirst hrunning (hfirstNone _ hpartSecond) (hsize _)
  -- The second file is published under the name of the first part.
  have hpartThere : second (temporaryPath [98] 2) ≠ some .directory := by
    rw [hsecondFrame _ (fun hmem => hpartSecond.symm (List.mem_singleton.mp hmem))]
    obtain ⟨node, hnode, _⟩ := contentAt_eq_some.mp hfirstContent
    change first (temporaryPath [98] 2) = _ at hnode
    change first (temporaryPath [98] 2) ≠ _
    rw [hnode]
    exact fun h => by cases h
  have hcounter : shared.remaining 0 ≠ 0 := by rw [hremaining]; decide
  obtain ⟨third, hthird, hthirdContent, hthirdFrame⟩ := @Reached.publishes 2 1 _ _ [_] [] _ _ _ _
    hsecond hsecondContent hpartThere hcounter
  -- The first worker renames that file.
  have hpartName : temporaryPath (temporaryPath [98] 2) 3 ≠ [98] := by
    simp [temporaryPath, utf16]
  have hnotThere : third [98] ≠ some .directory := by
    have hthirdSame : third [98] = second [98] := by
      refine hthirdFrame [98] ?_
      change [98] ∉ [temporaryPath (temporaryPath [98] 2) 3, temporaryPath [98] 2]
      simp [hpartName.symm, hpartFirst.symm]
    rw [hthirdSame, hsecondFrame _ (fun hmem => hpartName.symm (List.mem_singleton.mp hmem))]
    change first [98] ≠ _
    rw [hfirstNone _ hpartFirst.symm]
    exact fun h => by cases h
  have hleft : Function.update shared.remaining 0 (shared.remaining 0 - 1) 0 = 1 := by
    rw [Function.update_self, hremaining]
  obtain ⟨last, hlast, _⟩ := @Reached.publishes 2 1 _ _ [] [_] _ _ _ _ hthird hthirdContent
    hnotThere (by
      change Function.update shared.remaining 0 (shared.remaining 0 - 1) 0 ≠ 0
      rw [hleft]
      decide)
  refine ⟨_, hlast, hfailure, ?_, ?_⟩
  · change (Function.update (Function.update shared.remaining 0 (shared.remaining 0 - 1)) 0
      (Function.update shared.remaining 0 (shared.remaining 0 - 1) 0 - 1)) 0 = 0
    rw [Function.update_self, hleft]
  · change (shared.published ++ _) ++ _ = _
    rw [hpublished]
    rfl

end PoolSystem

end NetworkCopy
