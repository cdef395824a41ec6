import NetworkCopy.Pool.Accounting

/-!
# What is on the disk

A worker owns its part file from its creation to the rename.  When no part name of a request is the
path of another one, nobody else touches it, so the file that gets its name has the slice of the
payload, and what was renamed into place last is what the disk shows.
-/

namespace NetworkCopy

open FileTree ByteRange

/-- The requests of the calls. -/
def PoolShared.Submitted (shared : PoolShared) (request : TinyFileMaterializeRequest) : Prop :=
  ∃ call ∈ shared.calls, request ∈ call.requests

/-- No part name of a request is the path of a request. -/
def PartNamesApart (shared : PoolShared) : Prop :=
  ∀ request other, shared.Submitted request → shared.Submitted other →
    request.partPath ≠ other.relativePath

/-- The content was the last to get the path. -/
def LastAt (published : List (RelativePath × Bytes)) (path : RelativePath) (content : Bytes) :
    Prop :=
  ∃ front rest, published = front ++ (path, content) :: rest ∧ ∀ entry ∈ rest, entry.1 ≠ path

theorem lastAt_append {published : List (RelativePath × Bytes)} {path path' : RelativePath}
    {content content' : Bytes} (h : LastAt (published ++ [(path', content')]) path content) :
    (path = path' ∧ content = content') ∨ (path ≠ path' ∧ LastAt published path content) := by
  obtain ⟨front, rest, hsplit, hrest⟩ := h
  cases hlast : rest.reverse with
  | nil =>
    have hnone : rest = [] := List.reverse_eq_nil_iff.mp hlast
    rw [hnone] at hsplit
    obtain ⟨_, hsame⟩ := List.append_inj' hsplit rfl
    cases hsame
    exact .inl ⟨rfl, rfl⟩
  | cons last others =>
    have hform : rest = others.reverse ++ [last] := by
      rw [← List.reverse_reverse rest, hlast, List.reverse_cons]
    rw [hform, ← List.cons_append, ← List.append_assoc] at hsplit
    obtain ⟨hfront, hsame⟩ := List.append_inj' hsplit rfl
    cases hsame
    refine .inr ⟨?_, front, others.reverse, hfront, ?_⟩
    · intro hpath
      refine hrest (path', content') ?_ hpath.symm
      rw [hform]
      simp
    · intro entry hentry
      apply hrest
      rw [hform]
      exact List.mem_append_left _ hentry

/-! ## Part files -/

/-- The job whose part file a worker has on the disk. -/
def PoolWorker.owned : PoolWorker → List MaterializeJob
  | .created job => [job]
  | .sized job => [job]
  | .written job => [job]
  | .cleaning job _ => [job]
  | _ => []

/-- What is there for a worker. -/
def PoolWorker.Ready (shared : PoolShared) : PoolWorker → Prop
  | .created job => shared.files.contentAt job.request.partPath = some []
  | .sized job => shared.files.contentAt job.request.partPath =
      some (resize 0 [] job.contents.length)
  | .written job => shared.files.contentAt job.request.partPath = some job.contents
  | .cleaning job _ => ∃ content, shared.files.contentAt job.request.partPath = some content
  | .published job => (job.request.relativePath, job.contents) ∈ shared.published
  | _ => True

/-- Two workers have different part files. -/
def PartsApart (worker other : PoolWorker) : Prop :=
  ∀ job ∈ worker.owned, ∀ job' ∈ other.owned, job.request.partPath ≠ job'.request.partPath

/-- The disk and the record of what was published, for some workers. -/
structure OnDisk (shared : PoolShared) (workers : List PoolWorker) : Prop where
  ready : ∀ worker ∈ workers, worker.Ready shared
  apart : workers.Pairwise PartsApart
  completed : ∀ job ∈ shared.completed,
    (job.request.relativePath, job.contents) ∈ shared.published
  paths : ∀ entry ∈ shared.published, ∃ request, shared.Submitted request ∧
    request.relativePath = entry.1
  last : ∀ path content, LastAt shared.published path content →
    shared.files.contentAt path = some content

theorem partsApart_symm {worker other : PoolWorker} (h : PartsApart worker other) :
    PartsApart other worker :=
  fun job hjob job' hjob' hsame => h job' hjob' job hjob hsame.symm

theorem OnDisk.perm {shared : PoolShared} {workers workers' : List PoolWorker}
    (h : OnDisk shared workers) (hperm : workers.Perm workers') : OnDisk shared workers' where
  ready worker hworker := h.ready worker (hperm.mem_iff.mpr hworker)
  apart := (hperm.pairwise_iff partsApart_symm).mp h.apart
  completed := h.completed
  paths := h.paths
  last := h.last

/-- An owned part file is there. -/
theorem PoolWorker.Ready.exists {shared : PoolShared} {worker : PoolWorker}
    (h : worker.Ready shared) {job : MaterializeJob} (hjob : job ∈ worker.owned) :
    ∃ content, shared.files.contentAt job.request.partPath = some content := by
  cases worker with
  | created owned =>
    rw [List.mem_singleton.mp hjob]
    exact ⟨_, h⟩
  | sized owned =>
    rw [List.mem_singleton.mp hjob]
    exact ⟨_, h⟩
  | written owned =>
    rw [List.mem_singleton.mp hjob]
    exact ⟨_, h⟩
  | cleaning owned error =>
    rw [List.mem_singleton.mp hjob]
    exact h
  | ready => cases hjob
  | taken => cases hjob
  | checked => cases hjob
  | published => cases hjob
  | failing => cases hjob
  | returned => cases hjob

/-- What is there for a worker stays when its part file does. -/
theorem PoolWorker.Ready.congr {shared shared' : PoolShared} {worker : PoolWorker}
    (h : worker.Ready shared)
    (hfiles : ∀ job ∈ worker.owned, shared'.files.contentAt job.request.partPath =
      shared.files.contentAt job.request.partPath)
    (hpublished : ∀ entry ∈ shared.published, entry ∈ shared'.published) :
    worker.Ready shared' := by
  cases worker with
  | created job => exact (hfiles job List.mem_cons_self).trans h
  | sized job => exact (hfiles job List.mem_cons_self).trans h
  | written job => exact (hfiles job List.mem_cons_self).trans h
  | cleaning job error =>
    obtain ⟨content, hcontent⟩ := h
    exact ⟨content, (hfiles job List.mem_cons_self).trans hcontent⟩
  | published job => exact hpublished _ h
  | ready => trivial
  | taken => trivial
  | checked => trivial
  | failing => trivial
  | returned => trivial

/-! ## Steps -/

variable {shared shared' : PoolShared} {worker worker' : PoolWorker} {others : List PoolWorker}
  {job : MaterializeJob}

/-- The request of a queued job was submitted. -/
theorem JobsAccounted.submitted {held : List MaterializeJob} (h : JobsAccounted shared held)
    (hjob : job ∈ held) : shared.Submitted job.request := by
  have henqueued := h.mem_enqueued hjob
  obtain ⟨call, hcall, _⟩ := h.known job henqueued
  refine ⟨call, List.mem_of_getElem? hcall, ?_⟩
  apply (h.sent job.batch call hcall).subset
  exact List.mem_map.mpr ⟨job, List.mem_filter.mpr ⟨henqueued, decide_eq_true rfl⟩, rfl⟩

theorem PoolWorker.held_of_owned (h : job ∈ worker.owned) : job ∈ worker.held := by
  cases worker with
  | created => exact h
  | sized => exact h
  | written => exact h
  | cleaning => exact h
  | ready => cases h
  | taken => cases h
  | checked => cases h
  | published => cases h
  | failing => cases h
  | returned => cases h

theorem OnDisk.tail (h : OnDisk shared (worker :: others)) : OnDisk shared others where
  ready other hother := h.ready other (List.mem_cons_of_mem _ hother)
  apart := (List.pairwise_cons.mp h.apart).2
  completed := h.completed
  paths := h.paths
  last := h.last

theorem OnDisk.cons (h : OnDisk shared others) (hready : worker.Ready shared)
    (hapart : ∀ other ∈ others, PartsApart worker other) : OnDisk shared (worker :: others) where
  ready other hother := by
    cases List.mem_cons.mp hother with
    | inl hsame =>
      rw [hsame]
      exact hready
    | inr hmem => exact h.ready other hmem
  apart := List.pairwise_cons.mpr ⟨hapart, h.apart⟩
  completed := h.completed
  paths := h.paths
  last := h.last

/-- The record stays when nothing is published and the files of the pool stay. -/
theorem OnDisk.frame {workers : List PoolWorker} (h : OnDisk shared workers)
    (hparts : ∀ worker ∈ workers, ∀ job ∈ worker.owned,
      shared'.files.contentAt job.request.partPath = shared.files.contentAt job.request.partPath)
    (hlast : ∀ entry ∈ shared.published,
      shared'.files.contentAt entry.1 = shared.files.contentAt entry.1)
    (hpublished : shared'.published = shared.published)
    (hcompleted : ∀ job ∈ shared'.completed, job ∈ shared.completed ∨
      (job.request.relativePath, job.contents) ∈ shared.published)
    (hcalls : ∀ call ∈ shared.calls, call ∈ shared'.calls) : OnDisk shared' workers := by
  constructor
  · intro worker hworker
    refine (h.ready worker hworker).congr (hparts worker hworker) ?_
    intro entry hentry
    rw [hpublished]
    exact hentry
  · exact h.apart
  · intro job hjob
    rw [hpublished]
    cases hcompleted job hjob with
    | inl hbefore => exact h.completed job hbefore
    | inr hentry => exact hentry
  · intro entry hentry
    rw [hpublished] at hentry
    obtain ⟨request, ⟨call, hcall, hrequest⟩, hpath⟩ := h.paths entry hentry
    exact ⟨request, ⟨call, hcalls call hcall, hrequest⟩, hpath⟩
  · intro path content hcontent
    rw [hpublished] at hcontent
    have hbefore := h.last path content hcontent
    obtain ⟨front, rest, hsplit, _⟩ := hcontent
    rw [← hbefore]
    apply hlast (path, content)
    rw [hsplit]
    simp

/-- A step of a worker that leaves the files alone. -/
theorem OnDisk.quiet (h : OnDisk shared (worker :: others)) (hfiles : shared'.files = shared.files)
    (hpublished : shared'.published = shared.published) (hcalls : shared'.calls = shared.calls)
    (hcompleted : ∀ job ∈ shared'.completed, job ∈ shared.completed ∨
      (job.request.relativePath, job.contents) ∈ shared.published)
    (hready : worker'.Ready shared') (howned : worker'.owned = []) :
    OnDisk shared' (worker' :: others) := by
  have hothers : OnDisk shared' others := by
    refine h.tail.frame ?_ ?_ hpublished hcompleted (fun call hcall => by rw [hcalls]; exact hcall)
    · intro other _ job _
      rw [hfiles]
    · intro entry _
      rw [hfiles]
  refine hothers.cons hready ?_
  intro other _ job hjob
  rw [howned] at hjob
  cases hjob

/-- A step of a worker that changes its part file. -/
theorem OnDisk.writePart (h : OnDisk shared (worker :: others)) (hnames : PartNamesApart shared)
    (hsubmitted : shared.Submitted job.request)
    (hfree : ∀ other ∈ others, ∀ job' ∈ other.owned,
      job.request.partPath ≠ job'.request.partPath)
    {files : FileTree} (hframe : SameExcept [job.request.partPath] shared.files files)
    (hfiles : shared'.files = files) (hpublished : shared'.published = shared.published)
    (hcalls : shared'.calls = shared.calls) (hcompleted : shared'.completed = shared.completed)
    (hready : worker'.Ready shared') (howned : ∀ job' ∈ worker'.owned, job' = job) :
    OnDisk shared' (worker' :: others) := by
  have hstays : ∀ path, path ≠ job.request.partPath →
      shared'.files.contentAt path = shared.files.contentAt path := by
    intro path hne
    unfold contentAt
    rw [hfiles, hframe path (by simpa using hne)]
  have hothers : OnDisk shared' others := by
    refine h.tail.frame ?_ ?_ hpublished (fun job' hjob' => .inl (by rw [← hcompleted]; exact hjob'))
      (fun call hcall => by rw [hcalls]; exact hcall)
    · intro other hother job' hjob'
      exact hstays _ (hfree other hother job' hjob').symm
    · intro entry hentry
      obtain ⟨request, hrequest, hpath⟩ := h.paths entry hentry
      rw [← hpath]
      exact hstays _ (hnames job.request request hsubmitted hrequest).symm
  refine hothers.cons hready ?_
  intro other hother job' hjob' job'' hjob''
  rw [howned job' hjob']
  exact hfree other hother job'' hjob''

/-- Nobody else has the part file of a worker. -/
theorem OnDisk.free_of_owned (h : OnDisk shared (worker :: others)) (hjob : job ∈ worker.owned) :
    ∀ other ∈ others, ∀ job' ∈ other.owned, job.request.partPath ≠ job'.request.partPath :=
  fun other hother job' hjob' => (List.pairwise_cons.mp h.apart).1 other hother job hjob job' hjob'

/-- The file of a worker gets its name. -/
theorem OnDisk.publish (h : OnDisk shared (.written job :: others)) (hnames : PartNamesApart shared)
    (hsubmitted : ∀ worker ∈ PoolWorker.written job :: others, ∀ job ∈ worker.owned,
      shared.Submitted job.request)
    {content : Bytes} {files : FileTree}
    (hcontent : shared.files.contentAt job.request.partPath = some content)
    (hreplace : shared.files.replace job.request.partPath job.request.relativePath = .ok files) :
    OnDisk { shared with
      files
      published := shared.published ++ [(job.request.relativePath, content)] }
      (.published job :: others) := by
  have hmine : shared.Submitted job.request := hsubmitted _ List.mem_cons_self job List.mem_cons_self
  have hready : shared.files.contentAt job.request.partPath = some job.contents :=
    h.ready (.written job) List.mem_cons_self
  have hsame : content = job.contents := by
    rw [hcontent, Option.some.injEq] at hready
    exact hready
  obtain ⟨hplaced, hframe⟩ := replace_eq_ok hcontent hreplace
  have hstays : ∀ path, path ≠ job.request.partPath → path ≠ job.request.relativePath →
      files.contentAt path = shared.files.contentAt path := by
    intro path hpart hfinal
    unfold contentAt
    rw [hframe path (by simp [hpart, hfinal])]
  constructor
  · intro other hother
    cases List.mem_cons.mp hother with
    | inl hself =>
      rw [hself, hsame]
      exact List.mem_append_right _ (List.mem_singleton_self _)
    | inr hmem =>
      refine (h.ready other (List.mem_cons_of_mem _ hmem)).congr ?_
        (fun entry hentry => List.mem_append_left _ hentry)
      intro job' hjob'
      apply hstays
      · exact (h.free_of_owned List.mem_cons_self other hmem job' hjob').symm
      · exact hnames job'.request job.request
          (hsubmitted other (List.mem_cons_of_mem _ hmem) job' hjob') hmine
  · refine List.pairwise_cons.mpr ⟨?_, (List.pairwise_cons.mp h.apart).2⟩
    intro other _ job' hjob'
    cases hjob'
  · exact fun job' hjob' => List.mem_append_left _ (h.completed job' hjob')
  · intro entry hentry
    cases List.mem_append.mp hentry with
    | inl hbefore => exact h.paths entry hbefore
    | inr hnew =>
      rw [List.mem_singleton.mp hnew]
      exact ⟨job.request, hmine, rfl⟩
  · intro path found hfound
    cases lastAt_append hfound with
    | inl hnew =>
      rw [hnew.1, hnew.2]
      exact hplaced
    | inr hold =>
      obtain ⟨hne, hlast⟩ := hold
      have hbefore := h.last path found hlast
      obtain ⟨front, rest, hsplit, _⟩ := hlast
      obtain ⟨request, hrequest, hpath⟩ := h.paths (path, found) (by rw [hsplit]; simp)
      have hpart : path ≠ job.request.partPath := by
        intro hpart
        exact hnames job.request request hmine hrequest (by rw [hpath, ← hpart])
      exact (hstays path hpart hne).trans hbefore

/-- A worker keeps the record of the disk. -/
theorem WorkerStep.onDisk (hstep : WorkerStep (shared, worker) (shared', worker'))
    (hnames : PartNamesApart shared)
    (haccount : JobsAccounted shared ((worker :: others).flatMap PoolWorker.held))
    (h : OnDisk shared (worker :: others)) : OnDisk shared' (worker' :: others) := by
  have hsubmitted : ∀ other ∈ worker :: others, ∀ job ∈ other.held,
      shared.Submitted job.request :=
    fun other hother job hjob =>
      haccount.submitted (List.mem_flatMap.mpr ⟨other, hother, hjob⟩)
  have hmine : ∀ job ∈ worker.held, shared.Submitted job.request :=
    hsubmitted worker List.mem_cons_self
  have hready := h.ready worker List.mem_cons_self
  cases hstep with
  | takes => exact h.quiet rfl rfl rfl (fun _ => .inl) trivial rfl
  | leaves => exact h.quiet rfl rfl rfl (fun _ => .inl) trivial rfl
  | checks => exact h.quiet rfl rfl rfl (fun _ => .inl) trivial rfl
  | stops => exact h.quiet rfl rfl rfl (fun _ => .inl) trivial rfl
  | createFails => exact h.quiet rfl rfl rfl (fun _ => .inl) trivial rfl
  | removeFails => exact h.quiet rfl rfl rfl (fun _ => .inl) trivial rfl
  | replaceFails => exact h.quiet rfl rfl rfl (fun _ => .inl) trivial rfl
  | underflows => exact h.quiet rfl rfl rfl (fun _ => .inl) trivial rfl
  | records => exact h.quiet rfl rfl rfl (fun _ => .inl) trivial rfl
  | counts _ job =>
    refine h.quiet rfl rfl rfl (fun job' hjob' => ?_) trivial rfl
    cases List.mem_append.mp hjob' with
    | inl hbefore => exact .inl hbefore
    | inr hnew =>
      rw [List.mem_singleton.mp hnew]
      exact .inr hready
  | creates _ job now files hcreate =>
    obtain ⟨hnone, hempty, hframe⟩ := createNew_eq_ok hcreate
    refine h.writePart hnames (hmine job List.mem_cons_self) ?_ hframe rfl rfl rfl rfl hempty
      (fun _ => List.mem_singleton.mp)
    intro other hother job' hjob' hsame
    obtain ⟨content, hcontent⟩ := (h.ready other (List.mem_cons_of_mem _ hother)).exists hjob'
    obtain ⟨node, hnode, _⟩ := contentAt_eq_some.mp hcontent
    rw [← hsame, hnone] at hnode
    cases hnode
  | sizes _ job now files hlength =>
    obtain ⟨hcontent, hframe⟩ := setLen_eq_ok hready hlength
    exact h.writePart hnames (hmine job List.mem_cons_self) (h.free_of_owned List.mem_cons_self)
      hframe rfl rfl rfl rfl hcontent (fun _ => List.mem_singleton.mp)
  | writes _ job now files hwrite =>
    obtain ⟨hcontent, hframe⟩ := writeAt_eq_ok hready hwrite
    rw [overwrite_all 0 (resize_length 0 [] job.contents.length).symm] at hcontent
    exact h.writePart hnames (hmine job List.mem_cons_self) (h.free_of_owned List.mem_cons_self)
      hframe rfl rfl rfl rfl hcontent (fun _ => List.mem_singleton.mp)
  | writeFails _ _ job error node hworker =>
    have howned : worker.owned = [job] := by
      cases hworker with
      | inl hcreated => rw [hcreated]; rfl
      | inr hsized => rw [hsized]; rfl
    have hjob : job ∈ worker.owned := by
      rw [howned]
      exact List.mem_cons_self
    have hframe := (SameExcept.refl [job.request.partPath] shared.files).set
      (some (.file node)) List.mem_cons_self
    refine h.writePart hnames (hmine job (PoolWorker.held_of_owned hjob))
      (h.free_of_owned hjob) hframe rfl rfl rfl rfl ?_ (fun _ => List.mem_singleton.mp)
    exact ⟨node.content.1, contentAt_eq_some.mpr ⟨node, set_same _ _ _, rfl⟩⟩
  | removes _ job error files hremove =>
    have hframe : SameExcept [job.request.partPath] shared.files files := by
      obtain ⟨_, _, hset⟩ := bind_eq_ok.mp hremove
      rw [pure_eq_ok, Except.ok.injEq] at hset
      rw [← hset]
      exact (SameExcept.refl _ _).set none List.mem_cons_self
    exact h.writePart hnames (hmine job List.mem_cons_self) (h.free_of_owned List.mem_cons_self)
      hframe rfl rfl rfl rfl trivial (fun _ habsurd => by cases habsurd)
  | replaces _ job content files hcontent hreplace =>
    exact h.publish hnames (fun other hother job hjob =>
      hsubmitted other hother job (PoolWorker.held_of_owned hjob)) hcontent hreplace

end NetworkCopy
