import NetworkCopy.GenerationExecution
import NetworkCopy.Lane.TinyPack
import NetworkCopy.ManifestWire

/-!
# Plans of a received manifest

The class of a file travels beside its size, and `receive_manifest_entries` checks the class byte
only for its range.  The planner goes by the class, the tiny-pack decoder and the session catalog go
by the size.  A manifest is planned consistently exactly when every class is the class of its size
and the catalog can estimate the chunks of every file.
-/

namespace NetworkCopy

open Duplex

/-! ## Plans -/

/-- The class that a task is for. -/
def TransferTask.fileClass : TransferTask → FileClass
  | .wholeFile _ => .medium
  | .tinyPack _ _ => .tiny
  | .stripe _ _ _ => .large

/-- What the later modules need of a plan. -/
structure PlanConsistent (manifest : Manifest) (plan : TransferPlan) : Prop where
  /-- A task is of the kind that the size of its files requires. -/
  kinds : ∀ task ∈ plan.tasks, ∀ fileId ∈ task.fileIds,
    fileId < manifest.length ∧ task.fileClass = classifyFile (manifest.sizeOf fileId)
  planned : ∀ fileId < manifest.length, ∃ task ∈ plan.tasks, fileId ∈ task.fileIds
  /-- The decoder accepts the payload of a pack and of every part of it, in the encoding that the
  sender chooses. -/
  packs : ∀ fileIds totalBytes, .tinyPack fileIds totalBytes ∈ plan.tasks →
    ∀ (zstd : Zstd) (payload : Bytes), payload.length ≤ totalBytes →
      decodeTinyPack zstd .raw payload payload.length copyBufferBytes = .ok payload ∧
      ∀ encoded, encodeTinyPack zstd payload = .ok encoded →
        decodeTinyPack zstd encoded.1 encoded.2 payload.length copyBufferBytes = .ok payload
  /-- The catalog is planned for the medium and large files that remain. -/
  catalog : ∀ (remaining : TransferPlan) (limits : CatalogLimits), limits.validate = .ok () →
    (∀ task ∈ remaining.tasks, catalogTaskFileId task ≠ none → task ∈ plan.tasks) →
    ∃ fresh, buildFreshGenerationPlanWithLimits manifest remaining limits = .ok fresh

/-- For every number of streams that a session can have and every order of equal files. -/
structure PlansConsistently (manifest : Manifest) : Prop where
  classified : ∀ entry ∈ manifest, entry.fileClass = classifyFile entry.fileSize
  planned : ∀ (sort : UnstableSort) (dataStreamCount : Nat), 1 ≤ dataStreamCount →
    dataStreamCount ≤ 32 → ∃ plan,
      buildTransferPlan sort manifest dataStreamCount = .ok plan ∧ PlanConsistent manifest plan

/-- The catalog can estimate the chunks of every file. -/
def Manifest.Estimable (manifest : Manifest) : Prop :=
  ∀ entry ∈ manifest, entry.fileSize + averageChunkBytes ≤ u64Limit

variable {manifest : Manifest}

/-! ## The catalog -/

variable {task : TransferTask} {fileId : Nat}
variable {plan : TransferPlan}

theorem checkGenerationIndexes_of_validated {limits : CatalogLimits} :
    ∀ {generations : List CatalogGeneration} {index : Nat} {state state' : ValidationState},
      validateGenerations limits index generations state = .ok state' →
      checkGenerationIndexes index generations = .ok () := by
  intro generations
  induction generations with
  | nil =>
    intro index state state' _
    rfl
  | cons generation rest ih =>
    intro index state state' h
    rw [validateGenerations] at h
    obtain ⟨next, hnext, hrest⟩ := bind_eq_ok.mp h
    rw [checkGenerationIndexes, (validateGeneration_eq_ok hnext).1, ensure, if_pos rfl, ok_bind]
    exact ih hrest

/-- The files of the medium and large tasks. -/
def catalogFileIds (plan : TransferPlan) : List Nat :=
  (plan.tasks.filterMap catalogTaskFileId).toFinset.sort

theorem mem_catalogFileIds :
    fileId ∈ catalogFileIds plan ↔ ∃ task ∈ plan.tasks, catalogTaskFileId task = some fileId := by
  unfold catalogFileIds
  rw [Finset.mem_sort, List.mem_toFinset, List.mem_filterMap]

/-- The entry of a file of a task, with the class of the task. -/
theorem entry_of_kind (hclassified : manifest.Classified)
    (hkind : fileId < manifest.length ∧ task.fileClass = classifyFile (manifest.sizeOf fileId)) :
    ∃ entry, manifest[fileId]? = some entry ∧ entry.fileClass = task.fileClass := by
  obtain ⟨entry, hentry⟩ : ∃ entry, manifest[fileId]? = some entry :=
    ⟨_, List.getElem?_eq_getElem hkind.1⟩
  refine ⟨entry, hentry, ?_⟩
  rw [hclassified entry (List.mem_of_getElem? hentry), hkind.2, Manifest.sizeOf_eq hentry]

theorem catalogCandidateId_of_kind (hclassified : manifest.Classified)
    (hkind : ∀ fileId ∈ catalogTaskFileId task,
      fileId < manifest.length ∧ task.fileClass = classifyFile (manifest.sizeOf fileId)) :
    catalogCandidateId manifest task = .ok (catalogTaskFileId task) := by
  cases task with
  | wholeFile fileId =>
    obtain ⟨entry, hentry, hclass⟩ := entry_of_kind hclassified (hkind fileId rfl)
    change entry.fileClass = .medium at hclass
    unfold catalogCandidateId
    simp only [catalogTaskFileId, hentry, okOrElse_some, ok_bind]
    rw [ensure, if_pos hclass]
    rfl
  | stripe fileId offset length =>
    obtain ⟨entry, hentry, hclass⟩ := entry_of_kind hclassified (hkind fileId rfl)
    change entry.fileClass = .large at hclass
    unfold catalogCandidateId
    simp only [catalogTaskFileId, hentry, okOrElse_some, ok_bind]
    rw [ensure, if_pos hclass]
    rfl
  | tinyPack fileIds totalBytes => rfl

/-- A medium or large file is not empty. -/
theorem sizeOf_ne_zero (hid : catalogTaskFileId task = some fileId)
    (hkind : task.fileClass = classifyFile (manifest.sizeOf fileId)) :
    manifest.sizeOf fileId ≠ 0 := by
  intro hzero
  rw [hzero, classifyFile, if_pos (Nat.zero_le _)] at hkind
  cases task with
  | wholeFile => cases hkind
  | stripe => cases hkind
  | tinyPack => cases hid

/-- The candidates are these files with their sizes. -/
theorem collectFreshCatalogCandidates_of_kinds (hclassified : manifest.Classified)
    (hkinds : ∀ task ∈ plan.tasks, ∀ fileId ∈ catalogTaskFileId task,
      fileId < manifest.length ∧ task.fileClass = classifyFile (manifest.sizeOf fileId)) :
    collectFreshCatalogCandidates manifest plan =
      .ok ((catalogFileIds plan).map (fun fileId => ⟨fileId, manifest.sizeOf fileId⟩)) := by
  unfold collectFreshCatalogCandidates
  rw [mapM_of_forall (fun task htask => catalogCandidateId_of_kind hclassified (hkinds task htask)),
    ok_bind]
  have hids : ((plan.tasks.map catalogTaskFileId).filterMap id).toFinset.sort =
      catalogFileIds plan := by
    rw [List.filterMap_map]
    rfl
  rw [hids]
  apply mapM_of_forall
  intro fileId hid
  obtain ⟨task, htask, hfile⟩ := mem_catalogFileIds.mp hid
  have hkind := hkinds task htask fileId hfile
  have hentry := List.getElem?_eq_getElem hkind.1
  have hsize := sizeOf_ne_zero hfile hkind.2
  rw [Manifest.sizeOf_eq hentry] at hsize ⊢
  rw [hentry, okOrElse_some, ok_bind, CatalogCandidate.new, ensure, if_pos hsize]
  rfl

/-- The sizes of some files are not more than the bytes of the manifest. -/
theorem sum_sizes_le {fileIds : List Nat} (hnodup : fileIds.Nodup)
    (hids : ∀ fileId ∈ fileIds, fileId < manifest.length) :
    (fileIds.map manifest.sizeOf).sum ≤ manifest.totalBytes := by
  rw [Manifest.totalBytes_eq]
  have hsub : fileIds.Subperm (List.range manifest.length) :=
    hnodup.subperm (fun fileId hid => List.mem_range.mpr (hids fileId hid))
  obtain ⟨others, hperm, hsublist⟩ := hsub
  rw [← (hperm.map manifest.sizeOf).sum_eq]
  exact (hsublist.map manifest.sizeOf).sum_le_sum (fun _ _ => Nat.zero_le _)

/-- The catalog is planned when the chunks of every file can be estimated, and only then. -/
theorem buildFreshGenerationPlan_iff (hclassified : manifest.Classified)
    (htotal : manifest.totalBytes < u64Limit) {limits : CatalogLimits}
    (hlimits : limits.validate = .ok ())
    (hkinds : ∀ task ∈ plan.tasks, ∀ fileId ∈ catalogTaskFileId task,
      fileId < manifest.length ∧ task.fileClass = classifyFile (manifest.sizeOf fileId)) :
    (∃ fresh, buildFreshGenerationPlanWithLimits manifest plan limits = .ok fresh) ↔
      ∀ fileId ∈ catalogFileIds plan,
        manifest.sizeOf fileId + averageChunkBytes ≤ u64Limit := by
  have hfiles : ∀ fileId ∈ catalogFileIds plan, fileId < manifest.length ∧
      manifest.sizeOf fileId ≠ 0 := by
    intro fileId hid
    obtain ⟨task, htask, hfile⟩ := mem_catalogFileIds.mp hid
    have hkind := hkinds task htask fileId hfile
    exact ⟨hkind.1, sizeOf_ne_zero hfile hkind.2⟩
  have hnodup : (catalogFileIds plan).Nodup := Finset.sort_nodup _ _
  unfold buildFreshGenerationPlanWithLimits
  rw [collectFreshCatalogCandidates_of_kinds hclassified hkinds, ok_bind]
  set candidates := (catalogFileIds plan).map
    (fun fileId => (⟨fileId, manifest.sizeOf fileId⟩ : CatalogCandidate)) with hcandidates
  have hperm := sortedCandidates_perm candidates
  constructor
  · intro hfresh fileId hid
    obtain ⟨fresh, hfresh⟩ := hfresh
    obtain ⟨catalog, hcatalog, _⟩ := bind_eq_ok.mp hfresh
    obtain ⟨_, hcatalog⟩ := bind_rest hcatalog
    obtain ⟨_, hvalid, _⟩ := bind_eq_ok.mp hcatalog
    have hestimable := (validateCandidates_eq_ok.mp hvalid).1
    exact (hestimable ⟨fileId, manifest.sizeOf fileId⟩
      (hperm.mem_iff.mpr (List.mem_map_of_mem hid))).2
  · intro hestimable
    have hvalid : validateCandidates none (sortedCandidates candidates) = .ok () := by
      refine validateCandidates_eq_ok.mpr ⟨?_, sortedCandidates_above ?_⟩
      · intro candidate hcandidate
        obtain ⟨fileId, hid, hsame⟩ := List.mem_map.mp (hperm.mem_iff.mp hcandidate)
        rw [← hsame]
        exact ⟨(hfiles fileId hid).2, hestimable fileId hid⟩
      · rw [hcandidates, List.map_map]
        simpa [Function.comp_def] using hnodup
    have hbytes : candidateTotal (sortedCandidates candidates) < u64Limit := by
      rw [candidateTotal_perm hperm]
      refine lt_of_le_of_lt ?_ htotal
      unfold candidateTotal
      rw [hcandidates, List.map_map]
      exact sum_sizes_le hnodup (fun fileId hid => (hfiles fileId hid).1)
    obtain ⟨catalog, _, hcatalog, _, _, hplanned⟩ := planCatalog_eq_ok hlimits hvalid hbytes
    obtain ⟨_, _, hvalidated⟩ := bind_eq_ok.mp hplanned.validated
    obtain ⟨_, hgenerations, _⟩ := bind_eq_ok.mp hvalidated
    rw [hcatalog, ok_bind, checkGenerationIndexes_of_validated hgenerations, ok_bind]
    exact ⟨_, rfl⟩

/-! ## The plan -/

theorem classOf_classified (hclassified : manifest.Classified) {fileClass : FileClass}
    (h : manifest.classOf fileId = some fileClass) :
    fileId < manifest.length ∧ fileClass = classifyFile (manifest.sizeOf fileId) := by
  unfold Manifest.classOf at h
  obtain ⟨entry, hentry, hclass⟩ := Option.map_eq_some_iff.mp h
  obtain ⟨hlt, _⟩ := List.getElem?_eq_some_iff.mp hentry
  refine ⟨hlt, ?_⟩
  rw [← hclass, hclassified entry (List.mem_of_getElem? hentry), Manifest.sizeOf_eq hentry]

/-- A task of a covering plan is of the class of its files. -/
theorem PlanCovers.class_eq {tasks : List TransferTask} (h : PlanCovers manifest tasks)
    (htask : task ∈ tasks) (hfile : fileId ∈ task.fileIds) :
    manifest.classOf fileId = some task.fileClass := by
  cases task with
  | wholeFile wholeId =>
    rw [List.mem_singleton.mp hfile]
    have hcount := h.wholeFiles wholeId
    by_contra hother
    change ¬ manifest.classOf wholeId = some .medium at hother
    rw [if_neg hother] at hcount
    exact List.count_eq_zero.mp hcount htask
  | tinyPack fileIds totalBytes =>
    have hmem : fileId ∈ tasks.flatMap TransferTask.packMembers :=
      List.mem_flatMap.mpr ⟨_, htask, hfile⟩
    have hcount := h.tinyFiles fileId
    by_contra hother
    change ¬ manifest.classOf fileId = some .tiny at hother
    rw [if_neg hother] at hcount
    exact List.count_eq_zero.mp hcount hmem
  | stripe stripeId offset length =>
    rw [List.mem_singleton.mp hfile]
    by_contra hother
    have hmem : (offset, length) ∈ tasks.filterMap (TransferTask.stripeOf stripeId) :=
      List.mem_filterMap.mpr ⟨_, htask, if_pos rfl⟩
    rw [h.noOtherStripes stripeId hother] at hmem
    cases hmem

/-- Every file has a task. -/
theorem PlanCovers.exists_task {tasks : List TransferTask} (h : PlanCovers manifest tasks)
    (hid : fileId < manifest.length) : ∃ task ∈ tasks, fileId ∈ task.fileIds := by
  have hclass := Manifest.classOf_eq (List.getElem?_eq_getElem hid)
  cases hcase : (manifest[fileId]).fileClass with
  | tiny =>
    rw [hcase] at hclass
    have hcount := h.tinyFiles fileId
    rw [if_pos hclass] at hcount
    have hmem : fileId ∈ tasks.flatMap TransferTask.packMembers :=
      List.count_pos_iff.mp (by omega)
    obtain ⟨task, htask, hmember⟩ := List.mem_flatMap.mp hmem
    cases task with
    | tinyPack fileIds totalBytes => exact ⟨_, htask, hmember⟩
    | wholeFile => cases hmember
    | stripe => cases hmember
  | medium =>
    rw [hcase] at hclass
    have hcount := h.wholeFiles fileId
    rw [if_pos hclass] at hcount
    have hmem : TransferTask.wholeFile fileId ∈ tasks := List.count_pos_iff.mp (by omega)
    exact ⟨_, hmem, List.mem_singleton_self fileId⟩
  | large =>
    rw [hcase] at hclass
    have hfirst := (h.largeFiles fileId hclass).first
    obtain ⟨stripe, hstripe, _⟩ := List.countP_pos_iff.mp (hfirst ▸ Nat.one_pos)
    obtain ⟨task, htask, hstripeOf⟩ := List.mem_filterMap.mp hstripe
    cases task with
    | stripe stripeId offset length =>
      change (if stripeId = fileId then some (offset, length) else none) = some stripe
        at hstripeOf
      by_cases hsame : stripeId = fileId
      · rw [← hsame]
        exact ⟨_, htask, List.mem_singleton_self stripeId⟩
      · rw [if_neg hsame] at hstripeOf
        cases hstripeOf
    | wholeFile => cases hstripeOf
    | tinyPack => cases hstripeOf

theorem catalogTaskFileId_mem (h : catalogTaskFileId task = some fileId) :
    fileId ∈ task.fileIds := by
  cases task with
  | wholeFile => exact List.mem_singleton.mpr (Option.some.inj h).symm
  | stripe => exact List.mem_singleton.mpr (Option.some.inj h).symm
  | tinyPack => cases h

/-- A plan that covers a classified manifest is consistent when the catalog can estimate its
files. -/
theorem planConsistent_of_covers (hclassified : manifest.Classified)
    (hestimable : manifest.Estimable) (htotal : manifest.totalBytes < u64Limit)
    (hcovers : PlanCovers manifest plan.tasks) :
    PlanConsistent manifest plan where
  kinds task htask fileId hfile :=
    classOf_classified hclassified (hcovers.class_eq htask hfile)
  planned _ hid := hcovers.exists_task hid
  packs := by
    intro fileIds totalBytes htask zstd payload hpayload
    have htarget := (hcovers.packs fileIds totalBytes htask).target
    have hsmall : payload.length ≤ maxTinyPackBytes := hpayload.trans htarget
    have hbuffer : payload.length ≤ copyBufferBytes := by
      refine hsmall.trans (le_of_eq ?_)
      norm_num [maxTinyPackBytes, copyBufferBytes]
    have hwire : payload.length ≤ maxTinyPackWireBytes := by
      unfold maxTinyPackWireBytes
      omega
    constructor
    · simp [decodeTinyPack, validateLogicalSize, validateWireSize, ensure, hsmall, hwire, hbuffer]
    · intro encoded hencoded
      exact (decodeTinyPack_encodeTinyPack hencoded hbuffer).2
  catalog := by
    intro remaining limits hlimits hremaining
    have hkinds : ∀ task ∈ remaining.tasks, ∀ fileId ∈ catalogTaskFileId task,
        fileId < manifest.length ∧ task.fileClass = classifyFile (manifest.sizeOf fileId) := by
      intro task htask fileId hfile
      have hplan : task ∈ plan.tasks := hremaining task htask (by rw [hfile]; simp)
      exact classOf_classified hclassified (hcovers.class_eq hplan (catalogTaskFileId_mem hfile))
    refine (buildFreshGenerationPlan_iff hclassified htotal hlimits hkinds).mpr ?_
    intro fileId hid
    obtain ⟨task, htask, hfile⟩ := mem_catalogFileIds.mp hid
    have hlt := (hkinds task htask fileId hfile).1
    rw [Manifest.sizeOf_eq (List.getElem?_eq_getElem hlt)]
    exact hestimable _ (List.getElem_mem hlt)

/-- A manifest is planned consistently exactly when it is classified and estimable. -/
theorem plansConsistently_iff (htotal : manifest.totalBytes < u64Limit) :
    PlansConsistently manifest ↔ manifest.Classified ∧ manifest.Estimable := by
  constructor
  · intro h
    refine ⟨h.classified, ?_⟩
    intro entry hentry
    obtain ⟨plan, hplan, hconsistent⟩ := h.planned .stable 1 le_rfl (by omega)
    have hdefault : ({} : CatalogLimits).validate = .ok () := by
      with_unfolding_all rfl
    have hfresh := hconsistent.catalog plan {} hdefault (fun _ htask _ => htask)
    have hestimable := (buildFreshGenerationPlan_iff h.classified htotal hdefault
      (fun task htask fileId hfile =>
        hconsistent.kinds task htask fileId (catalogTaskFileId_mem hfile))).mp hfresh
    obtain ⟨fileId, hlt, hget⟩ := List.getElem_of_mem hentry
    have hsize := Manifest.sizeOf_eq (List.getElem?_eq_getElem hlt)
    obtain ⟨task, htask, hfile⟩ := hconsistent.planned fileId hlt
    have hkind := (hconsistent.kinds task htask fileId hfile).2
    rw [hsize, hget] at hkind
    cases task with
    | tinyPack =>
      -- A tiny file is far from the limit.
      have htiny : entry.fileSize ≤ tinyFileMaxBytes := by
        by_contra hlarge
        unfold classifyFile at hkind
        rw [if_neg hlarge] at hkind
        split at hkind <;> cases hkind
      refine (Nat.add_le_add_right htiny _).trans ?_
      norm_num [tinyFileMaxBytes, averageChunkBytes, u64Limit]
    | wholeFile wholeId =>
      have hid := hestimable fileId (mem_catalogFileIds.mpr
        ⟨_, htask, congrArg some (List.mem_singleton.mp hfile).symm⟩)
      rw [hsize, hget] at hid
      exact hid
    | stripe stripeId offset length =>
      have hid := hestimable fileId (mem_catalogFileIds.mpr
        ⟨_, htask, congrArg some (List.mem_singleton.mp hfile).symm⟩)
      rw [hsize, hget] at hid
      exact hid
  · rintro ⟨hclassified, hestimable⟩
    refine ⟨hclassified, ?_⟩
    intro sort dataStreamCount hcount hstreams
    cases hbuild : buildTransferPlan sort manifest dataStreamCount with
    | ok plan =>
      have hcovers := (buildTransferPlan_eq_ok hclassified hcount hstreams hbuild).2
      exact ⟨plan, rfl, planConsistent_of_covers hclassified hestimable htotal hcovers⟩
    | error error =>
      have hlimit := (buildTransferPlan_eq_error hclassified hcount hstreams hbuild).2
      omega

/-! ## The receiver -/

/-- What `receive_manifest_entries` accepts is planned consistently exactly when the peer sent for
each file the class of its size and no file has `2 ^ 64 - 65535` bytes or more. -/
theorem receivedManifest_consistent_iff {w : Bytes} {directories : List DirectoryEntry}
    {summary : ManifestSummary} {read : Nat}
    (h : Parses receiveManifestEntries w (manifest, directories, summary, read)) :
    PlansConsistently manifest ↔ manifest.Classified ∧ manifest.Estimable := by
  obtain ⟨haccepted, _⟩ := parses_receiveManifestEntries h
  have htotal : manifest.totalBytes < u64Limit := by
    rw [← haccepted.bytes]
    exact (summarizeManifest_eq_ok haccepted.summarized).1.totalFileBytes
  exact plansConsistently_iff htotal

/-- A message that the sender writes is accepted, whatever its classes are. -/
theorem received_of_emission {manifest : Manifest} {directories : List DirectoryEntry}
    (h : (emission (sendManifest manifest directories)).isSome = true) :
    ∃ w summary, Parses receiveManifestEntries w (manifest, directories, summary, w.length) := by
  obtain ⟨⟨w, written⟩, hsent⟩ := Option.isSome_iff_exists.mp h
  obtain ⟨received, hparses, summary, _, hreceived⟩ :=
    (agree_sendManifest manifest directories).parses (emits_of_emission hsent)
  rw [hreceived] at hparses
  have hcount := (parses_receiveManifestEntries hparses).2
  rw [hcount] at hparses
  exact ⟨w, summary, hparses⟩

/-- A message with one small file. -/
theorem receivedManifest_consistent_readme : ∃ w summary,
    Parses receiveManifestEntries w ([readme], [⟨utf16 "docs"⟩], summary, w.length) ∧
      PlansConsistently [readme] := by
  obtain ⟨w, summary, hparses⟩ :=
    @received_of_emission [readme] [⟨utf16 "docs"⟩] (by decide +kernel)
  refine ⟨w, summary, hparses, (receivedManifest_consistent_iff hparses).mpr ⟨?_, ?_⟩⟩
  · intro entry hentry
    rw [List.mem_singleton.mp hentry]
    decide +kernel
  · intro entry hentry
    rw [List.mem_singleton.mp hentry]
    norm_num [readme, averageChunkBytes, u64Limit]

/-- An empty file that the peer calls large. -/
def hollow : ManifestEntry :=
  { readme with fileSize := 0, fileClass := .large, fileSize_lt := zero_lt_u64Limit }

/-- It is accepted, with a class that is not the class of its size, and no task of the plan copies
it. -/
theorem receivedManifest_hollow : ∃ w summary,
    Parses receiveManifestEntries w ([hollow], [⟨utf16 "docs"⟩], summary, w.length) ∧
      hollow.fileClass ≠ classifyFile hollow.fileSize ∧
      buildTransferPlan .stable [hollow] 1 = .ok ⟨[[]]⟩ := by
  obtain ⟨w, summary, hparses⟩ :=
    @received_of_emission [hollow] [⟨utf16 "docs"⟩] (by decide +kernel)
  exact ⟨w, summary, hparses, by decide +kernel, by with_unfolding_all rfl⟩

end NetworkCopy
