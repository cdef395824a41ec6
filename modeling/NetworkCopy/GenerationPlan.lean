import NetworkCopy.Catalog
import NetworkCopy.PlanUnits

/-!
# Generations of a fresh transfer

The part of `multistream_copy.rs` that splits the remaining tasks of a fresh transfer
over the generations of the session catalog.  Medium and large files belong to the
generation of their file ID; tiny packs go into the trailing group.  Generations that an
earlier session committed are a prefix and must not have tasks left.

`Scheduled` says where every task of the plan ends up.
-/

namespace NetworkCopy

/-- A traversal succeeds when each element does. -/
theorem mapM_eq_ok {α β : Type} {f : α → IoResult β} {xs : List α} :
    ∀ {ys : List β}, xs.mapM f = .ok ys ↔ List.Forall₂ (fun x y => f x = .ok y) xs ys := by
  induction xs with
  | nil =>
    intro ys
    rw [List.mapM_nil, pure_eq_ok, List.forall₂_nil_left_iff, Except.ok.injEq, eq_comm]
  | cons x xs ih =>
    intro ys
    rw [List.mapM_cons]
    constructor
    · intro h
      obtain ⟨y, hy, h⟩ := bind_eq_ok.mp h
      obtain ⟨rest, hrest, h⟩ := bind_eq_ok.mp h
      cases h
      exact .cons hy (ih.mp hrest)
    · intro h
      cases h with
      | cons hy hrest => rw [hy, ok_bind, ih.mpr hrest, ok_bind, pure_eq_ok]

theorem mapM_of_forall {α β : Type} {f : α → IoResult β} {g : α → β} {xs : List α}
    (h : ∀ x ∈ xs, f x = .ok (g x)) : xs.mapM f = .ok (xs.map g) := by
  rw [mapM_eq_ok, List.forall₂_map_right_iff, List.forall₂_same]
  exact h

/-- Each element of a traversal that succeeds has its result. -/
theorem exists_of_mapM_eq_ok {α β : Type} {f : α → IoResult β} {xs : List α} {ys : List β}
    (h : xs.mapM f = .ok ys) {x : α} (hx : x ∈ xs) : ∃ y ∈ ys, f x = .ok y := by
  rw [mapM_eq_ok] at h
  induction h with
  | nil => cases hx
  | cons hhead _ ih =>
    rcases List.mem_cons.mp hx with rfl | hx
    · exact ⟨_, List.mem_cons_self, hhead⟩
    · obtain ⟨y, hy, hresult⟩ := ih hx
      exact ⟨y, List.mem_cons_of_mem _ hy, hresult⟩

/-- `FreshGenerationPlan`. -/
structure FreshGenerationPlan where
  catalog : CatalogPlan
  completedGenerationCount : Nat
  deriving DecidableEq

/-- `FreshGenerationExecution`. -/
structure FreshGenerationExecution where
  generationLanes : List (List (List TransferTask))
  trailingLanes : List (List TransferTask)
  deriving DecidableEq

/-- `catalog_task_file_id`. -/
def catalogTaskFileId : TransferTask → Option Nat
  | .wholeFile fileId => some fileId
  | .stripe fileId _ _ => some fileId
  | .tinyPack _ _ => none

/-! ## Planning -/

/-- The check of one task in `collect_fresh_catalog_candidates`: the file ID of a task
that belongs to the catalog. -/
def catalogCandidateId (manifest : Manifest) (task : TransferTask) :
    IoResult (Option Nat) :=
  match catalogTaskFileId task with
  | none => .ok none
  | some fileId => do
      let entry ← okOrElse manifest[fileId]?
        (.invalidData s!"fresh-transfer catalog task references unknown file ID {fileId}")
      match task with
      | .wholeFile _ =>
          ensure (entry.fileClass = .medium)
            (.invalidData
              "fresh-transfer catalog found a whole-file task that is not medium")
      | .stripe _ _ _ =>
          ensure (entry.fileClass = .large)
            (.invalidData "fresh-transfer catalog found a stripe task that is not large")
      | .tinyPack _ _ =>
          .error (.invalidData
            "tiny-pack task unexpectedly entered fresh-transfer catalog planning")
      return some fileId

/-- `collect_fresh_catalog_candidates`.  `sort_unstable` and `dedup` on IDs leave the
sorted set. -/
def collectFreshCatalogCandidates (manifest : Manifest) (transferPlan : TransferPlan) :
    IoResult (List CatalogCandidate) := do
  let fileIds ← transferPlan.tasks.mapM (catalogCandidateId manifest)
  (fileIds.filterMap id).toFinset.sort.mapM (fun fileId => do
    let entry ← okOrElse manifest[fileId]?
      (.invalidData "fresh-transfer catalog candidate disappeared from the manifest")
    CatalogCandidate.new fileId entry.fileSize)

/-- The index check of `build_fresh_generation_plan_with_limits`. -/
def checkGenerationIndexes : Nat → List CatalogGeneration → IoResult Unit
  | _, [] => .ok ()
  | generationIndex, generation :: rest => do
      ensure (generation.index = generationIndex)
        (.invalidData "fresh-transfer catalog generation index is not contiguous")
      checkGenerationIndexes (generationIndex + 1) rest

/-- `build_fresh_generation_plan_with_limits`. -/
def buildFreshGenerationPlanWithLimits (manifest : Manifest) (transferPlan : TransferPlan)
    (limits : CatalogLimits) : IoResult FreshGenerationPlan := do
  let candidates ← collectFreshCatalogCandidates manifest transferPlan
  let catalog ← planCatalog candidates limits
  checkGenerationIndexes 0 catalog.generations
  return { catalog, completedGenerationCount := 0 }

/-- `catalog_generation_index_for_file_id`.  The generations are sorted by file ID, so
the partition point is the number of leading generations that end below the ID, and the
binary search finds the ID exactly when it is there. -/
def catalogGenerationIndexForFileId (catalog : CatalogPlan) (fileId : Nat) : Option Nat :=
  let generationIndex := (catalog.generations.takeWhile (fun generation =>
    generation.fileIds.getLast?.any (fun last => decide (last < fileId)))).length
  match catalog.generations[generationIndex]? with
  | some generation => if fileId ∈ generation.fileIds then some generationIndex else none
  | none => none

/-- The loop of `apply_fresh_resume_prefix` that counts the completed generations. -/
def completedPrefix (completedFileIds : Finset Nat) :
    List CatalogGeneration → Nat → IoResult Nat
  | [], count => .ok count
  | generation :: rest, count => do
      ensure (generation.transferFiles ≠ [])
        (.invalidData "fresh-transfer catalog contains an empty generation")
      let completedInGeneration :=
        generation.fileIds.countP (fun fileId => fileId ∈ completedFileIds)
      let index := generation.index
      if completedInGeneration = generation.transferFiles.length then do
        let count ← addCounter count 1 "completed fresh-generation count overflowed"
        completedPrefix completedFileIds rest count
      else do
        ensure (completedInGeneration = 0)
          (.invalidData
            s!"resume journal contains only part of fresh generation {index}")
        return count

/-- The loop of `apply_fresh_resume_prefix` over the completed files. -/
def checkCompletedFiles (catalog : CatalogPlan) (completedGenerationCount : Nat) :
    List Nat → IoResult Unit
  | [] => .ok ()
  | fileId :: rest => do
      let generationIndex ← okOrElse (catalogGenerationIndexForFileId catalog fileId)
        (.invalidData
          s!"resume journal completed file {fileId} does not belong to the fresh catalog")
      ensure (generationIndex < completedGenerationCount)
        (.invalidData
          (s!"resume journal completed file {fileId} does not belong to a contiguous " ++
            "generation prefix"))
      checkCompletedFiles catalog completedGenerationCount rest

/-- `apply_fresh_resume_prefix`. -/
def applyFreshResumePrefix (plan : FreshGenerationPlan) (completedFileIds : Finset Nat) :
    IoResult FreshGenerationPlan := do
  ensure (plan.completedGenerationCount = 0)
    (.invalidInput "fresh resume prefix was already applied")
  let completedGenerationCount ←
    completedPrefix completedFileIds plan.catalog.generations 0
  checkCompletedFiles plan.catalog completedGenerationCount completedFileIds.sort
  return { plan with completedGenerationCount }

/-! ## Execution -/

/-- Where a task goes: a generation, or the trailing group. -/
def assignGeneration (catalog : CatalogPlan) (task : TransferTask) :
    IoResult (Option Nat × TransferTask) :=
  match catalogTaskFileId task with
  | none => .ok (none, task)
  | some fileId => do
      let generationIndex ← okOrElse (catalogGenerationIndexForFileId catalog fileId)
        (.invalidData
          (s!"remaining fresh-transfer task for file {fileId} is absent from the " ++
            "original catalog"))
      return (some generationIndex, task)

/-- The tasks of a lane that go to a given place, in order. -/
def tasksAssigned (place : Option Nat) (lane : List (Option Nat × TransferTask)) :
    List TransferTask :=
  (lane.filter (fun assigned => assigned.1 = place)).map Prod.snd

/-- The check of `validate_fresh_generation_execution` on the tasks of a generation. -/
def checkGenerationTasks (generation : CatalogGeneration) : List TransferTask → IoResult Unit
  | [] => .ok ()
  | task :: rest => do
      let fileId ← okOrElse (catalogTaskFileId task)
        (.invalidData "fresh catalog generation contains a trailing task")
      ensure (fileId ∈ generation.fileIds)
        (.invalidData s!"fresh generation contains unexpected file ID {fileId}")
      checkGenerationTasks generation rest

/-- The checks of `validate_fresh_generation_execution` on one generation. -/
def validateGenerationLanes (completedGenerationCount laneCount : Nat) :
    Nat → List (CatalogGeneration × List (List TransferTask)) → IoResult Unit
  | _, [] => .ok ()
  | generationIndex, (generation, lanes) :: rest => do
      ensure (lanes.length = laneCount)
        (.invalidData "fresh generation has an incorrect lane count")
      ensure (¬ (generationIndex < completedGenerationCount ∧ ∃ lane ∈ lanes, lane ≠ []))
        (.invalidData
          (s!"completed fresh generation {generationIndex} still contains transfer tasks"))
      checkGenerationTasks generation lanes.flatten
      validateGenerationLanes completedGenerationCount laneCount (generationIndex + 1) rest

/-- `validate_fresh_generation_execution`.  The task counts are those of lists in
memory, so their sums do not overflow. -/
def validateFreshGenerationExecution (plan : FreshGenerationPlan)
    (execution : FreshGenerationExecution) (laneCount expectedTaskCount : Nat) :
    IoResult Unit := do
  ensure (plan.completedGenerationCount ≤ plan.catalog.generations.length)
    (.invalidData "completed fresh-generation count exceeds the catalog")
  ensure (execution.generationLanes.length = plan.catalog.generations.length)
    (.invalidData "fresh-generation execution count differs from the catalog")
  ensure (execution.trailingLanes.length = laneCount)
    (.invalidData "fresh-transfer trailing lane count differs from the transfer plan")
  validateGenerationLanes plan.completedGenerationCount laneCount 0
    (plan.catalog.generations.zip execution.generationLanes)
  ensure (∀ task ∈ execution.trailingLanes.flatten, catalogTaskFileId task = none)
    (.invalidData "fresh-transfer trailing lanes contain a catalog-eligible task")
  let actualTaskCount := execution.generationLanes.flatten.flatten.length +
    execution.trailingLanes.flatten.length
  ensure (actualTaskCount = expectedTaskCount)
    (.invalidData
      s!"fresh execution contains {actualTaskCount} tasks, expected {expectedTaskCount}")

/-- `build_fresh_generation_execution`. -/
def buildFreshGenerationExecution (plan : FreshGenerationPlan)
    (transferPlan : TransferPlan) : IoResult FreshGenerationExecution := do
  let assigned ← transferPlan.lanes.mapM
    (fun lane => lane.mapM (assignGeneration plan.catalog))
  let execution : FreshGenerationExecution :=
    { generationLanes := (List.range plan.catalog.generations.length).map
        (fun generationIndex => assigned.map (tasksAssigned (some generationIndex)))
      trailingLanes := assigned.map (tasksAssigned none) }
  validateFreshGenerationExecution plan execution transferPlan.lanes.length
    transferPlan.tasks.length
  return execution

/-! ## Where the tasks go -/

variable {catalog : CatalogPlan}
variable {assigned : List (List (Option Nat × TransferTask))} {task : TransferTask}

theorem checkGenerationTasks_eq_ok {generation : CatalogGeneration}
    {tasks : List TransferTask} {u : Unit} (h : checkGenerationTasks generation tasks = .ok u) :
    ∀ task ∈ tasks, ∃ fileId, catalogTaskFileId task = some fileId ∧
      fileId ∈ generation.fileIds := by
  induction tasks with
  | nil => simp
  | cons head rest ih =>
    rw [checkGenerationTasks] at h
    obtain ⟨fileId, hid, h⟩ := bind_eq_ok.mp h
    obtain ⟨_, hmem, h⟩ := bind_eq_ok.mp h
    rw [okOrElse_eq_ok] at hid
    rw [ensure_eq_ok] at hmem
    intro task htask
    rcases List.mem_cons.mp htask with rfl | htask
    · exact ⟨fileId, hid, hmem⟩
    · exact ih h task htask

/-- The tasks of a validated generation are about its files, and a completed generation
has none. -/
theorem validateGenerationLanes_eq_ok {completedGenerationCount laneCount : Nat} :
    ∀ {pairs : List (CatalogGeneration × List (List TransferTask))} {generationIndex : Nat}
      {u : Unit}, validateGenerationLanes completedGenerationCount laneCount generationIndex
        pairs = .ok u →
      ∀ position generation lanes, pairs[position]? = some (generation, lanes) →
        lanes.length = laneCount ∧
        (generationIndex + position < completedGenerationCount → lanes.flatten = []) ∧
        ∀ task ∈ lanes.flatten, ∃ fileId, catalogTaskFileId task = some fileId ∧
          fileId ∈ generation.fileIds := by
  intro pairs
  induction pairs with
  | nil =>
    intro generationIndex u _ position generation lanes hget
    simp at hget
  | cons pair rest ih =>
    intro generationIndex u h position generation lanes hget
    obtain ⟨first, firstLanes⟩ := pair
    rw [validateGenerationLanes] at h
    obtain ⟨_, hlength, h⟩ := bind_eq_ok.mp h
    obtain ⟨_, hcompleted, h⟩ := bind_eq_ok.mp h
    obtain ⟨_, htasks, h⟩ := bind_eq_ok.mp h
    rw [ensure_eq_ok] at hlength hcompleted
    cases position with
    | zero =>
      cases hget
      refine ⟨hlength, ?_, checkGenerationTasks_eq_ok htasks⟩
      intro hlt
      rw [List.flatten_eq_nil_iff]
      intro lane hlane
      by_contra hne
      exact hcompleted ⟨by omega, lane, hlane, hne⟩
    | succ position =>
      rw [List.getElem?_cons_succ] at hget
      obtain ⟨hlen, hskip, hfiles⟩ := ih h position generation lanes hget
      refine ⟨hlen, ?_, hfiles⟩
      intro hlt
      exact hskip (by omega)

/-- The split of the remaining tasks over the generations and the trailing group. -/
structure Scheduled (plan : FreshGenerationPlan) (transferPlan : TransferPlan)
    (execution : FreshGenerationExecution) : Prop where
  placed : ∀ task ∈ transferPlan.tasks, task ∈ execution.trailingLanes.flatten ∨
    ∃ position lanes, plan.completedGenerationCount ≤ position ∧
      execution.generationLanes[position]? = some lanes ∧ task ∈ lanes.flatten
  remaining : ∀ lanes ∈ execution.trailingLanes :: execution.generationLanes,
    lanes.flatten.Sublist transferPlan.tasks
  lengths : ∀ lanes ∈ execution.trailingLanes :: execution.generationLanes,
    lanes.length = transferPlan.lanes.length
  ofGeneration : ∀ (position : Nat) (generation : CatalogGeneration)
    (lanes : List (List TransferTask)),
    plan.catalog.generations[position]? = some generation →
    execution.generationLanes[position]? = some lanes →
    ∀ task ∈ lanes.flatten, ∃ fileId, catalogTaskFileId task = some fileId ∧
      fileId ∈ generation.fileIds
  trailing : ∀ task ∈ execution.trailingLanes.flatten, catalogTaskFileId task = none
  count : execution.generationLanes.length = plan.catalog.generations.length

/-- Assigning keeps the task. -/
theorem assignGeneration_eq_ok {assigned : Option Nat × TransferTask}
    (h : assignGeneration catalog task = .ok assigned) :
    assigned.2 = task ∧ ∀ index ∈ assigned.1, index < catalog.generations.length := by
  unfold assignGeneration at h
  split at h
  · cases h
    exact ⟨rfl, by simp⟩
  · obtain ⟨index, hindex, h⟩ := bind_eq_ok.mp h
    rw [okOrElse_eq_ok] at hindex
    cases h
    refine ⟨rfl, ?_⟩
    intro other hother
    cases hother
    unfold catalogGenerationIndexForFileId at hindex
    dsimp only at hindex
    split at hindex
    · rename_i hget
      split_ifs at hindex
      cases hindex
      exact (List.getElem?_eq_some_iff.mp hget).1
    · cases hindex

/-- The tasks of one lane that go to one place are tasks of the lane, in order. -/
theorem tasksAssigned_sublist {lane : List TransferTask}
    {assigned : List (Option Nat × TransferTask)}
    (h : List.Forall₂ (fun task pair => assignGeneration catalog task = .ok pair) lane
      assigned) (place : Option Nat) : (tasksAssigned place assigned).Sublist lane := by
  have hmap : assigned.map Prod.snd = lane := by
    induction h with
    | nil => rfl
    | cons hhead _ ih => rw [List.map_cons, ih, (assignGeneration_eq_ok hhead).1]
  rw [tasksAssigned, ← hmap]
  exact List.filter_sublist.map _

/-- Every task of a lane goes somewhere. -/
theorem mem_tasksAssigned {lane : List TransferTask}
    {assigned : List (Option Nat × TransferTask)}
    (h : List.Forall₂ (fun task pair => assignGeneration catalog task = .ok pair) lane
      assigned) (hmem : task ∈ lane) :
    ∃ place, (∀ index ∈ place, index < catalog.generations.length) ∧
      task ∈ tasksAssigned place assigned := by
  induction h with
  | nil => cases hmem
  | @cons head pair rest pairs hhead _ ih =>
    rcases List.mem_cons.mp hmem with rfl | hmem
    · obtain ⟨hsame, hindex⟩ := assignGeneration_eq_ok hhead
      refine ⟨pair.1, hindex, ?_⟩
      rw [tasksAssigned, List.mem_map]
      exact ⟨pair, by simp, hsame⟩
    · obtain ⟨place, hplace, htask⟩ := ih hmem
      refine ⟨place, hplace, ?_⟩
      rw [tasksAssigned, List.mem_map] at htask ⊢
      obtain ⟨other, hother, hsame⟩ := htask
      rw [List.mem_filter] at hother
      exact ⟨other, List.mem_filter.mpr ⟨List.mem_cons_of_mem _ hother.1, hother.2⟩, hsame⟩

/-- The same over all lanes. -/
theorem lanesAssigned_sublist {lanes : List (List TransferTask)}
    (h : List.Forall₂ (fun lane pairs => lane.mapM (assignGeneration catalog) = .ok pairs)
      lanes assigned) (place : Option Nat) :
    (assigned.map (tasksAssigned place)).flatten.Sublist lanes.flatten := by
  induction h with
  | nil => exact .slnil
  | cons hhead _ ih =>
    rw [List.map_cons, List.flatten_cons, List.flatten_cons]
    exact (tasksAssigned_sublist (mapM_eq_ok.mp hhead) place).append ih

theorem mem_lanesAssigned {lanes : List (List TransferTask)}
    (h : List.Forall₂ (fun lane pairs => lane.mapM (assignGeneration catalog) = .ok pairs)
      lanes assigned) (hmem : task ∈ lanes.flatten) :
    ∃ place, (∀ index ∈ place, index < catalog.generations.length) ∧
      task ∈ (assigned.map (tasksAssigned place)).flatten := by
  induction h with
  | nil => cases hmem
  | cons hhead _ ih =>
    rw [List.flatten_cons, List.mem_append] at hmem
    rcases hmem with hmem | hmem
    · obtain ⟨place, hplace, htask⟩ := mem_tasksAssigned (mapM_eq_ok.mp hhead) hmem
      refine ⟨place, hplace, ?_⟩
      rw [List.map_cons, List.flatten_cons, List.mem_append]
      exact .inl htask
    · obtain ⟨place, hplace, htask⟩ := ih hmem
      refine ⟨place, hplace, ?_⟩
      rw [List.map_cons, List.flatten_cons, List.mem_append]
      exact .inr htask

/-- An execution that was built schedules every remaining task. -/
theorem buildFreshGenerationExecution_scheduled {plan : FreshGenerationPlan}
    {transferPlan : TransferPlan} {execution : FreshGenerationExecution}
    (h : buildFreshGenerationExecution plan transferPlan = .ok execution) :
    Scheduled plan transferPlan execution := by
  unfold buildFreshGenerationExecution at h
  obtain ⟨assigned, hassigned, h⟩ := bind_eq_ok.mp h
  rw [mapM_eq_ok] at hassigned
  obtain ⟨_, hvalid, h⟩ := bind_eq_ok.mp h
  rw [pure_eq_ok] at h
  cases h
  unfold validateFreshGenerationExecution at hvalid
  obtain ⟨_, hvalid⟩ := bind_rest hvalid
  obtain ⟨_, hcount, hvalid⟩ := bind_eq_ok.mp hvalid
  obtain ⟨_, hvalid⟩ := bind_rest hvalid
  obtain ⟨_, hgenerations, hvalid⟩ := bind_eq_ok.mp hvalid
  obtain ⟨_, htrailing, _⟩ := bind_eq_ok.mp hvalid
  rw [ensure_eq_ok] at hcount htrailing
  have hlanes := validateGenerationLanes_eq_ok hgenerations
  have hzip : ∀ (position : Nat) (generation : CatalogGeneration)
      (lanes : List (List TransferTask)),
      plan.catalog.generations[position]? = some generation →
      ((List.range plan.catalog.generations.length).map (fun generationIndex =>
        assigned.map (tasksAssigned (some generationIndex))))[position]? = some lanes →
      (plan.catalog.generations.zip ((List.range plan.catalog.generations.length).map
        (fun generationIndex => assigned.map (tasksAssigned (some generationIndex)))))[position]? =
          some (generation, lanes) := by
    intro position generation lanes hgeneration hget
    rw [List.getElem?_zip_eq_some]
    exact ⟨hgeneration, hget⟩
  have hmember : ∀ lanes ∈ (assigned.map (tasksAssigned none)) ::
      ((List.range plan.catalog.generations.length).map (fun generationIndex =>
        assigned.map (tasksAssigned (some generationIndex)))),
      ∃ place, lanes = assigned.map (tasksAssigned place) := by
    intro lanes hmem
    rcases List.mem_cons.mp hmem with rfl | hmem
    · exact ⟨none, rfl⟩
    · obtain ⟨index, _, rfl⟩ := List.mem_map.mp hmem
      exact ⟨some index, rfl⟩
  refine ⟨?_, ?_, ?_, ?_, htrailing, hcount⟩
  · intro task htask
    obtain ⟨place, hplace, hmem⟩ := mem_lanesAssigned hassigned htask
    cases place with
    | none => exact .inl hmem
    | some index =>
      have hindex := hplace index rfl
      have hgeneration := List.getElem?_eq_getElem hindex
      have hget : ((List.range plan.catalog.generations.length).map (fun generationIndex =>
          assigned.map (tasksAssigned (some generationIndex))))[index]? =
            some (assigned.map (tasksAssigned (some index))) := by
        rw [List.getElem?_map, List.getElem?_range hindex]
        rfl
      refine .inr ⟨index, _, ?_, hget, hmem⟩
      by_contra hlt
      have hempty := (hlanes index _ _ (hzip _ _ _ hgeneration hget)).2.1 (by omega)
      rw [hempty] at hmem
      cases hmem
  · intro lanes hmem
    obtain ⟨place, rfl⟩ := hmember lanes hmem
    exact lanesAssigned_sublist hassigned place
  · intro lanes hmem
    obtain ⟨place, rfl⟩ := hmember lanes hmem
    rw [List.length_map, hassigned.length_eq]
  · intro position generation lanes hgeneration hget
    exact (hlanes position generation lanes (hzip _ _ _ hgeneration hget)).2.2

end NetworkCopy
