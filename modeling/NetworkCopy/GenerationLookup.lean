import NetworkCopy.Lib.BinarySearch
import NetworkCopy.ReceivedManifest

/-!
# The generation of a file

`catalog_generation_index_for_file_id` finds the generation of a file with two searches that halve
a slice: a partition point over the last files of the generations, and a search among the files of
one generation.  In the catalogs of the planner they find what a search through all generations
finds.
-/

namespace NetworkCopy

/-- `catalog_generation_index_for_file_id`, with the searches of the standard library. -/
def catalogGenerationIndexBySearch (catalog : CatalogPlan) (fileId : Nat) : Option Nat :=
  let generationIndex := Slice.partitionPoint (fun generation =>
    generation.transferFiles.getLast?.any (fun candidate => decide (candidate.fileId < fileId)))
    catalog.generations
  match catalog.generations[generationIndex]? with
  | none => none
  | some generation =>
      match Slice.binarySearchByKey CatalogCandidate.fileId fileId generation.transferFiles with
      | .ok _ => some generationIndex
      | .error _ => none

/-- The search through all generations. -/
def linearCatalogGeneration (catalog : CatalogPlan) (fileId : Nat) : Option Nat :=
  catalog.generations.findIdx? (fun generation => decide (fileId ∈ generation.fileIds))

section

variable {catalog : CatalogPlan}

/-- The last file of a generation is below the ID. -/
theorem endsBelow_eq (generation : CatalogGeneration) (fileId : Nat) :
    generation.transferFiles.getLast?.any (fun candidate => decide (candidate.fileId < fileId)) =
      generation.fileIds.getLast?.any (fun last => decide (last < fileId)) := by
  rw [CatalogGeneration.fileIds, List.getLast?_map, Option.any_map]

/-- The generations that end below an ID are the first ones. -/
theorem CatalogPlan.Ordered.endsBelow (h : catalog.Ordered) (fileId : Nat) :
    catalog.generations.Pairwise (fun left right =>
      right.fileIds.getLast?.any (fun last => decide (last < fileId)) = true →
        left.fileIds.getLast?.any (fun last => decide (last < fileId)) = true) := by
  rw [List.pairwise_iff_getElem]
  intro i j hi hj hij hright
  have hleftLast := List.getLast?_eq_some_getLast (h.fileIds_ne_nil (List.getElem_mem hi))
  have hrightLast := List.getLast?_eq_some_getLast (h.fileIds_ne_nil (List.getElem_mem hj))
  have hless := h.lt_of_lt hij (List.getElem?_eq_getElem hi) (List.getElem?_eq_getElem hj)
    (List.mem_of_getLast? hleftLast) (List.mem_of_getLast? hrightLast)
  rw [hrightLast, Option.any_some, decide_eq_true_eq] at hright
  rw [hleftLast, Option.any_some, decide_eq_true_eq]
  exact hless.trans hright

/-- The files of a generation stand in the order of their IDs. -/
theorem CatalogPlan.Ordered.sorted (h : catalog.Ordered) {generation : CatalogGeneration}
    (hmem : generation ∈ catalog.generations) : generation.fileIds.Pairwise (· < ·) := by
  have hids := h.ids
  rw [List.pairwise_flatMap] at hids
  exact hids.1 generation hmem

/-- The halving searches find what their documentation says. -/
theorem catalogGenerationIndexBySearch_eq (h : catalog.Ordered) (fileId : Nat) :
    catalogGenerationIndexBySearch catalog fileId = catalogGenerationIndexForFileId catalog fileId := by
  unfold catalogGenerationIndexBySearch catalogGenerationIndexForFileId
  simp only [endsBelow_eq, Slice.partitionPoint_eq_takeWhile (h.endsBelow fileId)]
  generalize (catalog.generations.takeWhile _).length = generationIndex
  cases hget : catalog.generations[generationIndex]? with
  | none => rfl
  | some generation =>
    dsimp only
    have hfound := Slice.isOk_binarySearchByKey fileId
      (h.sorted (List.mem_of_getElem? hget))
    by_cases hfile : fileId ∈ generation.fileIds
    · obtain ⟨index, hindex⟩ := hfound.mpr hfile
      rw [hindex, if_pos hfile]
    · rw [if_neg hfile]
      cases hsearch : Slice.binarySearchByKey CatalogCandidate.fileId fileId
          generation.transferFiles with
      | error index => rfl
      | ok index => exact absurd (hfound.mp ⟨index, hsearch⟩) hfile

/-- The search through all generations stops at the only generation of a file. -/
theorem linearCatalogGeneration_eq_some (h : catalog.Ordered) {fileId index : Nat} :
    linearCatalogGeneration catalog fileId = some index ↔
      ∃ generation, catalog.generations[index]? = some generation ∧
        fileId ∈ generation.fileIds := by
  unfold linearCatalogGeneration
  rw [List.findIdx?_eq_some_iff_getElem]
  constructor
  · intro ⟨hindex, hfile, _⟩
    exact ⟨_, List.getElem?_eq_getElem hindex, by simpa using hfile⟩
  · intro ⟨generation, hget, hfile⟩
    obtain ⟨hindex, rfl⟩ := List.getElem?_eq_some_iff.mp hget
    refine ⟨hindex, by simpa using hfile, ?_⟩
    intro j hj
    rw [decide_eq_true_eq]
    intro hother
    have hsame := h.unique (List.getElem?_eq_getElem (by omega)) hget hother hfile
    omega

/-- The index of a generation in a plan of the planner is its position. -/
theorem index_of_checked {generations : List CatalogGeneration} :
    ∀ {first : Nat}, checkGenerationIndexes first generations = .ok () →
      ∀ {index : Nat} {generation : CatalogGeneration},
        generations[index]? = some generation → generation.index = first + index := by
  induction generations with
  | nil =>
    intro first _ index generation hget
    cases hget
  | cons head rest ih =>
    intro first h index generation hget
    rw [checkGenerationIndexes] at h
    obtain ⟨_, hhead, hrest⟩ := bind_eq_ok.mp h
    cases index with
    | zero =>
      cases hget
      exact ensure_eq_ok.mp hhead
    | succ index =>
      rw [List.getElem?_cons_succ] at hget
      rw [ih hrest hget]
      omega

end

/-- In every plan of the planner, `catalog_generation_index_for_file_id` returns the index of the
only generation that transfers the file, and nothing when none does: what a search through all
generations returns. -/
theorem catalogGenerationIndexBySearch_finds (candidates : List CatalogCandidate) (limits : CatalogLimits)
    (catalog : CatalogPlan) (h : planCatalog candidates limits = .ok catalog) (fileId : Nat) :
    catalogGenerationIndexBySearch catalog fileId = linearCatalogGeneration catalog fileId ∧
      (∀ index, catalogGenerationIndexBySearch catalog fileId = some index ↔
        ∃ generation, catalog.generations[index]? = some generation ∧
          generation.index = index ∧ fileId ∈ generation.fileIds) ∧
      (catalogGenerationIndexBySearch catalog fileId = none ↔
        ∀ generation ∈ catalog.generations, fileId ∉ generation.fileIds) ∧
      ∀ left ∈ catalog.generations, ∀ right ∈ catalog.generations,
        fileId ∈ left.fileIds → fileId ∈ right.fileIds → left = right := by
  have hordered := planCatalog_ordered h
  have hsearch := catalogGenerationIndexBySearch_eq hordered fileId
  have hindexes : checkGenerationIndexes 0 catalog.generations = .ok () := by
    have hvalidated := (catalogPlanned_of_planCatalog h).validated
    unfold validatePlan at hvalidated
    obtain ⟨_, hvalidated⟩ := bind_rest hvalidated
    obtain ⟨_, hgenerations, _⟩ := bind_eq_ok.mp hvalidated
    exact checkGenerationIndexes_of_validated hgenerations
  have hfinds : ∀ index, catalogGenerationIndexBySearch catalog fileId = some index ↔
      ∃ generation, catalog.generations[index]? = some generation ∧
        fileId ∈ generation.fileIds := by
    intro index
    rw [hsearch]
    constructor
    · exact catalogGenerationIndexForFileId_some
    · intro ⟨generation, hget, hfile⟩
      exact catalogGenerationIndexForFileId_eq hordered hget hfile
  refine ⟨?_, ?_, ?_, ?_⟩
  · apply Option.ext
    intro index
    rw [hfinds, linearCatalogGeneration_eq_some hordered]
  · intro index
    rw [hfinds]
    constructor
    · intro ⟨generation, hget, hfile⟩
      have hindex := index_of_checked hindexes hget
      exact ⟨generation, hget, by omega, hfile⟩
    · intro ⟨generation, hget, _, hfile⟩
      exact ⟨generation, hget, hfile⟩
  · rw [Option.eq_none_iff_forall_ne_some]
    constructor
    · intro hnone generation hmem hfile
      obtain ⟨index, hget⟩ := List.mem_iff_getElem?.mp hmem
      exact hnone index ((hfinds index).mpr ⟨generation, hget, hfile⟩)
    · intro hnone index hsome
      obtain ⟨generation, hget, hfile⟩ := (hfinds index).mp hsome
      exact hnone generation (List.mem_of_getElem? hget) hfile
  · intro left hleft right hright hinLeft hinRight
    obtain ⟨i, hi⟩ := List.mem_iff_getElem?.mp hleft
    obtain ⟨j, hj⟩ := List.mem_iff_getElem?.mp hright
    obtain rfl := hordered.unique hi hj hinLeft hinRight
    rw [hi] at hj
    exact Option.some.inj hj

/-- Three generations of one file each, and a file between them that no generation transfers. -/
def gapCatalog : CatalogPlan where
  generations :=
    [{ index := 0, transferFiles := [⟨0, 100⟩], uncatalogedFileIds := []
       evictedFileIds := [], logicalBytes := 100, catalogEntriesBefore := 0
       catalogEntriesAfter := 1 },
     { index := 1, transferFiles := [⟨2, 100⟩], uncatalogedFileIds := []
       evictedFileIds := [], logicalBytes := 100, catalogEntriesBefore := 1
       catalogEntriesAfter := 2 },
     { index := 2, transferFiles := [⟨3, 100⟩], uncatalogedFileIds := []
       evictedFileIds := [], logicalBytes := 100, catalogEntriesBefore := 2
       catalogEntriesAfter := 3 }]
  candidateFiles := 3
  candidateBytes := 300
  peakCatalogEntries := 3

theorem catalogGenerationIndexBySearch_finds_gap :
    planCatalog [⟨0, 100⟩, ⟨2, 100⟩, ⟨3, 100⟩]
        { generationTargetBytes := 100, maxCatalogEntries := 100 } = .ok gapCatalog ∧
      catalogGenerationIndexBySearch gapCatalog 1 = none ∧
      catalogGenerationIndexBySearch gapCatalog 2 = some 1 := by
  have hplan : planCatalog [⟨0, 100⟩, ⟨2, 100⟩, ⟨3, 100⟩]
      { generationTargetBytes := 100, maxCatalogEntries := 100 } = .ok gapCatalog := by
    unfold planCatalog
    rw [List.mergeSort_of_pairwise (by decide)]
    decide +kernel
  refine ⟨hplan, ?_, ?_⟩
  · rw [(catalogGenerationIndexBySearch_finds _ _ _ hplan 1).1]
    decide
  · rw [(catalogGenerationIndexBySearch_finds _ _ _ hplan 2).1]
    decide

end NetworkCopy
