import NetworkCopy.TransferPlan
import NetworkCopy.LaneReport

/-!
# The session catalog

`session_cdc_catalog.rs`: a fresh transfer sends its medium and large files in
generations of bounded size.  The files of a committed generation are published as
bases for later ones, in a rolling catalog that evicts its oldest files when the
estimated number of chunks exceeds a limit.  Both sides plan the catalog on their own
from the transfer plan.

`plan` validates its own result with `validate_plan`, a second implementation of the
same rules.  What the development uses of it is that the file IDs of all generations
are strictly increasing (`validatePlan_sorted`), so every file belongs to one
generation.
-/

namespace NetworkCopy

/-- `AVERAGE_CHUNK_BYTES`. -/
@[irreducible] def averageChunkBytes : Nat := 64 * 1024

/-- `DEFAULT_GENERATION_TARGET_BYTES`. -/
@[irreducible] def defaultGenerationTargetBytes : Nat := 512 * 1024 * 1024

/-- `DEFAULT_MAX_CATALOG_ENTRIES`. -/
@[irreducible] def defaultMaxCatalogEntries : Nat := 1000000

/-- `u64::checked_sub`. -/
def checkedSub (a b : Nat) : Option Nat :=
  if b ≤ a then some (a - b) else none

/-- `CatalogCandidate`. -/
structure CatalogCandidate where
  fileId : Nat
  logicalBytes : Nat
  deriving DecidableEq, Repr

namespace CatalogCandidate

/-- `CatalogCandidate::new`. -/
def new (fileId logicalBytes : Nat) : IoResult CatalogCandidate := do
  ensure (logicalBytes ≠ 0) (.invalidInput "session CDC candidate must not be empty")
  return { fileId, logicalBytes }

/-- `CatalogCandidate::estimated_entries`. -/
def estimatedEntries (candidate : CatalogCandidate) : IoResult Nat := do
  let bytes ← okOrElse (checkedAdd candidate.logicalBytes (averageChunkBytes - 1))
    (.other "session CDC chunk estimate overflowed")
  return bytes / averageChunkBytes

end CatalogCandidate

/-- `CatalogLimits`. -/
structure CatalogLimits where
  generationTargetBytes : Nat := defaultGenerationTargetBytes
  maxCatalogEntries : Nat := defaultMaxCatalogEntries
  deriving DecidableEq, Repr

/-- `CatalogLimits::validate`. -/
def CatalogLimits.validate (limits : CatalogLimits) : IoResult Unit := do
  ensure (limits.generationTargetBytes ≠ 0)
    (.invalidInput "session CDC generation target must not be zero")
  ensure (limits.maxCatalogEntries ≠ 0)
    (.invalidInput "session CDC catalog limit must not be zero")

/-- `CatalogGeneration`. -/
structure CatalogGeneration where
  index : Nat
  transferFiles : List CatalogCandidate
  uncatalogedFileIds : List Nat
  evictedFileIds : List Nat
  logicalBytes : Nat
  catalogEntriesBefore : Nat
  catalogEntriesAfter : Nat
  deriving DecidableEq, Repr

namespace CatalogGeneration

/-- The file IDs of a generation. -/
def fileIds (generation : CatalogGeneration) : List Nat :=
  generation.transferFiles.map CatalogCandidate.fileId

/-- `published_file_ids`.  The binary search finds an ID exactly when it is listed,
since the list is sorted. -/
def publishedFileIds (generation : CatalogGeneration) : List Nat :=
  generation.fileIds.filter (fun fileId => fileId ∉ generation.uncatalogedFileIds)

end CatalogGeneration

/-- `CatalogPlan`. -/
structure CatalogPlan where
  generations : List CatalogGeneration := []
  candidateFiles : Nat := 0
  candidateBytes : Nat := 0
  peakCatalogEntries : Nat := 0
  deriving DecidableEq, Repr

/-! ## The rolling catalog -/

/-- `catalog` and `catalog_entries`. -/
structure RollingCatalog where
  files : List (Nat × Nat) := []
  entries : Nat := 0
  deriving DecidableEq

/-- The errors of the loop over the files of a generation, which the planner and the
validator report in different words. -/
structure CatalogErrors where
  limit : IoError
  underflow : IoError
  overflow : IoError

/-- The errors of `finish_catalog_generation`. -/
def planningErrors : CatalogErrors where
  limit := .other "session CDC catalog could not satisfy its entry limit"
  underflow := .other "session CDC catalog entry count underflowed"
  overflow := .other "session CDC catalog entry count overflowed"

/-- The errors of `validate_plan`. -/
def validationErrors : CatalogErrors where
  limit := .invalidData "session CDC validation could not satisfy the catalog limit"
  underflow := .other "session CDC validation catalog underflowed"
  overflow := .other "session CDC validation catalog overflowed"

/-- `checked_add(..).is_none_or(|entries| entries > limit)`, negated. -/
def fitsCatalog (limits : CatalogLimits) (entries estimated : Nat) : Bool :=
  match checkedAdd entries estimated with
  | some total => decide (total ≤ limits.maxCatalogEntries)
  | none => false

/-- The eviction loop: drop the oldest files until the candidate fits. -/
def evictOldest (limits : CatalogLimits) (errors : CatalogErrors) (estimated : Nat) :
    List (Nat × Nat) → Nat → List Nat → IoResult (RollingCatalog × List Nat)
  | [], entries, evicted =>
      if fitsCatalog limits entries estimated then .ok ({ files := [], entries }, evicted)
      else .error errors.limit
  | oldest :: files, entries, evicted =>
      if fitsCatalog limits entries estimated then
        .ok ({ files := oldest :: files, entries }, evicted)
      else do
        let entries ← okOrElse (checkedSub entries oldest.2) errors.underflow
        evictOldest limits errors estimated files entries (evicted ++ [oldest.1])

/-- What the loop over the files of a generation collects. -/
structure CatalogedFiles where
  catalog : RollingCatalog
  uncataloged : List Nat := []
  evicted : List Nat := []
  deriving DecidableEq

/-- One turn of that loop. -/
def admitCandidate (limits : CatalogLimits) (errors : CatalogErrors)
    (cataloged : CatalogedFiles) (candidate : CatalogCandidate) :
    IoResult CatalogedFiles := do
  let estimated ← candidate.estimatedEntries
  if limits.maxCatalogEntries < estimated then
    return { cataloged with uncataloged := cataloged.uncataloged ++ [candidate.fileId] }
  else do
    let evicted ← evictOldest limits errors estimated cataloged.catalog.files
      cataloged.catalog.entries cataloged.evicted
    let entries ← okOrElse (checkedAdd evicted.1.entries estimated) errors.overflow
    return { cataloged with
      catalog := { files := evicted.1.files ++ [(candidate.fileId, estimated)], entries }
      evicted := evicted.2 }

/-- `sum_candidate_bytes`. -/
def sumCandidateBytes (candidates : List CatalogCandidate) : IoResult Nat :=
  candidates.foldlM (fun total candidate =>
    addCounter total candidate.logicalBytes "session CDC logical byte count overflowed") 0

/-! ## Planning -/

/-- `validate_candidates`. -/
def validateCandidates : Option Nat → List CatalogCandidate → IoResult Unit
  | _, [] => .ok ()
  | previousFileId, candidate :: rest => do
      ensure (candidate.logicalBytes ≠ 0)
        (.invalidInput "session CDC candidate must not be empty")
      ensure (∀ previous ∈ previousFileId, candidate.fileId ≠ previous)
        (.invalidInput "session CDC candidate list contains a duplicate file ID")
      ensure (∀ previous ∈ previousFileId, ¬ candidate.fileId < previous)
        (.invalidInput "session CDC candidate list is not sorted by file ID")
      let _ ← candidate.estimatedEntries
      validateCandidates (some candidate.fileId) rest

/-- The variables of the loop of `plan`. -/
structure PlanningState where
  catalog : RollingCatalog := {}
  peakCatalogEntries : Nat := 0
  generations : List CatalogGeneration := []
  currentTransferFiles : List CatalogCandidate := []
  currentGenerationBytes : Nat := 0

/-- `finish_catalog_generation` on the current files. -/
def finishCatalogGeneration (limits : CatalogLimits) (state : PlanningState) :
    IoResult PlanningState := do
  let transferFiles := state.currentTransferFiles
  ensure (transferFiles ≠ [])
    (.invalidData "session CDC attempted to finalize an empty generation")
  let logicalBytes ← sumCandidateBytes transferFiles
  let cataloged ← transferFiles.foldlM (admitCandidate limits planningErrors)
    { catalog := state.catalog }
  return { catalog := cataloged.catalog
           peakCatalogEntries := max state.peakCatalogEntries cataloged.catalog.entries
           generations := state.generations ++
             [{ index := state.generations.length, transferFiles
                uncatalogedFileIds := cataloged.uncataloged
                evictedFileIds := cataloged.evicted, logicalBytes
                catalogEntriesBefore := state.catalog.entries
                catalogEntriesAfter := cataloged.catalog.entries }] }

/-- One turn of the loop of `plan` over the candidates. -/
def planCandidate (limits : CatalogLimits) (state : PlanningState)
    (candidate : CatalogCandidate) : IoResult PlanningState := do
  let combinedBytes ← addCounter state.currentGenerationBytes candidate.logicalBytes
    "session CDC generation byte count overflowed"
  let state ← (if state.currentTransferFiles ≠ [] ∧
      limits.generationTargetBytes < combinedBytes then finishCatalogGeneration limits state
    else .ok state)
  let currentGenerationBytes ← addCounter state.currentGenerationBytes
    candidate.logicalBytes "session CDC generation byte count overflowed"
  return { state with
    currentGenerationBytes
    currentTransferFiles := state.currentTransferFiles ++ [candidate] }

/-! ## Validating a plan -/

/-- The variables of the loop of `validate_plan`. -/
structure ValidationState where
  catalog : RollingCatalog := {}
  peakCatalogEntries : Nat := 0
  previousFileId : Option Nat := none
  candidateFiles : Nat := 0
  candidateBytes : Nat := 0

/-- The loop of `validate_plan` over the files of one generation, with
`previous_file_id`. -/
def validateFiles (limits : CatalogLimits) :
    List CatalogCandidate → Option Nat → CatalogedFiles →
      IoResult (Option Nat × CatalogedFiles)
  | [], previousFileId, cataloged => .ok (previousFileId, cataloged)
  | candidate :: rest, previousFileId, cataloged => do
      ensure (∀ previous ∈ previousFileId, candidate.fileId ≠ previous)
        (.invalidData "session CDC plan transfers the same file more than once")
      ensure (∀ previous ∈ previousFileId, ¬ candidate.fileId < previous)
        (.invalidData "session CDC plan file IDs are not strictly ordered")
      let cataloged ← admitCandidate limits validationErrors cataloged candidate
      validateFiles limits rest (some candidate.fileId) cataloged

/-- One turn of the loop of `validate_plan` over the generations. -/
def validateGeneration (limits : CatalogLimits) (state : ValidationState)
    (expectedIndex : Nat) (generation : CatalogGeneration) : IoResult ValidationState := do
  ensure (generation.index = expectedIndex)
    (.invalidData "session CDC generation index is not contiguous")
  ensure (generation.transferFiles ≠ []) (.invalidData "session CDC generation is empty")
  ensure (generation.catalogEntriesBefore = state.catalog.entries)
    (.invalidData "session CDC generation reports an incorrect starting catalog size")
  let logicalBytes ← sumCandidateBytes generation.transferFiles
  ensure (logicalBytes = generation.logicalBytes)
    (.invalidData "session CDC generation logical byte count is incorrect")
  let candidateFiles ← addCounter state.candidateFiles generation.transferFiles.length
    "session CDC validation file count overflowed"
  let candidateBytes ← addCounter state.candidateBytes logicalBytes
    "session CDC validation byte count overflowed"
  let validated ← validateFiles limits generation.transferFiles state.previousFileId
    { catalog := state.catalog }
  let cataloged := validated.2
  ensure (generation.uncatalogedFileIds = cataloged.uncataloged)
    (.invalidData "session CDC generation uncataloged-file set is incorrect")
  ensure (generation.evictedFileIds = cataloged.evicted)
    (.invalidData "session CDC generation eviction order is incorrect")
  ensure (generation.catalogEntriesAfter = cataloged.catalog.entries)
    (.invalidData "session CDC generation reports an incorrect final catalog size")
  ensure (cataloged.catalog.entries ≤ limits.maxCatalogEntries)
    (.invalidData "session CDC catalog exceeds its configured limit")
  return { catalog := cataloged.catalog
           peakCatalogEntries := max state.peakCatalogEntries cataloged.catalog.entries
           previousFileId := validated.1, candidateFiles, candidateBytes }

/-- The loop of `validate_plan`. -/
def validateGenerations (limits : CatalogLimits) :
    Nat → List CatalogGeneration → ValidationState → IoResult ValidationState
  | _, [], state => .ok state
  | expectedIndex, generation :: rest, state => do
      let state ← validateGeneration limits state expectedIndex generation
      validateGenerations limits (expectedIndex + 1) rest state

/-- `validate_plan`. -/
def validatePlan (plan : CatalogPlan) (limits : CatalogLimits) : IoResult Unit := do
  limits.validate
  let state ← validateGenerations limits 0 plan.generations {}
  ensure (plan.candidateFiles = state.candidateFiles)
    (.invalidData "session CDC plan candidate count is incorrect")
  ensure (plan.candidateBytes = state.candidateBytes)
    (.invalidData "session CDC plan candidate byte count is incorrect")
  ensure (plan.peakCatalogEntries = state.peakCatalogEntries)
    (.invalidData "session CDC plan peak catalog size is incorrect")

/-- `session_cdc_catalog::plan`.  The candidates of the program are sorted by file ID
already; the sort is the standard library's by that key, and equal keys are rejected. -/
def planCatalog (candidates : List CatalogCandidate) (limits : CatalogLimits) :
    IoResult CatalogPlan := do
  limits.validate
  let candidates := candidates.mergeSort (fun left right => left.fileId ≤ right.fileId)
  validateCandidates none candidates
  let candidateBytes ← sumCandidateBytes candidates
  let state ← candidates.foldlM (planCandidate limits) {}
  let state ← (if state.currentTransferFiles ≠ [] then finishCatalogGeneration limits state
    else .ok state)
  let plan : CatalogPlan :=
    { generations := state.generations, candidateFiles := candidates.length, candidateBytes
      peakCatalogEntries := state.peakCatalogEntries }
  validatePlan plan limits
  return plan

/-! ## The rolling basis -/

/-- `CatalogBasis::apply_generation`. -/
def applyGeneration (fileIds : List Nat) (generation : CatalogGeneration) :
    IoResult (List Nat) := do
  let extended := fileIds ++ generation.publishedFileIds
  let evictedCount := generation.evictedFileIds.length
  let index := generation.index
  ensure (evictedCount ≤ extended.length ∧
      extended.take evictedCount = generation.evictedFileIds)
    (.invalidData
      (s!"session CDC generation {index} eviction order does not match the rolling " ++
        "catalog"))
  return extended.drop evictedCount

/-- `CatalogBasis::before_generation`. -/
def basisBeforeGeneration (plan : CatalogPlan) (generationIndex : Nat) :
    IoResult (List Nat) := do
  ensure (generationIndex ≤ plan.generations.length)
    (.invalidInput "session CDC basis generation index exceeds the catalog plan")
  (plan.generations.take generationIndex).foldlM applyGeneration []

/-! ## What validation gives -/

variable {limits : CatalogLimits}
variable {candidates : List CatalogCandidate}

/-- A list of file IDs that goes on strictly above a last one. -/
def StrictlyAbove (previousFileId : Option Nat) (fileIds : List Nat) : Prop :=
  fileIds.Pairwise (· < ·) ∧ ∀ previous ∈ previousFileId, ∀ fileId ∈ fileIds, previous < fileId

/-- Nothing follows. -/
theorem strictlyAbove_nil (previousFileId : Option Nat) : StrictlyAbove previousFileId [] :=
  ⟨.nil, by simp⟩

theorem strictlyAbove_cons {previousFileId : Option Nat} {fileId : Nat} {rest : List Nat}
    (hfirst : ∀ previous ∈ previousFileId, previous < fileId)
    (hrest : StrictlyAbove (some fileId) rest) :
    StrictlyAbove previousFileId (fileId :: rest) := by
  obtain ⟨hsorted, habove⟩ := hrest
  refine ⟨List.pairwise_cons.mpr ⟨habove fileId rfl, hsorted⟩, ?_⟩
  intro previous hprevious other hmem
  rcases List.mem_cons.mp hmem with rfl | hmem
  · exact hfirst previous hprevious
  · exact (hfirst previous hprevious).trans (habove fileId rfl other hmem)

/-- Validated files are strictly above the previous ID, and so is whatever is strictly
above the last of them. -/
theorem validateFiles_eq_ok :
    ∀ {previousFileId last : Option Nat} {cataloged cataloged' : CatalogedFiles},
      validateFiles limits candidates previousFileId cataloged = .ok (last, cataloged') →
      ∀ more, StrictlyAbove last more →
        StrictlyAbove previousFileId (candidates.map CatalogCandidate.fileId ++ more) := by
  induction candidates with
  | nil =>
    intro previousFileId last cataloged cataloged' h more hmore
    cases h
    exact hmore
  | cons candidate rest ih =>
    intro previousFileId last cataloged cataloged' h more hmore
    rw [validateFiles] at h
    obtain ⟨_, hne, h⟩ := bind_eq_ok.mp h
    obtain ⟨_, hnlt, h⟩ := bind_eq_ok.mp h
    obtain ⟨admitted, _, h⟩ := bind_eq_ok.mp h
    rw [ensure_eq_ok] at hne hnlt
    rw [List.map_cons, List.cons_append]
    apply strictlyAbove_cons
    · intro previous hprevious
      have h₁ := hne previous hprevious
      have h₂ := hnlt previous hprevious
      omega
    · exact ih h more hmore

theorem validateGeneration_eq_ok {state state' : ValidationState} {expectedIndex : Nat}
    {generation : CatalogGeneration}
    (h : validateGeneration limits state expectedIndex generation = .ok state') :
    generation.index = expectedIndex ∧ generation.transferFiles ≠ [] ∧
      ∀ more, StrictlyAbove state'.previousFileId more →
        StrictlyAbove state.previousFileId (generation.fileIds ++ more) := by
  unfold validateGeneration at h
  obtain ⟨_, hindex, h⟩ := bind_eq_ok.mp h
  obtain ⟨_, hnonempty, h⟩ := bind_eq_ok.mp h
  rw [ensure_eq_ok] at hindex hnonempty
  refine ⟨hindex, hnonempty, ?_⟩
  obtain ⟨_, h⟩ := bind_rest h
  obtain ⟨_, h⟩ := bind_rest h
  obtain ⟨_, h⟩ := bind_rest h
  obtain ⟨_, h⟩ := bind_rest h
  obtain ⟨_, h⟩ := bind_rest h
  obtain ⟨⟨last, cataloged⟩, hvalidated, h⟩ := bind_eq_ok.mp h
  obtain ⟨_, h⟩ := bind_rest h
  obtain ⟨_, h⟩ := bind_rest h
  obtain ⟨_, h⟩ := bind_rest h
  obtain ⟨_, h⟩ := bind_rest h
  rw [pure_eq_ok] at h
  cases h
  exact validateFiles_eq_ok hvalidated

theorem validateGenerations_sorted :
    ∀ {generations : List CatalogGeneration} {expectedIndex : Nat}
      {state state' : ValidationState},
      validateGenerations limits expectedIndex generations state = .ok state' →
      StrictlyAbove state.previousFileId
        (generations.flatMap CatalogGeneration.fileIds) := by
  intro generations
  induction generations with
  | nil =>
    intro expectedIndex state state' _
    exact strictlyAbove_nil _
  | cons generation rest ih =>
    intro expectedIndex state state' h
    rw [validateGenerations] at h
    obtain ⟨next, hnext, h⟩ := bind_eq_ok.mp h
    rw [List.flatMap_cons]
    exact (validateGeneration_eq_ok hnext).2.2 _ (ih h)

/-- The file IDs of a validated plan are strictly increasing over all generations. -/
theorem validatePlan_sorted {plan : CatalogPlan} {u : Unit}
    (h : validatePlan plan limits = .ok u) :
    (plan.generations.flatMap CatalogGeneration.fileIds).Pairwise (· < ·) := by
  unfold validatePlan at h
  obtain ⟨_, h⟩ := bind_rest h
  obtain ⟨state, hstate, _⟩ := bind_eq_ok.mp h
  exact (validateGenerations_sorted hstate).1

/-- What the program relies on in a catalog plan. -/
theorem planCatalog_sorted {plan : CatalogPlan} (h : planCatalog candidates limits = .ok plan) :
    (plan.generations.flatMap CatalogGeneration.fileIds).Pairwise (· < ·) := by
  unfold planCatalog at h
  obtain ⟨_, h⟩ := bind_rest h
  obtain ⟨_, h⟩ := bind_rest h
  obtain ⟨_, h⟩ := bind_rest h
  obtain ⟨_, h⟩ := bind_rest h
  obtain ⟨_, h⟩ := bind_rest h
  obtain ⟨_, hvalid, h⟩ := bind_eq_ok.mp h
  rw [pure_eq_ok] at h
  cases h
  exact validatePlan_sorted hvalid

end NetworkCopy
