import NetworkCopy.Catalog

/-!
# The catalog planner is total

Why `session_cdc_catalog::plan` succeeds on every list of distinct, non-empty candidates
whose sizes can be added up, and what its generations are.

The counter of the rolling catalog is the sum of its files' estimates, so the eviction
loop ends at the latest with an empty catalog, into which any admitted file fits
(`evictOldest_eq_ok`).  `Advances` says what one generation does to the catalog.  It does
not depend on the errors that a loop would report, so the planner, which builds the
generations, and the validator, which replays them, go through the same catalogs.

The basis that a session rebuilds from the publish and eviction lists of the generations
is the list of files in that catalog.
-/

namespace NetworkCopy

theorem averageChunkBytes_pos : 0 < averageChunkBytes := by
  norm_num [averageChunkBytes]

/-- The number of chunks that a file is taken to have. -/
def CatalogCandidate.estimate (candidate : CatalogCandidate) : Nat :=
  (candidate.logicalBytes + (averageChunkBytes - 1)) / averageChunkBytes

/-- A file whose chunk count can be computed. -/
def CatalogCandidate.Estimable (candidate : CatalogCandidate) : Prop :=
  candidate.logicalBytes + averageChunkBytes ≤ u64Limit

variable {candidate : CatalogCandidate}

theorem CatalogCandidate.Estimable.estimatedEntries_eq (h : candidate.Estimable) :
    candidate.estimatedEntries = .ok candidate.estimate := by
  have hpos := averageChunkBytes_pos
  have hsum : checkedAdd candidate.logicalBytes (averageChunkBytes - 1) =
      some (candidate.logicalBytes + (averageChunkBytes - 1)) := by
    rw [checkedAdd_eq_some]
    unfold Estimable at h
    omega
  rw [estimatedEntries, hsum]
  rfl

theorem CatalogCandidate.Estimable.estimate_lt (h : candidate.Estimable) :
    candidate.estimate < u64Limit := by
  have hpos := averageChunkBytes_pos
  have hdiv := Nat.div_le_self (candidate.logicalBytes + (averageChunkBytes - 1))
    averageChunkBytes
  unfold Estimable at h
  unfold estimate
  omega

/-! ## Admitting a file -/

variable {limits : CatalogLimits} {files : List CatalogCandidate}

/-- The counter is the sum of the files' estimates and within the limit. -/
structure RollingCatalog.Balanced (limits : CatalogLimits) (catalog : RollingCatalog) :
    Prop where
  sum : catalog.entries = (catalog.files.map Prod.snd).sum
  bounded : catalog.entries ≤ limits.maxCatalogEntries

theorem RollingCatalog.balanced_empty (limits : CatalogLimits) :
    ({} : RollingCatalog).Balanced limits :=
  ⟨rfl, Nat.zero_le _⟩

theorem fitsCatalog_eq_true {entries estimated : Nat}
    (h : fitsCatalog limits entries estimated = true) :
    checkedAdd entries estimated = some (entries + estimated) ∧
      entries + estimated ≤ limits.maxCatalogEntries := by
  unfold fitsCatalog at h
  split at h
  · rename_i total htotal
    obtain ⟨hlt, rfl⟩ := checkedAdd_eq_some.mp htotal
    exact ⟨htotal, by simpa using h⟩
  · cases h

/-- The eviction loop drops the oldest files and ends with a catalog that has room. -/
theorem evictOldest_eq_ok {estimated : Nat} (hestimated : estimated ≤ limits.maxCatalogEntries)
    (hlimit : estimated < u64Limit) :
    ∀ (files : List (Nat × Nat)) (evicted : List Nat), ∃ dropped kept,
      files = dropped ++ kept ∧
      (∀ errors, evictOldest limits errors estimated files (files.map Prod.snd).sum evicted =
        .ok ({ files := kept, entries := (kept.map Prod.snd).sum },
          evicted ++ dropped.map Prod.fst)) ∧
      fitsCatalog limits (kept.map Prod.snd).sum estimated = true := by
  intro files
  induction files with
  | nil =>
    intro evicted
    have hfits : fitsCatalog limits 0 estimated = true := by
      unfold fitsCatalog
      rw [checkedAdd_eq_some.mpr ⟨by omega, rfl⟩]
      simpa using hestimated
    refine ⟨[], [], rfl, ?_, hfits⟩
    intro errors
    rw [evictOldest, List.map_nil, List.sum_nil, if_pos hfits, List.map_nil,
      List.append_nil]
  | cons oldest files ih =>
    intro evicted
    by_cases hfits : fitsCatalog limits ((oldest :: files).map Prod.snd).sum estimated
    · refine ⟨[], oldest :: files, rfl, ?_, hfits⟩
      intro errors
      rw [evictOldest, if_pos hfits]
      simp
    · obtain ⟨dropped, kept, hsplit, hevict, hroom⟩ := ih (evicted ++ [oldest.1])
      refine ⟨oldest :: dropped, kept, by rw [hsplit, List.cons_append], ?_, hroom⟩
      intro errors
      have hsub : checkedSub ((oldest :: files).map Prod.snd).sum oldest.2 =
          some (files.map Prod.snd).sum := by
        simp [checkedSub]
      rw [evictOldest, if_neg hfits, hsub, okOrElse_some, ok_bind, hevict errors]
      simp

/-- What the loop over the files of a generation has done so far: the files that fit have
gone into the catalog behind those that were there, and the oldest ones have left it. -/
structure Admitted (limits : CatalogLimits) (catalog : RollingCatalog)
    (files : List CatalogCandidate) (cataloged : CatalogedFiles) : Prop where
  balanced : cataloged.catalog.Balanced limits
  uncataloged : cataloged.uncataloged =
    (files.filter (fun file => limits.maxCatalogEntries < file.estimate)).map
      CatalogCandidate.fileId
  rolled : cataloged.evicted ++ cataloged.catalog.files.map Prod.fst =
    catalog.files.map Prod.fst ++
      (files.filter (fun file => ¬ limits.maxCatalogEntries < file.estimate)).map
        CatalogCandidate.fileId

/-- One turn of the loop succeeds, whatever its errors would be. -/
theorem admitCandidate_eq_ok {catalog : RollingCatalog} {cataloged : CatalogedFiles}
    (h : Admitted limits catalog files cataloged) (hcandidate : candidate.Estimable) :
    ∃ cataloged', (∀ errors, admitCandidate limits errors cataloged candidate =
        .ok cataloged') ∧
      Admitted limits catalog (files ++ [candidate]) cataloged' := by
  by_cases hlarge : limits.maxCatalogEntries < candidate.estimate
  · refine ⟨{ cataloged with uncataloged := cataloged.uncataloged ++ [candidate.fileId] },
      ?_, ⟨h.balanced, ?_, ?_⟩⟩
    · intro errors
      rw [admitCandidate, hcandidate.estimatedEntries_eq, ok_bind, if_pos hlarge]
      rfl
    · simp [h.uncataloged, hlarge]
    · simpa [hlarge] using h.rolled
  · obtain ⟨dropped, kept, hsplit, hevict, hroom⟩ := evictOldest_eq_ok
      (Nat.le_of_not_lt hlarge) hcandidate.estimate_lt cataloged.catalog.files
      cataloged.evicted
    obtain ⟨hadd, hbound⟩ := fitsCatalog_eq_true hroom
    refine ⟨{ cataloged with
      catalog := { files := kept ++ [(candidate.fileId, candidate.estimate)]
                   entries := (kept.map Prod.snd).sum + candidate.estimate }
      evicted := cataloged.evicted ++ dropped.map Prod.fst }, ?_, ⟨⟨?_, hbound⟩, ?_, ?_⟩⟩
    · intro errors
      rw [admitCandidate, hcandidate.estimatedEntries_eq, ok_bind, if_neg hlarge,
        h.balanced.sum, hevict errors, ok_bind]
      dsimp only
      rw [hadd, okOrElse_some, ok_bind]
      rfl
    · simp
    · simpa [hlarge] using h.uncataloged
    · have hfitting : [candidate].filter
          (fun file => ¬ limits.maxCatalogEntries < file.estimate) = [candidate] := by
        simpa using Nat.le_of_not_lt hlarge
      have hrolled := congrArg (· ++ [candidate.fileId]) h.rolled
      rw [hsplit, List.map_append] at hrolled
      rw [List.filter_append, hfitting, List.map_append, List.map_append]
      simpa only [List.append_assoc, List.map_cons, List.map_nil] using hrolled

/-- The whole loop over the files of a generation. -/
theorem admitFiles_eq_ok {catalog : RollingCatalog} (hcatalog : catalog.Balanced limits)
    (hfiles : ∀ file ∈ files, file.Estimable) :
    ∃ cataloged, (∀ errors, files.foldlM (admitCandidate limits errors) { catalog } =
        .ok cataloged) ∧
      Admitted limits catalog files cataloged := by
  induction files using List.reverseRecOn with
  | nil =>
    exact ⟨{ catalog }, fun _ => rfl, ⟨hcatalog, rfl, by simp⟩⟩
  | append_singleton files file ih =>
    obtain ⟨before, hbefore, hadmitted⟩ := ih (fun other hother => hfiles other (by simp [hother]))
    obtain ⟨after, hafter, hadmitted'⟩ := admitCandidate_eq_ok hadmitted (hfiles file (by simp))
    refine ⟨after, ?_, hadmitted'⟩
    intro errors
    rw [List.foldlM_append, hbefore errors, ok_bind, List.foldlM_cons, hafter errors, ok_bind,
      List.foldlM_nil, pure_eq_ok]

/-! ## Generations -/

variable {generations : List CatalogGeneration}

/-- The bytes of a list of files. -/
def candidateTotal (files : List CatalogCandidate) : Nat :=
  (files.map CatalogCandidate.logicalBytes).sum

theorem candidateTotal_append (files more : List CatalogCandidate) :
    candidateTotal (files ++ more) = candidateTotal files + candidateTotal more := by
  simp [candidateTotal]

theorem candidateTotal_singleton (file : CatalogCandidate) :
    candidateTotal [file] = file.logicalBytes := by
  simp [candidateTotal]

theorem sumCandidateBytes_eq_ok (h : candidateTotal files < u64Limit) :
    sumCandidateBytes files = .ok (candidateTotal files) := by
  unfold sumCandidateBytes
  induction files using List.reverseRecOn with
  | nil => rfl
  | append_singleton files file ih =>
    rw [candidateTotal_append, candidateTotal_singleton] at h ⊢
    rw [List.foldlM_append, ih (by omega), ok_bind, List.foldlM_cons, addCounter_of_lt h,
      ok_bind, List.foldlM_nil, pure_eq_ok]

theorem sumCandidateBytes_lt {total : Nat} (h : sumCandidateBytes files = .ok total) :
    candidateTotal files < u64Limit := by
  unfold sumCandidateBytes at h
  induction files using List.reverseRecOn generalizing total with
  | nil => norm_num [candidateTotal, u64Limit]
  | append_singleton files file ih =>
    rw [List.foldlM_append] at h
    obtain ⟨before, hbefore, h⟩ := bind_eq_ok.mp h
    have hbound := ih hbefore
    have hvalue := sumCandidateBytes_eq_ok hbound
    rw [sumCandidateBytes, hbefore] at hvalue
    cases hvalue
    rw [List.foldlM_cons] at h
    obtain ⟨after, hafter, _⟩ := bind_eq_ok.mp h
    rw [candidateTotal_append, candidateTotal_singleton]
    exact (addCounter_eq_ok.mp hafter).1

/-- What a generation does to the rolling catalog, and that it reports this. -/
structure Advances (limits : CatalogLimits) (catalog : RollingCatalog)
    (generation : CatalogGeneration) (catalog' : RollingCatalog) : Prop where
  nonempty : generation.transferFiles ≠ []
  bytes : generation.logicalBytes = candidateTotal generation.transferFiles
  entriesBefore : generation.catalogEntriesBefore = catalog.entries
  entriesAfter : generation.catalogEntriesAfter = catalog'.entries
  admits : ∀ errors, generation.transferFiles.foldlM (admitCandidate limits errors)
    { catalog } = .ok { catalog := catalog', uncataloged := generation.uncatalogedFileIds
                        evicted := generation.evictedFileIds }
  admitted : Admitted limits catalog generation.transferFiles
    { catalog := catalog', uncataloged := generation.uncatalogedFileIds
      evicted := generation.evictedFileIds }

/-- A run of generations from one catalog to another. -/
inductive Rolls (limits : CatalogLimits) :
    RollingCatalog → List CatalogGeneration → RollingCatalog → Prop
  | nil (catalog : RollingCatalog) : Rolls limits catalog [] catalog
  | cons {catalog next last : RollingCatalog} {generation : CatalogGeneration}
      {rest : List CatalogGeneration} (hstep : Advances limits catalog generation next)
      (hrest : Rolls limits next rest last) : Rolls limits catalog (generation :: rest) last

/-- One more generation at the end. -/
theorem Rolls.concat {catalog next last : RollingCatalog} {generation : CatalogGeneration}
    (h : Rolls limits catalog generations next) (hstep : Advances limits next generation last) :
    Rolls limits catalog (generations ++ [generation]) last := by
  induction h with
  | nil => exact .cons hstep (.nil last)
  | cons hfirst _ ih => exact .cons hfirst (ih hstep)

/-- The run up to a generation. -/
theorem Rolls.take {catalog last : RollingCatalog} (h : Rolls limits catalog generations last)
    (count : Nat) : ∃ middle, Rolls limits catalog (generations.take count) middle := by
  induction h generalizing count with
  | nil catalog => exact ⟨catalog, by simpa using .nil catalog⟩
  | @cons catalog next last generation rest hstep hrest ih =>
    cases count with
    | zero => exact ⟨catalog, .nil catalog⟩
    | succ count =>
      obtain ⟨middle, hmiddle⟩ := ih count
      exact ⟨middle, .cons hstep hmiddle⟩

/-- A run leads to one catalog. -/
theorem Rolls.unique {catalog last last' : RollingCatalog}
    (h : Rolls limits catalog generations last) (h' : Rolls limits catalog generations last') :
    last = last' := by
  induction h with
  | nil => cases h'; rfl
  | cons hstep _ ih =>
    cases h' with
    | cons hstep' hrest' =>
      have hsame := (hstep.admits planningErrors).symm.trans (hstep'.admits planningErrors)
      cases hsame
      exact ih hrest'

theorem Rolls.bounded {catalog last : RollingCatalog}
    (h : Rolls limits catalog generations last) (hcatalog : catalog.Balanced limits) :
    last.Balanced limits ∧ ∀ generation ∈ generations,
      generation.catalogEntriesBefore ≤ limits.maxCatalogEntries ∧
      generation.catalogEntriesAfter ≤ limits.maxCatalogEntries := by
  induction h with
  | nil => exact ⟨hcatalog, by simp⟩
  | cons hstep _ ih =>
    have hnext := hstep.admitted.balanced
    obtain ⟨hlast, hrest⟩ := ih hnext
    refine ⟨hlast, ?_⟩
    intro generation hmem
    rcases List.mem_cons.mp hmem with rfl | hmem
    · rw [hstep.entriesBefore, hstep.entriesAfter]
      exact ⟨hcatalog.bounded, hnext.bounded⟩
    · exact hrest generation hmem

/-! ## The validator accepts what the planner builds -/

/-- The last file ID of a list, or the one before it. -/
def lastFileId (previousFileId : Option Nat) (files : List CatalogCandidate) : Option Nat :=
  files.foldl (fun _ file => some file.fileId) previousFileId

theorem StrictlyAbove.last :
    ∀ {previousFileId : Option Nat} {more : List Nat},
      StrictlyAbove previousFileId (files.map CatalogCandidate.fileId ++ more) →
      StrictlyAbove (lastFileId previousFileId files) more := by
  induction files with
  | nil =>
    intro previousFileId more h
    exact h
  | cons file rest ih =>
    intro previousFileId more h
    obtain ⟨hsorted, _⟩ := h
    rw [List.map_cons, List.cons_append, List.pairwise_cons] at hsorted
    apply ih
    refine ⟨hsorted.2, ?_⟩
    rintro previous ⟨⟩ fileId hmem
    exact hsorted.1 fileId hmem

/-- Files in order pass the validator's loop, with the same catalog. -/
theorem validateFiles_of_sorted :
    ∀ {previousFileId : Option Nat} {more : List Nat} {cataloged cataloged' : CatalogedFiles},
      StrictlyAbove previousFileId (files.map CatalogCandidate.fileId ++ more) →
      files.foldlM (admitCandidate limits validationErrors) cataloged = .ok cataloged' →
      validateFiles limits files previousFileId cataloged =
        .ok (lastFileId previousFileId files, cataloged') := by
  induction files with
  | nil =>
    intro previousFileId more cataloged cataloged' _ h
    cases h
    rfl
  | cons file rest ih =>
    intro previousFileId more cataloged cataloged' hsorted h
    rw [List.foldlM_cons] at h
    obtain ⟨next, hnext, h⟩ := bind_eq_ok.mp h
    have habove : ∀ previous ∈ previousFileId, previous < file.fileId := by
      intro previous hprevious
      exact hsorted.2 previous hprevious file.fileId (by simp)
    have hdifferent : ∀ previous ∈ previousFileId, file.fileId ≠ previous :=
      fun previous hprevious => (habove previous hprevious).ne'
    have hordered : ∀ previous ∈ previousFileId, ¬ file.fileId < previous :=
      fun previous hprevious => (habove previous hprevious).not_gt
    rw [validateFiles, ensure, if_pos hdifferent, ok_bind, ensure, if_pos hordered, ok_bind,
      hnext, ok_bind]
    exact ih (show StrictlyAbove _ ([file].map CatalogCandidate.fileId ++ _) from
      hsorted).last h

/-- A generation that advances the catalog passes the validator. -/
theorem validateGeneration_of_advances {state : ValidationState}
    {generation : CatalogGeneration} {catalog' : RollingCatalog} {more : List Nat}
    (h : Advances limits state.catalog generation catalog')
    (hsorted : StrictlyAbove state.previousFileId (generation.fileIds ++ more))
    (hfiles : state.candidateFiles + generation.transferFiles.length < u64Limit)
    (hbytes : state.candidateBytes + generation.logicalBytes < u64Limit) :
    validateGeneration limits state generation.index generation =
      .ok { catalog := catalog'
            peakCatalogEntries := max state.peakCatalogEntries generation.catalogEntriesAfter
            previousFileId := lastFileId state.previousFileId generation.transferFiles
            candidateFiles := state.candidateFiles + generation.transferFiles.length
            candidateBytes := state.candidateBytes + generation.logicalBytes } := by
  have hsum : sumCandidateBytes generation.transferFiles = .ok generation.logicalBytes := by
    rw [h.bytes]
    apply sumCandidateBytes_eq_ok
    rw [← h.bytes]
    omega
  unfold validateGeneration
  rw [ensure, if_pos rfl, ok_bind, ensure, if_pos h.nonempty, ok_bind, ensure,
    if_pos h.entriesBefore, ok_bind, hsum, ok_bind, ensure, if_pos rfl, ok_bind,
    addCounter_of_lt hfiles, ok_bind, addCounter_of_lt hbytes, ok_bind,
    validateFiles_of_sorted hsorted (h.admits validationErrors), ok_bind]
  dsimp only
  rw [ensure, if_pos rfl, ok_bind, ensure, if_pos rfl, ok_bind, ensure,
    if_pos h.entriesAfter, ok_bind, ensure, if_pos h.admitted.balanced.bounded, ok_bind,
    h.entriesAfter]
  rfl

/-- The number of files of a list of generations. -/
def generationFiles (generations : List CatalogGeneration) : List CatalogCandidate :=
  generations.flatMap CatalogGeneration.transferFiles

/-- The greatest catalog that a list of generations reports. -/
def peakEntries (generations : List CatalogGeneration) (peak : Nat) : Nat :=
  generations.foldl (fun peak generation => max peak generation.catalogEntriesAfter) peak

theorem validateGenerations_of_rolls {limits : CatalogLimits}
    {catalog last : RollingCatalog} {generations : List CatalogGeneration}
    (h : Rolls limits catalog generations last) :
    ∀ {state : ValidationState} {expectedIndex : Nat}, state.catalog = catalog →
      (∀ k generation, generations[k]? = some generation →
        generation.index = expectedIndex + k) →
      StrictlyAbove state.previousFileId (generations.flatMap CatalogGeneration.fileIds) →
      state.candidateFiles + (generationFiles generations).length < u64Limit →
      state.candidateBytes + candidateTotal (generationFiles generations) < u64Limit →
      ∃ state', validateGenerations limits expectedIndex generations state = .ok state' ∧
        state'.candidateFiles = state.candidateFiles + (generationFiles generations).length ∧
        state'.candidateBytes =
          state.candidateBytes + candidateTotal (generationFiles generations) ∧
        state'.peakCatalogEntries = peakEntries generations state.peakCatalogEntries := by
  induction h with
  | nil =>
    intro state expectedIndex _ _ _ _ _
    exact ⟨state, rfl, rfl, rfl, rfl⟩
  | @cons catalog next last generation rest hstep _ ih =>
    intro state expectedIndex hcatalog hindex hsorted hfiles hbytes
    subst hcatalog
    have hfirst : generation.index = expectedIndex := hindex 0 generation rfl
    have hsplit : generationFiles (generation :: rest) =
        generation.transferFiles ++ generationFiles rest := List.flatMap_cons
    rw [List.flatMap_cons] at hsorted
    rw [hsplit, List.length_append] at hfiles
    rw [hsplit, candidateTotal_append, ← hstep.bytes] at hbytes
    have hvalidated := validateGeneration_of_advances hstep hsorted (by omega) (by omega)
    obtain ⟨state', hstate', hcount, htotal, hpeak⟩ := @ih
      { catalog := next
        peakCatalogEntries := max state.peakCatalogEntries generation.catalogEntriesAfter
        previousFileId := lastFileId state.previousFileId generation.transferFiles
        candidateFiles := state.candidateFiles + generation.transferFiles.length
        candidateBytes := state.candidateBytes + generation.logicalBytes }
      (expectedIndex + 1) rfl
      (by
        intro k other hother
        have := hindex (k + 1) other hother
        omega)
      (StrictlyAbove.last hsorted) (by dsimp only; omega) (by dsimp only; omega)
    refine ⟨state', ?_, ?_, ?_, hpeak⟩
    · rw [validateGenerations, ← hfirst, hvalidated, ok_bind, hfirst]
      exact hstate'
    · rw [hcount, hsplit, List.length_append, Nat.add_assoc]
    · rw [htotal, hsplit, candidateTotal_append, ← hstep.bytes, Nat.add_assoc]

/-! ## The planner -/

variable {candidates : List CatalogCandidate}
variable {state : PlanningState}

/-- The files of a generation stay within the target, unless there is only one. -/
def WithinTarget (limits : CatalogLimits) (files : List CatalogCandidate) : Prop :=
  candidateTotal files ≤ limits.generationTargetBytes ∨ files.length = 1

/-- A generation was cut because the next file would have exceeded the target. -/
def CutBefore (limits : CatalogLimits) (files next : List CatalogCandidate) : Prop :=
  ∀ first ∈ next.head?, limits.generationTargetBytes < candidateTotal files + first.logicalBytes

/-- The invariant of the loop over the candidates, of which `visited` are behind it. -/
structure Planned (limits : CatalogLimits) (visited : List CatalogCandidate)
    (state : PlanningState) : Prop where
  rolls : Rolls limits {} state.generations state.catalog
  indexed : ∀ (k : Nat) (generation : CatalogGeneration),
    state.generations[k]? = some generation → generation.index = k
  covered : generationFiles state.generations ++ state.currentTransferFiles = visited
  bytes : state.currentGenerationBytes = candidateTotal state.currentTransferFiles
  within : ∀ files ∈ state.generations.map CatalogGeneration.transferFiles ++
    [state.currentTransferFiles], WithinTarget limits files
  cut : (state.generations.map CatalogGeneration.transferFiles ++
    [state.currentTransferFiles]).IsChain (CutBefore limits)
  peak : state.peakCatalogEntries = peakEntries state.generations 0
  pending : state.currentTransferFiles = [] → state.generations = []

theorem planned_nil (limits : CatalogLimits) : Planned limits [] {} where
  rolls := .nil _
  indexed := by simp
  covered := rfl
  bytes := rfl
  within := by
    intro files hmem
    rw [List.map_nil, List.nil_append, List.mem_singleton] at hmem
    subst hmem
    exact .inl (Nat.zero_le _)
  cut := List.isChain_singleton _
  peak := rfl
  pending := fun _ => rfl

/-- The state when the current files have become a generation. -/
structure Finished (limits : CatalogLimits) (state state' : PlanningState) : Prop where
  rolls : Rolls limits {} state'.generations state'.catalog
  indexed : ∀ (k : Nat) (generation : CatalogGeneration),
    state'.generations[k]? = some generation → generation.index = k
  extended : ∃ generation, state'.generations = state.generations ++ [generation] ∧
    generation.transferFiles = state.currentTransferFiles
  emptied : state'.currentTransferFiles = [] ∧ state'.currentGenerationBytes = 0
  peak : state'.peakCatalogEntries = peakEntries state'.generations 0

/-- `finish_catalog_generation` succeeds. -/
theorem Planned.finish {visited : List CatalogCandidate} (h : Planned limits visited state)
    (hcurrent : state.currentTransferFiles ≠ []) (hestimable : ∀ file ∈ visited, file.Estimable)
    (htotal : candidateTotal visited < u64Limit) :
    ∃ state', finishCatalogGeneration limits state = .ok state' ∧
      Finished limits state state' := by
  have hvisited := h.covered
  obtain ⟨cataloged, hadmits, hadmitted⟩ := admitFiles_eq_ok
    (h.rolls.bounded (RollingCatalog.balanced_empty limits)).1 (show ∀ file ∈ state.currentTransferFiles,
      file.Estimable from fun file hfile => hestimable file (by rw [← hvisited]; simp [hfile]))
  have hsum : sumCandidateBytes state.currentTransferFiles =
      .ok (candidateTotal state.currentTransferFiles) := by
    apply sumCandidateBytes_eq_ok
    rw [← hvisited, candidateTotal_append] at htotal
    omega
  unfold finishCatalogGeneration
  dsimp only
  rw [ensure, if_pos hcurrent, ok_bind, hsum, ok_bind, hadmits planningErrors, ok_bind]
  refine ⟨_, rfl, ⟨h.rolls.concat ?_, ?_, ⟨_, rfl, rfl⟩, ⟨rfl, rfl⟩, ?_⟩⟩
  · exact ⟨hcurrent, rfl, rfl, rfl, hadmits, hadmitted⟩
  · intro k generation hget
    by_cases hk : k < state.generations.length
    · rw [List.getElem?_append_left hk] at hget
      exact h.indexed k generation hget
    · rw [List.getElem?_append_right (by omega), List.getElem?_singleton] at hget
      split at hget
      · cases hget
        show state.generations.length = k
        omega
      · cases hget
  · show max state.peakCatalogEntries cataloged.catalog.entries = _
    rw [h.peak]
    simp [peakEntries]

/-- One candidate more. -/
theorem Planned.step {visited : List CatalogCandidate} (h : Planned limits visited state)
    (hestimable : ∀ file ∈ visited, file.Estimable)
    (htotal : candidateTotal visited + candidate.logicalBytes < u64Limit) :
    ∃ state', planCandidate limits state candidate = .ok state' ∧
      Planned limits (visited ++ [candidate]) state' := by
  have hvisited := h.covered
  have hcurrentTotal : candidateTotal state.currentTransferFiles ≤ candidateTotal visited := by
    rw [← hvisited, candidateTotal_append]
    omega
  unfold planCandidate
  rw [h.bytes, addCounter_of_lt (by omega), ok_bind]
  by_cases hfull : state.currentTransferFiles ≠ [] ∧ limits.generationTargetBytes <
      candidateTotal state.currentTransferFiles + candidate.logicalBytes
  · -- The candidate opens a new generation.
    obtain ⟨finished, hfinish, hfinished⟩ := h.finish hfull.1 hestimable (by omega)
    obtain ⟨generation, hgenerations, hfiles⟩ := hfinished.extended
    obtain ⟨hempty, hzero⟩ := hfinished.emptied
    have hlists : finished.generations.map CatalogGeneration.transferFiles =
        state.generations.map CatalogGeneration.transferFiles ++
          [state.currentTransferFiles] := by
      rw [hgenerations, List.map_append, List.map_cons, List.map_nil, hfiles]
    rw [if_pos hfull, hfinish, ok_bind, hzero, addCounter_of_lt (by omega), ok_bind, hempty]
    refine ⟨_, rfl, ⟨hfinished.rolls, hfinished.indexed, ?_, ?_, ?_, ?_, hfinished.peak, ?_⟩⟩
    · show generationFiles finished.generations ++ ([] ++ [candidate]) = _
      rw [hgenerations, generationFiles, List.flatMap_append, List.flatMap_singleton, hfiles,
        ← hvisited, generationFiles, List.nil_append]
    · show 0 + candidate.logicalBytes = candidateTotal ([] ++ [candidate])
      rw [Nat.zero_add, List.nil_append, candidateTotal_singleton]
    · show ∀ files ∈ finished.generations.map CatalogGeneration.transferFiles ++
        [[] ++ [candidate]], WithinTarget limits files
      rw [hlists]
      intro files hmem
      rcases List.mem_append.mp hmem with hmem | hmem
      · exact h.within files hmem
      · rw [List.mem_singleton] at hmem
        subst hmem
        exact .inr rfl
    · show (finished.generations.map CatalogGeneration.transferFiles ++
        [[] ++ [candidate]]).IsChain (CutBefore limits)
      rw [hlists, List.isChain_append]
      refine ⟨h.cut, List.isChain_singleton _, ?_⟩
      intro files hlast next hhead first hfirst
      rw [List.getLast?_concat] at hlast
      cases hlast
      cases hhead
      cases hfirst
      exact hfull.2
    · intro hnone
      simp at hnone
  · -- The candidate joins the current generation.
    rw [if_neg hfull, ok_bind, h.bytes, addCounter_of_lt (by omega), ok_bind]
    refine ⟨_, rfl, ⟨h.rolls, h.indexed, ?_, ?_, ?_, ?_, h.peak, ?_⟩⟩
    · show generationFiles state.generations ++ (state.currentTransferFiles ++ [candidate]) = _
      rw [← List.append_assoc, hvisited]
    · show _ = candidateTotal (state.currentTransferFiles ++ [candidate])
      rw [candidateTotal_append, candidateTotal_singleton]
    · intro files hmem
      rcases List.mem_append.mp hmem with hmem | hmem
      · exact h.within files (List.mem_append_left _ hmem)
      · rw [List.mem_singleton] at hmem
        subst hmem
        show WithinTarget limits (state.currentTransferFiles ++ [candidate])
        by_cases hempty : state.currentTransferFiles = []
        · exact .inr (by rw [hempty]; rfl)
        · left
          rw [candidateTotal_append, candidateTotal_singleton]
          by_contra hover
          exact hfull ⟨hempty, by omega⟩
    · have hcut := h.cut
      rw [List.isChain_append] at hcut ⊢
      refine ⟨hcut.1, List.isChain_singleton _, ?_⟩
      intro files hlast next hhead first hfirst
      cases hhead
      by_cases hempty : state.currentTransferFiles = []
      · rw [h.pending hempty] at hlast
        cases hlast
      · obtain ⟨head, rest, hcons⟩ := List.exists_cons_of_ne_nil hempty
        rw [hcons] at hfirst
        cases hfirst
        exact hcut.2.2 files hlast _ rfl first (by rw [hcons]; rfl)
    · intro hnone
      simp at hnone

/-- The loop over the candidates. -/
theorem planned_run (limits : CatalogLimits) (hestimable : ∀ file ∈ candidates, file.Estimable)
    (htotal : candidateTotal candidates < u64Limit) :
    ∃ state, candidates.foldlM (planCandidate limits) {} = .ok state ∧
      Planned limits candidates state := by
  induction candidates using List.reverseRecOn with
  | nil => exact ⟨{}, rfl, planned_nil limits⟩
  | append_singleton visited candidate ih =>
    rw [candidateTotal_append, candidateTotal_singleton] at htotal
    have hvisited : ∀ file ∈ visited, file.Estimable :=
      fun file hfile => hestimable file (by simp [hfile])
    obtain ⟨state, hstate, hplanned⟩ := ih hvisited (by omega)
    obtain ⟨state', hstep, hplanned'⟩ := hplanned.step hvisited htotal
    refine ⟨state', ?_, hplanned'⟩
    rw [List.foldlM_append, hstate, ok_bind, List.foldlM_cons, hstep, ok_bind,
      List.foldlM_nil, pure_eq_ok]

/-- The generations that the planner ends with. -/
structure PlannedGenerations (limits : CatalogLimits) (sorted : List CatalogCandidate)
    (state : PlanningState) : Prop where
  rolls : Rolls limits {} state.generations state.catalog
  indexed : ∀ (k : Nat) (generation : CatalogGeneration),
    state.generations[k]? = some generation → generation.index = k
  covered : generationFiles state.generations = sorted
  within : ∀ generation ∈ state.generations, WithinTarget limits generation.transferFiles
  cut : (state.generations.map CatalogGeneration.transferFiles).IsChain (CutBefore limits)
  peak : state.peakCatalogEntries = peakEntries state.generations 0

/-- The generation that is left open by the loop is finished behind it. -/
theorem Planned.close {sorted : List CatalogCandidate} (h : Planned limits sorted state)
    (hestimable : ∀ file ∈ sorted, file.Estimable) (htotal : candidateTotal sorted < u64Limit) :
    ∃ state', (if state.currentTransferFiles ≠ [] then finishCatalogGeneration limits state
        else .ok state) = .ok state' ∧
      PlannedGenerations limits sorted state' := by
  by_cases hcurrent : state.currentTransferFiles = []
  · rw [if_neg (by simpa using hcurrent)]
    refine ⟨state, rfl, ⟨h.rolls, h.indexed, ?_, ?_, ?_, h.peak⟩⟩
    · rw [← h.covered, hcurrent, List.append_nil]
    · rw [h.pending hcurrent]
      simp
    · rw [h.pending hcurrent]
      exact .nil
  · obtain ⟨finished, hfinish, hfinished⟩ := h.finish hcurrent hestimable htotal
    obtain ⟨generation, hgenerations, hfiles⟩ := hfinished.extended
    have hlists : finished.generations.map CatalogGeneration.transferFiles =
        state.generations.map CatalogGeneration.transferFiles ++
          [state.currentTransferFiles] := by
      rw [hgenerations, List.map_append, List.map_cons, List.map_nil, hfiles]
    rw [if_pos hcurrent]
    refine ⟨finished, hfinish, ⟨hfinished.rolls, hfinished.indexed, ?_, ?_, ?_, hfinished.peak⟩⟩
    · rw [hgenerations, generationFiles, List.flatMap_append, List.flatMap_singleton, hfiles,
        ← h.covered, generationFiles]
    · intro other hother
      apply h.within
      rw [← hlists]
      exact List.mem_map_of_mem hother
    · rw [hlists]
      exact h.cut

/-- What `validate_candidates` accepts. -/
theorem validateCandidates_eq_ok :
    ∀ {previousFileId : Option Nat} {u : Unit},
      validateCandidates previousFileId candidates = .ok u ↔
        (∀ candidate ∈ candidates, candidate.logicalBytes ≠ 0 ∧ candidate.Estimable) ∧
          StrictlyAbove previousFileId (candidates.map CatalogCandidate.fileId) := by
  induction candidates with
  | nil =>
    intro previousFileId u
    simp [validateCandidates, strictlyAbove_nil]
  | cons candidate rest ih =>
    intro previousFileId u
    have hestimated : (∃ entries, candidate.estimatedEntries = .ok entries) ↔
        candidate.Estimable := by
      constructor
      · rintro ⟨entries, hentries⟩
        obtain ⟨bytes, hbytes, _⟩ := bind_eq_ok.mp hentries
        rw [okOrElse_eq_ok, checkedAdd_eq_some] at hbytes
        have hpos := averageChunkBytes_pos
        unfold CatalogCandidate.Estimable
        omega
      · intro h
        exact ⟨_, h.estimatedEntries_eq⟩
    rw [validateCandidates]
    simp only [bind_eq_ok, ensure_eq_ok, exists_and_left, exists_const, ih, List.map_cons,
      List.forall_mem_cons]
    constructor
    · rintro ⟨hnonzero, hdifferent, hordered, entries, hentries, hrest, hsorted⟩
      refine ⟨⟨⟨hnonzero, ?_⟩, hrest⟩, strictlyAbove_cons ?_ hsorted⟩
      · exact hestimated.mp ⟨entries, hentries⟩
      · intro previous hprevious
        have h₁ := hdifferent previous hprevious
        have h₂ := hordered previous hprevious
        omega
    · rintro ⟨⟨⟨hnonzero, hestimable⟩, hrest⟩, hsorted⟩
      have hfirst : ∀ previous ∈ previousFileId, previous < candidate.fileId :=
        fun previous hprevious => hsorted.2 previous hprevious _ List.mem_cons_self
      refine ⟨hnonzero, fun previous hprevious => (hfirst previous hprevious).ne',
        fun previous hprevious => (hfirst previous hprevious).not_gt,
        _, hestimable.estimatedEntries_eq, hrest, ?_⟩
      exact (show StrictlyAbove _ ([candidate].map CatalogCandidate.fileId ++ _) from
        hsorted).last

/-- The order in which `plan` takes its candidates. -/
def sortedCandidates (candidates : List CatalogCandidate) : List CatalogCandidate :=
  candidates.mergeSort (fun left right => left.fileId ≤ right.fileId)

theorem sortedCandidates_perm (candidates : List CatalogCandidate) :
    (sortedCandidates candidates).Perm candidates :=
  List.mergeSort_perm _ _

theorem sortedCandidates_pairwise (candidates : List CatalogCandidate) :
    (sortedCandidates candidates).Pairwise (fun left right => left.fileId ≤ right.fileId) := by
  have h : (sortedCandidates candidates).Pairwise
      (fun left right => decide (left.fileId ≤ right.fileId) = true) := by
    apply List.pairwise_mergeSort
    · intro a b c hab hbc
      simp only [decide_eq_true_eq] at *
      omega
    · intro a b
      simp only [Bool.or_eq_true, decide_eq_true_eq]
      omega
  exact h.imp (fun hle => by simpa using hle)

/-- Distinct IDs are strictly increasing once they are sorted. -/
theorem sortedCandidates_above (hids : (candidates.map CatalogCandidate.fileId).Nodup) :
    StrictlyAbove none ((sortedCandidates candidates).map CatalogCandidate.fileId) := by
  refine ⟨?_, by simp⟩
  have hnodup : ((sortedCandidates candidates).map CatalogCandidate.fileId).Nodup :=
    ((sortedCandidates_perm candidates).map _).nodup_iff.mpr hids
  rw [List.pairwise_map]
  rw [List.Nodup, List.pairwise_map] at hnodup
  exact (sortedCandidates_pairwise candidates).imp₂ (fun _ _ hle hne => by omega) hnodup

/-- Candidates with distinct IDs have one sorted order. -/
theorem sortedCandidates_eq_of_perm {candidates candidates' : List CatalogCandidate}
    (hids : (candidates.map CatalogCandidate.fileId).Nodup)
    (hperm : candidates'.Perm candidates) :
    sortedCandidates candidates' = sortedCandidates candidates := by
  have hsame := ((sortedCandidates_perm candidates').trans hperm).trans
    (sortedCandidates_perm candidates).symm
  refine hsame.eq_of_pairwise ?_ (sortedCandidates_pairwise _) (sortedCandidates_pairwise _)
  intro left right hleft hright hle hge
  have hmem : left ∈ candidates := hperm.subset ((sortedCandidates_perm _).subset hleft)
  have hmem' : right ∈ candidates := (sortedCandidates_perm _).subset hright
  exact List.inj_on_of_nodup_map hids hmem hmem' (by omega)

/-- What a plan of the catalog is. -/
structure CatalogPlanned (limits : CatalogLimits) (candidates : List CatalogCandidate)
    (plan : CatalogPlan) : Prop where
  /-- The validator accepts it. -/
  validated : validatePlan plan limits = .ok ()
  /-- The generations partition the candidates. -/
  partition : (generationFiles plan.generations).Perm candidates
  /-- They do so in increasing order of the file IDs. -/
  ordered : (plan.generations.flatMap CatalogGeneration.fileIds).Pairwise (· < ·)
  nonempty : ∀ generation ∈ plan.generations, generation.transferFiles ≠ []
  bytes : ∀ generation ∈ plan.generations,
    generation.logicalBytes = candidateTotal generation.transferFiles
  /-- A generation stays within the target unless it is a single file. -/
  within : ∀ generation ∈ plan.generations,
    generation.logicalBytes ≤ limits.generationTargetBytes ∨
      generation.transferFiles.length = 1
  /-- The next file would have exceeded the target. -/
  maximal : ∀ (k : Nat) (generation next : CatalogGeneration) (first : CatalogCandidate),
    plan.generations[k]? = some generation → plan.generations[k + 1]? = some next →
    next.transferFiles.head? = some first →
    limits.generationTargetBytes < generation.logicalBytes + first.logicalBytes
  /-- The catalog after any number of generations holds files whose estimates add up to
  its counter, which is within the limit. -/
  retained : ∀ count, ∃ catalog, Rolls limits {} (plan.generations.take count) catalog ∧
    catalog.Balanced limits
  /-- So is every number that the plan reports. -/
  reported : ∀ generation ∈ plan.generations,
    generation.catalogEntriesBefore ≤ limits.maxCatalogEntries ∧
    generation.catalogEntriesAfter ≤ limits.maxCatalogEntries
  peak : plan.peakCatalogEntries ≤ limits.maxCatalogEntries
  totals : plan.candidateFiles = candidates.length ∧
    plan.candidateBytes = candidateTotal candidates

theorem Rolls.advances {catalog last : RollingCatalog}
    (h : Rolls limits catalog generations last) :
    ∀ generation ∈ generations, ∃ before after, Advances limits before generation after := by
  induction h with
  | nil => simp
  | cons hstep _ ih =>
    intro generation hmem
    rcases List.mem_cons.mp hmem with rfl | hmem
    · exact ⟨_, _, hstep⟩
    · exact ih generation hmem

theorem peakEntries_le :
    ∀ {peak : Nat}, peak ≤ limits.maxCatalogEntries →
      (∀ generation ∈ generations,
        generation.catalogEntriesAfter ≤ limits.maxCatalogEntries) →
      peakEntries generations peak ≤ limits.maxCatalogEntries := by
  induction generations with
  | nil =>
    intro peak hpeak _
    exact hpeak
  | cons generation rest ih =>
    intro peak hpeak hall
    have hfirst := hall generation List.mem_cons_self
    exact ih (max_le hpeak hfirst) (fun other hother => hall other (List.mem_cons_of_mem _ hother))

/-- The files of a list of generations have its file IDs. -/
theorem generationFiles_map_fileId (generations : List CatalogGeneration) :
    (generationFiles generations).map CatalogCandidate.fileId =
      generations.flatMap CatalogGeneration.fileIds := by
  rw [generationFiles, List.map_flatMap]
  rfl

/-- Every file has at least one byte. -/
theorem length_le_candidateTotal (h : ∀ candidate ∈ candidates, candidate.logicalBytes ≠ 0) :
    candidates.length ≤ candidateTotal candidates := by
  induction candidates with
  | nil => simp
  | cons candidate rest ih =>
    have hfirst := h candidate List.mem_cons_self
    have hrest := ih (fun other hother => h other (List.mem_cons_of_mem _ hother))
    simp only [candidateTotal, List.map_cons, List.sum_cons, List.length_cons] at hrest ⊢
    omega

theorem candidateTotal_perm {candidates candidates' : List CatalogCandidate}
    (h : candidates.Perm candidates') :
    candidateTotal candidates = candidateTotal candidates' :=
  (h.map _).sum_eq

theorem logicalBytes_le_candidateTotal (h : candidate ∈ candidates) :
    candidate.logicalBytes ≤ candidateTotal candidates :=
  List.single_le_sum (by simp) _ (List.mem_map_of_mem h)

/-- The planner succeeds on sorted candidates. -/
theorem planCatalog_eq_ok (hlimits : limits.validate = .ok ())
    (hvalid : validateCandidates none (sortedCandidates candidates) = .ok ())
    (htotal : candidateTotal (sortedCandidates candidates) < u64Limit) :
    ∃ plan state, planCatalog candidates limits = .ok plan ∧
      plan.generations = state.generations ∧
      PlannedGenerations limits (sortedCandidates candidates) state ∧
      CatalogPlanned limits candidates plan := by
  obtain ⟨hfiles, hsorted⟩ := validateCandidates_eq_ok.mp hvalid
  have hestimable : ∀ file ∈ sortedCandidates candidates, file.Estimable :=
    fun file hfile => (hfiles file hfile).2
  have hcount := length_le_candidateTotal (fun file hfile => (hfiles file hfile).1)
  obtain ⟨opened, hopened, hplanned⟩ := planned_run limits hestimable htotal
  obtain ⟨state, hclosed, hgenerations⟩ := hplanned.close hestimable htotal
  have hcovered := hgenerations.covered
  obtain ⟨hbalanced, hreported⟩ :=
    hgenerations.rolls.bounded (RollingCatalog.balanced_empty limits)
  have hpeak : state.peakCatalogEntries ≤ limits.maxCatalogEntries := by
    rw [hgenerations.peak]
    exact peakEntries_le (Nat.zero_le _) (fun generation hmem => (hreported generation hmem).2)
  have hordered : StrictlyAbove none (state.generations.flatMap CatalogGeneration.fileIds) := by
    rw [← generationFiles_map_fileId, hcovered]
    exact hsorted
  let plan : CatalogPlan :=
    { generations := state.generations
      candidateFiles := (sortedCandidates candidates).length
      candidateBytes := candidateTotal (sortedCandidates candidates)
      peakCatalogEntries := state.peakCatalogEntries }
  have hvalidated : validatePlan plan limits = .ok () := by
    obtain ⟨state', hstate', hfileCount, hbyteCount, hpeakCount⟩ :=
      @validateGenerations_of_rolls limits {} state.catalog state.generations
        hgenerations.rolls {} 0 rfl (by simpa using hgenerations.indexed) hordered
        (by rw [hcovered]; simp; omega) (by rw [hcovered]; simpa using htotal)
    rw [hcovered] at hfileCount hbyteCount
    have hfileTotal : plan.candidateFiles = state'.candidateFiles := by
      simpa [plan] using hfileCount.symm
    have hbyteTotal : plan.candidateBytes = state'.candidateBytes := by
      simpa [plan] using hbyteCount.symm
    have hpeakTotal : plan.peakCatalogEntries = state'.peakCatalogEntries :=
      hgenerations.peak.trans hpeakCount.symm
    unfold validatePlan
    rw [hlimits, ok_bind, hstate', ok_bind, ensure, if_pos hfileTotal, ok_bind, ensure,
      if_pos hbyteTotal, ok_bind, ensure, if_pos hpeakTotal]
  refine ⟨plan, state, ?_, rfl, hgenerations, ?_⟩
  · have hsort : candidates.mergeSort (fun left right => left.fileId ≤ right.fileId) =
        sortedCandidates candidates := rfl
    unfold planCatalog
    rw [hlimits, ok_bind]
    dsimp only
    rw [hsort, hvalid, ok_bind, sumCandidateBytes_eq_ok htotal, ok_bind, hopened, ok_bind,
      hclosed, ok_bind, hvalidated]
    rfl
  · exact
      { validated := hvalidated
        partition := by
          show (generationFiles state.generations).Perm candidates
          rw [hcovered]
          exact sortedCandidates_perm candidates
        ordered := hordered.1
        nonempty := by
          intro generation hmem
          obtain ⟨_, _, hadvances⟩ := hgenerations.rolls.advances generation hmem
          exact hadvances.nonempty
        bytes := by
          intro generation hmem
          obtain ⟨_, _, hadvances⟩ := hgenerations.rolls.advances generation hmem
          exact hadvances.bytes
        within := by
          intro generation hmem
          obtain ⟨_, _, hadvances⟩ := hgenerations.rolls.advances generation hmem
          rw [hadvances.bytes]
          exact hgenerations.within generation hmem
        maximal := by
          intro k generation next first hget hnext hfirst
          obtain ⟨_, _, hadvances⟩ :=
            hgenerations.rolls.advances generation (List.mem_of_getElem? hget)
          rw [hadvances.bytes]
          obtain ⟨hk, rfl⟩ := List.getElem?_eq_some_iff.mp hget
          obtain ⟨hk', rfl⟩ := List.getElem?_eq_some_iff.mp hnext
          have hcut := List.isChain_iff_getElem.mp hgenerations.cut k (by simpa using hk')
          rw [List.getElem_map, List.getElem_map] at hcut
          exact hcut first hfirst
        retained := by
          intro count
          obtain ⟨catalog, hcatalog⟩ := hgenerations.rolls.take count
          exact ⟨catalog, hcatalog,
            (hcatalog.bounded (RollingCatalog.balanced_empty limits)).1⟩
        reported := hreported
        peak := hpeak
        totals := ⟨(sortedCandidates_perm candidates).length_eq,
          candidateTotal_perm (sortedCandidates_perm candidates)⟩ }

/-- Every plan that the planner returns is one. -/
theorem catalogPlanned_of_planCatalog {plan : CatalogPlan}
    (h : planCatalog candidates limits = .ok plan) : CatalogPlanned limits candidates plan := by
  have hplan := h
  unfold planCatalog at h
  obtain ⟨_, hlimits, h⟩ := bind_eq_ok.mp h
  obtain ⟨_, hvalid, h⟩ := bind_eq_ok.mp h
  obtain ⟨_, hsum, _⟩ := bind_eq_ok.mp h
  obtain ⟨plan', _, hplan', _, _, hplanned⟩ :=
    planCatalog_eq_ok hlimits hvalid (sumCandidateBytes_lt hsum)
  rw [hplan] at hplan'
  cases hplan'
  exact hplanned

/-- `session_cdc_catalog::plan` is total on candidates with distinct IDs and non-zero sizes
that can be added up, its result is what `CatalogPlanned` says, and it does not depend on
the order of the candidates. -/
theorem planCatalog_planned (candidates : List CatalogCandidate) (limits : CatalogLimits)
    (hids : (candidates.map CatalogCandidate.fileId).Nodup)
    (hsizes : ∀ candidate ∈ candidates, candidate.logicalBytes ≠ 0)
    (htotal : candidateTotal candidates + averageChunkBytes < u64Limit)
    (htarget : limits.generationTargetBytes ≠ 0) (hmaximum : limits.maxCatalogEntries ≠ 0) :
    ∃ plan, planCatalog candidates limits = .ok plan ∧
      CatalogPlanned limits candidates plan ∧
      ∀ candidates', candidates'.Perm candidates →
        planCatalog candidates' limits = .ok plan := by
  have hperm := sortedCandidates_perm candidates
  have hlimits : limits.validate = .ok () := by
    rw [CatalogLimits.validate, ensure, if_pos htarget, ok_bind, ensure, if_pos hmaximum]
  have hvalid : validateCandidates none (sortedCandidates candidates) = .ok () := by
    refine validateCandidates_eq_ok.mpr ⟨?_, sortedCandidates_above hids⟩
    intro candidate hcandidate
    have hmem := hperm.subset hcandidate
    have hle := logicalBytes_le_candidateTotal hmem
    refine ⟨hsizes candidate hmem, ?_⟩
    unfold CatalogCandidate.Estimable
    omega
  obtain ⟨plan, _, hplan, _, _, hplanned⟩ := planCatalog_eq_ok hlimits hvalid
    (by rw [candidateTotal_perm hperm]; omega)
  refine ⟨plan, hplan, hplanned, ?_⟩
  intro candidates' hsame
  rw [← hplan]
  unfold planCatalog
  have hsorted : candidates'.mergeSort (fun left right => left.fileId ≤ right.fileId) =
      candidates.mergeSort (fun left right => left.fileId ≤ right.fileId) :=
    sortedCandidates_eq_of_perm hids hsame
  rw [hsorted]

/-- Two files, of which the second is larger than the target. -/
theorem planCatalog_planned_two :
    ∃ plan, planCatalog [⟨7, 9⟩, ⟨3, 5⟩] { generationTargetBytes := 8 } = .ok plan ∧
      CatalogPlanned { generationTargetBytes := 8 } [⟨7, 9⟩, ⟨3, 5⟩] plan := by
  obtain ⟨plan, hplan, hplanned, _⟩ := planCatalog_planned [⟨7, 9⟩, ⟨3, 5⟩]
    { generationTargetBytes := 8 } (by decide) (by simp)
    (by norm_num [candidateTotal, averageChunkBytes, u64Limit]) (by simp)
    (by norm_num [defaultMaxCatalogEntries])
  exact ⟨plan, hplan, hplanned⟩

end NetworkCopy
