import NetworkCopy.CatalogPlanning

/-!
# The basis of a generation

A session does not carry the planner's rolling catalog along.  It rebuilds, from the
publish and eviction lists of the generations, the list of files that may serve as bases
(`CatalogBasis`).  The planner evicts between two admissions, the rebuilt list is cut only
at the end of a generation, and both lead to the same list: what a generation evicts and
what remains is, in order, what was there and what it publishes (`Admitted.rolled`).
-/

namespace NetworkCopy

section

variable {limits : CatalogLimits} {catalog catalog' last : RollingCatalog}
  {generation : CatalogGeneration} {generations : List CatalogGeneration}

/-- A generation publishes the files that fit into a catalog. -/
theorem Advances.publishedFileIds_eq (h : Advances limits catalog generation catalog')
    (hids : generation.fileIds.Nodup) :
    generation.publishedFileIds =
      (generation.transferFiles.filter
        (fun file => ¬ limits.maxCatalogEntries < file.estimate)).map
          CatalogCandidate.fileId := by
  have huncataloged := h.admitted.uncataloged
  dsimp only at huncataloged
  rw [CatalogGeneration.publishedFileIds, CatalogGeneration.fileIds, List.filter_map]
  congr 1
  apply List.filter_congr
  intro file hfile
  rw [Function.comp_apply, decide_eq_decide, not_iff_not, huncataloged]
  simp only [List.mem_map, List.mem_filter, decide_eq_true_eq]
  constructor
  · rintro ⟨other, ⟨hother, hlarge⟩, hsame⟩
    rw [← List.inj_on_of_nodup_map hids hother hfile hsame]
    exact hlarge
  · intro hlarge
    exact ⟨file, ⟨hfile, hlarge⟩, rfl⟩

/-- Replaying a generation on the list of files gives the files of the next catalog. -/
theorem Advances.applyGeneration_eq (h : Advances limits catalog generation catalog')
    (hids : generation.fileIds.Nodup) :
    applyGeneration (catalog.files.map Prod.fst) generation =
      .ok (catalog'.files.map Prod.fst) := by
  have hrolled := h.admitted.rolled
  dsimp only at hrolled
  have hextended : catalog.files.map Prod.fst ++ generation.publishedFileIds =
      generation.evictedFileIds ++ catalog'.files.map Prod.fst := by
    rw [h.publishedFileIds_eq hids, hrolled]
  unfold applyGeneration
  dsimp only
  rw [hextended, ensure, if_pos ⟨by simp, List.take_left⟩, ok_bind, List.drop_left]
  rfl

/-- A file of the next catalog was in the catalog or is a file of the generation. -/
theorem Advances.mem_files (h : Advances limits catalog generation catalog') {fileId : Nat}
    (hmem : fileId ∈ catalog'.files.map Prod.fst) :
    fileId ∈ catalog.files.map Prod.fst ∨ fileId ∈ generation.fileIds := by
  have hrolled : fileId ∈ generation.evictedFileIds ++ catalog'.files.map Prod.fst :=
    List.mem_append_right _ hmem
  rw [h.admitted.rolled] at hrolled
  rcases List.mem_append.mp hrolled with hold | hnew
  · exact .inl hold
  · obtain ⟨file, hfile, rfl⟩ := List.mem_map.mp hnew
    exact .inr (List.mem_map_of_mem (List.mem_of_mem_filter hfile))

/-- Replaying a run of generations. -/
theorem Rolls.applyGenerations_eq (h : Rolls limits catalog generations last)
    (hids : ∀ generation ∈ generations, generation.fileIds.Nodup) :
    generations.foldlM applyGeneration (catalog.files.map Prod.fst) =
      .ok (last.files.map Prod.fst) := by
  induction h with
  | nil => rfl
  | cons hstep _ ih =>
    rw [List.foldlM_cons, hstep.applyGeneration_eq (hids _ List.mem_cons_self), ok_bind]
    exact ih (fun other hother => hids other (List.mem_cons_of_mem _ hother))

theorem Rolls.mem_files (h : Rolls limits catalog generations last) {fileId : Nat}
    (hmem : fileId ∈ last.files.map Prod.fst) :
    fileId ∈ catalog.files.map Prod.fst ∨
      ∃ generation ∈ generations, fileId ∈ generation.fileIds := by
  induction h with
  | nil => exact .inl hmem
  | cons hstep _ ih =>
    rcases ih hmem with hnext | ⟨generation, hgeneration, hfile⟩
    · rcases hstep.mem_files hnext with hold | hfile
      · exact .inl hold
      · exact .inr ⟨_, List.mem_cons_self, hfile⟩
    · exact .inr ⟨generation, List.mem_cons_of_mem _ hgeneration, hfile⟩

end

/-! ## The generations that the planner has finished -/

section

variable {limits : CatalogLimits}
variable {candidates : List CatalogCandidate}

theorem finishCatalogGeneration_generations {state state' : PlanningState}
    (h : finishCatalogGeneration limits state = .ok state') :
    ∃ generation, state'.generations = state.generations ++ [generation] := by
  unfold finishCatalogGeneration at h
  obtain ⟨_, h⟩ := bind_rest h
  obtain ⟨_, h⟩ := bind_rest h
  obtain ⟨_, h⟩ := bind_rest h
  cases h
  exact ⟨_, rfl⟩

/-- A turn of the loop finishes at most one generation. -/
theorem planCandidate_generations {state state' : PlanningState}
    {candidate : CatalogCandidate} (h : planCandidate limits state candidate = .ok state') :
    ∃ more, state'.generations = state.generations ++ more ∧ more.length ≤ 1 := by
  unfold planCandidate at h
  obtain ⟨_, h⟩ := bind_rest h
  obtain ⟨middle, hmiddle, h⟩ := bind_eq_ok.mp h
  obtain ⟨_, h⟩ := bind_rest h
  cases h
  split at hmiddle
  · obtain ⟨generation, hgeneration⟩ := finishCatalogGeneration_generations hmiddle
    exact ⟨[generation], hgeneration, by simp⟩
  · cases hmiddle
    exact ⟨[], by simp, by simp⟩

/-- The loop only adds generations. -/
theorem planCandidates_generations :
    ∀ {state state' : PlanningState},
      candidates.foldlM (planCandidate limits) state = .ok state' →
      ∃ more, state'.generations = state.generations ++ more := by
  induction candidates with
  | nil =>
    intro state state' h
    cases h
    exact ⟨[], by simp⟩
  | cons candidate rest ih =>
    intro state state' h
    rw [List.foldlM_cons] at h
    obtain ⟨next, hnext, h⟩ := bind_eq_ok.mp h
    obtain ⟨first, hfirst, _⟩ := planCandidate_generations hnext
    obtain ⟨more, hmore⟩ := ih h
    exact ⟨first ++ more, by rw [hmore, hfirst, List.append_assoc]⟩

/-- On its way to a number of finished generations the loop passes every smaller one. -/
theorem planCandidates_passes :
    ∀ {state : PlanningState}, candidates.foldlM (planCandidate limits) {} = .ok state →
      ∀ count ≤ state.generations.length, ∃ visited rest opened,
        candidates = visited ++ rest ∧
        visited.foldlM (planCandidate limits) {} = .ok opened ∧
        opened.generations.length = count := by
  induction candidates using List.reverseRecOn with
  | nil =>
    intro state h count hcount
    cases h
    exact ⟨[], [], {}, rfl, rfl, (Nat.le_zero.mp hcount).symm⟩
  | append_singleton visited candidate ih =>
    intro state h count hcount
    have hall := h
    rw [List.foldlM_append] at h
    obtain ⟨before, hbefore, h⟩ := bind_eq_ok.mp h
    rw [List.foldlM_cons] at h
    obtain ⟨after, hafter, h⟩ := bind_eq_ok.mp h
    cases h
    obtain ⟨more, hmore, hone⟩ := planCandidate_generations hafter
    have hlength : state.generations.length = before.generations.length + more.length := by
      rw [hmore, List.length_append]
    by_cases hreached : count ≤ before.generations.length
    · obtain ⟨early, rest, opened, hsplit, hopened, hcounted⟩ := ih hbefore count hreached
      exact ⟨early, rest ++ [candidate], opened, by rw [hsplit, List.append_assoc], hopened,
        hcounted⟩
    · exact ⟨visited ++ [candidate], [], state, by simp, hall, by omega⟩

end

/-! ## The basis -/

/-- The basis that a session, resumed behind `start` committed generations, uses for
generation `index`: `send_fresh_generation_plan` and `receive_fresh_generation_plan` begin
with `before_generation` and apply each generation that they have committed. -/
def sessionBasis (plan : CatalogPlan) (start index : Nat) : IoResult (List Nat) := do
  let basis ← basisBeforeGeneration plan start
  ((plan.generations.take index).drop start).foldlM applyGeneration basis

/-- The states of the planner's loop: the catalogs they hold, and the generations that
they have in common with the plan. -/
structure PlannerRun (limits : CatalogLimits) (candidates : List CatalogCandidate)
    (plan : CatalogPlan) : Prop where
  rolls : ∃ last, Rolls limits {} plan.generations last
  ordered : (plan.generations.flatMap CatalogGeneration.fileIds).Pairwise (· < ·)
  states : ∀ visited rest opened, sortedCandidates candidates = visited ++ rest →
    visited.foldlM (planCandidate limits) {} = .ok opened →
    Rolls limits {} opened.generations opened.catalog ∧
      opened.generations = plan.generations.take opened.generations.length
  passes : ∀ index < plan.generations.length, ∃ visited rest opened,
    sortedCandidates candidates = visited ++ rest ∧
    visited.foldlM (planCandidate limits) {} = .ok opened ∧
    opened.generations.length = index

theorem planCatalog_run {candidates : List CatalogCandidate} {limits : CatalogLimits}
    {plan : CatalogPlan} (h : planCatalog candidates limits = .ok plan) :
    PlannerRun limits candidates plan := by
  have hordered := planCatalog_sorted h
  unfold planCatalog at h
  obtain ⟨_, h⟩ := bind_rest h
  dsimp only at h
  obtain ⟨_, hvalid, h⟩ := bind_eq_ok.mp h
  obtain ⟨_, hsum, h⟩ := bind_eq_ok.mp h
  obtain ⟨looped, hlooped, h⟩ := bind_eq_ok.mp h
  obtain ⟨closed, hclosed, h⟩ := bind_eq_ok.mp h
  obtain ⟨_, h⟩ := bind_rest h
  cases h
  obtain ⟨hfiles, _⟩ := validateCandidates_eq_ok.mp hvalid
  have hestimable : ∀ file ∈ sortedCandidates candidates, file.Estimable :=
    fun file hfile => (hfiles file hfile).2
  have htotal : candidateTotal (sortedCandidates candidates) < u64Limit :=
    sumCandidateBytes_lt hsum
  have hclosing : ∃ more, closed.generations = looped.generations ++ more ∧
      more.length ≤ 1 := by
    split at hclosed
    · obtain ⟨generation, hgeneration⟩ := finishCatalogGeneration_generations hclosed
      exact ⟨[generation], hgeneration, by simp⟩
    · cases hclosed
      exact ⟨[], by simp, by simp⟩
  obtain ⟨more, hmore, hone⟩ := hclosing
  refine ⟨?_, hordered, ?_, ?_⟩
  · obtain ⟨looped', hlooped', hplanned⟩ := planned_run limits hestimable htotal
    rw [show (sortedCandidates candidates).foldlM (planCandidate limits) {} = .ok looped from
      hlooped] at hlooped'
    cases hlooped'
    obtain ⟨closed', hclosed', hgenerations⟩ := hplanned.close hestimable htotal
    rw [hclosed] at hclosed'
    cases hclosed'
    exact ⟨_, hgenerations.rolls⟩
  · intro visited rest opened hsplit hopened
    have hvisited : ∀ file ∈ visited, file.Estimable :=
      fun file hfile => hestimable file (by rw [hsplit]; simp [hfile])
    rw [hsplit, candidateTotal_append] at htotal
    obtain ⟨opened', hopened', hplanned⟩ := planned_run limits hvisited (by omega)
    rw [hopened] at hopened'
    cases hopened'
    refine ⟨hplanned.rolls, ?_⟩
    have hrest : rest.foldlM (planCandidate limits) opened = .ok looped := by
      have hall : (sortedCandidates candidates).foldlM (planCandidate limits) {} =
          .ok looped := hlooped
      rw [hsplit, List.foldlM_append, hopened, ok_bind] at hall
      exact hall
    obtain ⟨added, hadded⟩ := planCandidates_generations hrest
    show opened.generations = closed.generations.take opened.generations.length
    rw [hmore, hadded, List.append_assoc, List.take_left]
  · intro index hindex
    have hlength : closed.generations.length = looped.generations.length + more.length := by
      rw [hmore, List.length_append]
    have hindex' : index < closed.generations.length := hindex
    exact planCandidates_passes hlooped index (by omega)

end NetworkCopy
