import NetworkCopy.CatalogBasis
import NetworkCopy.GenerationPlan
import NetworkCopy.PlanAccounting

/-!
# The execution of a generation plan

The catalog of a fresh transfer is planned before the resume offer is applied, and its
generations are filled with the tasks that remain after it.  Both the resume prefix and
the execution look up the generation of a file by two binary searches, which rely on the
order of the file IDs over all generations (`catalogGenerationIndexForFileId_eq`).

`applyFreshResumePrefix_eq_ok` says which sets of completed files form a resumable prefix.
`buildFreshGenerationExecution_splits` says that the remaining tasks are split, without
loss and in order, into the generations of their files and a trailing group.
-/

namespace NetworkCopy

open List

/-- The order that the lookup of a file relies on. -/
structure CatalogPlan.Ordered (catalog : CatalogPlan) : Prop where
  ids : (catalog.generations.flatMap CatalogGeneration.fileIds).Pairwise (· < ·)
  nonempty : ∀ generation ∈ catalog.generations, generation.transferFiles ≠ []
  count : catalog.generations.length < u64Limit

variable {limits : CatalogLimits}
variable {candidates : List CatalogCandidate}

/-- The planner's catalogs have it. -/
theorem planCatalog_ordered {catalog : CatalogPlan}
    (h : planCatalog candidates limits = .ok catalog) :
    catalog.Ordered := by
  have hplanned := catalogPlanned_of_planCatalog h
  refine ⟨hplanned.ordered, hplanned.nonempty, ?_⟩
  unfold planCatalog at h
  obtain ⟨_, h⟩ := bind_rest h
  obtain ⟨_, hvalid, h⟩ := bind_eq_ok.mp h
  obtain ⟨_, hsum, _⟩ := bind_eq_ok.mp h
  obtain ⟨hfiles, _⟩ := validateCandidates_eq_ok.mp hvalid
  have hbytes := length_le_candidateTotal (fun file hfile => (hfiles file hfile).1)
  have htotal := sumCandidateBytes_lt hsum
  have hlength : (generationFiles catalog.generations).length =
      (sortedCandidates candidates).length :=
    (hplanned.partition.trans (sortedCandidates_perm candidates).symm).length_eq
  have hgenerations : catalog.generations.length ≤
      (generationFiles catalog.generations).length := by
    rw [generationFiles, length_flatMap]
    have hone := card_nsmul_le_sum
      (catalog.generations.map (fun generation => generation.transferFiles.length)) 1
      (by
        intro size hsize
        obtain ⟨generation, hgeneration, rfl⟩ := mem_map.mp hsize
        exact length_pos_of_ne_nil (hplanned.nonempty generation hgeneration))
    simpa using hone
  have hsorted : (sortedCandidates candidates).length ≤
      candidateTotal (sortedCandidates candidates) := hbytes
  have htotal' : candidateTotal (sortedCandidates candidates) < u64Limit := htotal
  omega

section

variable {catalog : CatalogPlan}
variable {generation : CatalogGeneration}

theorem CatalogPlan.Ordered.fileIds_ne_nil (h : catalog.Ordered)
    (hmem : generation ∈ catalog.generations) :
    generation.fileIds ≠ [] := by
  rw [CatalogGeneration.fileIds, Ne, map_eq_nil_iff]
  exact h.nonempty generation hmem

/-- A file of an earlier generation has a smaller ID. -/
theorem CatalogPlan.Ordered.lt_of_lt (h : catalog.Ordered) {i j : Nat}
    {left right : CatalogGeneration} (hij : i < j)
    (hleft : catalog.generations[i]? = some left)
    (hright : catalog.generations[j]? = some right) {a b : Nat} (ha : a ∈ left.fileIds)
    (hb : b ∈ right.fileIds) : a < b := by
  obtain ⟨hi, rfl⟩ := List.getElem?_eq_some_iff.mp hleft
  obtain ⟨hj, rfl⟩ := List.getElem?_eq_some_iff.mp hright
  have hids := h.ids
  rw [List.pairwise_flatMap] at hids
  exact List.pairwise_iff_getElem.mp hids.2 i j hi hj hij a ha b hb

/-- A file belongs to one generation. -/
theorem CatalogPlan.Ordered.unique (h : catalog.Ordered) {i j : Nat}
    {left right : CatalogGeneration} (hleft : catalog.generations[i]? = some left)
    (hright : catalog.generations[j]? = some right) {fileId : Nat}
    (hl : fileId ∈ left.fileIds) (hr : fileId ∈ right.fileIds) : i = j := by
  rcases Nat.lt_trichotomy i j with hlt | heq | hgt
  · have := h.lt_of_lt hlt hleft hright hl hr
    omega
  · exact heq
  · have := h.lt_of_lt hgt hright hleft hr hl
    omega

/-- No ID of a generation exceeds its last one. -/
theorem CatalogPlan.Ordered.le_getLast (h : catalog.Ordered)
    (hmem : generation ∈ catalog.generations) {fileId last : Nat}
    (hfile : fileId ∈ generation.fileIds) (hlast : generation.fileIds.getLast? = some last) :
    fileId ≤ last := by
  have hids := h.ids
  rw [pairwise_flatMap] at hids
  have hsorted := hids.1 generation hmem
  obtain ⟨init, hinit⟩ := getLast?_eq_some_iff.mp hlast
  rw [hinit] at hfile hsorted
  rcases mem_append.mp hfile with hfile | hfile
  · exact ((pairwise_append.mp hsorted).2.2 fileId hfile last (by simp)).le
  · rw [mem_singleton.mp hfile]

/-- The lookup finds the generation of a file. -/
theorem catalogGenerationIndexForFileId_eq (h : catalog.Ordered) {index : Nat}
    (hget : catalog.generations[index]? = some generation) {fileId : Nat}
    (hfile : fileId ∈ generation.fileIds) :
    catalogGenerationIndexForFileId catalog fileId = some index := by
  have hmem : generation ∈ catalog.generations := List.mem_of_getElem? hget
  obtain ⟨hindex, hgeneration⟩ := List.getElem?_eq_some_iff.mp hget
  have hsplit : catalog.generations =
      catalog.generations.take index ++ generation :: catalog.generations.drop (index + 1) := by
    rw [← hgeneration, ← List.drop_eq_getElem_cons hindex, List.take_append_drop]
  have hbefore : ∀ other ∈ catalog.generations.take index,
      other.fileIds.getLast?.any (fun last => decide (last < fileId)) = true := by
    intro other hother
    obtain ⟨position, hposition, rfl⟩ := List.mem_take_iff_getElem.mp hother
    have hother' := List.mem_of_mem_take hother
    have hlast := List.getLast?_eq_some_getLast (h.fileIds_ne_nil hother')
    have hless := h.lt_of_lt (show position < index by omega)
      (List.getElem?_eq_getElem (by omega)) hget (List.mem_of_getLast? hlast) hfile
    rw [hlast]
    simpa using hless
  have hhere : ¬ generation.fileIds.getLast?.any (fun last => decide (last < fileId)) = true := by
    have hlast := List.getLast?_eq_some_getLast (h.fileIds_ne_nil hmem)
    have hle := h.le_getLast hmem hfile hlast
    rw [hlast]
    simpa using hle
  have hlength : (catalog.generations.takeWhile (fun generation =>
      generation.fileIds.getLast?.any (fun last => decide (last < fileId)))).length =
        index := by
    rw [hsplit, List.takeWhile_append_of_pos hbefore, List.takeWhile_cons, if_neg hhere,
      List.append_nil, List.length_take]
    omega
  unfold catalogGenerationIndexForFileId
  dsimp only
  rw [hlength, hget]
  exact if_pos hfile

/-- What the lookup finds. -/
theorem catalogGenerationIndexForFileId_some {fileId index : Nat}
    (h : catalogGenerationIndexForFileId catalog fileId = some index) :
    ∃ generation, catalog.generations[index]? = some generation ∧
      fileId ∈ generation.fileIds := by
  unfold catalogGenerationIndexForFileId at h
  dsimp only at h
  split at h
  · rename_i generation hget
    split_ifs at h with hmem
    cases h
    exact ⟨generation, hget, hmem⟩
  · cases h

/-! ## The resume prefix -/

/-- The files of the first generations. -/
def CatalogPlan.committedFileIds (catalog : CatalogPlan) (count : Nat) : Finset Nat :=
  ((catalog.generations.take count).flatMap CatalogGeneration.fileIds).toFinset

theorem CatalogPlan.mem_committedFileIds {count fileId : Nat} :
    fileId ∈ catalog.committedFileIds count ↔ ∃ (index : Nat) (generation : CatalogGeneration),
      index < count ∧ catalog.generations[index]? = some generation ∧
        fileId ∈ generation.fileIds := by
  rw [CatalogPlan.committedFileIds, mem_toFinset, mem_flatMap]
  constructor
  · rintro ⟨generation, hgeneration, hfile⟩
    obtain ⟨index, hget⟩ := mem_iff_getElem?.mp hgeneration
    rw [getElem?_take] at hget
    split_ifs at hget with hlt
    exact ⟨index, generation, hlt, hget, hfile⟩
  · rintro ⟨index, generation, hlt, hget, hfile⟩
    refine ⟨generation, mem_iff_getElem?.mpr ⟨index, ?_⟩, hfile⟩
    rw [getElem?_take, if_pos hlt, hget]

theorem CatalogPlan.committedFileIds_succ {count : Nat}
    (h : catalog.generations[count]? = some generation) :
    catalog.committedFileIds (count + 1) =
      catalog.committedFileIds count ∪ generation.fileIds.toFinset := by
  unfold CatalogPlan.committedFileIds
  rw [take_add_one, h, Option.toList_some, flatMap_append, flatMap_singleton,
    toFinset_append]

/-- The lookup finds a file of the first generations below their number. -/
theorem CatalogPlan.Ordered.mem_committedFileIds (h : catalog.Ordered) {count fileId : Nat} :
    fileId ∈ catalog.committedFileIds count ↔
      ∃ index, catalogGenerationIndexForFileId catalog fileId = some index ∧ index < count := by
  rw [CatalogPlan.mem_committedFileIds]
  constructor
  · rintro ⟨index, generation, hlt, hget, hfile⟩
    exact ⟨index, catalogGenerationIndexForFileId_eq h hget hfile, hlt⟩
  · rintro ⟨index, hindex, hlt⟩
    obtain ⟨generation, hget, hfile⟩ := catalogGenerationIndexForFileId_some hindex
    exact ⟨index, generation, hlt, hget, hfile⟩

/-- The counting loop stops at the first generation that is not complete, and that one
has no completed file. -/
theorem completedPrefix_eq_ok {completedFileIds : Finset Nat} :
    ∀ {generations : List CatalogGeneration} {count result : Nat},
      (∀ generation ∈ generations, generation.transferFiles ≠ []) →
      count + generations.length < u64Limit →
      (completedPrefix completedFileIds generations count = .ok result ↔
        ∃ m, m ≤ generations.length ∧ result = count + m ∧
          (∀ generation ∈ generations.take m, ∀ fileId ∈ generation.fileIds,
            fileId ∈ completedFileIds) ∧
          ∀ generation ∈ generations[m]?, ∀ fileId ∈ generation.fileIds,
            fileId ∉ completedFileIds) := by
  intro generations
  induction generations with
  | nil =>
    intro count result _ _
    rw [completedPrefix, Except.ok.injEq]
    constructor
    · rintro rfl
      exact ⟨0, by simp⟩
    · rintro ⟨m, hm, hresult, _⟩
      simp only [length_nil, Nat.le_zero] at hm
      omega
  | cons generation rest ih =>
    intro count result hnonempty hcount
    have hfirst := hnonempty generation mem_cons_self
    have hlength : generation.fileIds.length = generation.transferFiles.length :=
      length_map _
    have hpositive := length_pos_of_ne_nil hfirst
    rw [length_cons] at hcount
    have hadd : addCounter count 1 "completed fresh-generation count overflowed" =
        .ok (count + 1) := addCounter_of_lt (by omega)
    rw [completedPrefix, ensure, if_pos hfirst, ok_bind]
    dsimp only
    by_cases hall : ∀ fileId ∈ generation.fileIds, fileId ∈ completedFileIds
    · -- A complete generation is counted, and the loop goes on behind it.
      have hfull : generation.fileIds.countP (fun fileId => fileId ∈ completedFileIds) =
          generation.transferFiles.length := by
        rw [← hlength, countP_eq_length]
        simpa using hall
      rw [if_pos hfull, hadd, ok_bind, ih (fun other hother =>
        hnonempty other (mem_cons_of_mem _ hother)) (by omega)]
      constructor
      · rintro ⟨m, hm, rfl, hbefore, hat⟩
        refine ⟨m + 1, by simpa using hm, by omega, ?_, by simpa using hat⟩
        intro other hother
        rw [take_succ_cons, mem_cons] at hother
        rcases hother with rfl | hother
        · exact hall
        · exact hbefore other hother
      · rintro ⟨m, hm, hresult, hbefore, hat⟩
        cases m with
        | zero =>
          obtain ⟨fileId, hfile⟩ := exists_mem_of_ne_nil generation.fileIds
            (by rw [← length_pos_iff, hlength]; exact hpositive)
          exact absurd (hall fileId hfile) (hat generation (by simp) fileId hfile)
        | succ m =>
          refine ⟨m, by simpa using hm, by omega, ?_, by simpa using hat⟩
          intro other hother
          exact hbefore other (by rw [take_succ_cons]; exact mem_cons_of_mem _ hother)
    · have hpartial : generation.fileIds.countP (fun fileId => fileId ∈ completedFileIds) ≠
          generation.transferFiles.length := by
        rw [← hlength, Ne, countP_eq_length]
        simpa using hall
      rw [if_neg hpartial]
      constructor
      · intro h
        obtain ⟨_, hzero, h⟩ := bind_eq_ok.mp h
        rw [ensure_eq_ok, countP_eq_zero] at hzero
        rw [pure_eq_ok, Except.ok.injEq] at h
        refine ⟨0, by simp, by omega, by simp, ?_⟩
        intro other hother
        cases hother
        simpa using hzero
      · rintro ⟨m, hm, hresult, hbefore, hat⟩
        cases m with
        | zero =>
          have hzero : generation.fileIds.countP (fun fileId => fileId ∈ completedFileIds) =
              0 := by
            rw [countP_eq_zero]
            simpa using hat generation (by simp)
          rw [hzero, ensure, if_pos rfl, ok_bind, pure_eq_ok, hresult, Nat.add_zero]
        | succ m =>
          exact absurd (hbefore generation (by simp)) hall

theorem checkCompletedFiles_eq_ok {count : Nat} :
    ∀ {fileIds : List Nat}, checkCompletedFiles catalog count fileIds = .ok () ↔
      ∀ fileId ∈ fileIds, ∃ index,
        catalogGenerationIndexForFileId catalog fileId = some index ∧ index < count := by
  intro fileIds
  induction fileIds with
  | nil => simp [checkCompletedFiles]
  | cons fileId rest ih =>
    rw [checkCompletedFiles, forall_mem_cons, ← ih]
    constructor
    · intro h
      obtain ⟨index, hindex, h⟩ := bind_eq_ok.mp h
      obtain ⟨_, hlt, h⟩ := bind_eq_ok.mp h
      exact ⟨⟨index, okOrElse_eq_ok.mp hindex, ensure_eq_ok.mp hlt⟩, h⟩
    · rintro ⟨⟨index, hindex, hlt⟩, hrest⟩
      rw [hindex, okOrElse_some, ok_bind, ensure, if_pos hlt, ok_bind, hrest]

/-- A set of completed files is accepted when it is the union of the first generations,
and the plan then records their number. -/
theorem applyFreshResumePrefix_eq_ok {plan plan' : FreshGenerationPlan}
    (hordered : plan.catalog.Ordered) (hfresh : plan.completedGenerationCount = 0)
    {completedFileIds : Finset Nat} :
    applyFreshResumePrefix plan completedFileIds = .ok plan' ↔
      ∃ k, k ≤ plan.catalog.generations.length ∧
        completedFileIds = plan.catalog.committedFileIds k ∧
        plan' = { plan with completedGenerationCount := k } := by
  have hloop := fun result => @completedPrefix_eq_ok completedFileIds
    plan.catalog.generations 0 result hordered.nonempty (by simpa using hordered.count)
  unfold applyFreshResumePrefix
  rw [ensure, if_pos hfresh, ok_bind]
  constructor
  · intro h
    obtain ⟨count, hprefixed, h⟩ := bind_eq_ok.mp h
    obtain ⟨_, hfiles, h⟩ := bind_eq_ok.mp h
    rw [pure_eq_ok, Except.ok.injEq] at h
    obtain ⟨m, hm, rfl, hbefore, _⟩ := (hloop count).mp hprefixed
    rw [Nat.zero_add] at hfiles h
    rw [checkCompletedFiles_eq_ok] at hfiles
    refine ⟨m, hm, ?_, h.symm⟩
    ext fileId
    constructor
    · intro hfile
      exact hordered.mem_committedFileIds.mpr (hfiles fileId (by simpa using hfile))
    · intro hfile
      rw [CatalogPlan.committedFileIds, mem_toFinset, mem_flatMap] at hfile
      obtain ⟨generation, hgeneration, hfile⟩ := hfile
      exact hbefore generation hgeneration fileId hfile
  · rintro ⟨k, hk, rfl, rfl⟩
    have hprefixed : completedPrefix (plan.catalog.committedFileIds k)
        plan.catalog.generations 0 = .ok k := by
      refine (hloop k).mpr ⟨k, hk, by omega, ?_, ?_⟩
      · intro generation hgeneration fileId hfile
        rw [CatalogPlan.committedFileIds, mem_toFinset, mem_flatMap]
        exact ⟨generation, hgeneration, hfile⟩
      · intro generation hgeneration fileId hfile hcommitted
        obtain ⟨index, other, hlt, hget, hother⟩ :=
          CatalogPlan.mem_committedFileIds.mp hcommitted
        have hsame := hordered.unique hget hgeneration hother hfile
        omega
    have hfiles : checkCompletedFiles plan.catalog k
        (plan.catalog.committedFileIds k).sort = .ok () := by
      rw [checkCompletedFiles_eq_ok]
      intro fileId hfile
      exact hordered.mem_committedFileIds.mp (by simpa using hfile)
    rw [hprefixed, ok_bind, hfiles, ok_bind]
    rfl

end

/-! ## The tasks that remain -/

variable {manifest : Manifest} {offered : Finset ResumeStripe} {unchangedFileIds : Finset Nat}

/-- A rewrite that keeps whole-file and stripe tasks as they are. -/
theorem mem_rewriteLanes {σ : Type}
    {visit : σ → TransferTask → IoResult (σ × Option TransferTask)} {P : Nat → Prop}
    (hvisit : ∀ state task next kept, visit state task = .ok (next, some kept) →
      ∀ fileId ∈ catalogTaskFileId kept, kept = task ∧ P fileId)
    {lanes lanes' : List (List TransferTask)} {state state' : σ}
    (h : rewriteLanes visit lanes state = .ok (state', lanes')) :
    ∀ task ∈ lanes'.flatten, ∀ fileId ∈ catalogTaskFileId task,
      task ∈ lanes.flatten ∧ P fileId := by
  refine rewriteLane_induction (motive := fun tasks _ _ kept =>
    ∀ task ∈ kept, ∀ fileId ∈ catalogTaskFileId task, task ∈ tasks ∧ P fileId) ?_ ?_
    (rewriteLanes_flatten h).1
  · intro _ task htask
    cases htask
  · intro head rest state next state' kept remaining hhead ih task htask fileId hfile
    rcases mem_append.mp htask with htask | htask
    · rw [Option.mem_toList] at htask
      cases htask
      obtain ⟨rfl, hP⟩ := hvisit state head next task hhead fileId hfile
      exact ⟨mem_cons_self, hP⟩
    · obtain ⟨hmem, hP⟩ := ih task htask fileId hfile
      exact ⟨mem_cons_of_mem _ hmem, hP⟩

/-- What is left of a pack is a pack. -/
theorem catalogTaskFileId_of_rebuildTinyPack {removed : Finset Nat} {fileIds : List Nat}
    {kept : TransferTask} (h : rebuildTinyPack manifest removed fileIds = .ok (some kept)) :
    catalogTaskFileId kept = none := by
  unfold rebuildTinyPack at h
  dsimp only at h
  split_ifs at h
  · cases h
  · obtain ⟨summary, _, h⟩ := bind_eq_ok.mp h
    cases h
    rfl

/-- The resume offer leaves whole-file and stripe tasks as they are and removes those of
unchanged files. -/
theorem visitOffered_keeps {application next : ResumeApplication} {task kept : TransferTask}
    (h : visitOffered manifest offered unchangedFileIds application task =
      .ok (next, some kept)) :
    ∀ fileId ∈ catalogTaskFileId kept, kept = task ∧ fileId ∉ unchangedFileIds := by
  intro fileId hfile
  cases task with
  | wholeFile id =>
    rw [visitOffered] at h
    split_ifs at h with hunchanged
    · cases h
    · cases h
      cases hfile
      exact ⟨rfl, hunchanged⟩
  | tinyPack fileIds totalBytes =>
    rw [visitOffered] at h
    obtain ⟨rebuilt, hrebuilt, h⟩ := bind_eq_ok.mp h
    cases h
    rw [catalogTaskFileId_of_rebuildTinyPack hrebuilt] at hfile
    cases hfile
  | stripe id offset length =>
    rw [visitOffered] at h
    by_cases hunchanged : id ∈ unchangedFileIds
    · rw [if_pos hunchanged] at h
      cases h
    · rw [if_neg hunchanged] at h
      obtain ⟨stripe, _, h⟩ := bind_eq_ok.mp h
      by_cases hoffered : stripe ∈ offered
      · rw [if_pos hoffered] at h
        obtain ⟨_, h⟩ := bind_rest h
        obtain ⟨_, h⟩ := bind_rest h
        obtain ⟨_, h⟩ := bind_rest h
        cases h
      · rw [if_neg hoffered] at h
        cases h
        cases hfile
        exact ⟨rfl, hunchanged⟩

/-- The tasks that a resume offer leaves. -/
theorem applyResumeOffer_keeps {plan plan' : TransferPlan} {application : ResumeApplication}
    (h : applyResumeOffer plan manifest offered unchangedFileIds = .ok (plan', application)) :
    ∀ task ∈ plan'.tasks, ∀ fileId ∈ catalogTaskFileId task,
      task ∈ plan.tasks ∧ fileId ∉ unchangedFileIds := by
  unfold applyResumeOffer at h
  obtain ⟨_, h⟩ := bind_rest h
  obtain ⟨_, h⟩ := bind_rest h
  split at h
  · cases h
  · obtain ⟨credited, _, h⟩ := bind_eq_ok.mp h
    obtain ⟨rewritten, hrewritten, h⟩ := bind_eq_ok.mp h
    dsimp only at h
    obtain ⟨_, h⟩ := bind_rest h
    obtain ⟨_, h⟩ := bind_rest h
    cases h
    exact mem_rewriteLanes (fun _ _ _ _ hvisit => visitOffered_keeps hvisit) hrewritten

/-- Every whole-file and stripe task of the plan has its file among the candidates. -/
theorem mem_collectFreshCatalogCandidates {plan : TransferPlan}
    (h : collectFreshCatalogCandidates manifest plan = .ok candidates) :
    ∀ task ∈ plan.tasks, ∀ fileId ∈ catalogTaskFileId task,
      fileId ∈ candidates.map CatalogCandidate.fileId := by
  intro task htask fileId hfile
  unfold collectFreshCatalogCandidates at h
  obtain ⟨collected, hcollected, h⟩ := bind_eq_ok.mp h
  have hmem : some fileId ∈ collected := by
    obtain ⟨found, hfound, hcheck⟩ := exists_of_mapM_eq_ok hcollected htask
    unfold catalogCandidateId at hcheck
    rw [hfile] at hcheck
    obtain ⟨entry, _, hcheck⟩ := bind_eq_ok.mp hcheck
    dsimp only at hcheck
    split at hcheck <;>
    · obtain ⟨_, hcheck⟩ := bind_rest hcheck
      cases hcheck
      exact hfound
  have hsorted : fileId ∈ (collected.filterMap id).toFinset.sort := by
    rw [Finset.mem_sort, mem_toFinset, mem_filterMap]
    exact ⟨some fileId, hmem, rfl⟩
  obtain ⟨candidate, hcandidate, hnew⟩ := exists_of_mapM_eq_ok h hsorted
  obtain ⟨entry, _, hnew⟩ := bind_eq_ok.mp hnew
  rw [mem_map]
  obtain ⟨_, hnew⟩ := bind_rest hnew
  cases hnew
  exact ⟨_, hcandidate, rfl⟩

/-! ## The split -/

/-- Elements sorted into buckets, in order within each bucket. -/
theorem perm_buckets {α : Type} (bucket : α → Option Nat) (items : List α) :
    ∀ count, ((range count).flatMap
        (fun index => items.filter (fun item => bucket item = some index)) ++
      items.filter (fun item => ∀ index < count, bucket item ≠ some index)).Perm items := by
  intro count
  induction count with
  | zero => simp
  | succ count ih =>
    have hsplit := filter_append_perm (fun item => decide (bucket item = some count))
      (items.filter (fun item => ∀ index < count, bucket item ≠ some index))
    have hbucket : (items.filter (fun item => ∀ index < count, bucket item ≠ some index)).filter
        (fun item => decide (bucket item = some count)) =
          items.filter (fun item => bucket item = some count) := by
      rw [filter_filter]
      apply filter_congr
      intro item _
      rw [← Bool.decide_and, decide_eq_decide]
      constructor
      · exact fun h => h.1
      · intro h
        refine ⟨h, ?_⟩
        intro index hindex hsame
        rw [h, Option.some.injEq] at hsame
        omega
    have hrest : (items.filter (fun item => ∀ index < count, bucket item ≠ some index)).filter
        (fun item => !decide (bucket item = some count)) =
          items.filter (fun item => ∀ index < count + 1, bucket item ≠ some index) := by
      rw [filter_filter]
      apply filter_congr
      intro item _
      rw [← decide_not, ← Bool.decide_and, decide_eq_decide, Nat.forall_lt_succ_right]
      exact and_comm
    rw [hbucket, hrest] at hsplit
    rw [range_succ, flatMap_append, flatMap_singleton, append_assoc]
    exact (Perm.append_left _ hsplit).trans ih

/-- Whether a task transfers a file of a generation. -/
def CatalogGeneration.transfers (generation : CatalogGeneration) (task : TransferTask) : Bool :=
  (catalogTaskFileId task).any (fun fileId => decide (fileId ∈ generation.fileIds))

/-- The split of the remaining tasks: every generation has, lane by lane and in their
order, the tasks of its files, and the trailing group has the packs.  Each task is in
exactly one of these groups, and the completed generations have none. -/
structure Splits (plan : FreshGenerationPlan) (transferPlan : TransferPlan)
    (execution : FreshGenerationExecution) : Prop where
  generations : execution.generationLanes = plan.catalog.generations.map (fun generation =>
    transferPlan.lanes.map (List.filter generation.transfers))
  trailing : execution.trailingLanes = transferPlan.lanes.map
    (List.filter (fun task => decide (catalogTaskFileId task = none)))
  unique : ∀ task ∈ transferPlan.tasks, ∀ fileId ∈ catalogTaskFileId task,
    ∃! index : Nat, ∃ generation : CatalogGeneration, plan.catalog.generations[index]? = some generation ∧
      fileId ∈ generation.fileIds
  complete : (execution.generationLanes.flatten.flatten ++
    execution.trailingLanes.flatten).Perm transferPlan.tasks
  committed : ∀ lanes ∈ execution.generationLanes.take plan.completedGenerationCount,
    ∀ lane ∈ lanes, lane = []

section

variable {plan : FreshGenerationPlan} {transferPlan : TransferPlan}

/-- Where a task goes. -/
def taskPlace (catalog : CatalogPlan) (task : TransferTask) : Option Nat :=
  (catalogTaskFileId task).bind (catalogGenerationIndexForFileId catalog)

/-- A task whose file is in the catalog has a place. -/
theorem assignGeneration_of_mem {catalog : CatalogPlan} {task : TransferTask}
    (h : ∀ fileId ∈ catalogTaskFileId task,
      ∃ index, catalogGenerationIndexForFileId catalog fileId = some index) :
    assignGeneration catalog task = .ok (taskPlace catalog task, task) := by
  unfold assignGeneration taskPlace
  cases hfile : catalogTaskFileId task with
  | none => rfl
  | some fileId =>
    obtain ⟨index, hindex⟩ := h fileId hfile
    simp [hindex]

theorem tasksAssigned_map (catalog : CatalogPlan) (place : Option Nat)
    (lane : List TransferTask) :
    tasksAssigned place (lane.map (fun task => (taskPlace catalog task, task))) =
      lane.filter (fun task => decide (taskPlace catalog task = place)) := by
  rw [tasksAssigned, filter_map, map_map]
  simp [Function.comp_def]

/-- A task belongs to the generation that has its file. -/
theorem taskPlace_eq_some {catalog : CatalogPlan} (hordered : catalog.Ordered) {index : Nat}
    {generation : CatalogGeneration} (hget : catalog.generations[index]? = some generation)
    (task : TransferTask) :
    taskPlace catalog task = some index ↔ generation.transfers task = true := by
  unfold taskPlace CatalogGeneration.transfers
  cases hfile : catalogTaskFileId task with
  | none => simp
  | some fileId =>
    rw [Option.bind_some, Option.any_some, decide_eq_true_iff]
    constructor
    · intro h
      obtain ⟨other, hother, hmem⟩ := catalogGenerationIndexForFileId_some h
      rw [hget] at hother
      cases hother
      exact hmem
    · exact catalogGenerationIndexForFileId_eq hordered hget

/-- The tasks of a generation pass the check. -/
theorem checkGenerationTasks_of_transfers {generation : CatalogGeneration}
    {tasks : List TransferTask} (h : ∀ task ∈ tasks, generation.transfers task = true) :
    checkGenerationTasks generation tasks = .ok () := by
  induction tasks with
  | nil => rfl
  | cons task rest ih =>
    have hfirst := h task mem_cons_self
    unfold CatalogGeneration.transfers at hfirst
    rw [checkGenerationTasks]
    cases hfile : catalogTaskFileId task with
    | none => simp [hfile] at hfirst
    | some fileId =>
      rw [hfile, Option.any_some, decide_eq_true_iff] at hfirst
      rw [okOrElse_some, ok_bind, ensure, if_pos hfirst, ok_bind]
      exact ih (fun other hother => h other (mem_cons_of_mem _ hother))

/-- The generations pass their checks when each has the tasks of its files and the
completed ones have none. -/
theorem validateGenerationLanes_of_transfers {completed laneCount : Nat}
    {lanesOf : CatalogGeneration → List (List TransferTask)} :
    ∀ {generations : List CatalogGeneration} {start : Nat},
      (∀ generation ∈ generations, (lanesOf generation).length = laneCount ∧
        ∀ task ∈ (lanesOf generation).flatten, generation.transfers task = true) →
      (∀ (index : Nat) (generation : CatalogGeneration), generations[index]? = some generation →
        start + index < completed → ∀ lane ∈ lanesOf generation, lane = []) →
      validateGenerationLanes completed laneCount start
        (generations.zip (generations.map lanesOf)) = .ok () := by
  intro generations
  induction generations with
  | nil =>
    intro start _ _
    rfl
  | cons generation rest ih =>
    intro start htasks hempty
    obtain ⟨hlength, htransfers⟩ := htasks generation mem_cons_self
    have hcompleted : ¬ (start < completed ∧ ∃ lane ∈ lanesOf generation, lane ≠ []) := by
      rintro ⟨hlt, lane, hlane, hne⟩
      exact hne (hempty 0 generation rfl (by omega) lane hlane)
    rw [map_cons, zip_cons_cons, validateGenerationLanes, ensure, if_pos hlength,
      ok_bind, ensure, if_pos hcompleted, ok_bind,
      checkGenerationTasks_of_transfers htransfers, ok_bind]
    apply ih
    · intro other hother
      exact htasks other (mem_cons_of_mem _ hother)
    · intro index other hother hlt
      exact hempty (index + 1) other (by simpa using hother) (by omega)

/-- The tasks of all lanes that satisfy a condition. -/
theorem flatten_map_filter (lanes : List (List TransferTask)) (p : TransferTask → Bool) :
    (lanes.map (List.filter p)).flatten = lanes.flatten.filter p :=
  filter_flatten.symm

/-- A list built over the positions of another one. -/
theorem map_range_length {α β : Type} {items : List α} {atIndex : Nat → β} {f : α → β}
    (h : ∀ (index : Nat) (item : α), items[index]? = some item → atIndex index = f item) :
    (range items.length).map atIndex = items.map f := by
  apply ext_getElem?
  intro index
  rw [getElem?_map, getElem?_map]
  by_cases hlt : index < items.length
  · rw [getElem?_range hlt, getElem?_eq_getElem hlt, Option.map_some, Option.map_some,
      h index items[index] (getElem?_eq_getElem hlt)]
  · rw [getElem?_eq_none (by simpa using hlt), getElem?_eq_none (by simpa using hlt)]
    rfl

/-- A generation's tasks of one lane. -/
theorem filter_taskPlace_eq_some {catalog : CatalogPlan} (hordered : catalog.Ordered)
    {index : Nat} {generation : CatalogGeneration}
    (hget : catalog.generations[index]? = some generation) (lane : List TransferTask) :
    lane.filter (fun task => decide (taskPlace catalog task = some index)) =
      lane.filter generation.transfers := by
  apply filter_congr
  intro task _
  rw [Bool.eq_iff_iff, decide_eq_true_iff]
  exact taskPlace_eq_some hordered hget task

/-- A task without a file has no place, and every other task of the catalog has one. -/
theorem taskPlace_eq_none {catalog : CatalogPlan} {task : TransferTask}
    (h : ∀ fileId ∈ catalogTaskFileId task,
      ∃ index, catalogGenerationIndexForFileId catalog fileId = some index) :
    taskPlace catalog task = none ↔ catalogTaskFileId task = none := by
  unfold taskPlace
  cases hfile : catalogTaskFileId task with
  | none => simp
  | some fileId =>
    obtain ⟨index, hindex⟩ := h fileId hfile
    simp [hindex]

/-- The groups together have every task once. -/
theorem groups_perm (hordered : plan.catalog.Ordered)
    (hplace : ∀ task ∈ transferPlan.tasks, ∀ fileId ∈ catalogTaskFileId task,
      ∃ index, catalogGenerationIndexForFileId plan.catalog fileId = some index) :
    ((plan.catalog.generations.map (fun generation =>
      transferPlan.lanes.map (List.filter generation.transfers))).flatten.flatten ++
      (transferPlan.lanes.map
        (List.filter (fun task => decide (catalogTaskFileId task = none)))).flatten).Perm
      transferPlan.tasks := by
  have hbuckets := perm_buckets (taskPlace plan.catalog) transferPlan.tasks
    plan.catalog.generations.length
  have hgenerations : (plan.catalog.generations.map (fun generation =>
      transferPlan.lanes.map (List.filter generation.transfers))).flatten.flatten =
      (List.range plan.catalog.generations.length).flatMap (fun index =>
        transferPlan.tasks.filter
          (fun task => decide (taskPlace plan.catalog task = some index))) := by
    rw [List.flatMap_def, map_range_length (fun index generation hget =>
      filter_taskPlace_eq_some hordered hget transferPlan.tasks), List.flatten_flatten,
      List.map_map]
    congr 1
    apply List.map_congr_left
    intro generation _
    exact flatten_map_filter transferPlan.lanes generation.transfers
  have htrailing : transferPlan.tasks.filter
        (fun task => decide (catalogTaskFileId task = none)) =
      transferPlan.tasks.filter (fun task => decide (∀ index <
        plan.catalog.generations.length, taskPlace plan.catalog task ≠ some index)) := by
    apply List.filter_congr
    intro task htask
    rw [decide_eq_decide, ← taskPlace_eq_none (hplace task htask)]
    constructor
    · intro hnone index _ hsome
      rw [hnone] at hsome
      cases hsome
    · intro hall
      cases hfound : taskPlace plan.catalog task with
      | none => rfl
      | some index =>
        obtain ⟨fileId, _, hindex⟩ := Option.bind_eq_some_iff.mp hfound
        obtain ⟨generation, hget, _⟩ := catalogGenerationIndexForFileId_some hindex
        exact absurd hfound (hall index (List.getElem?_eq_some_iff.mp hget).1)
  rw [hgenerations, flatten_map_filter]
  rw [← htrailing] at hbuckets
  exact hbuckets

/-- The execution is built when every remaining task is about a file of the catalog that
no completed generation has. -/
theorem buildFreshGenerationExecution_of_ordered (hordered : plan.catalog.Ordered)
    (hcount : plan.completedGenerationCount ≤ plan.catalog.generations.length)
    (hcatalog : ∀ task ∈ transferPlan.tasks, ∀ fileId ∈ catalogTaskFileId task,
      fileId ∈ plan.catalog.committedFileIds plan.catalog.generations.length)
    (hremaining : ∀ task ∈ transferPlan.tasks, ∀ fileId ∈ catalogTaskFileId task,
      fileId ∉ plan.catalog.committedFileIds plan.completedGenerationCount) :
    ∃ execution, buildFreshGenerationExecution plan transferPlan = .ok execution ∧
      Splits plan transferPlan execution := by
  have hplace : ∀ task ∈ transferPlan.tasks, ∀ fileId ∈ catalogTaskFileId task,
      ∃ index, catalogGenerationIndexForFileId plan.catalog fileId = some index := by
    intro task htask fileId hfile
    obtain ⟨index, hindex, _⟩ :=
      hordered.mem_committedFileIds.mp (hcatalog task htask fileId hfile)
    exact ⟨index, hindex⟩
  have hassigned : transferPlan.lanes.mapM
      (fun lane => lane.mapM (assignGeneration plan.catalog)) =
        .ok (transferPlan.lanes.map
          (List.map (fun task => (taskPlace plan.catalog task, task)))) := by
    apply mapM_of_forall
    intro lane hlane
    apply mapM_of_forall
    intro task htask
    exact assignGeneration_of_mem (hplace task (mem_flatten.mpr ⟨lane, hlane, htask⟩))
  have hgenerations : (range plan.catalog.generations.length).map (fun index =>
      (transferPlan.lanes.map (List.map (fun task => (taskPlace plan.catalog task, task)))).map
        (tasksAssigned (some index))) =
      plan.catalog.generations.map (fun generation =>
        transferPlan.lanes.map (List.filter generation.transfers)) := by
    apply map_range_length
    intro index generation hget
    rw [map_map]
    apply map_congr_left
    intro lane _
    rw [Function.comp_apply, tasksAssigned_map, filter_taskPlace_eq_some hordered hget]
  have htrailing : (transferPlan.lanes.map
      (List.map (fun task => (taskPlace plan.catalog task, task)))).map (tasksAssigned none) =
      transferPlan.lanes.map
        (List.filter (fun task => decide (catalogTaskFileId task = none))) := by
    rw [map_map]
    apply map_congr_left
    intro lane hlane
    rw [Function.comp_apply, tasksAssigned_map]
    apply filter_congr
    intro task htask
    rw [decide_eq_decide]
    exact taskPlace_eq_none (hplace task (mem_flatten.mpr ⟨lane, hlane, htask⟩))
  have hcomplete := groups_perm hordered hplace
  have hempty : ∀ (index : Nat) (generation : CatalogGeneration),
      plan.catalog.generations[index]? = some generation →
      0 + index < plan.completedGenerationCount →
      ∀ lane ∈ transferPlan.lanes.map (List.filter generation.transfers), lane = [] := by
    intro index generation hget hlt lane hlane
    obtain ⟨whole, hwhole, rfl⟩ := mem_map.mp hlane
    rw [filter_eq_nil_iff]
    intro task htask htransfers
    unfold CatalogGeneration.transfers at htransfers
    cases hfile : catalogTaskFileId task with
    | none => simp [hfile] at htransfers
    | some fileId =>
      rw [hfile, Option.any_some, decide_eq_true_iff] at htransfers
      apply hremaining task (mem_flatten.mpr ⟨whole, hwhole, htask⟩) fileId hfile
      exact CatalogPlan.mem_committedFileIds.mpr ⟨index, generation, by omega, hget, htransfers⟩
  refine ⟨⟨_, _⟩, ?_, rfl, rfl, ?_, hcomplete, ?_⟩
  · unfold buildFreshGenerationExecution validateFreshGenerationExecution
    rw [hassigned, ok_bind]
    dsimp only
    rw [hgenerations, htrailing, ensure, if_pos hcount, ok_bind, ensure,
      if_pos (length_map _), ok_bind, ensure, if_pos (length_map _), ok_bind,
      validateGenerationLanes_of_transfers ?_ hempty, ok_bind, ensure, if_pos ?_, ok_bind,
      ensure, if_pos ?_, ok_bind, pure_eq_ok]
    · rw [← length_append]
      exact hcomplete.length_eq
    · intro task htask
      rw [flatten_map_filter, mem_filter] at htask
      simpa using htask.2
    · intro generation _
      refine ⟨length_map _, ?_⟩
      intro task htask
      rw [flatten_map_filter, mem_filter] at htask
      exact htask.2
  · intro task htask fileId hfile
    obtain ⟨index, hindex⟩ := hplace task htask fileId hfile
    obtain ⟨generation, hget, hmem⟩ := catalogGenerationIndexForFileId_some hindex
    refine ⟨index, ⟨generation, hget, hmem⟩, ?_⟩
    rintro other ⟨otherGeneration, hother, hotherMem⟩
    exact hordered.unique hother hget hotherMem hmem
  · intro lanes hlanes lane hlane
    obtain ⟨index, hget⟩ := mem_iff_getElem?.mp hlanes
    rw [getElem?_take] at hget
    split_ifs at hget with hlt
    rw [getElem?_map, Option.map_eq_some_iff] at hget
    obtain ⟨generation, hgeneration, rfl⟩ := hget
    exact hempty index generation hgeneration (by omega) lane hlane

end

/-! ## From the manifest to the execution -/

/-- The steps of a fresh session, on either side, from the manifest to the generation plan
and the tasks that remain.  No large file is negotiated in a fresh session, and the
catalog is planned before the resume offer is applied. -/
def prepareFreshTransfer (sort : UnstableSort) (manifest : Manifest) (dataStreamCount : Nat)
    (reusePlan : ExactReusePlan) (limits : CatalogLimits) (offered : Finset ResumeStripe)
    (unchangedFileIds : Finset Nat) (seekPenalty : Bool) :
    IoResult (FreshGenerationPlan × TransferPlan) := do
  let transferPlan ← buildTransferPlan sort manifest dataStreamCount
  let transferPlan ← applyLargeCdcPreflight transferPlan manifest {}
  let reused ← applyExactReusePlan transferPlan manifest reusePlan true
  let generationPlan ← buildFreshGenerationPlanWithLimits manifest reused.1 limits
  let generationPlan ← applyFreshResumePrefix generationPlan unchangedFileIds
  let resumed ← applyResumeOffer reused.1 manifest offered unchangedFileIds
  return (generationPlan, if seekPenalty then serializeTransferPlan resumed.1 else resumed.1)

/-- A generation plan that was built has no completed generation, and its catalog has
every file that a whole-file or stripe task transfers. -/
theorem buildFreshGenerationPlanWithLimits_eq_ok {transferPlan : TransferPlan}
    {plan : FreshGenerationPlan}
    (h : buildFreshGenerationPlanWithLimits manifest transferPlan limits = .ok plan) :
    plan.catalog.Ordered ∧ plan.completedGenerationCount = 0 ∧
      ∀ task ∈ transferPlan.tasks, ∀ fileId ∈ catalogTaskFileId task,
        fileId ∈ plan.catalog.committedFileIds plan.catalog.generations.length := by
  unfold buildFreshGenerationPlanWithLimits at h
  obtain ⟨candidates, hcandidates, h⟩ := bind_eq_ok.mp h
  obtain ⟨catalog, hcatalog, h⟩ := bind_eq_ok.mp h
  obtain ⟨_, h⟩ := bind_rest h
  cases h
  refine ⟨planCatalog_ordered hcatalog, rfl, ?_⟩
  intro task htask fileId hfile
  have hmem := mem_collectFreshCatalogCandidates hcandidates task htask fileId hfile
  have hpartition := (catalogPlanned_of_planCatalog hcatalog).partition.map
    CatalogCandidate.fileId
  rw [generationFiles_map_fileId] at hpartition
  rw [CatalogPlan.committedFileIds, take_length, mem_toFinset]
  exact hpartition.symm.subset hmem

/-- What the preparation leaves for the execution. -/
theorem prepareFreshTransfer_eq_ok {sort : UnstableSort} {dataStreamCount : Nat}
    {reusePlan : ExactReusePlan} {seekPenalty : Bool} {plan : FreshGenerationPlan}
    {remaining : TransferPlan}
    (h : prepareFreshTransfer sort manifest dataStreamCount reusePlan limits offered
      unchangedFileIds seekPenalty = .ok (plan, remaining)) :
    plan.catalog.Ordered ∧
      plan.completedGenerationCount ≤ plan.catalog.generations.length ∧
      unchangedFileIds = plan.catalog.committedFileIds plan.completedGenerationCount ∧
      ∀ task ∈ remaining.tasks, ∀ fileId ∈ catalogTaskFileId task,
        fileId ∈ plan.catalog.committedFileIds plan.catalog.generations.length ∧
          fileId ∉ unchangedFileIds := by
  unfold prepareFreshTransfer at h
  obtain ⟨_, h⟩ := bind_rest h
  obtain ⟨_, h⟩ := bind_rest h
  obtain ⟨⟨reused, _⟩, _, h⟩ := bind_eq_ok.mp h
  obtain ⟨built, hbuilt, h⟩ := bind_eq_ok.mp h
  obtain ⟨prefixed, hprefixed, h⟩ := bind_eq_ok.mp h
  obtain ⟨⟨resumed, application⟩, hresumed, h⟩ := bind_eq_ok.mp h
  obtain ⟨hordered, hzero, hcatalog⟩ := buildFreshGenerationPlanWithLimits_eq_ok hbuilt
  obtain ⟨k, hk, hunchanged, rfl⟩ :=
    (applyFreshResumePrefix_eq_ok hordered hzero).mp hprefixed
  rw [pure_eq_ok, Except.ok.injEq, Prod.mk.injEq] at h
  obtain ⟨rfl, rfl⟩ := h
  refine ⟨hordered, hk, hunchanged, ?_⟩
  intro task htask fileId hfile
  have htask' : task ∈ resumed.tasks := by
    dsimp only at htask
    split_ifs at htask
    · rwa [serializeTransferPlan_tasks] at htask
    · exact htask
  obtain ⟨hreused, hnot⟩ := applyResumeOffer_keeps hresumed task htask' fileId hfile
  exact ⟨hcatalog task hreused fileId hfile, hnot⟩

/-- The remaining tasks have every unit of the manifest at most once. -/
theorem prepareFreshTransfer_units {sort : UnstableSort} {dataStreamCount : Nat}
    {reusePlan : ExactReusePlan} {seekPenalty : Bool} {plan : FreshGenerationPlan}
    {remaining : TransferPlan} (hclassified : manifest.Classified)
    (hstreams : 0 < dataStreamCount ∧ dataStreamCount ≤ 32)
    (h : prepareFreshTransfer sort manifest dataStreamCount reusePlan limits offered
      unchangedFileIds seekPenalty = .ok (plan, remaining)) : remaining.units.Nodup := by
  unfold prepareFreshTransfer at h
  obtain ⟨built, hbuilt, h⟩ := bind_eq_ok.mp h
  obtain ⟨preflight, hpreflight, h⟩ := bind_eq_ok.mp h
  obtain ⟨⟨reused, _⟩, hreused, h⟩ := bind_eq_ok.mp h
  obtain ⟨_, h⟩ := bind_rest h
  obtain ⟨_, h⟩ := bind_rest h
  obtain ⟨⟨resumed, _⟩, hresumed, h⟩ := bind_eq_ok.mp h
  rw [pure_eq_ok, Except.ok.injEq, Prod.mk.injEq] at h
  have hpacks := (builtPlan_packs hclassified hstreams.1 hstreams.2 hbuilt).2
  have hfirst := (plan_units_perm hclassified hstreams.1 hstreams.2 hbuilt).nodup_iff.mpr
    (nodup_manifestUnits manifest dataStreamCount)
  have hresumedUnits : resumed.units.Nodup := by
    rw [(applyResumeOffer_eq_ok hresumed).1.units, (applyExactReusePlan_eq_ok hreused).1.units,
      (applyLargeCdcPreflight_eq_ok hpacks hpreflight).1.units]
    exact ((hfirst.filter _).filter _).filter _
  rw [← h.2]
  split_ifs
  · unfold TransferPlan.units
    rw [serializeTransferPlan_tasks]
    exact hresumedUnits
  · exact hresumedUnits

/-- The execution of a prepared fresh transfer can be built, and it splits the remaining
tasks. -/
theorem buildFreshGenerationExecution_splits (sort : UnstableSort) (manifest : Manifest)
    (dataStreamCount : Nat) (reusePlan : ExactReusePlan) (limits : CatalogLimits)
    (offered : Finset ResumeStripe) (unchangedFileIds : Finset Nat) (seekPenalty : Bool)
    (plan : FreshGenerationPlan) (remaining : TransferPlan)
    (h : prepareFreshTransfer sort manifest dataStreamCount reusePlan limits offered
      unchangedFileIds seekPenalty = .ok (plan, remaining)) :
    ∃ execution, buildFreshGenerationExecution plan remaining = .ok execution ∧
      Splits plan remaining execution := by
  obtain ⟨hordered, hcount, hunchanged, htasks⟩ := prepareFreshTransfer_eq_ok h
  apply buildFreshGenerationExecution_of_ordered hordered hcount
  · intro task htask fileId hfile
    exact (htasks task htask fileId hfile).1
  · intro task htask fileId hfile
    rw [← hunchanged]
    exact (htasks task htask fileId hfile).2

/-- A file that is sent as a whole. -/
def mediumEntry (name : String) : ManifestEntry where
  relativePath := utf16 name
  fileSize := 300000
  lastWriteTime := 1
  fileAttributes := 0x20
  fileClass := .medium
  fileSize_lt := medium_lt_u64Limit
  lastWriteTime_lt := one_lt_u64Limit

/-- A manifest with one such file and a tiny one. -/
def mixed : Manifest := [mediumEntry "medium", twin "tiny"]

/-- Their plan on one lane. -/
def mixedPlan : TransferPlan := { lanes := [[.wholeFile 0, .tinyPack [1] 5]] }

/-- The catalog of a session that sends one such file. -/
def mediumCatalog : CatalogPlan where
  generations :=
    [{ index := 0, transferFiles := [⟨0, 300000⟩], uncatalogedFileIds := []
       evictedFileIds := [], logicalBytes := 300000, catalogEntriesBefore := 0
       catalogEntriesAfter := 5 }]
  candidateFiles := 1
  candidateBytes := 300000
  peakCatalogEntries := 5

theorem buildFreshGenerationPlanWithLimits_mixed :
    buildFreshGenerationPlanWithLimits mixed mixedPlan {} = .ok ⟨mediumCatalog, 0⟩ := by
  have hcandidates : collectFreshCatalogCandidates mixed mixedPlan = .ok [⟨0, 300000⟩] := by decide +kernel
  have hcatalog : planCatalog [⟨0, 300000⟩] {} = .ok mediumCatalog := by
    unfold planCatalog
    rw [mergeSort_singleton]
    decide +kernel
  unfold buildFreshGenerationPlanWithLimits
  rw [hcandidates, ok_bind, hcatalog, ok_bind]
  rfl

/-- A session that starts with nothing stored: the medium file is the first generation and
the pack is left for the end. -/
theorem buildFreshGenerationExecution_splits_mixed :
    prepareFreshTransfer .stable mixed 1 {} {} ∅ ∅ true =
        .ok (⟨mediumCatalog, 0⟩, mixedPlan) ∧
      ∃ execution, buildFreshGenerationExecution ⟨mediumCatalog, 0⟩ mixedPlan =
          .ok execution ∧
        Splits ⟨mediumCatalog, 0⟩ mixedPlan execution := by
  have hprepared : prepareFreshTransfer .stable mixed 1 {} {} ∅ ∅ true =
      .ok (⟨mediumCatalog, 0⟩, mixedPlan) := by
    have hbuilt : buildTransferPlan .stable mixed 1 = .ok mixedPlan := by decide +kernel
    have hpreflight : applyLargeCdcPreflight mixedPlan mixed {} = .ok mixedPlan := by
      decide +kernel
    have hreused : applyExactReusePlan mixedPlan mixed {} true =
        .ok (mixedPlan, { dataWireBytes := 5 }) := by decide +kernel
    have hprefixed : applyFreshResumePrefix ⟨mediumCatalog, 0⟩ ∅ = .ok ⟨mediumCatalog, 0⟩ := by
      decide +kernel
    have hresumed : applyResumeOffer mixedPlan mixed ∅ ∅ = .ok (mixedPlan, {}) := by
      decide +kernel
    unfold prepareFreshTransfer
    rw [hbuilt, ok_bind, hpreflight, ok_bind, hreused, ok_bind,
      buildFreshGenerationPlanWithLimits_mixed, ok_bind, hprefixed, ok_bind, hresumed, ok_bind]
    rfl
  exact ⟨hprepared, buildFreshGenerationExecution_splits _ _ _ _ _ _ _ _ _ _ hprepared⟩

end NetworkCopy
