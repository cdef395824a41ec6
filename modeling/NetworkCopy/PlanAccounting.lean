import NetworkCopy.PlanUnits

/-!
# Accounting of the plan rewriters

Every rewriter credits files and bytes and removes tasks.  Here each one is
described on units: what stays in the lanes is a filter of what was there, and
what is credited is the weight of what was filtered out.

The chain of the three is conserved exactly when the unchanged files of the
resume offer are disjoint from the files that the two earlier rewriters removed.
The earlier two check what they remove against the plan; the resume offer checks
its stripes against the plan, but its unchanged files only against the manifest.
-/

namespace NetworkCopy

open TransferTask

/-! ## The walk over the lanes, as one list -/

/-- A rewritten plan has as many lanes, and its tasks are the rewrite of the
tasks of all lanes in order. -/
theorem rewriteLanes_flatten {σ : Type}
    {visit : σ → TransferTask → IoResult (σ × Option TransferTask)} :
    ∀ {lanes lanes' : List (List TransferTask)} {state state' : σ},
      rewriteLanes visit lanes state = .ok (state', lanes') →
      rewriteLane visit lanes.flatten state = .ok (state', lanes'.flatten) ∧
        lanes'.length = lanes.length := by
  have happend : ∀ (first second : List TransferTask) (state : σ),
      rewriteLane visit (first ++ second) state =
        (rewriteLane visit first state >>= fun rewritten =>
          rewriteLane visit second rewritten.1 >>= fun remaining =>
            .ok (remaining.1, rewritten.2 ++ remaining.2)) := by
    intro first second
    induction first with
    | nil =>
      intro state
      cases h : rewriteLane visit second state <;> simp [rewriteLane, h]
    | cons task rest ih =>
      intro state
      simp only [List.cons_append, rewriteLane, ih, bind_assoc, pure_eq_ok, ok_bind,
        List.append_assoc]
  intro lanes
  induction lanes with
  | nil =>
    intro lanes' state state' h
    cases h
    exact ⟨rfl, rfl⟩
  | cons lane rest ih =>
    intro lanes' state state' h
    rw [rewriteLanes] at h
    obtain ⟨rewritten, hrewritten, h⟩ := bind_eq_ok.mp h
    obtain ⟨remaining, hremaining, h⟩ := bind_eq_ok.mp h
    cases h
    obtain ⟨hflat, hlength⟩ := ih hremaining
    rw [List.flatten_cons, happend, hrewritten, ok_bind, hflat, ok_bind]
    exact ⟨rfl, by simp [hlength]⟩

/-- Induction along a successful rewrite: what holds for the empty list and is
kept by each visit holds for the whole list. -/
theorem rewriteLane_induction {σ : Type}
    {visit : σ → TransferTask → IoResult (σ × Option TransferTask)}
    {motive : List TransferTask → σ → σ → List TransferTask → Prop}
    (nil : ∀ state, motive [] state state [])
    (cons : ∀ task rest state next state' kept remaining,
      visit state task = .ok (next, kept) →
      motive rest next state' remaining →
      motive (task :: rest) state state' (kept.toList ++ remaining)) :
    ∀ {tasks kept : List TransferTask} {state state' : σ},
      rewriteLane visit tasks state = .ok (state', kept) →
      motive tasks state state' kept := by
  intro tasks
  induction tasks with
  | nil =>
    intro kept state state' h
    cases h
    exact nil state
  | cons task rest ih =>
    intro kept state state' h
    rw [rewriteLane] at h
    obtain ⟨visited, hvisited, h⟩ := bind_eq_ok.mp h
    obtain ⟨remaining, hremaining, h⟩ := bind_eq_ok.mp h
    cases h
    exact cons task rest state visited.1 remaining.1 visited.2 remaining.2 hvisited
      (ih hremaining)

/-! ## Packs and units -/

variable {manifest : Manifest}

/-- Every pack records the sum of its members' sizes. -/
def PackTotals (manifest : Manifest) (tasks : List TransferTask) : Prop :=
  ∀ fileIds totalBytes, .tinyPack fileIds totalBytes ∈ tasks →
    totalBytes = (fileIds.map manifest.sizeOf).sum

theorem PackTotals.tail {manifest : Manifest} {task : TransferTask}
    {tasks : List TransferTask} (h : PackTotals manifest (task :: tasks)) :
    PackTotals manifest tasks :=
  fun fileIds totalBytes hmem => h fileIds totalBytes (List.mem_cons_of_mem _ hmem)

theorem sum_files_units (tasks : List TransferTask) :
    ((tasks.flatMap units).map TransferUnit.files).sum =
      (tasks.map files).sum := by
  induction tasks with
  | nil => rfl
  | cons task rest ih =>
    have htask : (task.units.map TransferUnit.files).sum = task.files := by
      cases task with
      | wholeFile fileId => rfl
      | tinyPack fileIds totalBytes =>
        simp only [units, files, List.map_map]
        have hconst : TransferUnit.files ∘ TransferUnit.file = fun _ => 1 := rfl
        rw [hconst, List.map_const', List.sum_replicate, smul_eq_mul, Nat.mul_one]
      | stripe fileId offset length => simp [units, files,
          TransferUnit.files]
    rw [List.flatMap_cons, List.map_append, List.sum_append, htask, ih, List.map_cons,
      List.sum_cons]

theorem sum_bytes_units {tasks : List TransferTask} (hpacks : PackTotals manifest tasks) :
    ((tasks.flatMap units).map (TransferUnit.bytes manifest)).sum =
      (tasks.map (bytes manifest)).sum := by
  induction tasks with
  | nil => rfl
  | cons task rest ih =>
    have htask : (task.units.map (TransferUnit.bytes manifest)).sum =
        task.bytes manifest := by
      cases task with
      | wholeFile fileId => simp [units, bytes, TransferUnit.bytes]
      | tinyPack fileIds totalBytes =>
        rw [bytes, hpacks fileIds totalBytes (by simp), units,
          List.map_map]
        rfl
      | stripe fileId offset length =>
        simp [units, bytes, TransferUnit.bytes]
    rw [List.flatMap_cons, List.map_append, List.sum_append, htask, ih hpacks.tail,
      List.map_cons, List.sum_cons]

/-- The size loop of a pack adds the sizes of its members. -/
theorem tinyPackBytes_eq_ok :
    ∀ {fileIds : List Nat} {bytes total : Nat},
      tinyPackBytes manifest fileIds bytes = .ok total →
      total = bytes + (fileIds.map manifest.sizeOf).sum := by
  intro fileIds
  induction fileIds with
  | nil =>
    intro bytes total h
    cases h
    simp
  | cons fileId rest ih =>
    intro bytes total h
    rw [tinyPackBytes] at h
    obtain ⟨entry, hentry, h⟩ := bind_eq_ok.mp h
    obtain ⟨_, h⟩ := bind_rest h
    obtain ⟨next, hnext, h⟩ := bind_eq_ok.mp h
    rw [okOrElse_eq_ok] at hentry
    rw [ih h, addCounter_val hnext, List.map_cons, List.sum_cons,
      Manifest.sizeOf_eq hentry]
    omega

/-- A rebuilt pack holds the members that stay, with their byte total. -/
theorem rebuildTinyPack_eq_ok {removed : Finset Nat} {fileIds : List Nat}
    {rebuilt : Option TransferTask} (h : rebuildTinyPack manifest removed fileIds = .ok rebuilt) :
    rebuilt.toList.flatMap units =
        (fileIds.map TransferUnit.file).filter (fun unit => unit.fileId ∉ removed) ∧
      PackTotals manifest rebuilt.toList := by
  have hfilter : (fileIds.map TransferUnit.file).filter (fun unit => unit.fileId ∉ removed) =
      (fileIds.filter (fun fileId => fileId ∉ removed)).map TransferUnit.file := by
    rw [List.filter_map]
    rfl
  rw [hfilter]
  unfold rebuildTinyPack at h
  dsimp only at h
  split at h
  · rename_i hempty
    cases h
    rw [hempty]
    exact ⟨rfl, by simp [PackTotals]⟩
  · obtain ⟨summary, hsummary, h⟩ := bind_eq_ok.mp h
    cases h
    rw [summarizeTinyPack] at hsummary
    obtain ⟨_, hsummary⟩ := bind_rest hsummary
    obtain ⟨bytes, hbytes, hsummary⟩ := bind_eq_ok.mp hsummary
    cases hsummary
    refine ⟨by simp [units], ?_⟩
    intro packIds totalBytes hmem
    simp only [Option.toList_some, List.mem_singleton, tinyPack.injEq] at hmem
    obtain ⟨rfl, rfl⟩ := hmem
    simpa using tinyPackBytes_eq_ok hbytes

/-! ## Each rewriter as a filter on units -/

variable {plan : TransferPlan}
variable {preflight : LargeCdcPreflight} {reusePlan : ExactReusePlan}

/-- `plan'` keeps exactly the units of `plan` that satisfy `keep`, lane by lane,
with the byte totals of its packs up to date. -/
structure KeepsUnits (manifest : Manifest) (keep : TransferUnit → Bool)
    (plan plan' : TransferPlan) : Prop where
  units : plan'.units = plan.units.filter keep
  packs : PackTotals manifest plan.tasks → PackTotals manifest plan'.tasks
  lanes : plan'.lanes.length = plan.lanes.length

/-- A walk whose visits keep exactly the units that satisfy `keep`. -/
theorem keepsUnits_of_visit {σ : Type}
    {visit : σ → TransferTask → IoResult (σ × Option TransferTask)} {keep : TransferUnit → Bool}
    {state state' : σ} {lanes' : List (List TransferTask)}
    (hvisit : ∀ task ∈ plan.tasks, ∀ state next kept, visit state task = .ok (next, kept) →
      kept.toList.flatMap units = task.units.filter keep ∧
        (PackTotals manifest [task] → PackTotals manifest kept.toList))
    (h : rewriteLanes visit plan.lanes state = .ok (state', lanes')) :
    KeepsUnits manifest keep plan { lanes := lanes' } := by
  obtain ⟨hflat, hlength⟩ := rewriteLanes_flatten h
  have hwalk : (∀ task ∈ plan.tasks, task ∈ plan.tasks) →
      lanes'.flatten.flatMap units = plan.units.filter keep ∧
        (PackTotals manifest plan.tasks → PackTotals manifest lanes'.flatten) := by
    refine rewriteLane_induction (motive := fun tasks _ _ kept =>
      (∀ task ∈ tasks, task ∈ plan.tasks) →
      kept.flatMap units =
          (tasks.flatMap units).filter keep ∧
        (PackTotals manifest tasks → PackTotals manifest kept)) ?_ ?_ hflat
    · intro state _
      exact ⟨rfl, id⟩
    · intro task rest state next state' kept remaining hstep ih hmem
      obtain ⟨hunits, hpacks⟩ := hvisit task (hmem task (by simp)) state next kept hstep
      obtain ⟨hrest, hrestPacks⟩ := ih (fun other hother => hmem other (by simp [hother]))
      constructor
      · rw [List.flatMap_append, hunits, hrest, List.flatMap_cons, List.filter_append]
      · intro htotals fileIds totalBytes hin
        rcases List.mem_append.mp hin with hin | hin
        · refine hpacks ?_ fileIds totalBytes hin
          intro packIds total hpack
          rw [List.mem_singleton] at hpack
          exact htotals packIds total (by simp [hpack])
        · exact hrestPacks htotals.tail fileIds totalBytes hin
  obtain ⟨hunits, hpacks⟩ := hwalk (fun _ htask => htask)
  exact ⟨hunits, hpacks, hlength⟩

/-- The size loop over the completed files adds their sizes, and all are large. -/
theorem completedBytes_eq_ok :
    ∀ {fileIds : List Nat} {bytes total : Nat},
      completedBytes manifest fileIds bytes = .ok total →
      total = bytes + (fileIds.map manifest.sizeOf).sum ∧
        ∀ fileId ∈ fileIds, manifest.classOf fileId = some .large := by
  intro fileIds
  induction fileIds with
  | nil =>
    intro bytes total h
    cases h
    simp
  | cons fileId rest ih =>
    intro bytes total h
    rw [completedBytes] at h
    obtain ⟨entry, hentry, h⟩ := bind_eq_ok.mp h
    obtain ⟨_, hlarge, h⟩ := bind_eq_ok.mp h
    obtain ⟨next, hnext, h⟩ := bind_eq_ok.mp h
    rw [okOrElse_eq_ok] at hentry
    rw [ensure_eq_ok] at hlarge
    obtain ⟨htotal, hrest⟩ := ih h
    refine ⟨?_, ?_⟩
    · rw [htotal, addCounter_val hnext, List.map_cons, List.sum_cons,
        Manifest.sizeOf_eq hentry]
      omega
    · intro other hother
      rcases List.mem_cons.mp hother with rfl | hother
      · rw [Manifest.classOf_eq hentry, hlarge]
      · exact hrest other hother

/-- A file with a class is a file of the manifest. -/
theorem Manifest.lt_length_of_classOf {fileId : Nat} {fileClass : FileClass}
    (h : manifest.classOf fileId = some fileClass) :
    fileId < manifest.length := by
  by_contra hlength
  rw [Manifest.classOf, List.getElem?_eq_none (by omega)] at h
  cases h

/-- A sum over a sorted set is the sum over the set. -/
theorem sum_map_sort (fileIds : Finset Nat) (weight : Nat → Nat) :
    (fileIds.sort.map weight).sum = ∑ fileId ∈ fileIds, weight fileId := by
  rw [← List.sum_toFinset weight (Finset.sort_nodup fileIds _), Finset.sort_toFinset]

/-- `apply_large_cdc_preflight` removes the units of its completed files, which
are large, and its report credits their number and sizes. -/
theorem applyLargeCdcPreflight_eq_ok {plan plan' : TransferPlan}
    (hpacks : ∀ fileIds totalBytes, .tinyPack fileIds totalBytes ∈ plan.tasks →
      ∀ fileId ∈ fileIds, manifest.classOf fileId = some .tiny)
    (h : applyLargeCdcPreflight plan manifest preflight = .ok plan') :
    KeepsUnits manifest (fun unit => unit.fileId ∉ preflight.completedFileIds) plan plan' ∧
      (∀ fileId ∈ preflight.completedFileIds, manifest.classOf fileId = some .large) ∧
      preflight.report.filesCopied = preflight.completedFileIds.card ∧
      preflight.report.bytesCopied =
        ∑ fileId ∈ preflight.completedFileIds, manifest.sizeOf fileId := by
  rw [applyLargeCdcPreflight] at h
  obtain ⟨expectedBytes, hexpected, h⟩ := bind_eq_ok.mp h
  obtain ⟨_, hreport, h⟩ := bind_eq_ok.mp h
  obtain ⟨rewritten, hrewritten, h⟩ := bind_eq_ok.mp h
  obtain ⟨_, h⟩ := bind_rest h
  cases h
  rw [ensure_eq_ok] at hreport
  obtain ⟨hbytes, hlarge⟩ := completedBytes_eq_ok hexpected
  have hlarge' : ∀ fileId ∈ preflight.completedFileIds,
      manifest.classOf fileId = some .large :=
    fun fileId hmem => hlarge fileId ((Finset.mem_sort _).mpr hmem)
  refine ⟨keepsUnits_of_visit ?_ hrewritten, hlarge', hreport.1, ?_⟩
  · intro task htask removed next kept hvisit
    cases task with
    | wholeFile fileId =>
      rw [visitCompleted] at hvisit
      split at hvisit
      · cases hvisit
      · rename_i hmem
        cases hvisit
        exact ⟨by simp [units, TransferUnit.fileId, hmem], id⟩
    | stripe fileId offset length =>
      rw [visitCompleted] at hvisit
      split at hvisit
      · rename_i hmem
        cases hvisit
        exact ⟨by simp [units, TransferUnit.fileId, hmem],
          fun _ => by simp [PackTotals]⟩
      · rename_i hmem
        cases hvisit
        exact ⟨by simp [units, TransferUnit.fileId, hmem], id⟩
    | tinyPack fileIds totalBytes =>
      -- Packs are kept as they are, since their members are not large.
      cases hvisit
      refine ⟨?_, id⟩
      simp only [Option.toList_some, List.flatMap_cons, List.flatMap_nil, List.append_nil]
      rw [eq_comm, List.filter_eq_self]
      intro unit hunit
      obtain ⟨fileId, hfile, rfl⟩ := List.mem_map.mp hunit
      rw [decide_eq_true_eq]
      intro hmem
      have htiny := hpacks fileIds totalBytes htask fileId hfile
      rw [hlarge' fileId hmem] at htiny
      cases htiny
  · rw [hreport.2.1, hbytes, Nat.zero_add, sum_map_sort]

/-- What the first loop of `apply_exact_reuse_plan` has collected after some
entries: distinct targets of the manifest, with the sum of their sizes. -/
structure ReuseChecks.Sound (manifest : Manifest) (checks : ReuseChecks)
    (entries : List ExactFileReuse) : Prop where
  targets : checks.targetFileIds = (entries.map ExactFileReuse.targetFileId).toFinset
  count : checks.targetFileIds.card = entries.length
  bytes : checks.logicalBytes = ∑ fileId ∈ checks.targetFileIds, manifest.sizeOf fileId
  known : ∀ fileId ∈ checks.targetFileIds, fileId < manifest.length

/-- One turn of the loop extends the collected facts by its entry. -/
theorem ReuseChecks.Sound.step {checks checks' : ReuseChecks} {entries : List ExactFileReuse}
    {reuse : ExactFileReuse} (hsound : checks.Sound manifest entries)
    (h : checkReuse manifest checks reuse = .ok checks') :
    checks'.Sound manifest (entries ++ [reuse]) := by
  rw [checkReuse] at h
  obtain ⟨_, h⟩ := bind_rest h
  obtain ⟨_, h⟩ := bind_rest h
  obtain ⟨target, htarget, h⟩ := bind_eq_ok.mp h
  obtain ⟨_, h⟩ := bind_rest h
  obtain ⟨_, h⟩ := bind_rest h
  obtain ⟨_, hfresh, h⟩ := bind_eq_ok.mp h
  obtain ⟨logicalBytes, hbytes, h⟩ := bind_eq_ok.mp h
  cases h
  rw [ensure_eq_ok] at hfresh
  rw [okOrElse_eq_ok] at htarget
  constructor
  · simp only [hsound.targets, List.map_append, List.toFinset_append, List.map_cons,
      List.map_nil, List.toFinset_cons, List.toFinset_nil]
    rw [Finset.union_insert, Finset.union_empty]
  · simp only [Finset.card_insert_of_notMem hfresh, hsound.count, List.length_append,
      List.length_singleton]
  · simp only [Finset.sum_insert hfresh, ← hsound.bytes, addCounter_val hbytes,
      Manifest.sizeOf_eq htarget]
    omega
  · intro fileId hmem
    rcases Finset.mem_insert.mp hmem with rfl | hmem
    · exact (List.getElem?_eq_some_iff.mp htarget).1
    · exact hsound.known fileId hmem

theorem ReuseChecks.Sound.run :
    ∀ {entries : List ExactFileReuse} (before : List ExactFileReuse)
      {checks checks' : ReuseChecks}, checks.Sound manifest before →
      entries.foldlM (checkReuse manifest) checks = .ok checks' →
      checks'.Sound manifest (before ++ entries) := by
  intro entries
  induction entries with
  | nil =>
    intro before checks checks' hsound h
    cases h
    simpa using hsound
  | cons reuse rest ih =>
    intro before checks checks' hsound h
    rw [List.foldlM_cons] at h
    obtain ⟨next, hnext, h⟩ := bind_eq_ok.mp h
    simpa using ih (before ++ [reuse]) (hsound.step hnext) h

theorem checkActive_eq_ok {planned : Finset Nat} :
    ∀ {fileIds : List Nat} {u : Unit}, checkActive planned fileIds = .ok u →
      ∀ fileId ∈ fileIds, fileId ∈ planned := by
  intro fileIds
  induction fileIds with
  | nil => simp
  | cons fileId rest ih =>
    intro u h
    rw [checkActive] at h
    obtain ⟨_, hmem, h⟩ := bind_eq_ok.mp h
    rw [ensure_eq_ok] at hmem
    intro other hother
    rcases List.mem_cons.mp hother with rfl | hother
    · exact hmem
    · exact ih h other hother

/-- A planned file has a unit in the plan. -/
theorem exists_unit_of_planned {fileId : Nat} (h : fileId ∈ plannedExactReuseFileIds plan) :
    ∃ unit ∈ plan.units, unit.fileId = fileId := by
  rw [plannedExactReuseFileIds, List.mem_toFinset, List.mem_flatMap] at h
  obtain ⟨task, htask, hmem⟩ := h
  suffices hunit : ∃ unit ∈ task.units, unit.fileId = fileId by
    obtain ⟨unit, hunit, hfile⟩ := hunit
    exact ⟨unit, List.mem_flatMap.mpr ⟨task, htask, hunit⟩, hfile⟩
  cases task with
  | wholeFile wholeId =>
    rw [fileIds, List.mem_singleton] at hmem
    exact ⟨.file wholeId, by simp [units], hmem.symm⟩
  | tinyPack packIds totalBytes =>
    exact ⟨.file fileId, List.mem_map_of_mem hmem, rfl⟩
  | stripe stripeId offset length =>
    rw [fileIds, List.mem_singleton] at hmem
    exact ⟨.stripe stripeId offset length, by simp [units], hmem.symm⟩

/-- `apply_exact_reuse_plan` removes the units of its targets, all of which are
active, and its report credits their number and sizes. -/
theorem applyExactReusePlan_eq_ok {plan plan' : TransferPlan} {allowed : Bool}
    {report : LaneReport}
    (h : applyExactReusePlan plan manifest reusePlan allowed = .ok (plan', report)) :
    KeepsUnits manifest (fun unit => unit.fileId ∉ exactReuseTargetFileIds reusePlan)
        plan plan' ∧
      (∀ fileId ∈ exactReuseTargetFileIds reusePlan,
        fileId < manifest.length ∧ ∃ unit ∈ plan.units, unit.fileId = fileId) ∧
      report.filesCopied = (exactReuseTargetFileIds reusePlan).card ∧
      report.bytesCopied =
        ∑ fileId ∈ exactReuseTargetFileIds reusePlan, manifest.sizeOf fileId := by
  rw [applyExactReusePlan] at h
  obtain ⟨_, h⟩ := bind_rest h
  obtain ⟨checks, hchecks, h⟩ := bind_eq_ok.mp h
  obtain ⟨_, h⟩ := bind_rest h
  obtain ⟨_, hactive, h⟩ := bind_eq_ok.mp h
  obtain ⟨rewritten, hrewritten, h⟩ := bind_eq_ok.mp h
  obtain ⟨planWireBytes, _, h⟩ := bind_eq_ok.mp h
  cases h
  have hsound : checks.Sound manifest reusePlan.entries := by
    simpa using ReuseChecks.Sound.run [] ⟨rfl, rfl, rfl, by simp⟩ hchecks
  have htargets : checks.targetFileIds = exactReuseTargetFileIds reusePlan := hsound.targets
  rw [← htargets]
  refine ⟨keepsUnits_of_visit ?_ hrewritten, ?_, hsound.count.symm, hsound.bytes⟩
  · intro task _ state next kept hvisit
    cases task with
    | wholeFile fileId =>
      rw [visitReused] at hvisit
      split at hvisit <;> rename_i hmem <;> cases hvisit
      · exact ⟨by simp [units, TransferUnit.fileId, hmem],
          fun _ => by simp [PackTotals]⟩
      · exact ⟨by simp [units, TransferUnit.fileId, hmem], id⟩
    | stripe fileId offset length =>
      rw [visitReused] at hvisit
      split at hvisit <;> rename_i hmem <;> cases hvisit
      · exact ⟨by simp [units, TransferUnit.fileId, hmem],
          fun _ => by simp [PackTotals]⟩
      · exact ⟨by simp [units, TransferUnit.fileId, hmem], id⟩
    | tinyPack fileIds totalBytes =>
      rw [visitReused] at hvisit
      obtain ⟨rebuilt, hrebuilt, hvisit⟩ := bind_eq_ok.mp hvisit
      cases hvisit
      obtain ⟨hunits, hpacks⟩ := rebuildTinyPack_eq_ok hrebuilt
      exact ⟨hunits, fun _ => hpacks⟩
  · intro fileId hmem
    refine ⟨hsound.known fileId hmem, exists_unit_of_planned ?_⟩
    exact checkActive_eq_ok hactive fileId
      (List.mem_append_right _ ((Finset.mem_sort _).mpr hmem))

/-! ## The resume offer -/

variable {offered : Finset ResumeStripe} {unchanged : Finset Nat}

/-- The stripes that `planned_resume_stripes` collects are units of the plan. -/
theorem collectResumeStripes_eq_ok :
    ∀ {tasks : List TransferTask} {before planned : Finset ResumeStripe},
      collectResumeStripes tasks before = .ok planned →
      ∀ stripe ∈ planned, stripe ∈ before ∨
        .stripe stripe.fileId stripe.offset stripe.length ∈
          tasks.flatMap units := by
  intro tasks
  induction tasks with
  | nil =>
    intro before planned h stripe hmem
    cases h
    exact Or.inl hmem
  | cons task rest ih =>
    intro before planned h stripe hmem
    rw [List.flatMap_cons]
    cases task with
    | wholeFile fileId =>
      exact (ih h stripe hmem).imp_right (List.mem_append_right _)
    | tinyPack fileIds totalBytes =>
      exact (ih h stripe hmem).imp_right (List.mem_append_right _)
    | stripe fileId offset length =>
      rw [collectResumeStripes] at h
      obtain ⟨first, hfirst, h⟩ := bind_eq_ok.mp h
      obtain ⟨_, h⟩ := bind_rest h
      obtain ⟨_, rfl⟩ := ResumeStripe.new_eq_ok.mp hfirst
      rcases ih h stripe hmem with hin | hin
      · rcases Finset.mem_insert.mp hin with rfl | hin
        · exact Or.inr (by simp [units])
        · exact Or.inl hin
      · exact Or.inr (List.mem_append_right _ hin)

/-- An accepted offer names only stripes of the plan. -/
theorem validateResumeOffer_eq_ok {u : Unit} (h : validateResumeOffer plan offered = .ok u) :
    ∀ stripe ∈ offered,
      .stripe stripe.fileId stripe.offset stripe.length ∈ plan.units := by
  rw [validateResumeOffer] at h
  obtain ⟨planned, hplanned, h⟩ := bind_eq_ok.mp h
  intro stripe hmem
  have hsubset : stripe ∈ planned := by
    by_contra hnot
    have hdiff : stripe ∈ (offered \ planned).sort := by
      rw [Finset.mem_sort, Finset.mem_sdiff]
      exact ⟨hmem, hnot⟩
    split at h
    · rename_i hnil
      rw [hnil] at hdiff
      cases hdiff
    · cases h
  rcases collectResumeStripes_eq_ok hplanned stripe hsubset with hin | hin
  · cases hin
  · exact hin

theorem checkUnchangedIds_eq_ok {fileCount : Nat} :
    ∀ {fileIds : List Nat} {u : Unit}, checkUnchangedIds fileCount fileIds = .ok u →
      ∀ fileId ∈ fileIds, fileId < fileCount := by
  intro fileIds
  induction fileIds with
  | nil => simp
  | cons fileId rest ih =>
    intro u h
    rw [checkUnchangedIds] at h
    obtain ⟨_, hlt, h⟩ := bind_eq_ok.mp h
    rw [ensure_eq_ok] at hlt
    intro other hother
    rcases List.mem_cons.mp hother with rfl | hother
    · exact hlt
    · exact ih h other hother

/-- The credit loop over the unchanged files adds their number and sizes. -/
theorem creditUnchanged_eq_ok :
    ∀ {fileIds : List Nat} {application application' : ResumeApplication},
      creditUnchanged manifest fileIds application = .ok application' →
      application'.logicalReport.filesCopied =
          application.logicalReport.filesCopied + fileIds.length ∧
        application'.logicalReport.bytesCopied =
          application.logicalReport.bytesCopied +
            (fileIds.map manifest.sizeOf).sum := by
  intro fileIds
  induction fileIds with
  | nil =>
    intro application application' h
    cases h
    simp
  | cons fileId rest ih =>
    intro application application' h
    rw [creditUnchanged] at h
    obtain ⟨entry, hentry, h⟩ := bind_eq_ok.mp h
    obtain ⟨report, hreport, h⟩ := bind_eq_ok.mp h
    obtain ⟨_, h⟩ := bind_rest h
    obtain ⟨_, h⟩ := bind_rest h
    rw [okOrElse_eq_ok] at hentry
    obtain ⟨hfiles, hbytes⟩ := ih h
    rw [addLaneCounts_eq_ok hreport] at hfiles hbytes
    rw [List.length_cons, List.map_cons, List.sum_cons, Manifest.sizeOf_eq hentry]
    simp only at hfiles hbytes
    constructor <;> omega

/-- One visit of `apply_resume_offer`: what it keeps and what it credits. -/
theorem visitOffered_eq_ok {application next : ResumeApplication} {task : TransferTask}
    {kept : Option TransferTask}
    (h : visitOffered manifest offered unchanged application task = .ok (next, kept)) :
    (kept.toList.flatMap units =
        task.units.filter
          (fun unit => unit.fileId ∉ unchanged ∧ ¬unit.InStripes offered) ∧
      (PackTotals manifest [task] → PackTotals manifest kept.toList)) ∧
    next.logicalReport.filesCopied = application.logicalReport.filesCopied +
      ((task.units.filter
        (fun unit => unit.fileId ∉ unchanged ∧ unit.InStripes offered)).map
          TransferUnit.files).sum ∧
    next.logicalReport.bytesCopied = application.logicalReport.bytesCopied +
      ((task.units.filter
        (fun unit => unit.fileId ∉ unchanged ∧ unit.InStripes offered)).map
          (TransferUnit.bytes manifest)).sum := by
  have hnone : PackTotals manifest [] := by simp [PackTotals]
  cases task with
  | wholeFile fileId =>
    rw [visitOffered] at h
    split at h <;> rename_i hmem <;> cases h
    · exact ⟨⟨by simp [units, TransferUnit.fileId, hmem], fun _ => hnone⟩,
        by simp [units, TransferUnit.InStripes],
        by simp [units, TransferUnit.InStripes]⟩
    · exact ⟨⟨by simp [units, TransferUnit.fileId, TransferUnit.InStripes, hmem],
        id⟩, by simp [units, TransferUnit.InStripes],
        by simp [units, TransferUnit.InStripes]⟩
  | tinyPack fileIds totalBytes =>
    rw [visitOffered] at h
    obtain ⟨rebuilt, hrebuilt, h⟩ := bind_eq_ok.mp h
    cases h
    obtain ⟨hunits, hpacks⟩ := rebuildTinyPack_eq_ok hrebuilt
    have hcredit : (TransferTask.tinyPack fileIds totalBytes).units.filter
        (fun unit => unit.fileId ∉ unchanged ∧ unit.InStripes offered) = [] := by
      rw [List.filter_eq_nil_iff]
      intro unit hunit
      obtain ⟨fileId, _, rfl⟩ := List.mem_map.mp hunit
      simp [TransferUnit.InStripes]
    rw [hcredit]
    refine ⟨⟨?_, fun _ => hpacks⟩, by simp, by simp⟩
    rw [hunits]
    refine List.filter_congr ?_
    intro unit hunit
    obtain ⟨fileId, _, rfl⟩ := List.mem_map.mp hunit
    simp [TransferUnit.InStripes]
  | stripe fileId offset length =>
    rw [visitOffered] at h
    split at h
    · rename_i hmem
      cases h
      exact ⟨⟨by simp [units, TransferUnit.fileId, hmem], fun _ => hnone⟩,
        by simp [units, TransferUnit.fileId, hmem],
        by simp [units, TransferUnit.fileId, hmem]⟩
    · rename_i hmem
      obtain ⟨stripe, hstripe, h⟩ := bind_eq_ok.mp h
      obtain ⟨_, rfl⟩ := ResumeStripe.new_eq_ok.mp hstripe
      split at h
      · rename_i hoffered
        obtain ⟨report, hreport, h⟩ := bind_eq_ok.mp h
        obtain ⟨_, h⟩ := bind_rest h
        obtain ⟨_, h⟩ := bind_rest h
        cases h
        rw [addLaneCounts_eq_ok hreport]
        exact ⟨⟨by simp [units, TransferUnit.InStripes, hoffered],
            fun _ => hnone⟩,
          by simp [units, TransferUnit.fileId, TransferUnit.InStripes,
            TransferUnit.files, hmem, hoffered],
          by simp [units, TransferUnit.fileId, TransferUnit.InStripes,
            TransferUnit.bytes, hmem, hoffered]⟩
      · rename_i hoffered
        cases h
        exact ⟨⟨by simp [units, TransferUnit.fileId, TransferUnit.InStripes,
            hmem, hoffered], id⟩,
          by simp [units, TransferUnit.InStripes, hoffered],
          by simp [units, TransferUnit.InStripes, hoffered]⟩

/-- `apply_resume_offer` removes the units of the unchanged files and the offered
stripes.  It credits the unchanged files by the manifest and the stripes by what
it removes. -/
theorem applyResumeOffer_eq_ok {plan plan' : TransferPlan} {application : ResumeApplication}
    (h : applyResumeOffer plan manifest offered unchanged = .ok (plan', application)) :
    KeepsUnits manifest
        (fun unit => unit.fileId ∉ unchanged ∧ ¬unit.InStripes offered) plan plan' ∧
      (∀ fileId ∈ unchanged, fileId < manifest.length) ∧
      (∀ stripe ∈ offered, stripe.fileId ∉ unchanged ∧
        .stripe stripe.fileId stripe.offset stripe.length ∈ plan.units) ∧
      application.logicalReport.filesCopied = unchanged.card +
        ((plan.units.filter
          (fun unit => unit.fileId ∉ unchanged ∧ unit.InStripes offered)).map
            TransferUnit.files).sum ∧
      application.logicalReport.bytesCopied =
        ∑ fileId ∈ unchanged, manifest.sizeOf fileId +
          ((plan.units.filter
            (fun unit => unit.fileId ∉ unchanged ∧ unit.InStripes offered)).map
              (TransferUnit.bytes manifest)).sum := by
  rw [applyResumeOffer] at h
  obtain ⟨_, hstripes, h⟩ := bind_eq_ok.mp h
  obtain ⟨_, hunchanged, h⟩ := bind_eq_ok.mp h
  split at h
  · cases h
  rename_i hoverlap
  obtain ⟨credited, hcredited, h⟩ := bind_eq_ok.mp h
  obtain ⟨rewritten, hrewritten, h⟩ := bind_eq_ok.mp h
  obtain ⟨_, h⟩ := bind_rest h
  obtain ⟨_, h⟩ := bind_rest h
  cases h
  rw [validateUnchangedOffer] at hunchanged
  obtain ⟨_, hunchanged⟩ := bind_rest hunchanged
  have hknown : ∀ fileId ∈ unchanged, fileId < manifest.length := fun fileId hmem =>
    checkUnchangedIds_eq_ok hunchanged fileId ((Finset.mem_sort _).mpr hmem)
  have hdisjoint : ∀ stripe ∈ offered, stripe.fileId ∉ unchanged := by
    intro stripe hmem
    rw [List.find?_eq_none] at hoverlap
    simpa using hoverlap stripe ((Finset.mem_sort _).mpr hmem)
  obtain ⟨hfiles, hbytes⟩ := creditUnchanged_eq_ok hcredited
  rw [Finset.length_sort] at hfiles
  rw [sum_map_sort] at hbytes
  have hwalk := rewriteLane_induction (motive := fun tasks before after _ =>
      after.logicalReport.filesCopied = before.logicalReport.filesCopied +
        (((tasks.flatMap units).filter
          (fun unit => unit.fileId ∉ unchanged ∧ unit.InStripes offered)).map
            TransferUnit.files).sum ∧
      after.logicalReport.bytesCopied = before.logicalReport.bytesCopied +
        (((tasks.flatMap units).filter
          (fun unit => unit.fileId ∉ unchanged ∧ unit.InStripes offered)).map
            (TransferUnit.bytes manifest)).sum) ?_ ?_ (rewriteLanes_flatten hrewritten).1
  · refine ⟨keepsUnits_of_visit ?_ hrewritten, hknown, ?_, ?_, ?_⟩
    · intro task _ state next kept hvisit
      exact (visitOffered_eq_ok hvisit).1
    · exact fun stripe hmem =>
        ⟨hdisjoint stripe hmem, validateResumeOffer_eq_ok hstripes stripe hmem⟩
    · rw [hwalk.1, hfiles]
      simp [TransferPlan.units, TransferPlan.tasks]
    · rw [hwalk.2, hbytes]
      simp [TransferPlan.units, TransferPlan.tasks]
  · intro state
    simp
  · intro task rest before next after kept remaining hvisit ih
    obtain ⟨_, hfiles, hbytes⟩ := visitOffered_eq_ok hvisit
    simp only [List.flatMap_cons, List.filter_append, List.map_append, List.sum_append]
    rw [ih.1, ih.2, hfiles, hbytes]
    constructor <;> omega

/-! ## The chain of rewrites -/

variable {reusable remaining : List TransferUnit}

/-- How often a unit is credited: as part of a CDC-completed file, of a reused
file, of an unchanged file, and as a resumed stripe. -/
def creditCount (preflight : LargeCdcPreflight) (reusePlan : ExactReusePlan)
    (offered : Finset ResumeStripe) (unchanged : Finset Nat) (unit : TransferUnit) : Nat :=
  (if unit.fileId ∈ preflight.completedFileIds then 1 else 0) +
    (if unit.fileId ∈ exactReuseTargetFileIds reusePlan then 1 else 0) +
      (if unit.fileId ∈ unchanged then 1 else 0) +
        (if unit.InStripes offered then 1 else 0)

/-- Nothing is lost and nothing is counted twice between a plan and what its
rewriting credits and leaves. -/
structure Accounted (manifest : Manifest) (plan : TransferPlan)
    (preflight : LargeCdcPreflight) (reusePlan : ExactReusePlan)
    (offered : Finset ResumeStripe) (unchanged : Finset Nat)
    (remaining : TransferPlan) (reuseReport : LaneReport)
    (application : ResumeApplication) : Prop where
  /-- The files credited and left are those of the manifest. -/
  files : preflight.report.filesCopied + reuseReport.filesCopied +
      application.logicalReport.filesCopied +
      (remaining.tasks.map TransferTask.files).sum = manifest.length
  /-- The bytes credited and left are those of the manifest. -/
  bytes : preflight.report.bytesCopied + reuseReport.bytesCopied +
      application.logicalReport.bytesCopied +
      (remaining.tasks.map (TransferTask.bytes manifest)).sum = manifest.totalBytes
  /-- Every unit of the plan is credited once, or left once, and not both. -/
  once : ∀ unit ∈ plan.units,
    creditCount preflight reusePlan offered unchanged unit + remaining.units.count unit = 1
  /-- Nothing else is left or offered. -/
  planned : (∀ unit ∈ remaining.units, unit ∈ plan.units) ∧
    ∀ stripe ∈ offered, .stripe stripe.fileId stripe.offset stripe.length ∈ plan.units

/-- Splitting a sum by a condition. -/
theorem sum_filter_add_sum_filter_not {α : Type} (p : α → Prop) [DecidablePred p]
    (weight : α → Nat) (values : List α) :
    ((values.filter p).map weight).sum +
        ((values.filter (fun value => ¬p value)).map weight).sum =
      (values.map weight).sum := by
  have hsplit := List.sum_map_ite p weight weight values
  simp only [ite_self] at hsplit
  exact hsplit.symm

/-- Serializing moves tasks between lanes. -/
theorem serializeTransferPlan_tasks (plan : TransferPlan) :
    (serializeTransferPlan plan).tasks = plan.tasks := by
  unfold serializeTransferPlan TransferPlan.tasks
  split
  · rfl
  · rename_i first rest hlanes
    rw [hlanes, List.flatten_cons, List.flatten_cons, List.append_assoc]
    have hempty : (rest.map (fun _ => ([] : List TransferTask))).flatten = [] := by simp
    rw [hempty, List.append_nil]

/-- The three rewriters of an accepted chain, as facts about units. -/
structure RewriteFacts (manifest : Manifest) (plan : TransferPlan)
    (completed targets unchanged : Finset Nat) (offered : Finset ResumeStripe)
    (reusable remaining : List TransferUnit) : Prop where
  /-- What the resume offer is applied to. -/
  reusable_eq : reusable = (plan.units.filter (fun unit => unit.fileId ∉ completed)).filter
    (fun unit => unit.fileId ∉ targets)
  /-- What is left in the end. -/
  remaining_eq : remaining = reusable.filter
    (fun unit => unit.fileId ∉ unchanged ∧ ¬unit.InStripes offered)
  completed_lt : ∀ fileId ∈ completed, fileId < manifest.length
  targets_lt : ∀ fileId ∈ targets, fileId < manifest.length
  unchanged_lt : ∀ fileId ∈ unchanged, fileId < manifest.length
  targets_active : ∀ fileId ∈ targets, fileId ∉ completed
  offered_active : ∀ stripe ∈ offered, stripe.fileId ∉ unchanged ∧
    .stripe stripe.fileId stripe.offset stripe.length ∈ reusable

/-- A unit that is an offered stripe is one of the units the offer is applied to. -/
theorem RewriteFacts.offered_unit {completed targets unchanged : Finset Nat}
    (h : RewriteFacts manifest plan completed targets unchanged offered reusable remaining)
    {unit : TransferUnit} (hunit : unit.InStripes offered) :
    unit.fileId ∉ unchanged ∧ unit.fileId ∉ completed ∧ unit.fileId ∉ targets := by
  cases unit with
  | file fileId => exact hunit.elim
  | stripe fileId offset length =>
    obtain ⟨hunchanged, hmem⟩ := h.offered_active _ hunit
    rw [h.reusable_eq] at hmem
    simp only [List.mem_filter, decide_eq_true_eq] at hmem
    exact ⟨hunchanged, hmem.1.2, hmem.2⟩

/-- With disjoint unchanged files, every unit of the plan is credited or left
exactly once. -/
theorem RewriteFacts.once (h : RewriteFacts manifest plan preflight.completedFileIds
      (exactReuseTargetFileIds reusePlan) unchanged offered reusable remaining)
    (hnodup : plan.units.Nodup)
    (hdisjoint : ∀ fileId ∈ unchanged, fileId ∉ preflight.completedFileIds ∧
      fileId ∉ exactReuseTargetFileIds reusePlan) :
    ∀ unit ∈ plan.units,
      creditCount preflight reusePlan offered unchanged unit + remaining.count unit = 1 := by
  intro unit hunit
  have hcount : remaining.count unit =
      if unit.fileId ∉ preflight.completedFileIds ∧
          unit.fileId ∉ exactReuseTargetFileIds reusePlan ∧
          unit.fileId ∉ unchanged ∧ ¬unit.InStripes offered then 1 else 0 := by
    have hremaining : remaining.Nodup := by
      rw [h.remaining_eq, h.reusable_eq]
      exact ((hnodup.filter _).filter _).filter _
    rw [hremaining.count, h.remaining_eq, h.reusable_eq]
    simp only [List.mem_filter, decide_eq_true_eq, hunit, true_and, and_assoc]
  rw [hcount, creditCount]
  -- The four reasons for a credit exclude each other.
  by_cases hoffered : unit.InStripes offered
  · obtain ⟨hunchanged, hcompleted, htargets⟩ := h.offered_unit hoffered
    simp [hoffered, hunchanged, hcompleted, htargets]
  · by_cases hunchanged : unit.fileId ∈ unchanged
    · obtain ⟨hcompleted, htargets⟩ := hdisjoint _ hunchanged
      simp [hoffered, hunchanged, hcompleted, htargets]
    · by_cases htargets : unit.fileId ∈ exactReuseTargetFileIds reusePlan
      · simp [hoffered, hunchanged, htargets, h.targets_active _ htargets]
      · by_cases hcompleted : unit.fileId ∈ preflight.completedFileIds <;>
          simp [hoffered, hunchanged, htargets, hcompleted]

/-- With disjoint unchanged files, any weight of the manifest splits into the
credited files, the resumed stripes and what is left. -/
theorem RewriteFacts.sum {dataStreamCount : Nat} {completed targets unchanged : Finset Nat}
    (h : RewriteFacts manifest plan completed targets unchanged offered reusable remaining)
    (hperm : plan.units.Perm (manifestUnits manifest dataStreamCount))
    (hdisjoint : ∀ fileId ∈ unchanged, fileId ∉ completed ∧ fileId ∉ targets)
    (weight : TransferUnit → Nat) (fileWeight : Nat → Nat) (hweight : ∀ fileId,
      ((fileUnits manifest dataStreamCount fileId).map weight).sum = fileWeight fileId) :
    ∑ fileId ∈ completed, fileWeight fileId + ∑ fileId ∈ targets, fileWeight fileId +
        (∑ fileId ∈ unchanged, fileWeight fileId +
          ((reusable.filter
            (fun unit => unit.fileId ∉ unchanged ∧ unit.InStripes offered)).map
              weight).sum) +
        (remaining.map weight).sum =
      ∑ fileId ∈ Finset.range manifest.length, fileWeight fileId := by
  have hfiles : ∀ fileIds : Finset Nat, (∀ fileId ∈ fileIds, fileId < manifest.length) →
      ((plan.units.filter (fun unit => unit.fileId ∈ fileIds)).map weight).sum =
        ∑ fileId ∈ fileIds, fileWeight fileId := by
    intro fileIds hids
    rw [((hperm.filter _).map weight).sum_eq,
      sum_units_of_files manifest dataStreamCount weight hids]
    exact Finset.sum_congr rfl (fun fileId _ => hweight fileId)
  have hall : (plan.units.map weight).sum =
      ∑ fileId ∈ Finset.range manifest.length, fileWeight fileId := by
    rw [← hfiles (Finset.range manifest.length) (fun _ hmem => Finset.mem_range.mp hmem)]
    congr 2
    rw [eq_comm, List.filter_eq_self]
    intro unit hunit
    have hlt := (mem_manifestUnits.mp (hperm.mem_iff.mp hunit)).1
    simpa using hlt
  have hcompleted := sum_filter_add_sum_filter_not
    (fun unit : TransferUnit => unit.fileId ∈ completed) weight plan.units
  have htargets := sum_filter_add_sum_filter_not
    (fun unit : TransferUnit => unit.fileId ∈ targets) weight
    (plan.units.filter (fun unit => unit.fileId ∉ completed))
  have hunchanged := sum_filter_add_sum_filter_not
    (fun unit : TransferUnit => unit.fileId ∈ unchanged) weight reusable
  have hoffered := sum_filter_add_sum_filter_not
    (fun unit : TransferUnit => unit.InStripes offered) weight
    (reusable.filter (fun unit => unit.fileId ∉ unchanged))
  -- The targets and the unchanged files were not touched before.
  have htargetUnits : (plan.units.filter (fun unit => unit.fileId ∉ completed)).filter
        (fun unit => unit.fileId ∈ targets) =
      plan.units.filter (fun unit => unit.fileId ∈ targets) := by
    rw [List.filter_filter]
    refine List.filter_congr ?_
    intro unit _
    by_cases htarget : unit.fileId ∈ targets
    · simp [htarget, h.targets_active _ htarget]
    · simp [htarget]
  have hunchangedUnits : reusable.filter (fun unit => unit.fileId ∈ unchanged) =
      plan.units.filter (fun unit => unit.fileId ∈ unchanged) := by
    rw [h.reusable_eq, List.filter_filter, List.filter_filter]
    refine List.filter_congr ?_
    intro unit _
    by_cases hmem : unit.fileId ∈ unchanged
    · simp [hmem, hdisjoint _ hmem]
    · simp [hmem]
  rw [hfiles completed h.completed_lt] at hcompleted
  rw [htargetUnits, hfiles targets h.targets_lt, ← h.reusable_eq] at htargets
  rw [hunchangedUnits, hfiles unchanged h.unchanged_lt] at hunchanged
  simp only [List.filter_filter] at hoffered
  have hremaining := h.remaining_eq
  simp only [Bool.decide_and] at hremaining
  simp only [hremaining, Bool.decide_and]
  have hcomm : ∀ p q : TransferUnit → Bool,
      reusable.filter (fun unit => p unit && q unit) =
        reusable.filter (fun unit => q unit && p unit) := by
    intro p q
    simp only [Bool.and_comm]
  rw [hcomm (fun unit => decide (unit.fileId ∉ unchanged)),
    hcomm (fun unit => decide (unit.fileId ∉ unchanged))]
  omega

/-- The units of a plan built for a classified manifest, and its packs. -/
theorem builtPlan_packs {sort : UnstableSort} (hmanifest : manifest.Classified)
    {dataStreamCount : Nat} (hcount : 0 < dataStreamCount) (hstreams : dataStreamCount ≤ 32)
    (hplan : buildTransferPlan sort manifest dataStreamCount = .ok plan) :
    PackTotals manifest plan.tasks ∧
      ∀ fileIds totalBytes, .tinyPack fileIds totalBytes ∈ plan.tasks →
        ∀ fileId ∈ fileIds, manifest.classOf fileId = some .tiny := by
  obtain ⟨_, hcovers⟩ := buildTransferPlan_eq_ok hmanifest hcount hstreams hplan
  refine ⟨fun fileIds totalBytes hmem => (hcovers.packs fileIds totalBytes hmem).total, ?_⟩
  intro fileIds totalBytes hmem fileId hfile
  have hpos : 0 < (plan.tasks.flatMap packMembers).count fileId := by
    rw [List.count_pos_iff, List.mem_flatMap]
    exact ⟨_, hmem, hfile⟩
  rw [hcovers.tinyFiles fileId] at hpos
  by_contra hclass
  rw [if_neg hclass] at hpos
  omega

/-- What an accepted chain did, and what it credited. -/
theorem rewritePlan_eq_ok {plan remaining : TransferPlan} {reuseAllowed : Bool}
    {seekPenalty : Bool} {reuseReport : LaneReport} {application : ResumeApplication}
    (htotals : PackTotals manifest plan.tasks)
    (hpacks : ∀ fileIds totalBytes, .tinyPack fileIds totalBytes ∈ plan.tasks →
      ∀ fileId ∈ fileIds, manifest.classOf fileId = some .tiny)
    (h : rewritePlan plan manifest preflight reusePlan reuseAllowed offered unchanged
      seekPenalty = .ok (remaining, reuseReport, application)) :
    PackTotals manifest remaining.tasks ∧
    ∃ reusable, RewriteFacts manifest plan preflight.completedFileIds
        (exactReuseTargetFileIds reusePlan) unchanged offered reusable remaining.units ∧
      preflight.report.filesCopied = preflight.completedFileIds.card ∧
      preflight.report.bytesCopied =
        ∑ fileId ∈ preflight.completedFileIds, manifest.sizeOf fileId ∧
      reuseReport.filesCopied = (exactReuseTargetFileIds reusePlan).card ∧
      reuseReport.bytesCopied =
        ∑ fileId ∈ exactReuseTargetFileIds reusePlan, manifest.sizeOf fileId ∧
      application.logicalReport.filesCopied = unchanged.card +
        ((reusable.filter
          (fun unit => unit.fileId ∉ unchanged ∧ unit.InStripes offered)).map
            TransferUnit.files).sum ∧
      application.logicalReport.bytesCopied =
        ∑ fileId ∈ unchanged, manifest.sizeOf fileId +
          ((reusable.filter
            (fun unit => unit.fileId ∉ unchanged ∧ unit.InStripes offered)).map
              (TransferUnit.bytes manifest)).sum := by
  rw [rewritePlan] at h
  obtain ⟨afterCdc, hcdc, h⟩ := bind_eq_ok.mp h
  obtain ⟨⟨afterReuse, report⟩, hreuse, h⟩ := bind_eq_ok.mp h
  obtain ⟨⟨afterResume, resumed⟩, hresume, h⟩ := bind_eq_ok.mp h
  simp only [pure_eq_ok, Except.ok.injEq, Prod.mk.injEq] at h
  obtain ⟨hremaining, rfl, rfl⟩ := h
  have htasks : remaining.tasks = afterResume.tasks := by
    rw [← hremaining]
    split
    · exact serializeTransferPlan_tasks afterResume
    · rfl
  have hunits : remaining.units = afterResume.units := by
    rw [TransferPlan.units, TransferPlan.units, htasks]
  obtain ⟨hkeepCdc, hlarge, hcdcFiles, hcdcBytes⟩ := applyLargeCdcPreflight_eq_ok hpacks hcdc
  obtain ⟨hkeepReuse, hactive, hreuseFiles, hreuseBytes⟩ := applyExactReusePlan_eq_ok hreuse
  obtain ⟨hkeepResume, hknown, hstripes, hfiles, hbytes⟩ := applyResumeOffer_eq_ok hresume
  refine ⟨?_, afterReuse.units, ?_, hcdcFiles, hcdcBytes, hreuseFiles, hreuseBytes, hfiles,
    hbytes⟩
  · rw [htasks]
    exact hkeepResume.packs (hkeepReuse.packs (hkeepCdc.packs htotals))
  · constructor
    · rw [hkeepReuse.units, hkeepCdc.units]
    · rw [hunits]
      exact hkeepResume.units
    · exact fun fileId hmem => Manifest.lt_length_of_classOf (hlarge fileId hmem)
    · exact fun fileId hmem => (hactive fileId hmem).1
    · exact hknown
    · intro fileId hmem
      obtain ⟨unit, hunit, rfl⟩ := (hactive fileId hmem).2
      rw [hkeepCdc.units, List.mem_filter, decide_eq_true_eq] at hunit
      exact hunit.2
    · exact hstripes

/-- A tiny file of five bytes. -/
def twin (name : String) : ManifestEntry where
  relativePath := utf16 name
  fileSize := 5
  lastWriteTime := 1
  fileAttributes := 0
  fileClass := .tiny
  fileSize_lt := five_lt_u64Limit
  lastWriteTime_lt := one_lt_u64Limit

/-- A manifest of two equal files. -/
def twins : Manifest := [twin "left", twin "right"]

theorem twins_classified : twins.Classified := by
  intro entry hentry
  simp only [twins, List.mem_cons, List.not_mem_nil, or_false] at hentry
  rcases hentry with rfl | rfl <;> norm_num [twin, classifyFile, tinyFileMaxBytes]

/-- Their plan on one lane. -/
def twinPlan : TransferPlan := { lanes := [[.tinyPack [0, 1] 10]] }

theorem buildTransferPlan_twins : buildTransferPlan .stable twins 1 = .ok twinPlan := by
  decide +kernel

/-- The second file is a copy of the first. -/
def twinReuse : ExactReusePlan where
  entries := [⟨0, 1, ⟨List.replicate 32 0, rfl⟩⟩]

end NetworkCopy
