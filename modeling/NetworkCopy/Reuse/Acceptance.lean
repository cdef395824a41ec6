import NetworkCopy.Reuse.Classes

/-!
# The validator accepts what the planner makes

`apply_exact_reuse_plan` checks each entry, that no basis is a target and that all files are active,
and rebuilds the tiny packs.  A plan that leads each file to the first of its class passes: files of
one size have one class, the sizes of the targets do not exceed the total of the manifest, and the
members of a pack that stay are tiny files within the limit.
-/

namespace NetworkCopy

/-! ## The planned files -/

variable {manifest : Manifest}

/-- A file is planned when the plan has a unit of it. -/
theorem mem_planned_iff {plan : TransferPlan} {fileId : Nat} :
    fileId ∈ plannedExactReuseFileIds plan ↔ ∃ unit ∈ plan.units, unit.fileId = fileId := by
  refine ⟨exists_unit_of_planned, fun hunit => ?_⟩
  obtain ⟨unit, hmem, hsame⟩ := hunit
  obtain ⟨task, htask, hunits⟩ := List.mem_flatMap.mp hmem
  rw [plannedExactReuseFileIds, List.mem_toFinset, List.mem_flatMap]
  refine ⟨task, htask, ?_⟩
  cases task with
  | wholeFile wholeId =>
    rw [TransferTask.units, List.mem_singleton] at hunits
    rw [hunits] at hsame
    exact List.mem_singleton.mpr hsame.symm
  | tinyPack fileIds totalBytes =>
    obtain ⟨member, hmember, hfile⟩ := List.mem_map.mp hunits
    rw [← hfile] at hsame
    have hid : member = fileId := hsame
    rw [← hid]
    exact hmember
  | stripe stripeId offset length =>
    rw [TransferTask.units, List.mem_singleton] at hunits
    rw [hunits] at hsame
    exact List.mem_singleton.mpr hsame.symm

/-- A built plan transfers every file of the manifest. -/
theorem planned_of_buildTransferPlan {sort : UnstableSort} (hmanifest : manifest.Classified)
    {dataStreamCount : Nat} (hcount : 0 < dataStreamCount) (hstreams : dataStreamCount ≤ 32)
    {plan : TransferPlan} (hplan : buildTransferPlan sort manifest dataStreamCount = .ok plan) :
    plannedExactReuseFileIds plan = Finset.range manifest.length := by
  have hperm := plan_units_perm hmanifest hcount hstreams hplan
  ext fileId
  rw [mem_planned_iff, Finset.mem_range]
  constructor
  · intro hunit
    obtain ⟨unit, hmem, hsame⟩ := hunit
    rw [← hsame]
    exact (mem_manifestUnits.mp (hperm.mem_iff.mp hmem)).1
  · intro hid
    obtain ⟨unit, hmem, hsame⟩ := exists_unit hmanifest dataStreamCount hid
    exact ⟨unit, hperm.mem_iff.mpr hmem, hsame⟩

/-! ## The walk -/

variable {fileIds : List Nat}

theorem rewriteLane_ok {σ : Type} {visit : σ → TransferTask → IoResult (σ × Option TransferTask)}
    {lane : List TransferTask}
    (hvisit : ∀ task ∈ lane, ∀ state, ∃ visited, visit state task = .ok visited) :
    ∀ state, ∃ rewritten, rewriteLane visit lane state = .ok rewritten := by
  induction lane with
  | nil => exact fun state => ⟨_, rfl⟩
  | cons task rest ih =>
    intro state
    obtain ⟨visited, hvisited⟩ := hvisit task List.mem_cons_self state
    obtain ⟨remaining, hremaining⟩ := ih
      (fun other hother => hvisit other (List.mem_cons_of_mem _ hother)) visited.1
    rw [rewriteLane, hvisited, ok_bind, hremaining]
    exact ⟨_, rfl⟩

/-- The walk succeeds when every visit does. -/
theorem rewriteLanes_ok {σ : Type} {visit : σ → TransferTask → IoResult (σ × Option TransferTask)}
    {lanes : List (List TransferTask)}
    (hvisit : ∀ task ∈ lanes.flatten, ∀ state, ∃ visited, visit state task = .ok visited) :
    ∀ state, ∃ rewritten, rewriteLanes visit lanes state = .ok rewritten := by
  induction lanes with
  | nil => exact fun state => ⟨_, rfl⟩
  | cons lane rest ih =>
    intro state
    rw [List.flatten_cons] at hvisit
    obtain ⟨rewritten, hrewritten⟩ := rewriteLane_ok
      (fun task htask => hvisit task (List.mem_append_left _ htask)) state
    obtain ⟨remaining, hremaining⟩ := ih
      (fun task htask => hvisit task (List.mem_append_right _ htask)) rewritten.1
    rw [rewriteLanes, hrewritten, ok_bind, hremaining]
    exact ⟨_, rfl⟩

/-- The size loop of a pack of tiny files. -/
theorem tinyPackBytes_ok :
    ∀ bytes : Nat, (∀ fileId ∈ fileIds, manifest.classOf fileId = some .tiny) →
      bytes + (fileIds.map manifest.sizeOf).sum < u64Limit →
      tinyPackBytes manifest fileIds bytes = .ok (bytes + (fileIds.map manifest.sizeOf).sum) := by
  induction fileIds with
  | nil => exact fun _ _ _ => by simp [tinyPackBytes]
  | cons fileId rest ih =>
    intro bytes htiny hbytes
    have hclass := htiny fileId List.mem_cons_self
    unfold Manifest.classOf at hclass
    obtain ⟨entry, hentry, hsame⟩ := Option.map_eq_some_iff.mp hclass
    have hsize := Manifest.sizeOf_eq hentry
    rw [List.map_cons, List.sum_cons, hsize] at hbytes
    have hadd : addCounter bytes entry.fileSize "tiny-pack byte count overflowed" =
        .ok (bytes + entry.fileSize) := addCounter_eq_ok.mpr ⟨by omega, rfl⟩
    have hrest := ih (bytes + entry.fileSize)
      (fun other hother => htiny other (List.mem_cons_of_mem _ hother)) (by omega)
    rw [tinyPackBytes, hentry, okOrElse_some, ok_bind, hsame, ensure, if_pos rfl, ok_bind, hadd,
      ok_bind, hrest, List.map_cons, List.sum_cons, hsize, Nat.add_assoc]

theorem rebuildTinyPack_ok (removed : Finset Nat)
    (htiny : ∀ fileId ∈ fileIds, manifest.classOf fileId = some .tiny)
    (hcount : fileIds.length ≤ maxTinyPackFiles)
    (hbytes : (fileIds.map manifest.sizeOf).sum < u64Limit) :
    ∃ rebuilt, rebuildTinyPack manifest removed fileIds = .ok rebuilt := by
  unfold rebuildTinyPack
  simp only
  by_cases hempty : fileIds.filter (fun fileId => fileId ∉ removed) = []
  · rw [if_pos hempty]
    exact ⟨_, rfl⟩
  · rw [if_neg hempty]
    have hsub : (fileIds.filter (fun fileId => fileId ∉ removed)).Sublist fileIds :=
      List.filter_sublist
    have hlength := hsub.length_le
    have hsum : ((fileIds.filter (fun fileId => fileId ∉ removed)).map manifest.sizeOf).sum ≤
        (fileIds.map manifest.sizeOf).sum := (hsub.map _).sum_le_sum (fun _ _ => Nat.zero_le _)
    have hpack := tinyPackBytes_ok 0
      (fun fileId hfileId => htiny fileId (hsub.subset hfileId)) (by omega)
    unfold summarizeTinyPack
    rw [ensure, if_pos ⟨hempty, by omega⟩, ok_bind, hpack]
    exact ⟨_, rfl⟩

/-! ## The checks -/

/-- What the validator asks of one entry. -/
structure Admissible (manifest : Manifest) (reuse : ExactFileReuse) : Prop where
  ne : reuse.basisFileId ≠ reuse.targetFileId
  basis : reuse.basisFileId < manifest.length
  target : reuse.targetFileId < manifest.length
  same_class : manifest.classOf reuse.basisFileId = manifest.classOf reuse.targetFileId
  not_empty : manifest.sizeOf reuse.basisFileId ≠ 0
  same_size : manifest.sizeOf reuse.basisFileId = manifest.sizeOf reuse.targetFileId

/-- The sizes of some files do not exceed the total. -/
theorem sum_sizeOf_le {fileIds : Finset Nat} (h : ∀ fileId ∈ fileIds, fileId < manifest.length) :
    ∑ fileId ∈ fileIds, manifest.sizeOf fileId ≤ manifest.totalBytes := by
  have hall : manifest.totalBytes = ∑ fileId ∈ Finset.range manifest.length,
      manifest.sizeOf fileId := by
    rw [Manifest.totalBytes_eq, ← List.toFinset_range, List.sum_toFinset _ List.nodup_range]
  rw [hall]
  exact Finset.sum_le_sum_of_subset
    (fun fileId hfileId => Finset.mem_range.mpr (h fileId hfileId))

theorem checkReuse_ok (htotal : manifest.totalBytes < u64Limit) {checks : ReuseChecks}
    {before : List ExactFileReuse} (hsound : checks.Sound manifest before)
    {reuse : ExactFileReuse} (h : Admissible manifest reuse)
    (hfresh : reuse.targetFileId ∉ checks.targetFileIds) :
    ∃ checks', checkReuse manifest checks reuse = .ok checks' ∧
      checks'.basisFileIds = insert reuse.basisFileId checks.basisFileIds := by
  obtain ⟨basis, hbasis⟩ : ∃ basis, manifest[reuse.basisFileId]? = some basis :=
    ⟨_, List.getElem?_eq_getElem h.basis⟩
  obtain ⟨target, htarget⟩ : ∃ target, manifest[reuse.targetFileId]? = some target :=
    ⟨_, List.getElem?_eq_getElem h.target⟩
  have hclass := h.same_class
  have hsize := h.same_size
  have hpos := h.not_empty
  rw [Manifest.classOf_eq hbasis, Manifest.classOf_eq htarget, Option.some.injEq] at hclass
  rw [Manifest.sizeOf_eq hbasis, Manifest.sizeOf_eq htarget] at hsize
  rw [Manifest.sizeOf_eq hbasis] at hpos
  have hbytes : checks.logicalBytes + target.fileSize < u64Limit := by
    have hknown : ∀ fileId ∈ insert reuse.targetFileId checks.targetFileIds,
        fileId < manifest.length := by
      intro fileId hfileId
      cases Finset.mem_insert.mp hfileId with
      | inl hsame => rw [hsame]; exact h.target
      | inr hold => exact hsound.known fileId hold
    have hsum := sum_sizeOf_le hknown
    rw [Finset.sum_insert hfresh, ← hsound.bytes, Manifest.sizeOf_eq htarget] at hsum
    omega
  refine ⟨{ targetFileIds := insert reuse.targetFileId checks.targetFileIds
            basisFileIds := insert reuse.basisFileId checks.basisFileIds
            logicalBytes := checks.logicalBytes + target.fileSize }, ?_, rfl⟩
  refine bind_eq_ok.mpr ⟨(), ensure_eq_ok.mpr h.ne, ?_⟩
  refine bind_eq_ok.mpr ⟨basis, okOrElse_eq_ok.mpr hbasis, ?_⟩
  refine bind_eq_ok.mpr ⟨target, okOrElse_eq_ok.mpr htarget, ?_⟩
  refine bind_eq_ok.mpr ⟨(), ensure_eq_ok.mpr hclass, ?_⟩
  refine bind_eq_ok.mpr ⟨(), ensure_eq_ok.mpr ⟨hpos, hsize⟩, ?_⟩
  refine bind_eq_ok.mpr ⟨(), ensure_eq_ok.mpr hfresh, ?_⟩
  exact bind_eq_ok.mpr ⟨_, addCounter_eq_ok.mpr ⟨hbytes, rfl⟩, rfl⟩

/-- The loop passes when each entry does and the targets differ. -/
theorem checkReuses_ok (htotal : manifest.totalBytes < u64Limit) {entries : List ExactFileReuse} :
    ∀ {before : List ExactFileReuse} {checks : ReuseChecks}, checks.Sound manifest before →
      (∀ reuse ∈ entries, Admissible manifest reuse) →
      ((before ++ entries).map ExactFileReuse.targetFileId).Nodup →
      ∃ checks', entries.foldlM (checkReuse manifest) checks = .ok checks' ∧
        checks'.basisFileIds =
          checks.basisFileIds ∪ (entries.map ExactFileReuse.basisFileId).toFinset := by
  induction entries with
  | nil =>
    intro before checks _ _ _
    exact ⟨checks, rfl, by simp⟩
  | cons reuse rest ih =>
    intro before checks hsound hadmissible hnodup
    have hfresh : reuse.targetFileId ∉ checks.targetFileIds := by
      rw [hsound.targets, List.mem_toFinset]
      rw [List.map_append, List.map_cons, List.nodup_append] at hnodup
      intro hmem
      exact hnodup.2.2 _ hmem _ List.mem_cons_self rfl
    obtain ⟨next, hnext, hbasis⟩ := checkReuse_ok htotal hsound
      (hadmissible reuse List.mem_cons_self) hfresh
    have hmiddle := hsound.step hnext
    obtain ⟨checks', hchecks, hbases⟩ := ih hmiddle
      (fun other hother => hadmissible other (List.mem_cons_of_mem _ hother))
      (by rw [List.append_assoc]; exact hnodup)
    refine ⟨checks', ?_, ?_⟩
    · rw [List.foldlM_cons, hnext, ok_bind]
      exact hchecks
    · rw [hbases, hbasis, List.map_cons, List.toFinset_cons, Finset.insert_union,
        Finset.union_insert]

theorem checkActive_ok {planned : Finset Nat} (h : ∀ fileId ∈ fileIds, fileId ∈ planned) :
    checkActive planned fileIds = .ok () := by
  induction fileIds with
  | nil => rfl
  | cons fileId rest ih =>
    rw [checkActive, ensure, if_pos (h fileId List.mem_cons_self), ok_bind]
    exact ih (fun other hother => h other (List.mem_cons_of_mem _ hother))

theorem exactReusePlanWireBytes_ok {entryCount : Nat} (h : entryCount ≤ maxUnchangedOfferFiles) :
    ∃ wireBytes, exactReusePlanWireBytes entryCount = .ok wireBytes := by
  unfold maxUnchangedOfferFiles at h
  have hrecords : entryCount * exactReuseRecordWireBytes + exactReusePlanFixedWireBytes <
      u64Limit := by
    unfold exactReuseRecordWireBytes exactReusePlanFixedWireBytes contentDigestBytes u64Limit
    omega
  have hmul : checkedMul entryCount exactReuseRecordWireBytes =
      some (entryCount * exactReuseRecordWireBytes) :=
    checkedMul_eq_some.mpr ⟨by omega, rfl⟩
  unfold exactReusePlanWireBytes
  rw [hmul, okOrElse_some, ok_bind]
  exact ⟨_, addCounter_eq_ok.mpr ⟨by omega, rfl⟩⟩

/-- The validator accepts a plan whose entries it admits, whose targets differ and whose bases are
not targets, when the files and the packs of the transfer plan are those of a built plan. -/
theorem applyExactReusePlan_ok {sort : UnstableSort} (hmanifest : manifest.Classified)
    (htotal : manifest.totalBytes < u64Limit) {dataStreamCount : Nat}
    (hcount : 0 < dataStreamCount) (hstreams : dataStreamCount ≤ 32)
    {transferPlan : TransferPlan}
    (hplan : buildTransferPlan sort manifest dataStreamCount = .ok transferPlan)
    {plan : ExactReusePlan} (hentries : plan.entries.length ≤ maxUnchangedOfferFiles)
    (hadmissible : ∀ reuse ∈ plan.entries, Admissible manifest reuse)
    (hnodup : (plan.entries.map ExactFileReuse.targetFileId).Nodup)
    (hchain : ∀ reuse ∈ plan.entries, ∀ other ∈ plan.entries,
      reuse.basisFileId ≠ other.targetFileId) :
    ∃ result, applyExactReusePlan transferPlan manifest plan true = .ok result := by
  have hempty : ReuseChecks.Sound manifest {} [] := ⟨rfl, rfl, rfl, by simp⟩
  obtain ⟨checks, hchecks, hbases⟩ := checkReuses_ok htotal hempty hadmissible hnodup
  have hsound : checks.Sound manifest plan.entries := hempty.run [] hchecks
  rw [Finset.empty_union] at hbases
  have hplanned := planned_of_buildTransferPlan hmanifest hcount hstreams hplan
  obtain ⟨_, hcovers⟩ := buildTransferPlan_eq_ok hmanifest hcount hstreams hplan
  obtain ⟨_, htiny⟩ := builtPlan_packs hmanifest hcount hstreams hplan
  have hactive : checkActive (plannedExactReuseFileIds transferPlan)
      (checks.basisFileIds.sort ++ checks.targetFileIds.sort) = .ok () := by
    apply checkActive_ok
    intro fileId hfileId
    rw [hplanned, Finset.mem_range]
    rw [List.mem_append, Finset.mem_sort, Finset.mem_sort, hbases, List.mem_toFinset] at hfileId
    cases hfileId with
    | inl hbasis =>
      obtain ⟨reuse, hreuse, hsame⟩ := List.mem_map.mp hbasis
      rw [← hsame]
      exact (hadmissible reuse hreuse).basis
    | inr htarget => exact hsound.known fileId htarget
  have hvisit : ∀ task ∈ transferPlan.lanes.flatten, ∀ state,
      ∃ visited, visitReused manifest checks.targetFileIds state task = .ok visited := by
    intro task htask state
    cases task with
    | wholeFile fileId =>
      rw [visitReused]
      split <;> exact ⟨_, rfl⟩
    | stripe fileId offset length =>
      rw [visitReused]
      split <;> exact ⟨_, rfl⟩
    | tinyPack fileIds totalBytes =>
      have hpack := hcovers.packs fileIds totalBytes htask
      have hlimit : (fileIds.map manifest.sizeOf).sum < u64Limit := by
        have htarget := hpack.target
        rw [hpack.total] at htarget
        refine lt_of_le_of_lt htarget ?_
        norm_num [tinyPackTargetBytes, maxTinyPackBytes, u64Limit]
      obtain ⟨rebuilt, hrebuilt⟩ := rebuildTinyPack_ok checks.targetFileIds
        (htiny fileIds totalBytes htask) hpack.fileLimit hlimit
      rw [visitReused, hrebuilt]
      exact ⟨_, rfl⟩
  obtain ⟨rewritten, hrewritten⟩ := rewriteLanes_ok hvisit ()
  obtain ⟨wireBytes, hwireBytes⟩ := exactReusePlanWireBytes_ok hentries
  have hfree : ∀ fileId ∈ checks.basisFileIds, fileId ∉ checks.targetFileIds := by
    intro fileId hbasis htarget
    rw [hbases, List.mem_toFinset] at hbasis
    rw [hsound.targets, List.mem_toFinset] at htarget
    obtain ⟨reuse, hreuse, hsame⟩ := List.mem_map.mp hbasis
    obtain ⟨other, hother, hsame'⟩ := List.mem_map.mp htarget
    exact hchain reuse hreuse other hother (hsame.trans hsame'.symm)
  unfold applyExactReusePlan
  rw [ensure, if_pos (.inl rfl), ok_bind, hchecks, ok_bind, ensure, if_pos hfree, ok_bind, hactive,
    ok_bind, hrewritten, ok_bind]
  simp only
  rw [hwireBytes, ok_bind]
  exact ⟨_, rfl⟩

end NetworkCopy
