import NetworkCopy.PlanRewrite
import NetworkCopy.TransferPlanCoverage

/-!
# The units of a plan

A tiny pack can lose members and a large file can lose stripes, so tasks are not
the right granularity to count in.  A *unit* is what is credited or transferred
as a whole: one stripe, or one tiny or medium file.

The units of a built plan are those of the manifest, `manifestUnits`, in some
order (`plan_units_perm`), and each of the three rewriters is a filter on units.
-/

namespace NetworkCopy

/-- One stripe of a large file, or one whole file. -/
inductive TransferUnit where
  | file (fileId : Nat)
  | stripe (fileId offset length : Nat)
  deriving DecidableEq, Repr

namespace TransferUnit

/-- The file a unit belongs to. -/
def fileId : TransferUnit → Nat
  | .file fileId => fileId
  | .stripe fileId _ _ => fileId

/-- The number of files a unit counts for: a stripe counts when it is the first
of its file. -/
def files : TransferUnit → Nat
  | .file _ => 1
  | .stripe _ offset _ => if offset = 0 then 1 else 0

/-- The bytes of a unit. -/
def bytes (manifest : Manifest) : TransferUnit → Nat
  | .file fileId => manifest.sizeOf fileId
  | .stripe _ _ length => length

/-- Whether a unit is a stripe of the given set. -/
def InStripes (stripes : Finset ResumeStripe) : TransferUnit → Prop
  | .file _ => False
  | .stripe fileId offset length => ⟨fileId, offset, length⟩ ∈ stripes

instance (stripes : Finset ResumeStripe) (unit : TransferUnit) :
    Decidable (unit.InStripes stripes) :=
  match unit with
  | .file _ => inferInstanceAs (Decidable False)
  | .stripe fileId offset length =>
      inferInstanceAs (Decidable (⟨fileId, offset, length⟩ ∈ stripes))

end TransferUnit

/-- The units of one task. -/
def TransferTask.units : TransferTask → List TransferUnit
  | .wholeFile fileId => [.file fileId]
  | .tinyPack fileIds _ => fileIds.map .file
  | .stripe fileId offset length => [.stripe fileId offset length]

/-- The number of files a task counts for. -/
def TransferTask.files : TransferTask → Nat
  | .wholeFile _ => 1
  | .tinyPack fileIds _ => fileIds.length
  | .stripe _ offset _ => if offset = 0 then 1 else 0

/-- The units of all lanes. -/
def TransferPlan.units (plan : TransferPlan) : List TransferUnit :=
  plan.tasks.flatMap TransferTask.units

/-- The units of one manifest file. -/
def fileUnits (manifest : Manifest) (dataStreamCount fileId : Nat) : List TransferUnit :=
  if manifest.classOf fileId = some .large then
    (stripePieces (manifest.sizeOf fileId)
        (stripeCountOf (manifest.sizeOf fileId) dataStreamCount)).map
      (fun piece => .stripe fileId piece.1 piece.2)
  else [.file fileId]

/-- The units of a manifest. -/
def manifestUnits (manifest : Manifest) (dataStreamCount : Nat) : List TransferUnit :=
  (List.range manifest.length).flatMap (fileUnits manifest dataStreamCount)

/-! ## The units of one file -/

variable {manifest : Manifest}

theorem fileId_of_mem_fileUnits {dataStreamCount fileId : Nat} {unit : TransferUnit}
    (hmem : unit ∈ fileUnits manifest dataStreamCount fileId) :
    unit.fileId = fileId := by
  unfold fileUnits at hmem
  split at hmem
  · rw [List.mem_map] at hmem
    obtain ⟨piece, _, rfl⟩ := hmem
    rfl
  · rw [List.mem_singleton] at hmem
    subst hmem
    rfl

/-- The units of a file count for exactly one file. -/
theorem sum_files_fileUnits (hmanifest : manifest.Classified) (dataStreamCount fileId : Nat) :
    ((fileUnits manifest dataStreamCount fileId).map TransferUnit.files).sum = 1 := by
  unfold fileUnits
  split
  · rename_i hlarge
    have htile := stripesTile_stripePieces (hmanifest.large_pos hlarge)
      (stripeCountOf_pos (manifest.sizeOf fileId) dataStreamCount)
      (stripeSize_le_max (manifest.sizeOf fileId) dataStreamCount)
    have hfirst := htile.first
    rw [List.countP_eq_length_filter] at hfirst
    rw [List.map_map]
    have hsum := List.sum_map_ite (fun piece : Nat × Nat => piece.1 = 0) (fun _ => 1)
      (fun _ => 0) (stripePieces (manifest.sizeOf fileId)
        (stripeCountOf (manifest.sizeOf fileId) dataStreamCount))
    simp only [List.map_const', List.sum_replicate, hfirst] at hsum
    exact hsum.trans (by simp)
  · rfl

/-- The units of a file have its size. -/
theorem sum_bytes_fileUnits (manifest : Manifest) (dataStreamCount fileId : Nat) :
    ((fileUnits manifest dataStreamCount fileId).map (TransferUnit.bytes manifest)).sum =
      manifest.sizeOf fileId := by
  unfold fileUnits
  split
  · rw [List.map_map]
    exact sum_stripePieces (stripeCountOf_pos _ _)
  · simp [TransferUnit.bytes]

theorem nodup_fileUnits (manifest : Manifest) (dataStreamCount fileId : Nat) :
    (fileUnits manifest dataStreamCount fileId).Nodup := by
  unfold fileUnits
  split
  · refine List.Nodup.map ?_ ?_
    · rintro ⟨leftOffset, leftLength⟩ ⟨rightOffset, rightLength⟩ h
      simpa using h
    · refine (List.Pairwise.and_mem.mp (stripePieces_pairwise _ _)).imp ?_
      rintro left right ⟨hleft, _, hle⟩ rfl
      have hpos := length_pos_of_mem_stripePieces hleft
      omega
  · simp

theorem fileUnits_ne_nil (hmanifest : manifest.Classified) (dataStreamCount fileId : Nat) :
    fileUnits manifest dataStreamCount fileId ≠ [] := by
  intro hnil
  have hsum := sum_files_fileUnits hmanifest dataStreamCount fileId
  rw [hnil] at hsum
  simp at hsum

/-! ## The units of a manifest -/

theorem mem_manifestUnits {dataStreamCount : Nat} {unit : TransferUnit} :
    unit ∈ manifestUnits manifest dataStreamCount ↔
      unit.fileId < manifest.length ∧
        unit ∈ fileUnits manifest dataStreamCount unit.fileId := by
  simp only [manifestUnits, List.mem_flatMap, List.mem_range]
  constructor
  · rintro ⟨fileId, hid, hmem⟩
    rw [fileId_of_mem_fileUnits hmem]
    exact ⟨hid, hmem⟩
  · rintro ⟨hid, hmem⟩
    exact ⟨unit.fileId, hid, hmem⟩

theorem nodup_manifestUnits (manifest : Manifest) (dataStreamCount : Nat) :
    (manifestUnits manifest dataStreamCount).Nodup := by
  rw [manifestUnits, List.nodup_flatMap]
  refine ⟨fun fileId _ => nodup_fileUnits manifest dataStreamCount fileId, ?_⟩
  refine List.nodup_range.imp ?_
  intro left right hne unit hleft hright
  exact hne ((fileId_of_mem_fileUnits hleft).symm.trans (fileId_of_mem_fileUnits hright))

/-- Every file of the manifest has a unit. -/
theorem exists_unit (hmanifest : manifest.Classified) (dataStreamCount : Nat) {fileId : Nat}
    (hid : fileId < manifest.length) :
    ∃ unit ∈ manifestUnits manifest dataStreamCount, unit.fileId = fileId := by
  obtain ⟨unit, hunit⟩ :=
    List.exists_mem_of_ne_nil _ (fileUnits_ne_nil hmanifest dataStreamCount fileId)
  have hfile := fileId_of_mem_fileUnits hunit
  refine ⟨unit, mem_manifestUnits.mpr ⟨?_, ?_⟩, hfile⟩
  · rw [hfile]; exact hid
  · rw [hfile]; exact hunit

/-- A weight summed over the units of some files is the sum over the files. -/
theorem sum_units_of_files (manifest : Manifest) (dataStreamCount : Nat)
    (weight : TransferUnit → Nat) {fileIds : Finset Nat}
    (hids : ∀ fileId ∈ fileIds, fileId < manifest.length) :
    (((manifestUnits manifest dataStreamCount).filter
        (fun unit => unit.fileId ∈ fileIds)).map weight).sum =
      ∑ fileId ∈ fileIds, ((fileUnits manifest dataStreamCount fileId).map weight).sum := by
  have hone : ∀ fileId, ((fileUnits manifest dataStreamCount fileId).filter
        (fun unit => unit.fileId ∈ fileIds)) =
      if fileId ∈ fileIds then fileUnits manifest dataStreamCount fileId else [] := by
    intro fileId
    split
    · rename_i hmem
      rw [List.filter_eq_self]
      intro unit hunit
      rw [fileId_of_mem_fileUnits hunit]
      exact decide_eq_true hmem
    · rename_i hmem
      rw [List.filter_eq_nil_iff]
      intro unit hunit
      rw [fileId_of_mem_fileUnits hunit, decide_eq_true_eq]
      exact hmem
  have hsubset : fileIds = (Finset.range manifest.length).filter (· ∈ fileIds) := by
    ext fileId
    simp only [Finset.mem_filter, Finset.mem_range]
    exact ⟨fun hmem => ⟨hids fileId hmem, hmem⟩, fun hmem => hmem.2⟩
  conv_rhs => rw [hsubset]
  rw [manifestUnits, List.filter_flatMap, List.map_flatMap, List.flatMap_def,
    List.sum_flatten, List.map_map, Finset.sum_filter, ← List.toFinset_range,
    List.sum_toFinset _ List.nodup_range]
  refine congrArg List.sum (List.map_congr_left ?_)
  intro fileId _
  simp only [Function.comp_apply, hone]
  split <;> simp

/-- The units of a built plan are those of the manifest. -/
theorem plan_units_perm {sort : UnstableSort} (hmanifest : manifest.Classified)
    {dataStreamCount : Nat} (hcount : 0 < dataStreamCount) (hstreams : dataStreamCount ≤ 32)
    {plan : TransferPlan} (hplan : buildTransferPlan sort manifest dataStreamCount = .ok plan) :
    plan.units.Perm (manifestUnits manifest dataStreamCount) := by
  obtain ⟨_, packs, _, hflat, hperm⟩ :=
    buildTransferPlan_perm hmanifest hcount hstreams hplan
  have hlarge : (largeTasks manifest dataStreamCount).flatMap TransferTask.units =
      (manifest.idsOfClass .large).flatMap (fileUnits manifest dataStreamCount) := by
    rw [largeTasks, List.flatMap_assoc]
    refine List.flatMap_congr ?_
    intro fileId hmem
    rw [fileUnits, if_pos (Manifest.mem_idsOfClass.mp hmem), List.flatMap_map]
    exact List.flatMap_pure_eq_map _ _
  have hsmall : ∀ fileClass ≠ FileClass.large, ∀ ids : List Nat,
      ids.Perm (manifest.idsOfClass fileClass) →
      (ids.map TransferUnit.file).Perm ((manifest.idsOfClass fileClass).flatMap
        (fileUnits manifest dataStreamCount)) := by
    intro fileClass hclass ids hids
    have hfile : (manifest.idsOfClass fileClass).flatMap (fileUnits manifest dataStreamCount) =
        (manifest.idsOfClass fileClass).map TransferUnit.file := by
      rw [← List.flatMap_pure_eq_map]
      refine List.flatMap_congr ?_
      intro fileId hmem
      rw [fileUnits, if_neg]
      · rfl
      · rw [Manifest.mem_idsOfClass.mp hmem, Option.some.injEq]
        exact hclass
    rw [hfile]
    exact hids.map _
  have hmedium : ((sort.run manifest.sizeOf (manifest.idsOfClass .medium)).map
      TransferTask.wholeFile).flatMap TransferTask.units =
        (sort.run manifest.sizeOf (manifest.idsOfClass .medium)).map .file := by
    rw [List.flatMap_map]
    exact List.flatMap_pure_eq_map _ _
  have htiny : (packs.map (fun pack => TransferTask.tinyPack pack.1 pack.2)).flatMap
      TransferTask.units = (manifest.idsOfClass .tiny).map .file := by
    rw [← hflat, List.flatMap_map, List.map_flatMap]
    rfl
  refine (hperm.symm.flatMap_right TransferTask.units).trans ?_
  refine List.Perm.trans ?_
    (manifest.range_perm_idsOfClass.flatMap_right (fileUnits manifest dataStreamCount)).symm
  rw [plannedTasks, List.flatMap_append, List.flatMap_append, List.flatMap_append,
    List.flatMap_append, hlarge, hmedium, htiny]
  refine List.Perm.append_left _ (List.Perm.append ?_ ?_)
  · exact hsmall .medium (by simp) _ (sort.perm _ _)
  · exact hsmall .tiny (by simp) _ (List.Perm.refl _)

end NetworkCopy
