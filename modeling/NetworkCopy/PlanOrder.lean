import NetworkCopy.PlanBalance

/-!
# The order of equal files

`sort_unstable_by` sorts the medium files by their sizes only.  Two medium files of one size may
therefore come in either order, and the plan with the two of them exchanged is also a plan.
-/

namespace NetworkCopy

/-! ## Exchanging file IDs in a plan -/

variable (f : Nat → Nat)

/-- A task with other whole files. -/
def TransferTask.relabel (f : Nat → Nat) : TransferTask → TransferTask
  | .wholeFile fileId => .wholeFile (f fileId)
  | task => task

/-- The state of the planner with other whole files. -/
def LaneAssignment.relabel (f : Nat → Nat) (state : LaneAssignment) : LaneAssignment where
  lanes := state.lanes.map (List.map (TransferTask.relabel f))
  assignedBytes := state.assignedBytes

theorem LaneAssignment.relabel_empty (dataStreamCount : Nat) :
    (LaneAssignment.empty dataStreamCount).relabel f = LaneAssignment.empty dataStreamCount := by
  simp [LaneAssignment.relabel, LaneAssignment.empty]

theorem leastLoadedLane_relabel (lanes : List (List TransferTask)) (assignedBytes : List Nat) :
    leastLoadedLane (lanes.map (List.map (TransferTask.relabel f))) assignedBytes =
      leastLoadedLane lanes assignedBytes := by
  have hlength : ∀ lane, ((lanes.map (List.map (TransferTask.relabel f))).getD lane []).length =
      (lanes.getD lane []).length := by
    intro lane
    rw [List.getD_eq_getElem?_getD, List.getD_eq_getElem?_getD, List.getElem?_map]
    cases lanes[lane]? <;> simp
  unfold leastLoadedLane
  simp only [hlength]

theorem modify_relabel (lanes : List (List TransferTask)) (lane : Nat) (task : TransferTask) :
    (lanes.map (List.map (TransferTask.relabel f))).modify lane (· ++ [task.relabel f]) =
      (lanes.modify lane (· ++ [task])).map (List.map (TransferTask.relabel f)) := by
  apply List.ext_getElem?
  intro index
  rw [List.getElem?_modify, List.getElem?_map, List.getElem?_map, List.getElem?_modify]
  cases lanes[index]? with
  | none => rfl
  | some tasks =>
    by_cases hsame : lane = index
    · simp [hsame]
    · simp [hsame]

theorem assignTask_relabel (overflow : String) (state : LaneAssignment)
    (item : TransferTask × Nat) :
    assignTask overflow (state.relabel f) (item.1.relabel f, item.2) =
      (assignTask overflow state item).map (LaneAssignment.relabel f) := by
  unfold assignTask
  show (leastLoadedLane (state.lanes.map (List.map (TransferTask.relabel f)))
    state.assignedBytes >>= _) = _
  rw [leastLoadedLane_relabel]
  cases leastLoadedLane state.lanes state.assignedBytes with
  | error error => rfl
  | ok lane =>
    rw [ok_bind, ok_bind]
    show (okOrElse (checkedAdd (state.assignedBytes.getD lane 0) item.2) _ >>= _) = _
    cases checkedAdd (state.assignedBytes.getD lane 0) item.2 with
    | none => rfl
    | some total =>
      show Except.ok (LaneAssignment.mk
        ((state.lanes.map (List.map (TransferTask.relabel f))).modify lane _) _) = _
      rw [modify_relabel]
      rfl

/-- A loop commutes with a relabelling when its turns do. -/
theorem map_bind_relabel {f : Nat → Nat} {result : IoResult LaneAssignment}
    {next next' : LaneAssignment → IoResult LaneAssignment}
    (h : ∀ state, next' (state.relabel f) = (next state).map (LaneAssignment.relabel f)) :
    (result.map (LaneAssignment.relabel f) >>= next') =
      (result >>= next).map (LaneAssignment.relabel f) := by
  cases result with
  | error error => rfl
  | ok state => exact h state

theorem foldlM_relabel (overflow : String) (items : List (TransferTask × Nat)) :
    ∀ state : LaneAssignment,
      (items.map (fun item => (item.1.relabel f, item.2))).foldlM (assignTask overflow)
          (state.relabel f) =
        (items.foldlM (assignTask overflow) state).map (LaneAssignment.relabel f) := by
  induction items with
  | nil => intro state; rfl
  | cons item rest ih =>
    intro state
    rw [List.map_cons, List.foldlM_cons, List.foldlM_cons, assignTask_relabel]
    exact map_bind_relabel ih

theorem assignStripes_relabel (fileId fileSize stripeCount : Nat) (stripeIds : List Nat) :
    ∀ state : LaneAssignment,
      assignStripes fileId fileSize stripeCount stripeIds (state.relabel f) =
        (assignStripes fileId fileSize stripeCount stripeIds state).map
          (LaneAssignment.relabel f) := by
  induction stripeIds with
  | nil => intro state; rfl
  | cons stripeId rest ih =>
    intro state
    rw [assignStripes, assignStripes]
    cases stripeRange fileSize stripeId stripeCount with
    | error error => rfl
    | ok range =>
      rw [ok_bind, ok_bind]
      by_cases hzero : range.2 = 0
      · rw [if_pos hzero, if_pos hzero]
        exact ih state
      · rw [if_neg hzero, if_neg hzero]
        have hturn := assignTask_relabel f "striped lane size overflowed" state
          (.stripe fileId range.1 range.2, range.2)
        change assignTask _ _ (TransferTask.stripe fileId range.1 range.2, range.2) = _ at hturn
        rw [hturn]
        exact map_bind_relabel ih

theorem assignLargeFiles_relabel (manifest : Manifest) (dataStreamCount : Nat)
    (fileIds : List Nat) : ∀ state : LaneAssignment,
      assignLargeFiles manifest dataStreamCount fileIds (state.relabel f) =
        (assignLargeFiles manifest dataStreamCount fileIds state).map
          (LaneAssignment.relabel f) := by
  induction fileIds with
  | nil => intro state; rfl
  | cons fileId rest ih =>
    intro state
    rw [assignLargeFiles, assignLargeFiles]
    cases largeFileStripeCount (manifest.sizeOf fileId) dataStreamCount with
    | error error => rfl
    | ok stripeCount =>
      rw [ok_bind, ok_bind, assignStripes_relabel]
      exact map_bind_relabel ih

/-! ## Sorts -/

/-- The sort that returns the same lists with two file IDs exchanged, where these have one key. -/
def UnstableSort.exchange (sort : UnstableSort) (left right : Nat) : UnstableSort where
  run key ids :=
    if key left = key right ∧ (ids.map (Equiv.swap left right)).Perm ids then
      (sort.run key ids).map (Equiv.swap left right)
    else sort.run key ids
  perm key ids := by
    split
    · rename_i h
      exact ((sort.perm key ids).map _).trans h.2
    · exact sort.perm key ids
  sorted key ids := by
    split
    · rename_i h
      rw [List.pairwise_map]
      have hkey : ∀ fileId, key (Equiv.swap left right fileId) = key fileId := by
        intro fileId
        by_cases hleft : fileId = left
        · rw [hleft, Equiv.swap_apply_left, h.1]
        · by_cases hright : fileId = right
          · rw [hright, Equiv.swap_apply_right, h.1]
          · rw [Equiv.swap_apply_of_ne_of_ne hleft hright]
      simpa only [hkey] using sort.sorted key ids
    · exact sort.sorted key ids

/-- Two different medium files have different sizes. -/
def Manifest.MediumSizesDiffer (manifest : Manifest) : Prop :=
  ∀ left right, manifest.classOf left = some .medium → manifest.classOf right = some .medium →
    manifest.sizeOf left = manifest.sizeOf right → left = right

/-- With different sizes there is one order. -/
theorem sort_unique {manifest : Manifest} (h : manifest.MediumSizesDiffer)
    (sort sort' : UnstableSort) :
    sort.run manifest.sizeOf (manifest.idsOfClass .medium) =
      sort'.run manifest.sizeOf (manifest.idsOfClass .medium) := by
  refine List.Perm.eq_of_pairwise ?_ (sort.sorted _ _) (sort'.sorted _ _)
    ((sort.perm _ _).trans (sort'.perm _ _).symm)
  intro left right hleft hright hle hge
  have hclass : ∀ {sort : UnstableSort} {fileId : Nat},
      fileId ∈ sort.run manifest.sizeOf (manifest.idsOfClass .medium) →
        manifest.classOf fileId = some .medium :=
    fun hmem => Manifest.mem_idsOfClass.mp ((UnstableSort.perm _ _ _).mem_iff.mp hmem)
  exact h left right (hclass hleft) (hclass hright) (le_antisymm hge hle)

variable {sort : UnstableSort} {manifest : Manifest} {dataStreamCount : Nat} {plan : TransferPlan}

/-- The other order gives the plan with the two files exchanged. -/
theorem buildTransferPlan_exchange {left right : Nat}
    (hleft : manifest.classOf left = some .medium) (hright : manifest.classOf right = some .medium)
    (hsize : manifest.sizeOf left = manifest.sizeOf right)
    (hplan : buildTransferPlan sort manifest dataStreamCount = .ok plan) :
    buildTransferPlan (sort.exchange left right) manifest dataStreamCount =
      .ok ⟨plan.lanes.map (List.map (TransferTask.relabel (Equiv.swap left right)))⟩ := by
  have hsame : ∀ fileId, manifest.classOf (Equiv.swap left right fileId) =
      manifest.classOf fileId ∧ manifest.sizeOf (Equiv.swap left right fileId) =
        manifest.sizeOf fileId := by
    intro fileId
    by_cases hfirst : fileId = left
    · rw [hfirst, Equiv.swap_apply_left, hleft, hright, hsize]
      exact ⟨rfl, rfl⟩
    · by_cases hsecond : fileId = right
      · rw [hsecond, Equiv.swap_apply_right, hleft, hright, hsize]
        exact ⟨rfl, rfl⟩
      · rw [Equiv.swap_apply_of_ne_of_ne hfirst hsecond]
        exact ⟨rfl, rfl⟩
  have hperm : ((manifest.idsOfClass .medium).map (Equiv.swap left right)).Perm
      (manifest.idsOfClass .medium) := by
    have hnodup := manifest.idsOfClass_nodup .medium
    rw [List.perm_ext_iff_of_nodup (hnodup.map (Equiv.swap left right).injective) hnodup]
    intro fileId
    rw [List.mem_map, Manifest.mem_idsOfClass]
    constructor
    · intro hmapped
      obtain ⟨other, hother, himage⟩ := hmapped
      rw [← himage, (hsame other).1]
      exact Manifest.mem_idsOfClass.mp hother
    · intro hmedium
      refine ⟨Equiv.swap left right fileId, ?_, Equiv.swap_apply_self _ _ _⟩
      rw [Manifest.mem_idsOfClass, (hsame fileId).1]
      exact hmedium
  have hrun : (sort.exchange left right).run manifest.sizeOf (manifest.idsOfClass .medium) =
      (sort.run manifest.sizeOf (manifest.idsOfClass .medium)).map (Equiv.swap left right) :=
    if_pos ⟨hsize, hperm⟩
  unfold buildTransferPlan at hplan ⊢
  obtain ⟨first, hlarge, hplan⟩ := bind_eq_ok.mp hplan
  dsimp only at hplan
  obtain ⟨second, hmedium, hplan⟩ := bind_eq_ok.mp hplan
  obtain ⟨packs, hpacks, hplan⟩ := bind_eq_ok.mp hplan
  obtain ⟨third, htiny, hplan⟩ := bind_eq_ok.mp hplan
  cases hplan
  -- The stripes are not affected.
  have hfirst : first.relabel (Equiv.swap left right) = first := by
    have hrelabel := assignLargeFiles_relabel (Equiv.swap left right) manifest dataStreamCount
      (manifest.idsOfClass .large) (LaneAssignment.empty dataStreamCount)
    rw [LaneAssignment.relabel_empty, hlarge] at hrelabel
    exact (Except.ok.inj hrelabel).symm
  have hsecond : (((sort.run manifest.sizeOf (manifest.idsOfClass .medium)).map
        (Equiv.swap left right)).map
          (fun fileId => (TransferTask.wholeFile fileId, manifest.sizeOf fileId))).foldlM
      (assignTask "data-lane assignment size overflowed") first =
      .ok (second.relabel (Equiv.swap left right)) := by
    have hitems := foldlM_relabel (Equiv.swap left right) "data-lane assignment size overflowed"
      ((sort.run manifest.sizeOf (manifest.idsOfClass .medium)).map
        (fun fileId => (TransferTask.wholeFile fileId, manifest.sizeOf fileId))) first
    rw [hmedium, hfirst, List.map_map] at hitems
    rw [List.map_map]
    refine Eq.trans (congrArg (fun items => List.foldlM _ first items) ?_) hitems
    apply List.map_congr_left
    intro fileId _
    simp only [Function.comp_apply, TransferTask.relabel, (hsame fileId).2]
  have hthird : (packs.map (fun pack => (TransferTask.tinyPack pack.1 pack.2, pack.2))).foldlM
      (assignTask "tiny-pack lane size overflowed") (second.relabel (Equiv.swap left right)) =
      .ok (third.relabel (Equiv.swap left right)) := by
    have hitems := foldlM_relabel (Equiv.swap left right) "tiny-pack lane size overflowed"
      (packs.map (fun pack => (TransferTask.tinyPack pack.1 pack.2, pack.2))) second
    rw [htiny, List.map_map] at hitems
    exact hitems
  rw [hlarge, ok_bind]
  dsimp only
  rw [hrun, hsecond, ok_bind, hpacks, ok_bind, hthird, ok_bind]
  rfl

/-- A medium file has its task in a plan. -/
theorem wholeFile_mem_plan {fileId : Nat} (hclass : manifest.classOf fileId = some .medium)
    (hplan : buildTransferPlan sort manifest dataStreamCount = .ok plan) :
    ∃ lane ∈ plan.lanes, TransferTask.wholeFile fileId ∈ lane := by
  obtain ⟨items, state, hplaced, hlanes, ⟨hitems, _⟩, hmedium⟩ :=
    placed_of_buildTransferPlan hplan
  have hmem := (LaneAssignment.tracked_empty manifest dataStreamCount).mem hplaced hitems
    (.inr (hmedium fileId hclass))
  rw [hlanes]
  exact List.mem_flatten.mp hmem

/-- A list that a function does not change consists of values that it does not change. -/
theorem fixed_of_map_eq {α : Type} {f : α → α} {values : List α} (h : values.map f = values) :
    ∀ value ∈ values, f value = value :=
  List.map_inj_left.mp (h.trans (List.map_id values).symm)

/-- The plan does not depend on the sort exactly when no two medium files have one size. -/
theorem transferPlan_unique_iff
    (hplan : buildTransferPlan sort manifest dataStreamCount = .ok plan) :
    (∀ sort', buildTransferPlan sort' manifest dataStreamCount = .ok plan) ↔
      manifest.MediumSizesDiffer := by
  constructor
  · intro hall left right hleft hright hsize
    have hother := hall (sort.exchange left right)
    rw [buildTransferPlan_exchange hleft hright hsize hplan] at hother
    have hlanes : plan.lanes.map (List.map (TransferTask.relabel (Equiv.swap left right))) =
        plan.lanes := congrArg TransferPlan.lanes (Except.ok.inj hother)
    obtain ⟨lane, hlane, htask⟩ := wholeFile_mem_plan hleft hplan
    have hfixed : lane.map (TransferTask.relabel (Equiv.swap left right)) = lane :=
      fixed_of_map_eq hlanes lane hlane
    have hsame := fixed_of_map_eq hfixed _ htask
    simp only [TransferTask.relabel, Equiv.swap_apply_left, TransferTask.wholeFile.injEq] at hsame
    exact hsame.symm
  · intro hdiffer sort'
    rw [← hplan]
    unfold buildTransferPlan
    rw [sort_unique hdiffer sort' sort]

/-- The plan of the three files is the same for every sort. -/
theorem transferPlan_unique_threeFiles :
    ∃ plan, ∀ sort', buildTransferPlan sort' threeFiles 2 = .ok plan := by
  cases hbuild : buildTransferPlan .stable threeFiles 2 with
  | ok plan =>
      refine ⟨plan, (transferPlan_unique_iff hbuild).mpr ?_⟩
      have honly : ∀ fileId, threeFiles.classOf fileId = some .medium → fileId = 1 := by
        intro fileId hclass
        match fileId, hclass with
        | 0, habsurd => cases habsurd
        | 1, _ => rfl
        | 2, habsurd => cases habsurd
        | _ + 3, habsurd => cases habsurd
      intro left right hleft hright _
      rw [honly left hleft, honly right hright]
  | error error =>
      have hlimit := (buildTransferPlan_eq_error threeFiles_classified (by omega) (by omega)
        hbuild).2
      norm_num [threeFiles, Manifest.totalBytes, u64Limit] at hlimit

/-- Two medium files of one size. -/
def twoMediumFiles : Manifest :=
  ["left", "right"].map (fun name =>
    { relativePath := utf16 name, fileSize := 300000, lastWriteTime := 1, fileAttributes := 0
      fileClass := .medium, fileSize_lt := medium_lt_u64Limit
      lastWriteTime_lt := one_lt_u64Limit })

/-- A sort that can be evaluated. -/
def UnstableSort.insertion : UnstableSort where
  run := fun key ids => ids.insertionSort (fun left right => key right ≤ key left)
  perm := fun _ ids => List.perm_insertionSort _ ids
  sorted := fun key ids => by
    have : Std.Total (fun left right : Nat => key right ≤ key left) :=
      ⟨fun left right => le_total (key right) (key left)⟩
    have : IsTrans Nat (fun left right => key right ≤ key left) :=
      ⟨fun _ _ _ hfirst hsecond => hsecond.trans hfirst⟩
    exact List.pairwise_insertionSort _ ids

/-- The two files of one size come in either order, so that one side expects the second file where
the other one sends the first. -/
theorem transferPlan_depends_on_sort : ∃ sort sort' plan plan',
    buildTransferPlan sort twoMediumFiles 1 = .ok plan ∧
      buildTransferPlan sort' twoMediumFiles 1 = .ok plan' ∧
      plan.lanes = [[.wholeFile 0, .wholeFile 1]] ∧
      plan'.lanes = [[.wholeFile 1, .wholeFile 0]] := by
  have hplan : buildTransferPlan .insertion twoMediumFiles 1 =
      .ok ⟨[[.wholeFile 0, .wholeFile 1]]⟩ := by
    with_unfolding_all rfl
  exact ⟨_, _, _, _, hplan, @buildTransferPlan_exchange .insertion twoMediumFiles 1 _ 0 1 rfl rfl rfl
    hplan,
    rfl, rfl⟩

end NetworkCopy
