import NetworkCopy.Lib.GreedyLanes
import NetworkCopy.TransferPlanCoverage

/-!
# The balance of the lanes

Each of the three loops of `build_transfer_plan` gives a task to a lane of least load.  A run of the
planner is one list of placements, so that what one placement keeps holds for the plan.
-/

namespace NetworkCopy

open GreedyLanes TransferTask

/-! ## Placements -/

variable {items : List (TransferTask × Nat)}
variable {first second : List (TransferTask × Nat)} {overflow : String}

/-- The items are placed one after the other. -/
inductive ItemsPlaced : LaneAssignment → List (TransferTask × Nat) → LaneAssignment → Prop
  | nil (state) : ItemsPlaced state [] state
  | cons {overflow state item middle rest state'} (h : assignTask overflow state item = .ok middle)
      (hrest : ItemsPlaced middle rest state') : ItemsPlaced state (item :: rest) state'

theorem ItemsPlaced.append {state middle state' : LaneAssignment}
    (hfirst : ItemsPlaced state first middle) (hsecond : ItemsPlaced middle second state') :
    ItemsPlaced state (first ++ second) state' := by
  induction hfirst with
  | nil => exact hsecond
  | cons h _ ih => exact .cons h (ih hsecond)

theorem placed_of_foldlM :
    ∀ {state state' : LaneAssignment}, items.foldlM (assignTask overflow) state = .ok state' →
      ItemsPlaced state items state' := by
  induction items with
  | nil =>
    intro state state' h
    cases h
    exact .nil state
  | cons item rest ih =>
    intro state state' h
    rw [List.foldlM_cons] at h
    obtain ⟨middle, hitem, hrest⟩ := bind_eq_ok.mp h
    exact .cons hitem (ih hrest)

/-- The items have the bytes of their tasks and these bytes together. -/
def ItemsWeigh (manifest : Manifest) (items : List (TransferTask × Nat)) (total : Nat) : Prop :=
  (∀ item ∈ items, item.2 = item.1.bytes manifest) ∧ itemBytes items = total

theorem ItemsWeigh.append {manifest : Manifest} {left right : Nat}
    (hfirst : ItemsWeigh manifest first left) (hsecond : ItemsWeigh manifest second right) :
    ItemsWeigh manifest (first ++ second) (left + right) := by
  constructor
  · intro item hitem
    cases List.mem_append.mp hitem with
    | inl hleft => exact hfirst.1 item hleft
    | inr hright => exact hsecond.1 item hright
  · have hleft := hfirst.2
    have hright := hsecond.2
    unfold itemBytes at hleft hright ⊢
    rw [List.map_append, List.sum_append, hleft, hright]

/-! ## What the planner places -/

/-- The length of a stripe, if its offset fits. -/
theorem stripeRange_length {fileSize stripeId stripeCount : Nat} {range : Nat × Nat}
    (h : stripeRange fileSize stripeId stripeCount = .ok range) :
    range.2 = min (fileSize - fileSize ⌈/⌉ stripeCount * stripeId) (fileSize ⌈/⌉ stripeCount) := by
  unfold stripeRange at h
  by_cases hid : stripeCount = 0 ∨ stripeCount ≤ stripeId
  · rw [if_pos hid] at h
    cases h
  rw [if_neg hid] at h
  by_cases hempty : fileSize = 0
  · rw [if_pos hempty] at h
    cases h
    rw [hempty]
    simp
  rw [if_neg hempty] at h
  obtain ⟨offset, hoffset, h⟩ := bind_eq_ok.mp h
  rw [okOrElse_eq_ok, checkedMul_eq_some] at hoffset
  by_cases hend : fileSize ≤ offset
  · rw [if_pos hend] at h
    cases h
    show 0 = _
    omega
  · rw [if_neg hend] at h
    cases h
    show min (fileSize - offset) _ = _
    rw [hoffset.2]

theorem placed_assignStripes {manifest : Manifest} {fileId fileSize stripeCount : Nat} :
    ∀ {stripeIds : List Nat} {state state' : LaneAssignment},
      assignStripes fileId fileSize stripeCount stripeIds state = .ok state' →
      ∃ items, ItemsPlaced state items state' ∧ ItemsWeigh manifest items
        (stripeIds.map (fun stripeId => min (fileSize - fileSize ⌈/⌉ stripeCount * stripeId)
          (fileSize ⌈/⌉ stripeCount))).sum := by
  intro stripeIds
  induction stripeIds with
  | nil =>
    intro state state' h
    cases h
    exact ⟨[], .nil state, by simp [ItemsWeigh, itemBytes]⟩
  | cons stripeId rest ih =>
    intro state state' h
    rw [assignStripes] at h
    obtain ⟨range, hrange, h⟩ := bind_eq_ok.mp h
    have hlength := stripeRange_length hrange
    rw [List.map_cons, List.sum_cons, ← hlength]
    by_cases hzero : range.2 = 0
    · rw [if_pos hzero] at h
      obtain ⟨items, hplaced, hweigh⟩ := ih h
      rw [hzero, Nat.zero_add]
      exact ⟨items, hplaced, hweigh⟩
    · rw [if_neg hzero] at h
      obtain ⟨middle, hitem, hrest⟩ := bind_eq_ok.mp h
      obtain ⟨items, hplaced, hweigh⟩ := ih hrest
      have hone : ItemsWeigh manifest [(.stripe fileId range.1 range.2, range.2)] range.2 := by
        simp [ItemsWeigh, itemBytes, bytes]
      exact ⟨_ :: items, .cons hitem hplaced, hone.append hweigh⟩

/-- The stripes of a file have its bytes. -/
theorem sum_stripeLengths {fileSize stripeCount : Nat} (hcount : 0 < stripeCount) :
    ((List.range stripeCount).map (fun stripeId =>
      min (fileSize - fileSize ⌈/⌉ stripeCount * stripeId) (fileSize ⌈/⌉ stripeCount))).sum =
      fileSize := by
  have hupto : ∀ count, ((List.range count).map (fun stripeId =>
      min (fileSize - fileSize ⌈/⌉ stripeCount * stripeId) (fileSize ⌈/⌉ stripeCount))).sum =
      min fileSize (fileSize ⌈/⌉ stripeCount * count) := by
    intro count
    induction count with
    | zero => simp
    | succ count ih =>
      rw [List.range_succ, List.map_append, List.sum_append, ih, List.map_singleton,
        List.sum_singleton, Nat.mul_succ]
      omega
  rw [hupto, Nat.mul_comm]
  exact min_eq_left ((ceilDiv_le_iff_le_mul hcount).mp le_rfl)

theorem placed_assignLargeFiles {manifest : Manifest} {dataStreamCount : Nat} :
    ∀ {fileIds : List Nat} {state state' : LaneAssignment},
      assignLargeFiles manifest dataStreamCount fileIds state = .ok state' →
      ∃ items, ItemsPlaced state items state' ∧
        ItemsWeigh manifest items (fileIds.map manifest.sizeOf).sum := by
  intro fileIds
  induction fileIds with
  | nil =>
    intro state state' h
    cases h
    exact ⟨[], .nil state, by simp [ItemsWeigh, itemBytes]⟩
  | cons fileId rest ih =>
    intro state state' h
    rw [assignLargeFiles] at h
    obtain ⟨stripeCount, hcount, h⟩ := bind_eq_ok.mp h
    obtain ⟨middle, hstripes, hrest⟩ := bind_eq_ok.mp h
    obtain ⟨stripes, hplacedStripes, hweighStripes⟩ :=
      @placed_assignStripes manifest _ _ _ _ _ _ hstripes
    obtain ⟨items, hplaced, hweigh⟩ := ih hrest
    have hpos : 0 < stripeCount := by
      unfold largeFileStripeCount at hcount
      split at hcount
      · cases hcount
      · cases hcount
        omega
    rw [sum_stripeLengths hpos] at hweighStripes
    exact ⟨stripes ++ items, hplacedStripes.append hplaced, hweighStripes.append hweigh⟩

/-- The packs have the bytes of their files. -/
theorem packTinyFiles_bytes {manifest : Manifest} :
    ∀ {fileIds current : List Nat} {currentBytes : Nat} {packs : List (List Nat × Nat)},
      packTinyFiles manifest fileIds current currentBytes = .ok packs →
      (current = [] → currentBytes = 0) →
      (packs.map Prod.snd).sum = currentBytes + (fileIds.map manifest.sizeOf).sum := by
  intro fileIds
  induction fileIds with
  | nil =>
    intro current currentBytes packs h hempty
    cases h
    cases current with
    | nil => simp [hempty rfl]
    | cons => simp
  | cons fileId rest ih =>
    intro current currentBytes packs h hempty
    rw [packTinyFiles] at h
    obtain ⟨entry, hentry, h⟩ := bind_eq_ok.mp h
    rw [okOrElse_eq_ok] at hentry
    have hsize := Manifest.sizeOf_eq hentry
    obtain ⟨_, h⟩ := bind_rest h
    obtain ⟨candidate, hcandidate, h⟩ := bind_eq_ok.mp h
    rw [okOrElse_eq_ok, checkedAdd_eq_some] at hcandidate
    rw [List.map_cons, List.sum_cons, hsize]
    dsimp only at h
    split at h
    · obtain ⟨others, hothers, h⟩ := bind_eq_ok.mp h
      cases h
      rw [List.map_cons, List.sum_cons, ih hothers (fun habsurd => by cases habsurd)]
    · rw [ih h (fun habsurd => by simp at habsurd), ← hcandidate.2]
      omega

/-- A plan is a run of placements of tasks with the bytes of the manifest, among them the medium
files. -/
theorem placed_of_buildTransferPlan {sort : UnstableSort} {manifest : Manifest}
    {dataStreamCount : Nat} {plan : TransferPlan}
    (h : buildTransferPlan sort manifest dataStreamCount = .ok plan) :
    ∃ items state, ItemsPlaced (LaneAssignment.empty dataStreamCount) items state ∧
      plan.lanes = state.lanes ∧ ItemsWeigh manifest items manifest.totalBytes ∧
      ∀ fileId, manifest.classOf fileId = some .medium →
        .wholeFile fileId ∈ items.map Prod.fst := by
  unfold buildTransferPlan at h
  obtain ⟨first, hlarge, h⟩ := bind_eq_ok.mp h
  dsimp only at h
  obtain ⟨second, hmedium, h⟩ := bind_eq_ok.mp h
  obtain ⟨packs, hpacks, h⟩ := bind_eq_ok.mp h
  obtain ⟨third, htiny, h⟩ := bind_eq_ok.mp h
  cases h
  obtain ⟨large, hplacedLarge, hweighLarge⟩ := placed_assignLargeFiles hlarge
  have hweighMedium : ItemsWeigh manifest
      ((sort.run manifest.sizeOf (manifest.idsOfClass .medium)).map
        (fun fileId => (wholeFile fileId, manifest.sizeOf fileId)))
      ((manifest.idsOfClass .medium).map manifest.sizeOf).sum := by
    constructor
    · intro item hitem
      obtain ⟨fileId, _, hsame⟩ := List.mem_map.mp hitem
      rw [← hsame]
      rfl
    · unfold itemBytes
      rw [List.map_map]
      exact ((sort.perm _ _).map manifest.sizeOf).sum_eq
  have hweighTiny : ItemsWeigh manifest
      (packs.map (fun pack => (tinyPack pack.1 pack.2, pack.2)))
      ((manifest.idsOfClass .tiny).map manifest.sizeOf).sum := by
    constructor
    · intro item hitem
      obtain ⟨pack, _, hsame⟩ := List.mem_map.mp hitem
      rw [← hsame]
      rfl
    · unfold itemBytes
      rw [List.map_map]
      show (packs.map Prod.snd).sum = _
      rw [packTinyFiles_bytes hpacks (fun _ => rfl), Nat.zero_add]
  have htotal : manifest.totalBytes = ((manifest.idsOfClass .large).map manifest.sizeOf).sum +
      (((manifest.idsOfClass .medium).map manifest.sizeOf).sum +
        ((manifest.idsOfClass .tiny).map manifest.sizeOf).sum) := by
    rw [Manifest.totalBytes_eq, (manifest.range_perm_idsOfClass.map manifest.sizeOf).sum_eq,
      List.map_append, List.map_append, List.sum_append, List.sum_append]
  refine ⟨_, third, hplacedLarge.append ((placed_of_foldlM hmedium).append
    (placed_of_foldlM htiny)), rfl, ?_, ?_⟩
  · rw [htotal]
    exact hweighLarge.append (hweighMedium.append hweighTiny)
  · intro fileId hmediumFile
    have hsorted := (sort.perm manifest.sizeOf _).mem_iff.mpr
      (Manifest.mem_idsOfClass.mpr hmediumFile)
    simp only [List.map_append, List.map_map, List.mem_append, List.mem_map, Function.comp_apply]
    exact .inr (.inl ⟨fileId, hsorted, rfl⟩)

/-! ## What a placement keeps -/

/-- Between two placements the totals are those of the lanes, and the lanes are balanced. -/
structure LaneAssignment.Tracked (manifest : Manifest) (dataStreamCount : Nat)
    (state : LaneAssignment) : Prop where
  lanes : state.lanes.length = dataStreamCount
  assignedBytes : state.assignedBytes = state.lanes.map (load (TransferTask.bytes manifest))
  balanced : Balanced (TransferTask.bytes manifest) state.lanes

variable {manifest : Manifest} {dataStreamCount : Nat} {state state' : LaneAssignment}

theorem LaneAssignment.tracked_empty (manifest : Manifest) (dataStreamCount : Nat) :
    (LaneAssignment.empty dataStreamCount).Tracked manifest dataStreamCount where
  lanes := by simp [LaneAssignment.empty]
  assignedBytes := by simp [LaneAssignment.empty]
  balanced := balanced_replicate dataStreamCount

/-- The lane that is found has no more bytes than another. -/
theorem leastLoadedLane_le {lanes : List (List TransferTask)} {assignedBytes : List Nat}
    {lane : Nat} (h : leastLoadedLane lanes assignedBytes = .ok lane) :
    lane < assignedBytes.length ∧
      ∀ other ∈ assignedBytes, assignedBytes.getD lane 0 ≤ other := by
  unfold leastLoadedLane at h
  rw [okOrElse_eq_ok] at h
  refine ⟨List.mem_range.mp (List.argmin_mem h), ?_⟩
  intro other hother
  obtain ⟨index, hindex, hvalue⟩ := List.getElem_of_mem hother
  have hle := List.le_of_mem_argmin (List.mem_range.mpr hindex) h
  rw [Prod.Lex.toLex_le_toLex] at hle
  have hfirst : assignedBytes.getD lane 0 ≤ assignedBytes.getD index 0 := by
    cases hle with
    | inl hlt => exact hlt.le
    | inr hsame => exact hsame.1.le
  rw [List.getD_eq_getElem _ _ hindex, hvalue] at hfirst
  exact hfirst

/-- One turn of an assignment loop puts its task behind a lane of least load. -/
theorem assignTask_splits {item : TransferTask × Nat}
    (h : assignTask overflow state item = .ok state')
    (hbytes : state.assignedBytes = state.lanes.map (load (bytes manifest))) :
    ∃ left lane right, state.lanes = left ++ lane :: right ∧
      (∀ other ∈ state.lanes, load (bytes manifest) lane ≤
        load (bytes manifest) other) ∧
      state'.lanes = left ++ (lane ++ [item.1]) :: right ∧
      state'.assignedBytes = left.map (load (bytes manifest)) ++
        (load (bytes manifest) lane + item.2) ::
          right.map (load (bytes manifest)) := by
  unfold assignTask at h
  obtain ⟨index, hindex, h⟩ := bind_eq_ok.mp h
  obtain ⟨total, htotal, h⟩ := bind_eq_ok.mp h
  rw [okOrElse_eq_ok, checkedAdd_eq_some] at htotal
  cases h
  obtain ⟨hlt, hleast⟩ := leastLoadedLane_le hindex
  rw [hbytes, List.length_map] at hlt
  obtain ⟨left, lane, right, hlanes, hleft, hmodify⟩ :=
    List.exists_of_modify (· ++ [item.1]) hlt
  have hsplit : state.assignedBytes = left.map (load (bytes manifest)) ++
      load (bytes manifest) lane ::
        right.map (load (bytes manifest)) := by
    rw [hbytes, hlanes, List.map_append, List.map_cons]
  have hget : state.assignedBytes.getD index 0 = load (bytes manifest) lane := by
    rw [hsplit, ← hleft]
    simp [List.getD_eq_getElem?_getD]
  refine ⟨left, lane, right, hlanes, ?_, hmodify, ?_⟩
  · intro other hother
    rw [← hget]
    apply hleast
    rw [hbytes]
    exact List.mem_map_of_mem hother
  · show state.assignedBytes.set index total = _
    rw [← htotal.2, hget, hsplit, ← hleft]
    simp

theorem LaneAssignment.Tracked.step {item : TransferTask × Nat}
    (htracked : state.Tracked manifest dataStreamCount)
    (h : assignTask overflow state item = .ok state') (hitem : item.2 = item.1.bytes manifest) :
    state'.Tracked manifest dataStreamCount ∧
      load (bytes manifest) state'.lanes.flatten =
        load (bytes manifest) state.lanes.flatten + item.2 := by
  obtain ⟨left, lane, right, hlanes, hleast, hlanes', hbytes'⟩ :=
    assignTask_splits h htracked.assignedBytes
  have hload : load (bytes manifest) (lane ++ [item.1]) =
      load (bytes manifest) lane + item.2 := by
    rw [hitem]
    simp [load]
  have hbalanced := htracked.balanced
  have hcount := htracked.lanes
  rw [hlanes] at hbalanced hcount hleast ⊢
  refine ⟨⟨?_, ?_, ?_⟩, ?_⟩
  · rw [hlanes', ← hcount]
    simp
  · rw [hbytes', hlanes', List.map_append, List.map_cons, hload]
  · rw [hlanes']
    exact hbalanced.place hleast
  · have hflatten : ∀ mine : List TransferTask,
        load (bytes manifest) (left ++ mine :: right).flatten =
          load (bytes manifest) left.flatten +
            (load (bytes manifest) mine +
              load (bytes manifest) right.flatten) := by
      intro mine
      rw [List.flatten_append, List.flatten_cons, load_append, load_append]
    rw [hlanes', hflatten, hflatten, hload]
    omega

theorem LaneAssignment.Tracked.run (hplaced : ItemsPlaced state items state')
    (htracked : state.Tracked manifest dataStreamCount)
    (hitems : ∀ item ∈ items, item.2 = item.1.bytes manifest) :
    state'.Tracked manifest dataStreamCount ∧
      load (bytes manifest) state'.lanes.flatten =
        load (bytes manifest) state.lanes.flatten + itemBytes items := by
  induction hplaced with
  | nil => exact ⟨htracked, by simp [itemBytes]⟩
  | @cons overflow state item middle rest state' h hrest ih =>
    obtain ⟨hmiddle, hload⟩ := htracked.step h (hitems item List.mem_cons_self)
    obtain ⟨hlast, hloads⟩ := ih hmiddle (fun other hother =>
      hitems other (List.mem_cons_of_mem _ hother))
    refine ⟨hlast, ?_⟩
    rw [hloads, hload, itemBytes, itemBytes, List.map_cons, List.sum_cons]
    omega

/-- What was placed is in a lane. -/
theorem LaneAssignment.Tracked.mem (hplaced : ItemsPlaced state items state')
    (htracked : state.Tracked manifest dataStreamCount)
    (hitems : ∀ item ∈ items, item.2 = item.1.bytes manifest) {task : TransferTask}
    (htask : task ∈ state.lanes.flatten ∨ task ∈ items.map Prod.fst) :
    task ∈ state'.lanes.flatten := by
  induction hplaced with
  | nil =>
    cases htask with
    | inl hthere => exact hthere
    | inr habsurd => cases habsurd
  | @cons overflow state item middle rest state' h hrest ih =>
    have hmiddle := (htracked.step h (hitems item List.mem_cons_self)).1
    refine ih hmiddle (fun other hother => hitems other (List.mem_cons_of_mem _ hother)) ?_
    obtain ⟨left, lane, right, hlanes, _, hlanes', _⟩ :=
      assignTask_splits h htracked.assignedBytes
    rw [hlanes, List.map_cons, List.mem_cons] at htask
    rw [hlanes']
    simp only [List.flatten_append, List.flatten_cons, List.mem_append, List.mem_singleton]
      at htask ⊢
    tauto

/-- For every manifest and every number of streams with which the planner succeeds, the bytes of two
lanes differ by at most the largest task, no lane is without tasks while another one has two tasks
with bytes, and no lane exceeds the average by more than the largest task. -/
theorem laneBalance {sort : UnstableSort} {plan : TransferPlan}
    (hplan : buildTransferPlan sort manifest dataStreamCount = .ok plan) :
    plan.lanes.length = dataStreamCount ∧
      (∀ lane ∈ plan.lanes, ∀ other ∈ plan.lanes,
        load (TransferTask.bytes manifest) lane ≤ load (TransferTask.bytes manifest) other +
          heaviest (TransferTask.bytes manifest) plan.tasks) ∧
      ([] ∈ plan.lanes → ∀ lane ∈ plan.lanes,
        (lane.filter (fun task => task.bytes manifest ≠ 0)).length ≤ 1) ∧
      ∀ lane ∈ plan.lanes, load (TransferTask.bytes manifest) lane ≤
        manifest.totalBytes / dataStreamCount +
          heaviest (TransferTask.bytes manifest) plan.tasks := by
  obtain ⟨items, state, hplaced, hlanes, ⟨hitems, htotal⟩, _⟩ :=
    placed_of_buildTransferPlan hplan
  obtain ⟨htracked, hload⟩ :=
    (LaneAssignment.tracked_empty manifest dataStreamCount).run hplaced hitems
  have hempty : (LaneAssignment.empty dataStreamCount).lanes.flatten = [] := by
    simp [LaneAssignment.empty]
  rw [hempty, load_nil, Nat.zero_add, htotal] at hload
  unfold TransferPlan.tasks
  rw [hlanes]
  refine ⟨htracked.lanes, htracked.balanced.spread, htracked.balanced.busy, ?_⟩
  intro lane hlane
  rw [← hload, ← htracked.lanes]
  exact htracked.balanced.le_average hlane

/-- The three files on two lanes. -/
theorem laneBalance_threeFiles : ∃ plan,
    buildTransferPlan .stable threeFiles 2 = .ok plan ∧
      ∀ lane ∈ plan.lanes, ∀ other ∈ plan.lanes,
        load (TransferTask.bytes threeFiles) lane ≤ load (TransferTask.bytes threeFiles) other +
          heaviest (TransferTask.bytes threeFiles) plan.tasks := by
  cases hbuild : buildTransferPlan .stable threeFiles 2 with
  | ok plan => exact ⟨plan, rfl, (laneBalance hbuild).2.1⟩
  | error error =>
      have hlimit := (buildTransferPlan_eq_error threeFiles_classified (by omega) (by omega)
        hbuild).2
      norm_num [threeFiles, Manifest.totalBytes, u64Limit] at hlimit

end NetworkCopy
