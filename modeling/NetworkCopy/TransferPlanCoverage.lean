import NetworkCopy.TransferPlan

/-!
# Every manifest file is planned exactly once

This module proves what `build_transfer_plan` promises to the rest of the
program: the tasks of all lanes together cover the manifest, and nothing else.

The greedy assignment decides only *where* a task goes.  `Assigns` says that a
computation puts a list of items into the lanes, in any distribution, and fails
only when a lane's byte total leaves 64 bits; the three loops of the planner are
instances of it and compose with `Assigns.bind`.  The lanes of a plan are
therefore a rearrangement of `plannedItems`, and the coverage is a property of
that list, in three independent parts: the stripes of a large file tile it, the
medium files appear once each, and the tiny packs partition the tiny files.
-/

namespace NetworkCopy

open List TransferTask

/-! ## Placing items into lanes -/

variable {dataStreamCount : Nat} {state : LaneAssignment}

/-- Appending to one lane adds one task to the flattened lanes. -/
theorem modify_append_flatten_perm (task : TransferTask) :
    ∀ (lanes : List (List TransferTask)) (lane : Nat), lane < lanes.length →
      (lanes.modify lane (· ++ [task])).flatten.Perm (task :: lanes.flatten) := by
  intro lanes
  induction lanes with
  | nil => intro lane hlane; simp at hlane
  | cons first rest ih =>
    intro lane hlane
    cases lane with
    | zero =>
      simp only [modify_zero_cons, flatten_cons, append_assoc,
        singleton_append]
      exact perm_middle
    | succ lane =>
      simp only [modify_succ_cons, flatten_cons]
      have hrest := ih lane (by simpa using hlane)
      exact (hrest.append_left first).trans perm_middle

/-- Replacing one entry by itself plus `extra` adds `extra` to the sum. -/
theorem sum_set_getD_add (extra : Nat) :
    ∀ (values : List Nat) (index : Nat), index < values.length →
      (values.set index (values.getD index 0 + extra)).sum = values.sum + extra := by
  intro values
  induction values with
  | nil => intro index hindex; simp at hindex
  | cons first rest ih =>
    intro index hindex
    cases index with
    | zero => simp; omega
    | succ index =>
      have hrest := ih index (by simpa using hindex)
      simp only [set_cons_succ, getD_cons_succ, sum_cons, hrest]
      omega

/-- One entry is at most the sum. -/
theorem getD_le_sum (values : List Nat) (index : Nat) :
    values.getD index 0 ≤ values.sum := by
  by_cases hindex : index < values.length
  · rw [getD_eq_getElem _ _ hindex]
    exact single_le_sum (by simp) _ (getElem_mem hindex)
  · rw [getD_eq_default _ _ (by omega)]
    exact Nat.zero_le _

/-- Both vectors of the planner have one entry per data stream. -/
structure LaneAssignment.Shaped (state : LaneAssignment) (dataStreamCount : Nat) :
    Prop where
  lanes : state.lanes.length = dataStreamCount
  assignedBytes : state.assignedBytes.length = dataStreamCount

theorem LaneAssignment.shaped_empty (dataStreamCount : Nat) :
    (LaneAssignment.empty dataStreamCount).Shaped dataStreamCount := by
  constructor <;> simp [LaneAssignment.empty]

/-- The errors that report a lane total above `u64::MAX`. -/
def IoError.IsLaneOverflow (error : IoError) : Prop :=
  error = .other "striped lane size overflowed" ∨
    error = .other "data-lane assignment size overflowed" ∨
      error = .other "tiny-pack lane size overflowed"

/-- The bytes of a list of items. -/
def itemBytes (items : List (TransferTask × Nat)) : Nat := (items.map Prod.snd).sum

/-- `result` places `items` into the lanes of `state`, or reports that a lane
total overflowed, which needs at least `2 ^ 64` bytes in all lanes together. -/
structure Assigns (dataStreamCount : Nat) (items : List (TransferTask × Nat))
    (state : LaneAssignment) (result : IoResult LaneAssignment) : Prop where
  placed : ∀ state', result = .ok state' →
    state'.Shaped dataStreamCount ∧
      state'.lanes.flatten.Perm (state.lanes.flatten ++ items.map Prod.fst) ∧
        state'.assignedBytes.sum = state.assignedBytes.sum + itemBytes items
  overflow : ∀ error, result = .error error →
    error.IsLaneOverflow ∧ u64Limit ≤ state.assignedBytes.sum + itemBytes items

theorem Assigns.nil (hstate : state.Shaped dataStreamCount) :
    Assigns dataStreamCount [] state (.ok state) := by
  constructor
  · intro state' h
    cases h
    exact ⟨hstate, by simp, by simp [itemBytes]⟩
  · intro error h
    cases h

/-- Placing one list of items and then another places both. -/
theorem Assigns.bind {first second : List (TransferTask × Nat)}
    {result : IoResult LaneAssignment} (next : LaneAssignment → IoResult LaneAssignment)
    (hfirst : Assigns dataStreamCount first state result)
    (hsecond : ∀ state', state'.Shaped dataStreamCount →
      Assigns dataStreamCount second state' (next state')) :
    Assigns dataStreamCount (first ++ second) state (result >>= next) := by
  have hbytes : itemBytes (first ++ second) = itemBytes first + itemBytes second := by
    simp [itemBytes]
  constructor
  · intro state'' h
    obtain ⟨state', hresult, hnext⟩ := bind_eq_ok.mp h
    obtain ⟨hshaped, hperm, hsum⟩ := hfirst.placed state' hresult
    obtain ⟨hshaped', hperm', hsum'⟩ := (hsecond state' hshaped).placed state'' hnext
    refine ⟨hshaped', ?_, by omega⟩
    rw [map_append, ← append_assoc]
    exact hperm'.trans (hperm.append_right _)
  · intro error h
    rcases bind_eq_error.mp h with hresult | ⟨state', hresult, hnext⟩
    · obtain ⟨herror, hbound⟩ := hfirst.overflow error hresult
      exact ⟨herror, by omega⟩
    · obtain ⟨hshaped, _, hsum⟩ := hfirst.placed state' hresult
      obtain ⟨herror, hbound⟩ := (hsecond state' hshaped).overflow error hnext
      exact ⟨herror, by omega⟩

/-- A planner with at least one lane always finds a least loaded one. -/
theorem leastLoadedLane_eq_ok (lanes : List (List TransferTask)) {assignedBytes : List Nat}
    (hpos : 0 < assignedBytes.length) :
    ∃ lane, leastLoadedLane lanes assignedBytes = .ok lane ∧
      lane < assignedBytes.length := by
  unfold leastLoadedLane
  cases hmin : (range assignedBytes.length).argmin
      (fun lane => toLex (assignedBytes.getD lane 0, (lanes.getD lane []).length)) with
  | none =>
    rw [argmin_eq_none, range_eq_nil] at hmin
    omega
  | some lane =>
    have hmem : lane ∈ range assignedBytes.length :=
      argmin_mem (by rw [hmin]; exact rfl)
    exact ⟨lane, rfl, mem_range.mp hmem⟩

theorem assignedBytes_pos (hcount : 0 < dataStreamCount) (hstate : state.Shaped dataStreamCount) :
    0 < state.assignedBytes.length := by
  rw [hstate.assignedBytes]
  exact hcount

/-- One turn of an assignment loop places its item. -/
theorem assigns_assignTask {overflow : String} (item : TransferTask × Nat)
    (hcount : 0 < dataStreamCount) (hstate : state.Shaped dataStreamCount)
    (hoverflow : (IoError.other overflow).IsLaneOverflow) :
    Assigns dataStreamCount [item] state (assignTask overflow state item) := by
  obtain ⟨lane, hlane, hlt⟩ :=
    leastLoadedLane_eq_ok state.lanes (assignedBytes_pos hcount hstate)
  have hbytes : itemBytes [item] = item.2 := by simp [itemBytes]
  have hle := getD_le_sum state.assignedBytes lane
  constructor
  · intro state' h
    simp only [assignTask, hlane, ok_bind, pure_eq_ok] at h
    obtain ⟨total, htotal, hstate'⟩ := bind_eq_ok.mp h
    rw [okOrElse_eq_ok, checkedAdd_eq_some] at htotal
    cases hstate'
    refine ⟨⟨by simpa using hstate.lanes, by simpa using hstate.assignedBytes⟩, ?_, ?_⟩
    · have hlane' : lane < state.lanes.length := by
        rw [hstate.lanes, ← hstate.assignedBytes]; exact hlt
      refine (modify_append_flatten_perm item.1 state.lanes lane hlane').trans ?_
      exact (perm_append_singleton item.1 state.lanes.flatten).symm
    · rw [hbytes, ← sum_set_getD_add item.2 state.assignedBytes lane hlt, htotal.2]
  · intro error h
    simp only [assignTask, hlane, ok_bind, pure_eq_ok] at h
    rcases bind_eq_error.mp h with herror | ⟨total, _, habsurd⟩
    · cases hadd : checkedAdd (state.assignedBytes.getD lane 0) item.2 with
      | some total => rw [hadd] at herror; cases herror
      | none =>
        rw [hadd] at herror
        cases herror
        rw [checkedAdd_eq_none] at hadd
        exact ⟨hoverflow, by omega⟩
    · cases habsurd

/-- An assignment loop places all its items. -/
theorem assigns_foldlM {overflow : String} (hcount : 0 < dataStreamCount)
    (hoverflow : (IoError.other overflow).IsLaneOverflow) :
    ∀ (items : List (TransferTask × Nat)) (state : LaneAssignment),
      state.Shaped dataStreamCount →
      Assigns dataStreamCount items state (items.foldlM (assignTask overflow) state) := by
  intro items
  induction items with
  | nil => intro state hstate; exact Assigns.nil hstate
  | cons item rest ih =>
    intro state hstate
    rw [foldlM_cons]
    exact Assigns.bind _ (assigns_assignTask item hcount hstate hoverflow) ih

/-! ## The stripes of one large file -/

variable {fileSize stripeCount : Nat}

/-- The non-empty pieces of `[0, fileSize)` cut at the multiples of the stripe
size, as offset and length. -/
def stripePieces (fileSize stripeCount : Nat) : List (Nat × Nat) :=
  let stripeSize := fileSize ⌈/⌉ stripeCount
  (List.range stripeCount).filterMap (fun stripeId =>
    if stripeSize * stripeId < fileSize then
      some (stripeSize * stripeId, min (fileSize - stripeSize * stripeId) stripeSize)
    else none)

/-- The items of one large file. -/
def stripeItems (fileId fileSize stripeCount : Nat) : List (TransferTask × Nat) :=
  (stripePieces fileSize stripeCount).map
    (fun piece => (TransferTask.stripe fileId piece.1 piece.2, piece.2))

theorem mem_stripePieces {piece : Nat × Nat} :
    piece ∈ stripePieces fileSize stripeCount ↔
      ∃ stripeId < stripeCount,
        (fileSize ⌈/⌉ stripeCount) * stripeId < fileSize ∧
          piece = ((fileSize ⌈/⌉ stripeCount) * stripeId,
            min (fileSize - (fileSize ⌈/⌉ stripeCount) * stripeId)
              (fileSize ⌈/⌉ stripeCount)) := by
  simp only [stripePieces, mem_filterMap, mem_range]
  constructor
  · rintro ⟨stripeId, hlt, hpiece⟩
    split at hpiece
    · rename_i hoffset
      exact ⟨stripeId, hlt, hoffset, (Option.some.inj hpiece).symm⟩
    · cases hpiece
  · rintro ⟨stripeId, hlt, hoffset, rfl⟩
    exact ⟨stripeId, hlt, by rw [if_pos hoffset]⟩

/-- `stripe_range` of a non-empty file is one of the pieces, or the empty range
behind the end, as long as the offset fits. -/
theorem stripeRange_eq_ok {fileSize stripeId stripeCount : Nat} (hsize : 0 < fileSize)
    (hid : stripeId < stripeCount)
    (hfits : (fileSize ⌈/⌉ stripeCount) * stripeId < u64Limit) :
    stripeRange fileSize stripeId stripeCount =
      .ok (if (fileSize ⌈/⌉ stripeCount) * stripeId < fileSize then
          ((fileSize ⌈/⌉ stripeCount) * stripeId,
            min (fileSize - (fileSize ⌈/⌉ stripeCount) * stripeId)
              (fileSize ⌈/⌉ stripeCount))
        else (fileSize, 0)) := by
  unfold stripeRange
  rw [if_neg (by omega), if_neg (by omega)]
  simp only [checkedMul, if_pos hfits, okOrElse_some, ok_bind]
  split
  · rw [if_neg (by omega)]
  · rw [if_pos (by omega)]

/-- A stripe size that covers the file is positive. -/
theorem stripeSize_pos (hsize : 0 < fileSize) (hcount : 0 < stripeCount) :
    0 < fileSize ⌈/⌉ stripeCount := by
  by_contra hzero
  have hle : fileSize ⌈/⌉ stripeCount ≤ 0 := by omega
  rw [ceilDiv_le_iff_le_mul hcount] at hle
  omega

/-- No piece is empty. -/
theorem length_pos_of_mem_stripePieces {piece : Nat × Nat}
    (hmem : piece ∈ stripePieces fileSize stripeCount) : 0 < piece.2 := by
  obtain ⟨stripeId, hid, hoffset, rfl⟩ := mem_stripePieces.mp hmem
  have hpos : 0 < fileSize ⌈/⌉ stripeCount :=
    stripeSize_pos (Nat.zero_lt_of_lt hoffset) (Nat.zero_lt_of_lt hid)
  simp only [Nat.min_def]
  split <;> omega

/-- The inner loop of the planner places the pieces of its file. -/
theorem assigns_assignStripes {dataStreamCount fileId fileSize stripeCount : Nat}
    (hcount : 0 < dataStreamCount) (hsize : 0 < fileSize)
    (hfits : ∀ stripeId < stripeCount,
      (fileSize ⌈/⌉ stripeCount) * stripeId < u64Limit) :
    ∀ (stripeIds : List Nat) (state : LaneAssignment),
      (∀ stripeId ∈ stripeIds, stripeId < stripeCount) →
      state.Shaped dataStreamCount →
      Assigns dataStreamCount
        ((stripeIds.filterMap (fun stripeId =>
            if (fileSize ⌈/⌉ stripeCount) * stripeId < fileSize then
              some ((fileSize ⌈/⌉ stripeCount) * stripeId,
                min (fileSize - (fileSize ⌈/⌉ stripeCount) * stripeId)
                  (fileSize ⌈/⌉ stripeCount))
            else none)).map
          (fun piece => (stripe fileId piece.1 piece.2, piece.2)))
        state (assignStripes fileId fileSize stripeCount stripeIds state) := by
  intro stripeIds
  induction stripeIds with
  | nil => intro state _ hstate; exact Assigns.nil hstate
  | cons stripeId rest ih =>
    intro state hids hstate
    have hid := hids stripeId (by simp)
    have hrest : ∀ other ∈ rest, other < stripeCount :=
      fun other hother => hids other (by simp [hother])
    have hpos := stripeSize_pos hsize (by omega : 0 < stripeCount)
    rw [assignStripes, stripeRange_eq_ok hsize hid (hfits stripeId hid), ok_bind]
    by_cases hoffset : (fileSize ⌈/⌉ stripeCount) * stripeId < fileSize
    · rw [if_pos hoffset, filterMap_cons_some (by rw [if_pos hoffset])]
      rw [if_neg (by simp only [Nat.min_def]; split <;> omega)]
      exact Assigns.bind _ (assigns_assignTask _ hcount hstate (Or.inl rfl))
        (fun state' hstate' => ih state' hrest hstate')
    · rw [if_neg hoffset, filterMap_cons_none (by rw [if_neg hoffset]), if_pos rfl]
      exact ih state hrest hstate

/-- What the stripes of one file have to satisfy: they are non-empty and short
enough to be a checkpoint, they stay inside the file, no two of them overlap,
every byte is in one of them, and exactly one starts at offset zero. -/
structure StripesTile (stripes : List (Nat × Nat)) (fileSize : Nat) : Prop where
  bounded : ∀ stripe ∈ stripes, 0 < stripe.2 ∧ stripe.2 ≤ maxResumeStripeBytes ∧
    stripe.1 + stripe.2 ≤ fileSize
  disjoint : stripes.Pairwise (fun left right =>
    left.1 + left.2 ≤ right.1 ∨ right.1 + right.2 ≤ left.1)
  covering : ∀ position < fileSize, ∃ stripe ∈ stripes,
    stripe.1 ≤ position ∧ position < stripe.1 + stripe.2
  first : stripes.countP (fun stripe => stripe.1 = 0) = 1

/-- The order of the stripes does not matter. -/
theorem StripesTile.perm {stripes stripes' : List (Nat × Nat)} {fileSize : Nat}
    (h : StripesTile stripes fileSize) (hperm : stripes.Perm stripes') :
    StripesTile stripes' fileSize where
  bounded := fun stripe hmem => h.bounded stripe (hperm.mem_iff.mpr hmem)
  disjoint := (hperm.pairwise_iff (fun hor => hor.symm)).mp h.disjoint
  covering := fun position hposition => by
    obtain ⟨stripe, hmem, hrange⟩ := h.covering position hposition
    exact ⟨stripe, hperm.mem_iff.mp hmem, hrange⟩
  first := by rw [← hperm.countP_eq]; exact h.first

/-- A list in which no two positions satisfy `p`, but one does, has exactly one
such position. -/
theorem countP_eq_one {α : Type} {p : α → Bool} {values : List α}
    (hpair : values.Pairwise (fun left right => ¬(p left = true ∧ p right = true)))
    (hmem : ∃ value ∈ values, p value = true) : values.countP p = 1 := by
  induction values with
  | nil => simp at hmem
  | cons head tail ih =>
    rw [pairwise_cons] at hpair
    by_cases hhead : p head = true
    · have hnone : tail.countP p = 0 :=
        countP_eq_zero.mpr (fun value hvalue hp => hpair.1 value hvalue ⟨hhead, hp⟩)
      rw [countP_cons_of_pos hhead, hnone]
    · rw [countP_cons_of_neg hhead]
      refine ih hpair.2 ?_
      obtain ⟨value, hvalue, hp⟩ := hmem
      rcases mem_cons.mp hvalue with rfl | htail
      · exact absurd hp hhead
      · exact ⟨value, htail, hp⟩

/-- The pieces come in increasing order and do not overlap. -/
theorem stripePieces_pairwise (fileSize stripeCount : Nat) :
    (stripePieces fileSize stripeCount).Pairwise
      (fun left right => left.1 + left.2 ≤ right.1) := by
  unfold stripePieces
  refine Pairwise.filterMap _ ?_ pairwise_lt_range
  intro left right hlt leftPiece hleft rightPiece hright
  split at hleft
  · split at hright
    · cases hleft
      cases hright
      have hmul : (fileSize ⌈/⌉ stripeCount) * (left + 1) ≤
          (fileSize ⌈/⌉ stripeCount) * right := Nat.mul_le_mul_left _ hlt
      rw [Nat.mul_add, Nat.mul_one] at hmul
      exact le_trans (Nat.add_le_add_left (Nat.min_le_right _ _) _) hmul
    · cases hright
  · cases hleft

/-- The pieces of a file tile it when the stripe size is a legal checkpoint. -/
theorem stripesTile_stripePieces (hsize : 0 < fileSize) (hcount : 0 < stripeCount)
    (hlimit : fileSize ⌈/⌉ stripeCount ≤ maxResumeStripeBytes) :
    StripesTile (stripePieces fileSize stripeCount) fileSize := by
  have hpos := stripeSize_pos hsize hcount
  have hcover : ∀ position < fileSize, ∃ stripe ∈ stripePieces fileSize stripeCount,
      stripe.1 ≤ position ∧ position < stripe.1 + stripe.2 := by
    intro position hposition
    -- The stripe of a position is its quotient by the stripe size.
    set stripeSize := fileSize ⌈/⌉ stripeCount with hstripeSize
    have hoffset : stripeSize * (position / stripeSize) ≤ position :=
      Nat.mul_div_le position stripeSize
    have hnext : position < stripeSize * (position / stripeSize) + stripeSize := by
      have := Nat.lt_mul_div_succ position hpos
      rwa [Nat.mul_add, Nat.mul_one] at this
    have hid : position / stripeSize < stripeCount := by
      rw [Nat.div_lt_iff_lt_mul hpos, Nat.mul_comm]
      exact lt_of_lt_of_le hposition
        (by rw [Nat.mul_comm]; exact (ceilDiv_le_iff_le_mul hcount).mp le_rfl)
    have hinside : stripeSize * (position / stripeSize) < fileSize := by omega
    refine ⟨_, mem_stripePieces.mpr ⟨position / stripeSize, hid, hinside, rfl⟩, ?_, ?_⟩
    · exact hoffset
    · simp only [← hstripeSize, Nat.min_def]
      split <;> omega
  have hbounded : ∀ stripe ∈ stripePieces fileSize stripeCount,
      0 < stripe.2 ∧ stripe.2 ≤ maxResumeStripeBytes ∧ stripe.1 + stripe.2 ≤ fileSize := by
    intro stripe hmem
    refine ⟨length_pos_of_mem_stripePieces hmem, ?_⟩
    obtain ⟨stripeId, _, hoffset, rfl⟩ := mem_stripePieces.mp hmem
    simp only [Nat.min_def]
    constructor <;> split <;> omega
  refine ⟨hbounded, ?_, hcover, ?_⟩
  · exact (stripePieces_pairwise fileSize stripeCount).imp Or.inl
  · refine countP_eq_one ?_ ?_
    · refine (Pairwise.and_mem.mp (stripePieces_pairwise fileSize stripeCount)).imp ?_
      rintro left right ⟨hleft, _, hle⟩ ⟨_, hright⟩
      have := (hbounded left hleft).1
      simp only [decide_eq_true_eq] at hright
      omega
    · obtain ⟨stripe, hmem, hle, _⟩ := hcover 0 hsize
      exact ⟨stripe, hmem, by simpa using Nat.le_zero.mp hle⟩

/-! ## All large files -/

/-- The stripe count that `large_file_stripe_count` returns for a positive
stream count. -/
def stripeCountOf (fileSize dataStreamCount : Nat) : Nat :=
  max dataStreamCount (max (fileSize ⌈/⌉ maxResumeStripeBytes) 1)

theorem largeFileStripeCount_eq_ok {fileSize dataStreamCount : Nat}
    (hcount : 0 < dataStreamCount) :
    largeFileStripeCount fileSize dataStreamCount =
      .ok (stripeCountOf fileSize dataStreamCount) := by
  unfold largeFileStripeCount
  rw [if_neg (by omega)]
  rfl

theorem stripeCountOf_pos (fileSize dataStreamCount : Nat) :
    0 < stripeCountOf fileSize dataStreamCount := by
  unfold stripeCountOf
  omega

theorem maxResumeStripeBytes_pos : 0 < maxResumeStripeBytes := by
  norm_num [maxResumeStripeBytes]

/-- With the stripe count of the planner no stripe exceeds the checkpoint
limit. -/
theorem stripeSize_le_max (fileSize dataStreamCount : Nat) :
    fileSize ⌈/⌉ stripeCountOf fileSize dataStreamCount ≤ maxResumeStripeBytes := by
  rw [ceilDiv_le_iff_le_mul (stripeCountOf_pos fileSize dataStreamCount), Nat.mul_comm]
  have hcheckpoints : fileSize ≤ maxResumeStripeBytes *
      (fileSize ⌈/⌉ maxResumeStripeBytes) :=
    (ceilDiv_le_iff_le_mul maxResumeStripeBytes_pos).mp le_rfl
  refine hcheckpoints.trans (Nat.mul_le_mul_left _ ?_)
  unfold stripeCountOf
  omega

/-- No stripe offset of the planner leaves 64 bits. -/
theorem stripeOffset_lt {fileSize dataStreamCount stripeId : Nat}
    (hsize : fileSize < u64Limit) (hstreams : dataStreamCount ≤ 32)
    (hid : stripeId < stripeCountOf fileSize dataStreamCount) :
    (fileSize ⌈/⌉ stripeCountOf fileSize dataStreamCount) * stripeId < u64Limit := by
  have hle := Nat.mul_le_mul_right stripeId (stripeSize_le_max fileSize dataStreamCount)
  by_cases hsmall : stripeId < 32
  · have hbound : maxResumeStripeBytes * stripeId ≤ maxResumeStripeBytes * 32 :=
      Nat.mul_le_mul_left _ hsmall.le
    have hconst : maxResumeStripeBytes * 32 < u64Limit := by
      norm_num [maxResumeStripeBytes, u64Limit]
    exact lt_of_le_of_lt (hle.trans hbound) hconst
  · -- More than 32 stripes exist only to keep each within the checkpoint limit.
    have hcheckpoint : ¬fileSize ⌈/⌉ maxResumeStripeBytes ≤ stripeId := by
      unfold stripeCountOf at hid
      clear hle
      omega
    rw [ceilDiv_le_iff_le_mul maxResumeStripeBytes_pos, not_le] at hcheckpoint
    exact hle.trans_lt (hcheckpoint.trans hsize)

/-- The items of all large files. -/
def largeItems (manifest : Manifest) (dataStreamCount : Nat) (fileIds : List Nat) :
    List (TransferTask × Nat) :=
  fileIds.flatMap (fun fileId => stripeItems fileId (manifest.sizeOf fileId)
    (stripeCountOf (manifest.sizeOf fileId) dataStreamCount))

/-- A size read through a file ID is a `u64`. -/
theorem Manifest.sizeOf_lt (manifest : Manifest) (fileId : Nat) :
    manifest.sizeOf fileId < u64Limit := by
  unfold Manifest.sizeOf
  cases manifest[fileId]? with
  | none => norm_num [u64Limit]
  | some entry => exact entry.fileSize_lt

/-- The loop over the large files places their stripes. -/
theorem assigns_assignLargeFiles (manifest : Manifest) (hcount : 0 < dataStreamCount)
    (hstreams : dataStreamCount ≤ 32) :
    ∀ (fileIds : List Nat) (state : LaneAssignment),
      (∀ fileId ∈ fileIds, 0 < manifest.sizeOf fileId) →
      state.Shaped dataStreamCount →
      Assigns dataStreamCount (largeItems manifest dataStreamCount fileIds) state
        (assignLargeFiles manifest dataStreamCount fileIds state) := by
  intro fileIds
  induction fileIds with
  | nil => intro state _ hstate; exact Assigns.nil hstate
  | cons fileId rest ih =>
    intro state hsizes hstate
    have hrest : ∀ other ∈ rest, 0 < manifest.sizeOf other :=
      fun other hother => hsizes other (by simp [hother])
    rw [assignLargeFiles, largeFileStripeCount_eq_ok hcount]
    simp only [ok_bind, largeItems, flatMap_cons]
    refine Assigns.bind _ ?_ (fun state' hstate' => ih state' hrest hstate')
    refine assigns_assignStripes hcount (hsizes fileId (by simp)) ?_ _ state
      (fun stripeId hmem => mem_range.mp hmem) hstate
    intro stripeId hid
    exact stripeOffset_lt (manifest.sizeOf_lt fileId) hstreams hid

/-! ## Tiny packs -/

variable {manifest : Manifest}
variable {fileId : Nat} {entry : ManifestEntry}

/-- A pack the planner may emit: it has a member, at most the file limit, its
byte total is the sum of its members' sizes, and that sum is within the target. -/
structure PackSound (manifest : Manifest) (pack : List Nat × Nat) : Prop where
  nonempty : pack.1 ≠ []
  fileLimit : pack.1.length ≤ maxTinyPackFiles
  total : pack.2 = (pack.1.map manifest.sizeOf).sum
  target : pack.2 ≤ tinyPackTargetBytes

/-- The size that the entry of a file ID records. -/
theorem Manifest.sizeOf_eq (hentry : manifest[fileId]? = some entry) :
    manifest.sizeOf fileId = entry.fileSize := by
  simp [Manifest.sizeOf, hentry]

theorem Manifest.classOf_eq (hentry : manifest[fileId]? = some entry) :
    manifest.classOf fileId = some entry.fileClass := by
  simp [Manifest.classOf, hentry]

/-- A tiny file of a classified manifest is at most `TINY_FILE_MAX_BYTES` long. -/
theorem Manifest.Classified.tiny_le (hmanifest : manifest.Classified)
    (hentry : manifest[fileId]? = some entry) (htiny : entry.fileClass = .tiny) :
    entry.fileSize ≤ tinyFileMaxBytes := by
  have hclass := hmanifest entry (mem_of_getElem? hentry)
  rw [htiny] at hclass
  unfold classifyFile at hclass
  split at hclass
  · assumption
  · split at hclass <;> cases hclass

/-- The pack loop never fails on tiny files, and its packs hold the current
members followed by the remaining ones. -/
theorem packTinyFiles_sound (hmanifest : manifest.Classified) :
    ∀ (fileIds current : List Nat) (currentBytes : Nat),
      (∀ fileId ∈ fileIds, manifest.classOf fileId = some .tiny) →
      current.length ≤ maxTinyPackFiles →
      currentBytes = (current.map manifest.sizeOf).sum →
      currentBytes ≤ tinyPackTargetBytes →
      ∃ packs, packTinyFiles manifest fileIds current currentBytes = .ok packs ∧
        (∀ pack ∈ packs, PackSound manifest pack) ∧
          packs.flatMap Prod.fst = current ++ fileIds := by
  intro fileIds
  induction fileIds with
  | nil =>
    intro current currentBytes _ hlimit htotal htarget
    refine ⟨_, rfl, ?_, ?_⟩
    · intro pack hpack
      cases current with
      | nil => simp at hpack
      | cons fileId rest =>
        simp only [isEmpty_cons, Bool.false_eq_true, if_false,
          mem_singleton] at hpack
        subst hpack
        exact ⟨by simp, hlimit, htotal, htarget⟩
    · cases current <;> simp
  | cons fileId rest ih =>
    intro current currentBytes hids hlimit htotal htarget
    have hrest : ∀ other ∈ rest, manifest.classOf other = some .tiny :=
      fun other hother => hids other (by simp [hother])
    obtain ⟨entry, hentry, htiny⟩ : ∃ entry, manifest[fileId]? = some entry ∧
        entry.fileClass = .tiny := by
      simpa [Manifest.classOf] using hids fileId (by simp)
    have hsize := Manifest.sizeOf_eq hentry
    have hsmall := hmanifest.tiny_le hentry htiny
    have hconst : tinyPackTargetBytes + tinyFileMaxBytes < u64Limit := by
      norm_num [tinyPackTargetBytes, maxTinyPackBytes, tinyFileMaxBytes, u64Limit]
    have htiny_target : tinyFileMaxBytes ≤ tinyPackTargetBytes := by
      norm_num [tinyPackTargetBytes, maxTinyPackBytes, tinyFileMaxBytes]
    have hadd : checkedAdd currentBytes entry.fileSize =
        some (currentBytes + entry.fileSize) :=
      checkedAdd_eq_some.mpr ⟨by omega, rfl⟩
    rw [packTinyFiles, hentry, okOrElse_some, ok_bind, htiny, ensure, if_pos rfl, ok_bind,
      hadd, okOrElse_some, ok_bind]
    dsimp only
    split
    · rename_i hflush
      simp only [Bool.or_eq_true, Bool.and_eq_true, Bool.not_eq_true', decide_eq_true_eq]
        at hflush
      have hnonempty : current ≠ [] := by
        rintro rfl
        rcases hflush with hflush | hflush
        · simp at hflush
        · norm_num [maxTinyPackFiles] at hflush
      obtain ⟨packs, hpacks, hsound, hflat⟩ := ih [fileId] entry.fileSize hrest
        (by simp [maxTinyPackFiles]) (by simp [hsize]) (by omega)
      refine ⟨(current, currentBytes) :: packs, by rw [hpacks]; rfl, ?_, ?_⟩
      · intro pack hpack
        rcases mem_cons.mp hpack with rfl | hpack
        · exact ⟨hnonempty, hlimit, htotal, htarget⟩
        · exact hsound pack hpack
      · simp [hflat]
    · rename_i hkeep
      simp only [Bool.or_eq_true, Bool.and_eq_true, Bool.not_eq_true', decide_eq_true_eq,
        not_or, not_and, not_lt, not_le] at hkeep
      have hbytes : currentBytes + entry.fileSize ≤ tinyPackTargetBytes := by
        cases current with
        | nil => simp at htotal; omega
        | cons head tail => exact hkeep.1 rfl
      obtain ⟨packs, hpacks, hsound, hflat⟩ := ih (current ++ [fileId])
        (currentBytes + entry.fileSize) hrest (by simp; omega)
        (by simp [htotal, hsize]) hbytes
      exact ⟨packs, hpacks, hsound, by simp [hflat]⟩

/-- `build_tiny_packs` partitions the tiny files of a manifest into sound packs. -/
theorem buildTinyPacks_sound (hmanifest : manifest.Classified) (fileIds : List Nat)
    (hids : ∀ fileId ∈ fileIds, manifest.classOf fileId = some .tiny) :
    ∃ packs, buildTinyPacks manifest fileIds = .ok packs ∧
      (∀ pack ∈ packs, PackSound manifest pack) ∧ packs.flatMap Prod.fst = fileIds := by
  obtain ⟨packs, hpacks, hsound, hflat⟩ :=
    packTinyFiles_sound hmanifest fileIds [] 0 hids (by simp) (by simp) (Nat.zero_le _)
  exact ⟨packs, hpacks, hsound, by simpa using hflat⟩

/-! ## File IDs by class -/

theorem Manifest.mem_idsOfClass {fileClass : FileClass} :
    fileId ∈ manifest.idsOfClass fileClass ↔ manifest.classOf fileId = some fileClass := by
  simp only [Manifest.idsOfClass, mem_filter, mem_range, decide_eq_true_eq,
    and_iff_right_iff_imp]
  intro hclass
  by_contra hlength
  rw [Manifest.classOf, getElem?_eq_none (by omega)] at hclass
  cases hclass

theorem Manifest.idsOfClass_nodup (manifest : Manifest) (fileClass : FileClass) :
    (manifest.idsOfClass fileClass).Nodup :=
  nodup_range.filter _

theorem Manifest.count_idsOfClass (manifest : Manifest) (fileClass : FileClass)
    (fileId : Nat) :
    (manifest.idsOfClass fileClass).count fileId =
      if manifest.classOf fileId = some fileClass then 1 else 0 := by
  rw [(manifest.idsOfClass_nodup fileClass).count]
  simp only [Manifest.mem_idsOfClass]

/-- A large file of a classified manifest is not empty. -/
theorem Manifest.Classified.large_pos (hmanifest : manifest.Classified)
    (hlarge : manifest.classOf fileId = some .large) : 0 < manifest.sizeOf fileId := by
  obtain ⟨entry, hentry, hclass⟩ : ∃ entry, manifest[fileId]? = some entry ∧
      entry.fileClass = .large := by
    simpa [Manifest.classOf] using hlarge
  have hsize := hmanifest entry (mem_of_getElem? hentry)
  rw [hclass] at hsize
  rw [Manifest.sizeOf_eq hentry]
  by_contra hzero
  have htiny : entry.fileSize ≤ tinyFileMaxBytes := by omega
  rw [classifyFile, if_pos htiny] at hsize
  cases hsize

/-! ## The planned tasks -/

variable (sort : UnstableSort)

/-- The stripes of all large files, as tasks. -/
def largeTasks (manifest : Manifest) (dataStreamCount : Nat) : List TransferTask :=
  (manifest.idsOfClass .large).flatMap (fun fileId =>
    (stripePieces (manifest.sizeOf fileId)
        (stripeCountOf (manifest.sizeOf fileId) dataStreamCount)).map
      (fun piece => .stripe fileId piece.1 piece.2))

/-- The tasks the planner distributes, in the order in which it creates them. -/
def plannedTasks (sort : UnstableSort) (manifest : Manifest) (dataStreamCount : Nat)
    (packs : List (List Nat × Nat)) : List TransferTask :=
  largeTasks manifest dataStreamCount ++
    ((sort.run manifest.sizeOf (manifest.idsOfClass .medium)).map .wholeFile ++
      packs.map (fun pack => .tinyPack pack.1 pack.2))

/-- The members of a tiny-pack task. -/
def TransferTask.packMembers : TransferTask → List Nat
  | .tinyPack fileIds _ => fileIds
  | _ => []

/-- Offset and length of a stripe task of the given file. -/
def TransferTask.stripeOf (fileId : Nat) : TransferTask → Option (Nat × Nat)
  | .stripe stripeFileId offset length =>
      if stripeFileId = fileId then some (offset, length) else none
  | _ => none

/-- The tasks cover every file of the manifest exactly once, and nothing else. -/
structure PlanCovers (manifest : Manifest) (tasks : List TransferTask) : Prop where
  wholeFiles : ∀ fileId, tasks.count (.wholeFile fileId) =
    if manifest.classOf fileId = some .medium then 1 else 0
  packs : ∀ fileIds totalBytes, .tinyPack fileIds totalBytes ∈ tasks →
    PackSound manifest (fileIds, totalBytes)
  tinyFiles : ∀ fileId, (tasks.flatMap TransferTask.packMembers).count fileId =
    if manifest.classOf fileId = some .tiny then 1 else 0
  largeFiles : ∀ fileId, manifest.classOf fileId = some .large →
    StripesTile (tasks.filterMap (TransferTask.stripeOf fileId)) (manifest.sizeOf fileId)
  noOtherStripes : ∀ fileId, manifest.classOf fileId ≠ some .large →
    tasks.filterMap (TransferTask.stripeOf fileId) = []

/-- Coverage does not depend on the lane or the position of a task. -/
theorem PlanCovers.perm {tasks tasks' : List TransferTask} (h : PlanCovers manifest tasks)
    (hperm : tasks.Perm tasks') :
    PlanCovers manifest tasks' where
  wholeFiles := fun fileId => by rw [← hperm.count_eq]; exact h.wholeFiles fileId
  packs := fun fileIds totalBytes hmem =>
    h.packs fileIds totalBytes (hperm.mem_iff.mpr hmem)
  tinyFiles := fun fileId => by
    rw [← (hperm.flatMap_right _).count_eq]; exact h.tinyFiles fileId
  largeFiles := fun fileId hlarge => (h.largeFiles fileId hlarge).perm (hperm.filterMap _)
  noOtherStripes := fun fileId hother => by
    have hnil := hperm.filterMap (stripeOf fileId)
    rw [h.noOtherStripes fileId hother] at hnil
    exact hnil.nil_eq.symm

/-- The stripes of one file among the stripes of all large files. -/
theorem filterMap_stripeOf_largeTasks (manifest : Manifest) (dataStreamCount fileId : Nat) :
    (largeTasks manifest dataStreamCount).filterMap (stripeOf fileId) =
      if manifest.classOf fileId = some .large then
        stripePieces (manifest.sizeOf fileId)
          (stripeCountOf (manifest.sizeOf fileId) dataStreamCount)
      else [] := by
  have hone : ∀ other, ((stripePieces (manifest.sizeOf other)
        (stripeCountOf (manifest.sizeOf other) dataStreamCount)).map
          (fun piece => stripe other piece.1 piece.2)).filterMap
        (stripeOf fileId) =
      if other = fileId then stripePieces (manifest.sizeOf fileId)
        (stripeCountOf (manifest.sizeOf fileId) dataStreamCount) else [] := by
    intro other
    rw [filterMap_map]
    by_cases hother : other = fileId
    · subst hother
      have hsome : stripeOf other ∘
          (fun piece : Nat × Nat => stripe other piece.1 piece.2) = some := by
        funext piece
        simp [stripeOf]
      rw [hsome, filterMap_some, if_pos rfl]
    · rw [if_neg hother, filterMap_eq_nil_iff]
      intro piece _
      simp [stripeOf, hother]
  rw [largeTasks, filterMap_flatMap]
  simp only [hone]
  by_cases hlarge : manifest.classOf fileId = some .large
  · rw [if_pos hlarge]
    obtain ⟨before, after, hsplit⟩ :=
      append_of_mem (Manifest.mem_idsOfClass.mpr hlarge)
    have hnodup := manifest.idsOfClass_nodup .large
    rw [hsplit] at hnodup ⊢
    rw [nodup_append] at hnodup
    obtain ⟨_, hafter, hbefore⟩ := hnodup
    rw [nodup_cons] at hafter
    have hnone : ∀ ids : List Nat, fileId ∉ ids →
        ids.flatMap (fun other => if other = fileId then
          stripePieces (manifest.sizeOf fileId)
            (stripeCountOf (manifest.sizeOf fileId) dataStreamCount) else []) = [] := by
      intro ids hids
      rw [flatMap_eq_nil_iff]
      intro other hother
      rw [if_neg]
      rintro rfl
      exact hids hother
    rw [flatMap_append, flatMap_cons, if_pos rfl, hnone after hafter.1,
      hnone before (fun hmem => hbefore fileId hmem fileId (by simp) rfl)]
    simp
  · rw [if_neg hlarge, flatMap_eq_nil_iff]
    intro other hother
    rw [if_neg]
    rintro rfl
    exact hlarge (Manifest.mem_idsOfClass.mp hother)

/-- A large task is a stripe of a large file. -/
theorem mem_largeTasks {task : TransferTask} (hmem : task ∈ largeTasks manifest dataStreamCount) :
    ∃ fileId offset length, task = .stripe fileId offset length := by
  rw [largeTasks, mem_flatMap] at hmem
  obtain ⟨fileId, _, hmem⟩ := hmem
  rw [mem_map] at hmem
  obtain ⟨piece, _, rfl⟩ := hmem
  exact ⟨fileId, piece.1, piece.2, rfl⟩

/-- The planned tasks cover the manifest. -/
theorem planCovers_plannedTasks (hmanifest : manifest.Classified) (dataStreamCount : Nat)
    {packs : List (List Nat × Nat)} (hsound : ∀ pack ∈ packs, PackSound manifest pack)
    (hflat : packs.flatMap Prod.fst = manifest.idsOfClass .tiny) :
    PlanCovers manifest (plannedTasks sort manifest dataStreamCount packs) := by
  have hstripes : ∀ fileId, (plannedTasks sort manifest dataStreamCount packs).filterMap
        (stripeOf fileId) =
      if manifest.classOf fileId = some .large then
        stripePieces (manifest.sizeOf fileId)
          (stripeCountOf (manifest.sizeOf fileId) dataStreamCount)
      else [] := by
    intro fileId
    have hwhole : ∀ ids : List Nat, (ids.map wholeFile).filterMap
        (stripeOf fileId) = [] := by
      intro ids
      rw [filterMap_map, filterMap_eq_nil_iff]
      intro id _
      rfl
    have hpack : (packs.map (fun pack => tinyPack pack.1 pack.2)).filterMap
        (stripeOf fileId) = [] := by
      rw [filterMap_map, filterMap_eq_nil_iff]
      intro pack _
      rfl
    rw [plannedTasks, filterMap_append, filterMap_append, hwhole, hpack,
      filterMap_stripeOf_largeTasks]
    simp
  constructor
  · intro fileId
    have hlarge : (largeTasks manifest dataStreamCount).count (.wholeFile fileId) = 0 := by
      rw [count_eq_zero]
      intro hmem
      obtain ⟨_, _, _, htask⟩ := mem_largeTasks hmem
      cases htask
    have hpack : (packs.map (fun pack => tinyPack pack.1 pack.2)).count
        (.wholeFile fileId) = 0 := by
      rw [count_eq_zero]
      intro hmem
      rw [mem_map] at hmem
      obtain ⟨_, _, htask⟩ := hmem
      cases htask
    have hwhole := count_map_of_injective
      (sort.run manifest.sizeOf (manifest.idsOfClass .medium)) wholeFile
      (fun _ _ h => wholeFile.inj h) fileId
    rw [plannedTasks, count_append, count_append, hlarge, hpack, hwhole,
      (sort.perm _ _).count_eq, Manifest.count_idsOfClass]
    omega
  · intro fileIds totalBytes hmem
    rw [plannedTasks, mem_append, mem_append] at hmem
    rcases hmem with hmem | hmem | hmem
    · obtain ⟨_, _, _, htask⟩ := mem_largeTasks hmem
      cases htask
    · rw [mem_map] at hmem
      obtain ⟨_, _, htask⟩ := hmem
      cases htask
    · rw [mem_map] at hmem
      obtain ⟨pack, hpack, htask⟩ := hmem
      cases htask
      exact hsound pack hpack
  · intro fileId
    have hlarge : (largeTasks manifest dataStreamCount).flatMap
        packMembers = [] := by
      rw [flatMap_eq_nil_iff]
      intro task hmem
      obtain ⟨_, _, _, rfl⟩ := mem_largeTasks hmem
      rfl
    have hwhole : ((sort.run manifest.sizeOf (manifest.idsOfClass .medium)).map
        wholeFile).flatMap packMembers = [] := by
      rw [flatMap_map, flatMap_eq_nil_iff]
      intro id _
      rfl
    have hpack : (packs.map (fun pack => tinyPack pack.1 pack.2)).flatMap
        packMembers = packs.flatMap Prod.fst := by
      rw [flatMap_map]
      rfl
    rw [plannedTasks, flatMap_append, flatMap_append, hlarge, hwhole, hpack, hflat,
      nil_append, nil_append, Manifest.count_idsOfClass]
  · intro fileId hlarge
    rw [hstripes, if_pos hlarge]
    exact stripesTile_stripePieces (hmanifest.large_pos hlarge) (stripeCountOf_pos _ _)
      (stripeSize_le_max _ _)
  · intro fileId hother
    rw [hstripes, if_neg hother]

/-! ## The bytes of a plan -/

/-- The first `stripeCount` pieces reach to the end of the last one. -/
theorem sum_pieces_upTo (fileSize stripeSize : Nat) :
    ∀ stripeCount, (((range stripeCount).filterMap (fun stripeId =>
        if stripeSize * stripeId < fileSize then
          some (stripeSize * stripeId, min (fileSize - stripeSize * stripeId) stripeSize)
        else none)).map Prod.snd).sum = min fileSize (stripeSize * stripeCount) := by
  intro stripeCount
  induction stripeCount with
  | zero => simp
  | succ stripeCount ih =>
    rw [range_succ, filterMap_append, map_append, sum_append, ih,
      Nat.mul_add, Nat.mul_one]
    by_cases hoffset : stripeSize * stripeCount < fileSize
    · rw [filterMap_cons_some (by rw [if_pos hoffset])]
      simp only [filterMap_nil, map_cons, map_nil, sum_cons, sum_nil]
      omega
    · rw [filterMap_cons_none (by rw [if_neg hoffset])]
      simp only [filterMap_nil, map_nil, sum_nil]
      omega

/-- The lengths of the pieces of a file add up to its size. -/
theorem sum_stripePieces (hcount : 0 < stripeCount) :
    ((stripePieces fileSize stripeCount).map Prod.snd).sum = fileSize := by
  unfold stripePieces
  rw [sum_pieces_upTo, Nat.mul_comm]
  exact min_eq_left ((ceilDiv_le_iff_le_mul hcount).mp le_rfl)

/-- The file IDs of a manifest, by class. -/
theorem Manifest.range_perm_idsOfClass (manifest : Manifest) :
    (range manifest.length).Perm (manifest.idsOfClass .large ++
      (manifest.idsOfClass .medium ++ manifest.idsOfClass .tiny)) := by
  rw [perm_iff_count]
  intro fileId
  rw [count_append, count_append, Manifest.count_idsOfClass,
    Manifest.count_idsOfClass, Manifest.count_idsOfClass, nodup_range.count]
  by_cases hid : fileId < manifest.length
  · obtain ⟨entry, hentry⟩ : ∃ entry, manifest[fileId]? = some entry :=
      ⟨_, getElem?_eq_getElem hid⟩
    have hclass := Manifest.classOf_eq hentry
    cases hcase : entry.fileClass <;> simp [hid, hclass, hcase]
  · have hnone : manifest.classOf fileId = none := by
      rw [Manifest.classOf, getElem?_eq_none (by omega)]
      rfl
    simp [hid, hnone]

/-- The total of a manifest, summed over file IDs. -/
theorem Manifest.totalBytes_eq (manifest : Manifest) :
    manifest.totalBytes = ((range manifest.length).map manifest.sizeOf).sum := by
  have hmap : (range manifest.length).map manifest.sizeOf =
      manifest.map ManifestEntry.fileSize := by
    refine ext_getElem (by simp) ?_
    intro index hleft hright
    simp only [length_map] at hright
    simp [Manifest.sizeOf, hright]
  rw [hmap, Manifest.totalBytes]

/-- The bytes a task transfers. -/
def TransferTask.bytes (manifest : Manifest) : TransferTask → Nat
  | .wholeFile fileId => manifest.sizeOf fileId
  | .tinyPack _ totalBytes => totalBytes
  | .stripe _ _ length => length

/-- The planned tasks transfer the bytes of the manifest. -/
theorem sum_bytes_plannedTasks (manifest : Manifest) (dataStreamCount : Nat)
    {packs : List (List Nat × Nat)} (hsound : ∀ pack ∈ packs, PackSound manifest pack)
    (hflat : packs.flatMap Prod.fst = manifest.idsOfClass .tiny) :
    ((plannedTasks sort manifest dataStreamCount packs).map
      (bytes manifest)).sum = manifest.totalBytes := by
  have hlarge : ((largeTasks manifest dataStreamCount).map
        (bytes manifest)).sum =
      ((manifest.idsOfClass .large).map manifest.sizeOf).sum := by
    rw [largeTasks, map_flatMap, flatMap_def, sum_flatten, map_map]
    refine congrArg sum (map_congr_left ?_)
    intro fileId _
    simp only [Function.comp_apply, map_map]
    exact sum_stripePieces (stripeCountOf_pos _ _)
  have hmedium : (((sort.run manifest.sizeOf (manifest.idsOfClass .medium)).map
        wholeFile).map (bytes manifest)).sum =
      ((manifest.idsOfClass .medium).map manifest.sizeOf).sum := by
    rw [map_map]
    exact ((sort.perm _ _).map manifest.sizeOf).sum_eq
  have htiny : ((packs.map (fun pack => tinyPack pack.1 pack.2)).map
        (bytes manifest)).sum =
      ((manifest.idsOfClass .tiny).map manifest.sizeOf).sum := by
    rw [← hflat, map_flatMap, flatMap_def, sum_flatten, map_map,
      map_map]
    refine congrArg sum (map_congr_left ?_)
    intro pack hpack
    exact (hsound pack hpack).total
  rw [plannedTasks, map_append, map_append, sum_append, sum_append,
    hlarge, hmedium, htiny, Manifest.totalBytes_eq,
    (manifest.range_perm_idsOfClass.map manifest.sizeOf).sum_eq, map_append,
    map_append, sum_append, sum_append]

/-! ## `build_transfer_plan` -/

/-- The three loops together place the planned tasks, and the byte totals they
check are those of the manifest. -/
theorem buildTransferPlan_assigns (hmanifest : manifest.Classified)
    (hcount : 0 < dataStreamCount) (hstreams : dataStreamCount ≤ 32) :
    ∃ packs result,
      (∀ pack ∈ packs, PackSound manifest pack) ∧
      packs.flatMap Prod.fst = manifest.idsOfClass .tiny ∧
      buildTransferPlan sort manifest dataStreamCount =
        (result >>= fun state => .ok { lanes := state.lanes }) ∧
      (∃ items : List (TransferTask × Nat),
        items.map Prod.fst = plannedTasks sort manifest dataStreamCount packs ∧
        items.map Prod.snd =
          (items.map Prod.fst).map (bytes manifest) ∧
        Assigns dataStreamCount items (LaneAssignment.empty dataStreamCount) result) := by
  obtain ⟨packs, hpacks, hsound, hflat⟩ := buildTinyPacks_sound hmanifest
    (manifest.idsOfClass .tiny) (fun _ hmem => Manifest.mem_idsOfClass.mp hmem)
  have hlarge := assigns_assignLargeFiles manifest hcount hstreams
    (manifest.idsOfClass .large) (LaneAssignment.empty dataStreamCount)
    (fun _ hmem => hmanifest.large_pos (Manifest.mem_idsOfClass.mp hmem))
    (LaneAssignment.shaped_empty dataStreamCount)
  set mediumItems := (sort.run manifest.sizeOf (manifest.idsOfClass .medium)).map
    (fun fileId => (wholeFile fileId, manifest.sizeOf fileId)) with hmedium
  set packItems := packs.map
    (fun pack => (tinyPack pack.1 pack.2, pack.2)) with hpackItems
  refine ⟨packs, _, hsound, hflat, ?_, largeItems manifest dataStreamCount
    (manifest.idsOfClass .large) ++ (mediumItems ++ packItems), ?_, ?_,
    Assigns.bind (fun state =>
        mediumItems.foldlM (assignTask "data-lane assignment size overflowed") state >>=
          fun state => packItems.foldlM (assignTask "tiny-pack lane size overflowed") state)
      hlarge
      (fun state hstate => Assigns.bind _
        (assigns_foldlM hcount (Or.inr (Or.inl rfl)) mediumItems state hstate)
        (fun state' hstate' =>
          assigns_foldlM hcount (Or.inr (Or.inr rfl)) packItems state' hstate'))⟩
  · simp only [buildTransferPlan, hpacks, ok_bind, bind_assoc, pure_eq_ok, ← hmedium,
      ← hpackItems]
  · simp only [map_append, plannedTasks, hmedium, hpackItems, map_map, largeItems,
      largeTasks, map_flatMap, stripeItems]
    rfl
  · simp only [map_append, map_map, hmedium, hpackItems, largeItems,
      map_flatMap, stripeItems]
    rfl

/-- The lanes of a plan are a distribution of the planned tasks. -/
theorem buildTransferPlan_perm {sort : UnstableSort} (hmanifest : manifest.Classified)
    (hcount : 0 < dataStreamCount) (hstreams : dataStreamCount ≤ 32) {plan : TransferPlan}
    (hplan : buildTransferPlan sort manifest dataStreamCount = .ok plan) :
    plan.lanes.length = dataStreamCount ∧
      ∃ packs, (∀ pack ∈ packs, PackSound manifest pack) ∧
        packs.flatMap Prod.fst = manifest.idsOfClass .tiny ∧
          (plannedTasks sort manifest dataStreamCount packs).Perm plan.tasks := by
  obtain ⟨packs, result, hsound, hflat, hbuild, items, htasks, _, hassigns⟩ :=
    buildTransferPlan_assigns sort hmanifest hcount hstreams
  rw [hbuild] at hplan
  obtain ⟨state, hstate, hlanes⟩ := bind_eq_ok.mp hplan
  cases hlanes
  obtain ⟨hshaped, hperm, _⟩ := hassigns.placed state hstate
  have hempty : (LaneAssignment.empty dataStreamCount).lanes.flatten = [] := by
    simp [LaneAssignment.empty]
  rw [htasks, hempty, nil_append] at hperm
  exact ⟨hshaped.lanes, packs, hsound, hflat, hperm.symm⟩

/-- What a plan looks like when the planner succeeds. -/
theorem buildTransferPlan_eq_ok {sort : UnstableSort} (hmanifest : manifest.Classified)
    (hcount : 0 < dataStreamCount) (hstreams : dataStreamCount ≤ 32) {plan : TransferPlan}
    (hplan : buildTransferPlan sort manifest dataStreamCount = .ok plan) :
    plan.lanes.length = dataStreamCount ∧ PlanCovers manifest plan.tasks := by
  obtain ⟨hlanes, packs, hsound, hflat, hperm⟩ :=
    buildTransferPlan_perm hmanifest hcount hstreams hplan
  exact ⟨hlanes,
    (planCovers_plannedTasks sort hmanifest dataStreamCount hsound hflat).perm hperm⟩

/-- The planner fails only when a lane total overflows. -/
theorem buildTransferPlan_eq_error {sort : UnstableSort} (hmanifest : manifest.Classified)
    (hcount : 0 < dataStreamCount) (hstreams : dataStreamCount ≤ 32) {error : IoError}
    (herror : buildTransferPlan sort manifest dataStreamCount = .error error) :
    error.IsLaneOverflow ∧ u64Limit ≤ manifest.totalBytes := by
  obtain ⟨packs, result, hsound, hflat, hbuild, items, htasks, hbytes, hassigns⟩ :=
    buildTransferPlan_assigns sort hmanifest hcount hstreams
  rw [hbuild] at herror
  rcases bind_eq_error.mp herror with hresult | ⟨_, _, habsurd⟩
  · obtain ⟨hoverflow, hlimit⟩ := hassigns.overflow error hresult
    refine ⟨hoverflow, ?_⟩
    have hempty : (LaneAssignment.empty dataStreamCount).assignedBytes.sum = 0 := by
      simp [LaneAssignment.empty]
    rw [hempty, Nat.zero_add, itemBytes, hbytes, htasks,
      sum_bytes_plannedTasks sort manifest dataStreamCount hsound hflat] at hlimit
    exact hlimit
  · cases habsurd

/-- For every classified manifest and every stream count the program accepts,
`build_transfer_plan` fills exactly that many lanes with tasks that cover every
file once and nothing else.  The only error is the overflow of a lane total,
which needs a manifest of at least `2 ^ 64` bytes. -/
theorem buildTransferPlan_covers (sort : UnstableSort) (manifest : Manifest)
    (hmanifest : manifest.Classified) (dataStreamCount : Nat)
    (hcount : 1 ≤ dataStreamCount) (hstreams : dataStreamCount ≤ 32) :
    (∃ plan, buildTransferPlan sort manifest dataStreamCount = .ok plan ∧
      plan.lanes.length = dataStreamCount ∧ PlanCovers manifest plan.tasks) ∨
    (∃ error, buildTransferPlan sort manifest dataStreamCount = .error error ∧
      error.IsLaneOverflow ∧ u64Limit ≤ manifest.totalBytes) := by
  cases hbuild : buildTransferPlan sort manifest dataStreamCount with
  | ok plan =>
    obtain ⟨hlanes, hcovers⟩ := buildTransferPlan_eq_ok hmanifest hcount hstreams hbuild
    exact Or.inl ⟨plan, rfl, hlanes, hcovers⟩
  | error error =>
    exact Or.inr ⟨error, rfl, buildTransferPlan_eq_error hmanifest hcount hstreams hbuild⟩

/-- A sort that meets the promise of `sort_unstable_by`. -/
def UnstableSort.stable : UnstableSort where
  run := fun key ids => ids.mergeSort (fun left right => decide (key right ≤ key left))
  perm := fun _ ids => List.mergeSort_perm ids _
  sorted := fun key ids => by
    have htrans : ∀ a b c : Nat, decide (key b ≤ key a) = true →
        decide (key c ≤ key b) = true → decide (key c ≤ key a) = true := by
      intro a b c
      simp only [decide_eq_true_eq]
      omega
    have htotal : ∀ a b : Nat,
        (decide (key b ≤ key a) || decide (key a ≤ key b)) = true := by
      intro a b
      simp only [Bool.or_eq_true, decide_eq_true_eq]
      omega
    exact (List.pairwise_mergeSort htrans htotal ids).imp (fun h => by simpa using h)

/-- A manifest with one file of each class. -/
def threeFiles : Manifest :=
  [{ relativePath := utf16 "big", fileSize := 67108864, lastWriteTime := 1,
     fileAttributes := 0, fileClass := .large, fileSize_lt := by norm_num [u64Limit],
     lastWriteTime_lt := one_lt_u64Limit },
   { relativePath := utf16 "mid", fileSize := 300000, lastWriteTime := 1,
     fileAttributes := 0, fileClass := .medium, fileSize_lt := medium_lt_u64Limit,
     lastWriteTime_lt := one_lt_u64Limit },
   { relativePath := utf16 "small", fileSize := 5, lastWriteTime := 1,
     fileAttributes := 0, fileClass := .tiny, fileSize_lt := five_lt_u64Limit,
     lastWriteTime_lt := one_lt_u64Limit }]

theorem threeFiles_classified : threeFiles.Classified := by
  intro entry hentry
  simp only [threeFiles, mem_cons, not_mem_nil, or_false] at hentry
  rcases hentry with rfl | rfl | rfl <;>
    norm_num [classifyFile, tinyFileMaxBytes, largeFileMinBytes]

/-- The three files are planned on two lanes. -/
theorem buildTransferPlan_covers_threeFiles :
    ∃ plan, buildTransferPlan .stable threeFiles 2 = .ok plan ∧
      plan.lanes.length = 2 ∧ PlanCovers threeFiles plan.tasks := by
  rcases buildTransferPlan_covers .stable threeFiles threeFiles_classified 2
    (by omega) (by omega) with hok | ⟨_, _, _, hlimit⟩
  · exact hok
  · norm_num [threeFiles, Manifest.totalBytes, u64Limit] at hlimit

end NetworkCopy
