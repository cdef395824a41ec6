import NetworkCopy.Manifest

/-!
# The transfer plan

`build_transfer_plan` of `multistream_copy.rs` turns a manifest into one task
list per data stream: a large file becomes stripes, a medium file one whole-file
task, and the tiny files are packed.  Each task goes to the least loaded lane.

The order of the medium files comes from `sort_unstable_by`.  The standard
library promises only that the result is a permutation of the input sorted by
the comparator, so the sort is a parameter that carries those two facts.
-/

namespace NetworkCopy

/-- `MAX_RESUME_STRIPE_BYTES`.  Irreducible, like the other large constants, so
that no unification computes with it. -/
@[irreducible] def maxResumeStripeBytes : Nat := 128 * 1024 * 1024

/-- `tiny_pack_codec::MAX_TINY_PACK_BYTES`. -/
@[irreducible] def maxTinyPackBytes : Nat := 8 * 1024 * 1024

/-- `TINY_PACK_TARGET_BYTES`. -/
def tinyPackTargetBytes : Nat := maxTinyPackBytes

/-- `MAX_TINY_PACK_FILES`. -/
def maxTinyPackFiles : Nat := 4096

/-- `TransferTask`. -/
inductive TransferTask where
  | wholeFile (fileId : Nat)
  | tinyPack (fileIds : List Nat) (totalBytes : Nat)
  | stripe (fileId offset length : Nat)
  deriving DecidableEq, Repr

/-- `TransferPlan`. -/
structure TransferPlan where
  lanes : List (List TransferTask)
  deriving DecidableEq, Repr

namespace TransferPlan

/-- `transfer_plan.lanes.iter().flatten()`. -/
def tasks (plan : TransferPlan) : List TransferTask := plan.lanes.flatten

end TransferPlan

/-! ## Stripes of a large file -/

/-- `large_file_stripe_count`.  The conversion of the checkpoint count to
`usize` cannot fail on a 64-bit target. -/
def largeFileStripeCount (fileSize dataStreamCount : Nat) : IoResult Nat :=
  if dataStreamCount = 0 then
    .error (.invalidInput "large-file planning requires at least one data stream")
  else
    let checkpointCount := fileSize ⌈/⌉ maxResumeStripeBytes
    .ok (max dataStreamCount (max checkpointCount 1))

/-- `striped_file::stripe_range`: the offset and the length of one stripe. -/
def stripeRange (fileLen streamId dataStreamCount : Nat) : IoResult (Nat × Nat) :=
  if dataStreamCount = 0 ∨ dataStreamCount ≤ streamId then
    .error (.invalidInput "stripe stream ID is outside the configured range")
  else if fileLen = 0 then .ok (0, 0)
  else do
    let stripeSize := fileLen ⌈/⌉ dataStreamCount
    let offset ← okOrElse (checkedMul stripeSize streamId)
      (.other "stripe offset overflowed")
    if fileLen ≤ offset then .ok (fileLen, 0)
    else .ok (offset, min (fileLen - offset) stripeSize)

/-! ## The greedy lane assignment -/

/-- The two vectors `lanes` and `assigned_bytes` of `build_transfer_plan`. -/
structure LaneAssignment where
  lanes : List (List TransferTask)
  assignedBytes : List Nat
  deriving DecidableEq, Repr

namespace LaneAssignment

/-- `vec![Vec::new(); n]` and `vec![0_u64; n]`. -/
def empty (dataStreamCount : Nat) : LaneAssignment where
  lanes := List.replicate dataStreamCount []
  assignedBytes := List.replicate dataStreamCount 0

end LaneAssignment

/-- `least_loaded_lane`: `min_by_key` over `(assigned bytes, task count)`, which
keeps the first of several minimal lanes. -/
def leastLoadedLane (lanes : List (List TransferTask)) (assignedBytes : List Nat) :
    IoResult Nat :=
  okOrElse
    ((List.range assignedBytes.length).argmin
      (fun lane => toLex (assignedBytes.getD lane 0, (lanes.getD lane []).length)))
    (.other "no TCP data lanes are available")

/-- One turn of the three assignment loops: pick the least loaded lane, push the
task and add its bytes to the lane's total. -/
def assignTask (overflow : String) (state : LaneAssignment)
    (item : TransferTask × Nat) : IoResult LaneAssignment := do
  let lane ← leastLoadedLane state.lanes state.assignedBytes
  let total ← okOrElse (checkedAdd (state.assignedBytes.getD lane 0) item.2)
    (.other overflow)
  return { lanes := state.lanes.modify lane (· ++ [item.1])
           assignedBytes := state.assignedBytes.set lane total }

/-- The inner loop over the stripes of one large file. -/
def assignStripes (fileId fileSize stripeCount : Nat) :
    List Nat → LaneAssignment → IoResult LaneAssignment
  | [], state => .ok state
  | stripeId :: rest, state => do
      let range ← stripeRange fileSize stripeId stripeCount
      if range.2 = 0 then assignStripes fileId fileSize stripeCount rest state
      else
        let state ← assignTask "striped lane size overflowed" state
          (.stripe fileId range.1 range.2, range.2)
        assignStripes fileId fileSize stripeCount rest state

/-- The large files of the first loop of `build_transfer_plan`, in manifest
order. -/
def assignLargeFiles (manifest : Manifest) (dataStreamCount : Nat) :
    List Nat → LaneAssignment → IoResult LaneAssignment
  | [], state => .ok state
  | fileId :: rest, state => do
      let fileSize := manifest.sizeOf fileId
      let stripeCount ← largeFileStripeCount fileSize dataStreamCount
      let state ← assignStripes fileId fileSize stripeCount (List.range stripeCount) state
      assignLargeFiles manifest dataStreamCount rest state

/-! ## Tiny packs -/

/-- The loop of `build_tiny_packs`, with its two accumulators. -/
def packTinyFiles (manifest : Manifest) :
    List Nat → List Nat → Nat → IoResult (List (List Nat × Nat))
  | [], currentFileIds, currentBytes =>
      .ok (if currentFileIds.isEmpty then [] else [(currentFileIds, currentBytes)])
  | fileId :: rest, currentFileIds, currentBytes => do
      let entry ← okOrElse manifest[fileId]?
        (.invalidInput "tiny-pack planner received an invalid file ID")
      ensure (entry.fileClass = .tiny)
        (.invalidInput "tiny-pack planner received a non-tiny file")
      let candidateBytes ← okOrElse (checkedAdd currentBytes entry.fileSize)
        (.other "tiny-pack byte count overflowed")
      let exceedsTarget := !currentFileIds.isEmpty && tinyPackTargetBytes < candidateBytes
      let exceedsFileLimit := decide (maxTinyPackFiles ≤ currentFileIds.length)
      if exceedsTarget || exceedsFileLimit then
        let packs ← packTinyFiles manifest rest [fileId] entry.fileSize
        return (currentFileIds, currentBytes) :: packs
      else
        packTinyFiles manifest rest (currentFileIds ++ [fileId]) candidateBytes

/-- `build_tiny_packs`: the members and the byte total of each pack. -/
def buildTinyPacks (manifest : Manifest) (tinyFileIds : List Nat) :
    IoResult (List (List Nat × Nat)) :=
  packTinyFiles manifest tinyFileIds [] 0

/-! ## The plan -/

/-- What `slice::sort_unstable_by` promises for the comparator of
`build_transfer_plan`, which puts the greater key first.  The order of elements
with equal keys is left open. -/
structure UnstableSort where
  run : (Nat → Nat) → List Nat → List Nat
  perm : ∀ key ids, (run key ids).Perm ids
  sorted : ∀ key ids, (run key ids).Pairwise (fun left right => key right ≤ key left)

/-- `build_transfer_plan`. -/
def buildTransferPlan (sort : UnstableSort) (manifest : Manifest)
    (dataStreamCount : Nat) : IoResult TransferPlan := do
  let state ← assignLargeFiles manifest dataStreamCount
    (manifest.idsOfClass .large) (LaneAssignment.empty dataStreamCount)
  let mediumFileIds := sort.run manifest.sizeOf (manifest.idsOfClass .medium)
  let state ← (mediumFileIds.map
      (fun fileId => (TransferTask.wholeFile fileId, manifest.sizeOf fileId))).foldlM
    (assignTask "data-lane assignment size overflowed") state
  let packs ← buildTinyPacks manifest (manifest.idsOfClass .tiny)
  let state ← (packs.map
      (fun pack => (TransferTask.tinyPack pack.1 pack.2, pack.2))).foldlM
    (assignTask "tiny-pack lane size overflowed") state
  return { lanes := state.lanes }

end NetworkCopy
