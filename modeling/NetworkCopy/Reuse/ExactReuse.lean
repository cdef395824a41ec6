import NetworkCopy.FileSystem
import NetworkCopy.Lane.Wire
import NetworkCopy.PlanAccounting

/-!
# Planning exact reuse

In a fresh session the sender looks for files with equal contents.  It groups the planned files by
size and the files of one size by digest.  In each group the file with the smallest ID is sent, and
the receiver copies the others from it.

A `BTreeMap` is the list of its entries in the order of the keys.
-/

namespace NetworkCopy

open Duplex

/-! ## Groups -/

section

variable {κ ρ : Type} [LinearOrder ρ] (rank : κ → ρ)

/-- `groups.entry(key).or_default().push(file_id)`. -/
def pushGroup (key : κ) (fileId : Nat) : List (κ × List Nat) → List (κ × List Nat)
  | [] => [(key, [fileId])]
  | group :: rest =>
      if rank key < rank group.1 then (key, [fileId]) :: group :: rest
      else if rank key = rank group.1 then (group.1, group.2 ++ [fileId]) :: rest
      else group :: pushGroup key fileId rest

end

/-- `sort_unstable` of file IDs. -/
def sortIds (fileIds : List Nat) : List Nat := fileIds.insertionSort (· ≤ ·)

/-- The order of digests. -/
def digestRank (digest : Digest) : List Nat := digest.1.map UInt8.toNat

/-! ## The sender -/

section

variable (blake3 : Bytes → Digest) (source : FileTree) (manifest : Manifest)

/-- `hash_exact_reuse_candidate`. -/
def hashExactReuseCandidate (fileId : Nat) (entry : ManifestEntry) : IoResult Digest := do
  let node ← source.openFile entry.relativePath
  let path := displayPath entry.relativePath
  ensure (node.content.1.length = entry.fileSize)
    (.invalidData s!"source size changed while planning exact reuse: {path}")
  ensure (node.lastWriteTime = entry.lastWriteTime)
    (.invalidData s!"source timestamp changed while planning exact reuse: {path}")
  let bytesHashed := node.content.1.length
  ensure (bytesHashed = entry.fileSize)
    (.invalidData s!"exact-reuse hash length differs from manifest for file {fileId}")
  return blake3 node.content.1

/-- The loop that groups the candidates by size. -/
def groupBySize : List Nat → List (Nat × List Nat) → IoResult (List (Nat × List Nat))
  | [], groups => .ok groups
  | fileId :: rest, groups => do
      let entry ← okOrElse manifest[fileId]?
        (.invalidData "exact-reuse planner found an unknown file")
      if entry.fileSize = 0 then groupBySize rest groups
      else groupBySize rest (pushGroup id entry.fileSize fileId groups)

/-- The loop that groups files of one size by digest. -/
def groupByDigest : List Nat → List (Digest × List Nat) → IoResult (List (Digest × List Nat))
  | [], groups => .ok groups
  | fileId :: rest, groups => do
      let entry ← okOrElse manifest[fileId]?
        (.invalidData "exact-reuse planner found an unknown candidate")
      let digest ← hashExactReuseCandidate blake3 source fileId entry
      groupByDigest rest (pushGroup digestRank digest fileId groups)

/-- The entries of the files of one digest. -/
def reusesOfGroup (group : Digest × List Nat) : List ExactFileReuse :=
  if group.2.length < 2 then []
  else
    match sortIds group.2 with
    | [] => []
    | basisFileId :: targets =>
        targets.map (fun targetFileId => ⟨basisFileId, targetFileId, group.1⟩)

/-- The loop over the sizes. -/
def reusesOfSizes : List (Nat × List Nat) → IoResult (List ExactFileReuse)
  | [] => .ok []
  | (_, sameSizeIds) :: rest =>
      if sameSizeIds.length < 2 then reusesOfSizes rest
      else do
        let byDigest ← groupByDigest blake3 source manifest (sortIds sameSizeIds) []
        let others ← reusesOfSizes rest
        return byDigest.flatMap reusesOfGroup ++ others

/-- The order of the entries of a plan. -/
def ReuseLe (left right : ExactFileReuse) : Prop :=
  left.basisFileId < right.basisFileId ∨
    (left.basisFileId = right.basisFileId ∧ left.targetFileId ≤ right.targetFileId)

instance (left right : ExactFileReuse) : Decidable (ReuseLe left right) :=
  inferInstanceAs (Decidable (_ ∨ _))

/-- `build_fresh_exact_reuse_plan`. -/
def buildFreshExactReusePlan (transferPlan : TransferPlan) : IoResult ExactReusePlan := do
  let bySize ← groupBySize manifest (plannedExactReuseFileIds transferPlan).sort []
  let entries ← reusesOfSizes blake3 source manifest bySize
  return { entries := entries.insertionSort ReuseLe }

end

/-! ## The plan on the wire -/

/-- `MESSAGE_EXACT_REUSE_PLAN`. -/
def messageExactReusePlan : UInt8 := 0x3D

/-- The loop of `write_exact_reuse_plan`. -/
def writeReuseEntries : List ExactFileReuse → Party Unit
  | [] => .ret ()
  | entry :: rest => do
      let basisFileId ← attempt .refused (u64TryFrom entry.basisFileId
        (.invalidInput "exact-reuse basis ID cannot be represented"))
      writeU64 basisFileId
      let targetFileId ← attempt .refused (u64TryFrom entry.targetFileId
        (.invalidInput "exact-reuse target ID cannot be represented"))
      writeU64 targetFileId
      writeDigest entry.digest
      writeReuseEntries rest

/-- `write_exact_reuse_plan`. -/
def writeExactReusePlan (plan : ExactReusePlan) : Party Unit := do
  let count ← attempt .refused (u32TryFrom plan.entries.length
    (.invalidInput "exact-reuse plan contains too many entries"))
  attempt .refused (ensure (count ≤ maxUnchangedOfferFiles)
    (.invalidInput "exact-reuse plan exceeds the supported limit"))
  writeU8 messageExactReusePlan
  writeU32 count
  writeReuseEntries plan.entries

/-- The loop of `read_exact_reuse_plan`.  A file ID is read by `read_file_id`, and every `u64` is a
`usize`. -/
def readReuseEntries : Nat → Party (List ExactFileReuse)
  | 0 => .ret []
  | count + 1 => do
      let basisFileId ← readU64
      let targetFileId ← readU64
      let digest ← readDigest
      let rest ← readReuseEntries count
      return { basisFileId, targetFileId, digest } :: rest

/-- `read_exact_reuse_plan`. -/
def readExactReusePlan : Party ExactReusePlan := do
  let message ← readU8
  attempt .protocol (ensure (message = messageExactReusePlan)
    (.invalidData ("expected exact-reuse plan, received 0x" ++ hexUpper 2 message.toNat)))
  let count ← readU32
  attempt .protocol (ensure (count ≤ maxUnchangedOfferFiles)
    (.invalidData "exact-reuse plan exceeds the supported limit"))
  let entries ← readReuseEntries count
  return { entries }

/-- The receiver reads the plan that the sender writes. -/
theorem agree_reuseEntries (entries : List ExactFileReuse)
    (h : ∀ entry ∈ entries, entry.basisFileId < u64Limit ∧ entry.targetFileId < u64Limit)
    {L R : Fault → Prop} :
    Agree L R (writeReuseEntries entries) (readReuseEntries entries.length)
      (fun _ received => received = entries) := by
  induction entries with
  | nil => exact Agree.ret rfl
  | cons entry rest ih =>
    obtain ⟨hbasis, htarget⟩ := h entry List.mem_cons_self
    have hrest := ih (fun other hother => h other (List.mem_cons_of_mem _ hother))
    unfold writeReuseEntries
    rw [List.length_cons, readReuseEntries, u64TryFrom_eq_ok.mpr ⟨hbasis, rfl⟩,
      u64TryFrom_eq_ok.mpr ⟨htarget, rfl⟩]
    refine agree_u64 hbasis ?_
    refine agree_u64 htarget ?_
    refine agree_digest ?_
    refine hrest.bindRight (fun _ received hreceived => ?_)
    exact Agree.ret (by rw [hreceived])

theorem agree_exactReusePlan {plan : ExactReusePlan}
    (hcount : plan.entries.length ≤ maxUnchangedOfferFiles)
    (h : ∀ entry ∈ plan.entries, entry.basisFileId < u64Limit ∧ entry.targetFileId < u64Limit)
    {L R : Fault → Prop} :
    Agree L R (writeExactReusePlan plan) readExactReusePlan
      (fun _ received => received = plan) := by
  have hlimit : plan.entries.length < 2 ^ 32 := by
    unfold maxUnchangedOfferFiles at hcount
    omega
  unfold writeExactReusePlan readExactReusePlan
  rw [u32TryFrom_eq_ok.mpr ⟨hlimit, rfl⟩]
  refine agree_ensure_left hcount ?_
  refine agree_u8 ?_
  refine agree_ensure_right rfl ?_
  refine agree_u32 hlimit ?_
  refine agree_ensure_right hcount ?_
  refine (agree_reuseEntries plan.entries h).bindRight (fun _ received hreceived => ?_)
  exact Agree.ret (by rw [hreceived])

end NetworkCopy
