import NetworkCopy.ContentHash
import NetworkCopy.ResumeState
import NetworkCopy.TransferPlan

/-!
# Rewriting a transfer plan

Before any data is sent, both sides remove from the plan what needs no transfer:

* `apply_large_cdc_preflight` removes the large files that were reconstructed
  from an older version at the destination,
* `apply_exact_reuse_plan` removes the files that are copies of another file of
  the same session,
* `apply_resume_offer` removes the stripes and files that an earlier session
  already stored.

Each one walks over all lanes, drops or keeps each task and rebuilds the tiny
packs that lose members.  `rewriteLanes` is that walk; the three functions differ
in what they do with one task and in what they check before and after.
-/

namespace NetworkCopy

/-- `MAX_UNCHANGED_OFFER_FILES`. -/
@[irreducible] def maxUnchangedOfferFiles : Nat := 1000000

/-! ## The walk over the lanes -/

/-- `for task in lane.drain(..)`: a task is dropped, or kept in some form. -/
def rewriteLane {σ : Type} (visit : σ → TransferTask → IoResult (σ × Option TransferTask)) :
    List TransferTask → σ → IoResult (σ × List TransferTask)
  | [], state => .ok (state, [])
  | task :: rest, state => do
      let visited ← visit state task
      let remaining ← rewriteLane visit rest visited.1
      return (remaining.1, visited.2.toList ++ remaining.2)

/-- `for lane in &mut transfer_plan.lanes`. -/
def rewriteLanes {σ : Type} (visit : σ → TransferTask → IoResult (σ × Option TransferTask)) :
    List (List TransferTask) → σ → IoResult (σ × List (List TransferTask))
  | [], state => .ok (state, [])
  | lane :: rest, state => do
      let rewritten ← rewriteLane visit lane state
      let remaining ← rewriteLanes visit rest rewritten.1
      return (remaining.1, rewritten.2 :: remaining.2)

/-! ## Large-file CDC -/

/-- `LargeCdcPreflight`. -/
structure LargeCdcPreflight where
  completedFileIds : Finset Nat := ∅
  report : LaneReport := {}

/-- The loop that adds up the sizes of the completed files. -/
def completedBytes (manifest : Manifest) : List Nat → Nat → IoResult Nat
  | [], expectedBytes => .ok expectedBytes
  | fileId :: rest, expectedBytes => do
      let entry ← okOrElse manifest[fileId]?
        (.invalidData "large CDC completed an unknown file")
      ensure (entry.fileClass = .large)
        (.invalidData "large CDC completed a non-large file")
      let expectedBytes ← addCounter expectedBytes entry.fileSize
        "large CDC logical byte count overflowed"
      completedBytes manifest rest expectedBytes

/-- What `apply_large_cdc_preflight` does with one task; the state is
`removed_file_ids`. -/
def visitCompleted (completedFileIds removedFileIds : Finset Nat) :
    TransferTask → IoResult (Finset Nat × Option TransferTask)
  | .stripe fileId offset length =>
      if fileId ∈ completedFileIds then .ok (insert fileId removedFileIds, none)
      else .ok (removedFileIds, some (.stripe fileId offset length))
  | .wholeFile fileId =>
      if fileId ∈ completedFileIds then
        .error (.invalidData "large CDC file was not scheduled as stripes")
      else .ok (removedFileIds, some (.wholeFile fileId))
  | .tinyPack fileIds totalBytes => .ok (removedFileIds, some (.tinyPack fileIds totalBytes))

/-- `apply_large_cdc_preflight`. -/
def applyLargeCdcPreflight (transferPlan : TransferPlan) (manifest : Manifest)
    (preflight : LargeCdcPreflight) : IoResult TransferPlan := do
  let expectedFiles := preflight.completedFileIds.card
  let expectedBytes ← completedBytes manifest preflight.completedFileIds.sort 0
  ensure (preflight.report.filesCopied = expectedFiles ∧
      preflight.report.bytesCopied = expectedBytes ∧
      preflight.report.cdc.completedFiles = expectedFiles ∧
      preflight.report.cdc.logicalBytes = expectedBytes)
    (.invalidData "large CDC report does not match its completed file set")
  let rewritten ← rewriteLanes (visitCompleted preflight.completedFileIds)
    transferPlan.lanes ∅
  ensure (rewritten.1 = preflight.completedFileIds)
    (.invalidData
      "large CDC completed-file set does not match the striped transfer plan")
  return { lanes := rewritten.2 }

/-! ## Exact reuse -/

/-- `ExactFileReuse`. -/
structure ExactFileReuse where
  basisFileId : Nat
  targetFileId : Nat
  digest : Digest
  deriving DecidableEq

/-- `ExactReusePlan`. -/
structure ExactReusePlan where
  entries : List ExactFileReuse := []
  deriving DecidableEq

/-- `exact_reuse_target_file_ids`. -/
def exactReuseTargetFileIds (plan : ExactReusePlan) : Finset Nat :=
  (plan.entries.map ExactFileReuse.targetFileId).toFinset

/-- `EXACT_REUSE_PLAN_FIXED_WIRE_BYTES`. -/
def exactReusePlanFixedWireBytes : Nat := 1 + 4

/-- `EXACT_REUSE_RECORD_WIRE_BYTES`. -/
def exactReuseRecordWireBytes : Nat := 8 + 8 + contentDigestBytes

/-- `exact_reuse_plan_wire_bytes`. -/
def exactReusePlanWireBytes (entryCount : Nat) : IoResult Nat := do
  let records ← okOrElse (checkedMul entryCount exactReuseRecordWireBytes)
    (.other "exact-reuse record size overflowed")
  addCounter exactReusePlanFixedWireBytes records "exact-reuse plan size overflowed"

/-- The file IDs a task transfers. -/
def TransferTask.fileIds : TransferTask → List Nat
  | .wholeFile fileId => [fileId]
  | .tinyPack fileIds _ => fileIds
  | .stripe fileId _ _ => [fileId]

/-- `planned_exact_reuse_file_ids`. -/
def plannedExactReuseFileIds (transferPlan : TransferPlan) : Finset Nat :=
  (transferPlan.tasks.flatMap TransferTask.fileIds).toFinset

/-- `TinyPackSummary`. -/
structure TinyPackSummary where
  files : Nat
  bytes : Nat
  deriving DecidableEq

/-- The size loop of `summarize_tiny_pack`. -/
def tinyPackBytes (manifest : Manifest) : List Nat → Nat → IoResult Nat
  | [], bytes => .ok bytes
  | fileId :: rest, bytes => do
      let entry ← okOrElse manifest[fileId]?
        (.invalidInput "tiny pack contains an invalid file ID")
      ensure (entry.fileClass = .tiny)
        (.invalidInput "tiny pack contains a non-tiny file")
      let bytes ← addCounter bytes entry.fileSize "tiny-pack byte count overflowed"
      tinyPackBytes manifest rest bytes

/-- `summarize_tiny_pack`. -/
def summarizeTinyPack (manifest : Manifest) (fileIds : List Nat) :
    IoResult TinyPackSummary := do
  ensure (fileIds ≠ [] ∧ fileIds.length ≤ maxTinyPackFiles)
    (.invalidInput s!"tiny pack must contain between 1 and {maxTinyPackFiles} files")
  let bytes ← tinyPackBytes manifest fileIds 0
  return { files := fileIds.length, bytes }

/-- The pack that remains when the members in `removed` leave it. -/
def rebuildTinyPack (manifest : Manifest) (removed : Finset Nat) (fileIds : List Nat) :
    IoResult (Option TransferTask) :=
  let remaining := fileIds.filter (fun fileId => fileId ∉ removed)
  if remaining = [] then .ok none
  else do
    let summary ← summarizeTinyPack manifest remaining
    return some (.tinyPack remaining summary.bytes)

/-- The sets and the byte count that the first loop of `apply_exact_reuse_plan`
collects. -/
structure ReuseChecks where
  targetFileIds : Finset Nat := ∅
  basisFileIds : Finset Nat := ∅
  logicalBytes : Nat := 0

/-- One turn of that loop. -/
def checkReuse (manifest : Manifest) (checks : ReuseChecks) (reuse : ExactFileReuse) :
    IoResult ReuseChecks := do
  ensure (reuse.basisFileId ≠ reuse.targetFileId)
    (.invalidData "exact-reuse basis and target are the same file")
  let basis ← okOrElse manifest[reuse.basisFileId]?
    (.invalidData "exact-reuse basis references an unknown file")
  let target ← okOrElse manifest[reuse.targetFileId]?
    (.invalidData "exact-reuse target references an unknown file")
  ensure (basis.fileClass = target.fileClass)
    (.invalidData "exact reuse requires matching file classes")
  ensure (basis.fileSize ≠ 0 ∧ basis.fileSize = target.fileSize)
    (.invalidData "exact-reuse files have incompatible sizes")
  ensure (reuse.targetFileId ∉ checks.targetFileIds)
    (.invalidData "exact-reuse plan contains a duplicate target")
  let logicalBytes ← addCounter checks.logicalBytes target.fileSize
    "exact-reuse logical byte count overflowed"
  return { targetFileIds := insert reuse.targetFileId checks.targetFileIds
           basisFileIds := insert reuse.basisFileId checks.basisFileIds
           logicalBytes }

/-- The loop that requires every basis and every target to be an active task. -/
def checkActive (planned : Finset Nat) : List Nat → IoResult Unit
  | [] => .ok ()
  | fileId :: rest => do
      ensure (fileId ∈ planned)
        (.invalidData s!"exact-reuse file {fileId} is not an active transfer task")
      checkActive planned rest

/-- What `apply_exact_reuse_plan` does with one task. -/
def visitReused (manifest : Manifest) (targetFileIds : Finset Nat) (_ : Unit) :
    TransferTask → IoResult (Unit × Option TransferTask)
  | .wholeFile fileId =>
      if fileId ∈ targetFileIds then .ok ((), none) else .ok ((), some (.wholeFile fileId))
  | .stripe fileId offset length =>
      if fileId ∈ targetFileIds then .ok ((), none)
      else .ok ((), some (.stripe fileId offset length))
  | .tinyPack fileIds _ => do
      let rebuilt ← rebuildTinyPack manifest targetFileIds fileIds
      return ((), rebuilt)

/-- `apply_exact_reuse_plan`: the rewritten plan and the credited report. -/
def applyExactReusePlan (transferPlan : TransferPlan) (manifest : Manifest)
    (plan : ExactReusePlan) (allowed : Bool) : IoResult (TransferPlan × LaneReport) := do
  ensure (allowed ∨ plan.entries = [])
    (.invalidData "exact reuse is currently allowed only for fresh transfers")
  let checks ← plan.entries.foldlM (checkReuse manifest) {}
  ensure (∀ fileId ∈ checks.basisFileIds, fileId ∉ checks.targetFileIds)
    (.invalidData "exact-reuse plan contains a dependency chain")
  checkActive (plannedExactReuseFileIds transferPlan)
    (checks.basisFileIds.sort ++ checks.targetFileIds.sort)
  let rewritten ← rewriteLanes (visitReused manifest checks.targetFileIds)
    transferPlan.lanes ()
  let exactReusedFiles := plan.entries.length
  let planWireBytes ← exactReusePlanWireBytes plan.entries.length
  let telemetryWireBytes := if plan.entries = [] then 0 else planWireBytes
  return ({ lanes := rewritten.2 },
    { filesCopied := exactReusedFiles
      bytesCopied := checks.logicalBytes
      dataWireBytes := planWireBytes
      exactReusedFiles
      exactReusedBytes := checks.logicalBytes
      exactReusePlanWireBytes := telemetryWireBytes })

/-! ## The resume offer -/

/-- `ResumeApplication`. -/
structure ResumeApplication where
  logicalReport : LaneReport := {}
  stripeCount : Nat := 0
  resumedBytes : Nat := 0
  unchangedFileCount : Nat := 0
  unchangedBytes : Nat := 0
  deriving DecidableEq

/-- The loop of `planned_resume_stripes` over all tasks. -/
def collectResumeStripes : List TransferTask → Finset ResumeStripe →
    IoResult (Finset ResumeStripe)
  | [], planned => .ok planned
  | .stripe fileId offset length :: rest, planned => do
      let stripe ← ResumeStripe.new fileId offset length
      ensure (stripe ∉ planned) (.other "transfer plan contains a duplicate resume stripe")
      collectResumeStripes rest (insert stripe planned)
  | _ :: rest, planned => collectResumeStripes rest planned

/-- `planned_resume_stripes`. -/
def plannedResumeStripes (transferPlan : TransferPlan) : IoResult (Finset ResumeStripe) :=
  collectResumeStripes transferPlan.tasks ∅

/-- `validate_resume_offer`. -/
def validateResumeOffer (transferPlan : TransferPlan) (offered : Finset ResumeStripe) :
    IoResult Unit := do
  let planned ← plannedResumeStripes transferPlan
  match (offered \ planned).sort with
  | [] => .ok ()
  | unplanned :: _ =>
      .error (.invalidData
        ("receiver offered an unplanned completed stripe: " ++ unplanned.debug))

/-- The bound loop of `validate_unchanged_offer`. -/
def checkUnchangedIds (fileCount : Nat) : List Nat → IoResult Unit
  | [] => .ok ()
  | fileId :: rest => do
      ensure (fileId < fileCount)
        (.invalidData s!"receiver offered unknown unchanged file ID {fileId}")
      checkUnchangedIds fileCount rest

/-- `validate_unchanged_offer`. -/
def validateUnchangedOffer (manifest : Manifest) (unchangedFileIds : Finset Nat) :
    IoResult Unit := do
  ensure (unchangedFileIds.card ≤ maxUnchangedOfferFiles)
    (.invalidData "unchanged-file offer exceeds the supported limit")
  checkUnchangedIds manifest.length unchangedFileIds.sort

/-- The loop that credits the unchanged files, from the manifest alone. -/
def creditUnchanged (manifest : Manifest) : List Nat → ResumeApplication →
    IoResult ResumeApplication
  | [], application => .ok application
  | fileId :: rest, application => do
      let entry ← okOrElse manifest[fileId]?
        (.invalidData s!"receiver offered unknown unchanged file ID {fileId}")
      let logicalReport ← addLaneCounts application.logicalReport 1 entry.fileSize
        "unchanged"
      let unchangedFileCount ← addCounter application.unchangedFileCount 1
        "unchanged file count overflowed"
      let unchangedBytes ← addCounter application.unchangedBytes entry.fileSize
        "unchanged byte count overflowed"
      creditUnchanged manifest rest
        { application with logicalReport, unchangedFileCount, unchangedBytes }

/-- What `apply_resume_offer` does with one task. -/
def visitOffered (manifest : Manifest) (offered : Finset ResumeStripe)
    (unchangedFileIds : Finset Nat) (application : ResumeApplication) :
    TransferTask → IoResult (ResumeApplication × Option TransferTask)
  | .wholeFile fileId =>
      if fileId ∈ unchangedFileIds then .ok (application, none)
      else .ok (application, some (.wholeFile fileId))
  | .tinyPack fileIds _ => do
      let rebuilt ← rebuildTinyPack manifest unchangedFileIds fileIds
      return (application, rebuilt)
  | .stripe fileId offset length =>
      if fileId ∈ unchangedFileIds then .ok (application, none)
      else do
        let stripe ← ResumeStripe.new fileId offset length
        if stripe ∈ offered then
          let logicalReport ← addLaneCounts application.logicalReport
            (if offset = 0 then 1 else 0) length "resumed"
          let resumedBytes ← addCounter application.resumedBytes length
            "resumed byte count overflowed"
          let stripeCount ← addCounter application.stripeCount 1
            "resumed stripe count overflowed"
          return ({ application with logicalReport, resumedBytes, stripeCount }, none)
        else .ok (application, some (.stripe fileId offset length))

/-- `apply_resume_offer`: the rewritten plan and what was credited. -/
def applyResumeOffer (transferPlan : TransferPlan) (manifest : Manifest)
    (offered : Finset ResumeStripe) (unchangedFileIds : Finset Nat) :
    IoResult (TransferPlan × ResumeApplication) := do
  validateResumeOffer transferPlan offered
  validateUnchangedOffer manifest unchangedFileIds
  match offered.sort.find? (fun stripe => stripe.fileId ∈ unchangedFileIds) with
  | some overlap =>
      let fileId := overlap.fileId
      .error (.invalidData
        s!"receiver offered file {fileId} as both unchanged and partially resumed")
  | none =>
    let application ← creditUnchanged manifest unchangedFileIds.sort {}
    let rewritten ← rewriteLanes (visitOffered manifest offered unchangedFileIds)
      transferPlan.lanes application
    let application := rewritten.1
    let stripeCount := application.stripeCount
    let unchangedFileCount := application.unchangedFileCount
    let expectedStripeCount := offered.card
    let expectedUnchangedCount := unchangedFileIds.card
    ensure (stripeCount = expectedStripeCount)
      (.other s!"applied {stripeCount} resumed stripes, expected {expectedStripeCount}")
    ensure (unchangedFileCount = expectedUnchangedCount)
      (.other
        s!"applied {unchangedFileCount} unchanged files, expected {expectedUnchangedCount}")
    return ({ lanes := rewritten.2 }, application)

/-! ## One lane for rotating disks -/

/-- `serialize_transfer_plan`: everything moves to the first lane, in lane order. -/
def serializeTransferPlan (transferPlan : TransferPlan) : TransferPlan :=
  match transferPlan.lanes with
  | [] => transferPlan
  | firstLane :: remainingLanes =>
      { lanes := (firstLane ++ remainingLanes.flatten) :: remainingLanes.map (fun _ => []) }

/-! ## The chain -/

/-- The rewrites in the order in which both sides apply them: the remaining plan,
the report of the exact reuse and what the resume offer credited.  The plan is
serialized when the destination incurs a seek penalty. -/
def rewritePlan (transferPlan : TransferPlan) (manifest : Manifest)
    (preflight : LargeCdcPreflight) (reusePlan : ExactReusePlan) (reuseAllowed : Bool)
    (offered : Finset ResumeStripe) (unchangedFileIds : Finset Nat)
    (seekPenalty : Bool) : IoResult (TransferPlan × LaneReport × ResumeApplication) := do
  let transferPlan ← applyLargeCdcPreflight transferPlan manifest preflight
  let reused ← applyExactReusePlan transferPlan manifest reusePlan reuseAllowed
  let resumed ← applyResumeOffer reused.1 manifest offered unchangedFileIds
  let remaining := if seekPenalty then serializeTransferPlan resumed.1 else resumed.1
  return (remaining, reused.2, resumed.2)

end NetworkCopy
