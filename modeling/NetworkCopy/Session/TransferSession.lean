import NetworkCopy.Session.WireBytes
import NetworkCopy.Session.ControlRoundTrip
import NetworkCopy.GenerationExecution

/-!
# The reports of a session

From the end of the verification on, a session consists of the negotiation of the large files, the
plans that both sides derive, the groups of lanes, the commits of the generations and the
acknowledgement.  The control connection carries all but the lanes; every data stream carries the
lanes of one number, group after group.

Each side merges its own reports and the sender compares the sum with the one that the receiver
acknowledges.  Whatever files both sides hold, a session that both complete has equal reports.
-/

namespace NetworkCopy

open Duplex

/-! ## Merging -/

/-- One turn of the loop of `merge_lane_reports`. -/
def mergeLaneReport (merged report : LaneReport) : IoResult LaneReport := do
  let filesCopied ← addCounter merged.filesCopied report.filesCopied
    "merged file count overflowed"
  let bytesCopied ← addCounter merged.bytesCopied report.bytesCopied
    "merged byte count overflowed"
  let dataWireBytes ← addCounter merged.dataWireBytes report.dataWireBytes
    "merged wire-byte count overflowed"
  let compressedRecords ← addCounter merged.compressedRecords report.compressedRecords
    "merged compressed-record count overflowed"
  let cdc ← merged.cdc.merge report.cdc
  let exactReusedFiles ← addCounter merged.exactReusedFiles report.exactReusedFiles
    "merged exact-reuse file count overflowed"
  let exactReusedBytes ← addCounter merged.exactReusedBytes report.exactReusedBytes
    "merged exact-reuse byte count overflowed"
  let exactReusePlanWireBytes ← addCounter merged.exactReusePlanWireBytes
    report.exactReusePlanWireBytes "merged exact-reuse wire count overflowed"
  let tinyPackCount ← addCounter merged.tinyPackCount report.tinyPackCount
    "merged tiny-pack count overflowed"
  let compressedTinyPackCount ← addCounter merged.compressedTinyPackCount
    report.compressedTinyPackCount "merged compressed tiny-pack count overflowed"
  let rawTinyPackCount ← addCounter merged.rawTinyPackCount report.rawTinyPackCount
    "merged raw tiny-pack count overflowed"
  let tinyFilesPacked ← addCounter merged.tinyFilesPacked report.tinyFilesPacked
    "merged packed tiny-file count overflowed"
  let tinyBytesPacked ← addCounter merged.tinyBytesPacked report.tinyBytesPacked
    "merged packed tiny-byte count overflowed"
  let tinyPackWireBytes ← addCounter merged.tinyPackWireBytes report.tinyPackWireBytes
    "merged tiny-pack wire-byte count overflowed"
  return {
    filesCopied, bytesCopied, dataWireBytes, compressedRecords, cdc, exactReusedFiles
    exactReusedBytes, exactReusePlanWireBytes, tinyPackCount, compressedTinyPackCount
    rawTinyPackCount, tinyFilesPacked, tinyBytesPacked, tinyPackWireBytes }

/-- `merge_lane_reports`. -/
def mergeLaneReports (reports : List LaneReport) : IoResult LaneReport :=
  reports.foldlM mergeLaneReport {}

/-! ## The large files of an update -/

/-- `add_large_cdc_decision`. -/
def addLargeCdcDecision (preflight : LargeCdcPreflight) (fileId : Nat) (entry : ManifestEntry)
    (decision : CdcLaneDecision) (side : String) : IoResult LargeCdcPreflight := do
  ensure (entry.fileClass = .large)
    (.invalidData "large CDC decision referenced a non-large file")
  let wireBytes ← largeCdcDecisionWireBytes decision
  let dataWireBytes ← addCounter preflight.report.dataWireBytes wireBytes
    "large CDC wire-byte count overflowed"
  let report ← mergeCdc { preflight.report with dataWireBytes } decision.stats
  if decision.completed = false then return { preflight with report }
  else do
    ensure (fileId ∉ preflight.completedFileIds)
      (.invalidData "large CDC completed the same file more than once")
    let report ← addLaneCounts report 1 entry.fileSize side
    return { completedFileIds := insert fileId preflight.completedFileIds, report }

section

variable (env : LaneEnv) (source : FileTree) (manifest : Manifest)

/-- The loop of `negotiate_large_cdc_sender`. -/
def negotiateCandidatesSender :
    List Nat → LargeCdcPreflight → Party LargeCdcPreflight
  | [], preflight => return preflight
  | fileId :: rest, preflight => do
      let entry ← attempt .refused (okOrElse manifest[fileId]?
        (.invalidData "large CDC sender referenced an unknown file"))
      let decision ← senderNegotiate env source fileId entry
      let preflight ← attempt .refused
        (addLargeCdcDecision preflight fileId entry decision "sender large CDC")
      negotiateCandidatesSender rest preflight

/-- `negotiate_large_cdc_sender`, behind the message byte. -/
def negotiateLargeCdcSender : Party LargeCdcPreflight := do
  let fileIds ← readLargeCdcCandidateFileIds manifest
  let dataWireBytes ← attempt .refused (largeCdcBeginWireBytes fileIds.length)
  negotiateCandidatesSender env source manifest fileIds { report := { dataWireBytes } }

end

/-- `large_cdc_candidate_file_ids`. -/
def largeCdcCandidateFileIds (manifest : Manifest) (excludedFileIds : Finset Nat) : List Nat :=
  (List.range manifest.length).filter (fun fileId =>
    (manifest[fileId]?.any (fun entry => entry.fileClass = .large)) &&
      decide (fileId ∉ excludedFileIds))

section

variable (env : LaneEnv) (manifest : Manifest)

/-- The loop of `negotiate_large_cdc_receiver`. -/
def negotiateCandidatesReceiver :
    List Nat → LargeCdcPreflight → FileTree → Party (LargeCdcPreflight × FileTree)
  | [], preflight, files => return (preflight, files)
  | fileId :: rest, preflight, files => do
      let entry ← attempt .refused (okOrElse manifest[fileId]?
        (.invalidData "large CDC receiver referenced an unknown file"))
      let negotiated ← receiverNegotiate env files fileId entry true
      let files ← attempt .disk (if negotiated.1.completed then
        negotiated.2.restoreFile entry.relativePath entry.lastWriteTime entry.fileAttributes
        else .ok negotiated.2)
      let preflight ← attempt .refused
        (addLargeCdcDecision preflight fileId entry negotiated.1 "receiver large CDC")
      negotiateCandidatesReceiver rest preflight files

/-- `negotiate_large_cdc_receiver`. -/
def negotiateLargeCdcReceiver (files : FileTree) (excludedFileIds : Finset Nat) :
    Party (LargeCdcPreflight × FileTree) := do
  let fileIds := largeCdcCandidateFileIds manifest excludedFileIds
  writeLargeCdcBegin fileIds
  let dataWireBytes ← attempt .refused (largeCdcBeginWireBytes fileIds.length)
  negotiateCandidatesReceiver env manifest fileIds { report := { dataWireBytes } } files

end

/-! ## The groups of lanes -/

/-- The lanes that run at the same time, one on each data stream. -/
structure LaneGroup where
  lanes : List (List TransferTask)
  basis : Option (List Nat)
  laneEnd : LaneEnd
  deriving DecidableEq, Repr

/-- The groups of the generations that remain. -/
def generationGroups :
    List (CatalogGeneration × List (List TransferTask)) → List Nat → IoResult (List LaneGroup)
  | [], _ => .ok []
  | (generation, lanes) :: rest, basis => do
      let nextBasis ← applyGeneration basis generation
      let groups ← generationGroups rest nextBasis
      return { lanes, basis := some basis, laneEnd := .generation generation.index } :: groups

/-- The groups of `send_fresh_generation_plan` and `receive_fresh_generation_plan`. -/
def freshGroups (plan : FreshGenerationPlan) (execution : FreshGenerationExecution) :
    IoResult (List LaneGroup) := do
  let basis ← basisBeforeGeneration plan.catalog plan.completedGenerationCount
  let groups ← generationGroups
    ((plan.catalog.generations.zip execution.generationLanes).drop plan.completedGenerationCount)
    basis
  return groups ++ [{ lanes := execution.trailingLanes, basis := none, laneEnd := .stream }]

/-- What either side knows of the session before its lanes start. -/
structure Schedule where
  fresh : Bool
  preflight : LargeCdcPreflight
  resumeReport : LaneReport
  reuseReport : LaneReport
  remaining : TransferPlan
  generations : List CatalogGeneration
  groups : List LaneGroup

/-- The steps of either side behind the exact-reuse plan. -/
def scheduleLanes (manifest : Manifest) (limits : CatalogLimits) (fresh : Bool)
    (transferPlan : TransferPlan) (preflight : LargeCdcPreflight) (reusePlan : ExactReusePlan)
    (ready : ReceiverReady) : IoResult Schedule := do
  let reused ← applyExactReusePlan transferPlan manifest reusePlan fresh
  if fresh then do
    let generationPlan ← buildFreshGenerationPlanWithLimits manifest reused.1 limits
    let generationPlan ← applyFreshResumePrefix generationPlan ready.unchangedFileIds
    let resumed ← applyResumeOffer reused.1 manifest ready.completedStripes ready.unchangedFileIds
    let remaining := if ready.destinationSeekPenalty then serializeTransferPlan resumed.1
      else resumed.1
    let execution ← buildFreshGenerationExecution generationPlan remaining
    let groups ← freshGroups generationPlan execution
    return {
      fresh, preflight, resumeReport := resumed.2.logicalReport, reuseReport := reused.2, remaining
      generations :=
        generationPlan.catalog.generations.drop generationPlan.completedGenerationCount
      groups }
  else do
    let resumed ← applyResumeOffer reused.1 manifest ready.completedStripes ready.unchangedFileIds
    let remaining := if ready.destinationSeekPenalty then serializeTransferPlan resumed.1
      else resumed.1
    return {
      fresh, preflight, resumeReport := resumed.2.logicalReport, reuseReport := reused.2, remaining
      generations := []
      groups := [{ lanes := remaining.lanes, basis := none, laneEnd := .stream }] }

/-- What one side adds up at the end. -/
def Schedule.merge (schedule : Schedule) (transferred : LaneReport) : IoResult LaneReport :=
  mergeLaneReports
    [schedule.preflight.report, schedule.resumeReport, schedule.reuseReport, transferred]

/-- The reports of the lanes, by stream and group, merged: `merge_lane_reports` at the end of a
group and, in a fresh session, of all groups. -/
def mergeStreams (fresh : Bool) (reports : List (List LaneReport)) : IoResult LaneReport :=
  if fresh then do
    let groups ← reports.transpose.mapM mergeLaneReports
    mergeLaneReports groups
  else mergeLaneReports reports.flatten

/-! ## The data streams -/

/-- What a sender does on one data stream, group after group; `cached` is what the shared cache
answers to the lane of each group. -/
def sendStream (env : LaneEnv) (source : FileTree) (manifest : Manifest)
    (cached : Nat → Nat → Option BasisFileIndex) (stream : Nat) :
    Nat → List LaneGroup → Party (List LaneReport)
  | _, [] => return []
  | number, group :: rest => do
      let report ← sendLane env source manifest group.basis (cached number)
        (group.lanes.getD stream []) group.laneEnd
      let reports ← sendStream env source manifest cached stream (number + 1) rest
      return report :: reports

/-- What a receiver does on one data stream; `state` is the destination as the lane of each group
finds it. -/
def receiveStream (env : LaneEnv) (manifest : Manifest) (cdcEnabled : Bool)
    (state : Nat → LaneState) (stream : Nat) : Nat → List LaneGroup → Party (List LaneReport)
  | _, [] => return []
  | number, group :: rest => do
      let received ← receiveLane env manifest group.basis cdcEnabled
        (group.lanes.getD stream []) group.laneEnd (state number)
      let reports ← receiveStream env manifest cdcEnabled state stream (number + 1) rest
      return received.1 :: reports

/-! ## The control connection -/

/-- `TransferPlanStats`. -/
structure TransferPlanStats where
  tinyPackCount : Nat := 0
  tinyFilesPacked : Nat := 0
  tinyBytesPacked : Nat := 0

/-- `summarize_transfer_plan`. -/
def summarizeTransferPlan (transferPlan : TransferPlan) : IoResult TransferPlanStats :=
  transferPlan.tasks.foldlM (fun stats task =>
    match task with
    | .tinyPack fileIds totalBytes => do
        let tinyPackCount ← addCounter stats.tinyPackCount 1 "tiny-pack count overflowed"
        let tinyFilesPacked ← addCounter stats.tinyFilesPacked fileIds.length
          "packed tiny-file count overflowed"
        let tinyBytesPacked ← addCounter stats.tinyBytesPacked totalBytes
          "packed tiny-file byte count overflowed"
        return { tinyPackCount, tinyFilesPacked, tinyBytesPacked }
    | _ => .ok stats) {}

/-- `validate_tiny_pack_plan`. -/
def validateTinyPackPlan (report : LaneReport) (expected : TransferPlanStats) : IoResult Unit := do
  let encodedPackCount ← addCounter report.compressedTinyPackCount report.rawTinyPackCount
    "tiny-pack encoding count overflowed"
  ensure (report.tinyPackCount = expected.tinyPackCount ∧
      report.tinyFilesPacked = expected.tinyFilesPacked ∧
      report.tinyBytesPacked = expected.tinyBytesPacked ∧
      encodedPackCount = report.tinyPackCount)
    (.other "actual tiny-pack statistics do not match the transfer plan")

/-- `MAX_MATERIALIZATION_WORKERS`. -/
def maxMaterializationWorkers : Nat := 2

/-- `tiny_file_pool::validate_worker_count`, with the text of the sender. -/
def validateMaterializationWorkers (workerCount : Nat) : IoResult Unit :=
  ensure (1 ≤ workerCount ∧ workerCount ≤ maxMaterializationWorkers)
    (.invalidData ("receiver reported an invalid tiny-write worker count: tiny-file " ++
      s!"materialization workers must be between 1 and {maxMaterializationWorkers}"))

/-- The acknowledgement of a report. -/
def ackOf (report : LaneReport) (workers : Nat) : TransferAck where
  filesCopied := report.filesCopied
  bytesCopied := report.bytesCopied
  dataWireBytes := report.dataWireBytes
  compressedRecords := report.compressedRecords
  cdc := report.cdc
  tinyMaterializationWorkers := workers
  tinyPackCount := report.tinyPackCount
  compressedTinyPackCount := report.compressedTinyPackCount
  rawTinyPackCount := report.rawTinyPackCount
  tinyFilesPacked := report.tinyFilesPacked
  tinyBytesPacked := report.tinyBytesPacked
  tinyPackWireBytes := report.tinyPackWireBytes

/-- The comparison of the sender's report with the acknowledgement. -/
def checkTransferAck (summary : ManifestSummary) (report : LaneReport) (ack : TransferAck) :
    IoResult Unit := do
  ensure (ack.filesCopied = summary.entries ∧ ack.bytesCopied = summary.totalFileBytes)
    (.other "receiver did not copy the complete manifest")
  ensure (ack = ackOf report ack.tinyMaterializationWorkers)
    (.other "sender and receiver transfer reports differ")

/-- What is the same on both sides of a session before they talk about the transfer. -/
structure SessionPlan where
  manifest : Manifest
  summary : ManifestSummary
  sort : UnstableSort
  dataStreamCount : Nat
  limits : CatalogLimits

/-- What a side has at the end of a session. -/
structure SideEnd where
  schedule : Schedule
  report : LaneReport
  ack : TransferAck

section

variable (env : LaneEnv) (session : SessionPlan)

/-- The commits that the sender waits for. -/
def readCommits : List CatalogGeneration → Party Unit
  | [] => return ()
  | generation :: rest => do
      let commit ← readGenerationCommit
      attempt .protocol (validateGenerationCommit commit generation session.manifest.length)
      readCommits rest

/-- The commits that the receiver writes. -/
def writeCommits : List CatalogGeneration → Party Unit
  | [] => return ()
  | generation :: rest => do
      writeGenerationCommit (expectedGenerationCommit generation)
      writeCommits rest

/-- The sender until the receiver is ready: what was negotiated of the large files, whether the
session is an update, and the offer. -/
def senderPreparation (source : FileTree) : Party (LargeCdcPreflight × Bool × ReceiverReady) := do
  let message ← readU8
  if message = messageLargeCdcBegin then do
    let preflight ← negotiateLargeCdcSender env source session.manifest
    let message ← readU8
    let ready ← readReceiverReadyAfterMessage message
    return (preflight, true, ready)
  else do
    let ready ← readReceiverReadyAfterMessage message
    return ({}, false, ready)

/-- The sender on the control connection, from the preparation message to the acknowledgement.
`transferred` is what its lanes report. -/
def senderSession (source : FileTree) (transferred : LaneReport) : Party SideEnd := do
  let prepared ← senderPreparation env session source
  let preflight := prepared.1
  let updateSession := prepared.2.1
  let ready := prepared.2.2
  attempt .protocol (ensure (ready.summary = session.summary)
    (.invalidData "receiver acknowledged a different manifest"))
  let transferPlan ← attempt .refused
    (buildTransferPlan session.sort session.manifest session.dataStreamCount)
  let transferPlan ← attempt .refused
    (applyLargeCdcPreflight transferPlan session.manifest preflight)
  let reusePlan ← attempt .disk (if updateSession then .ok {}
    else buildFreshExactReusePlan env.blake3 source session.manifest transferPlan)
  writeExactReusePlan reusePlan
  let schedule ← attempt .refused (scheduleLanes session.manifest session.limits (!updateSession)
    transferPlan preflight reusePlan ready)
  let stats ← attempt .refused (summarizeTransferPlan schedule.remaining)
  readCommits session schedule.generations
  let report ← attempt .refused (schedule.merge transferred)
  attempt .refused (validateTinyPackPlan report stats)
  let ack ← readTransferAck
  attempt .protocol (validateMaterializationWorkers ack.tinyMaterializationWorkers)
  return { schedule, report, ack }

/-- What the preparation of the destination offers. -/
abbrev Preparation := LargeCdcPreflight → FileTree → IoResult { ready : ReceiverReady // ready.Typed }

/-- The large-file negotiation of the receiver. -/
def receiverPreflight (mode : DestinationMode) (files : FileTree) (verifiedFileIds : Finset Nat) :
    Party (LargeCdcPreflight × FileTree) :=
  match mode with
  | .fresh => return ({}, files)
  | .updateVerified => negotiateLargeCdcReceiver env session.manifest files verifiedFileIds

/-- The receiver until it is ready: what was negotiated of the large files, the transfer plan
without them, and the offer. -/
def receiverPreparation (mode : DestinationMode) (files : FileTree) (verifiedFileIds : Finset Nat)
    (prepare : Preparation) (transferPlan : TransferPlan) :
    Party (LargeCdcPreflight × TransferPlan × ReceiverReady) := do
  let negotiated ← receiverPreflight env session mode files verifiedFileIds
  let ready ← attempt .disk (prepare negotiated.1 negotiated.2)
  let transferPlan ← attempt .refused
    (applyLargeCdcPreflight transferPlan session.manifest negotiated.1)
  writeReceiverReady ready
  return (negotiated.1, transferPlan, ready)

/-- The receiver on the control connection, behind the verification.  `received` is what its lanes
report. -/
def receiverSession (mode : DestinationMode) (files : FileTree) (verifiedFileIds : Finset Nat)
    (prepare : Preparation) (workers : Nat) (received : LaneReport) : Party SideEnd := do
  let transferPlan ← attempt .refused
    (buildTransferPlan session.sort session.manifest session.dataStreamCount)
  let prepared ← receiverPreparation env session mode files verifiedFileIds prepare transferPlan
  let preflight := prepared.1
  let transferPlan := prepared.2.1
  let ready := prepared.2.2
  let reusePlan ← readExactReusePlan
  let schedule ← attempt .refused (scheduleLanes session.manifest session.limits
    (mode = .fresh) transferPlan preflight reusePlan ready)
  writeCommits schedule.generations
  let report ← attempt .refused (schedule.merge received)
  let workers ← attempt .refused (u32TryFrom workers
    (.other "tiny-file materialization worker count cannot be represented"))
  let ack := ackOf report workers
  attempt .refused (ensure
    (ack.filesCopied = session.summary.entries ∧ ack.bytesCopied = session.summary.totalFileBytes)
    (.invalidData "received payload does not match the manifest summary"))
  writeTransferAck ack
  return { schedule, report, ack }

end

/-! ## Messages that arrive -/

section

variable {α β γ : Type} {Q : α → β → Prop}

theorem onlySends_attempt (kind : IoError → Fault) (result : IoResult α) :
    OnlySends (attempt kind result) :=
  OnlySends.lift _

theorem onlySends_writeU8 (value : UInt8) : OnlySends (writeU8 value) := OnlySends.write _

theorem onlySends_writeU32 (value : Nat) : OnlySends (writeU32 value) := OnlySends.write _

theorem onlySends_writeU64 (value : Nat) : OnlySends (writeU64 value) := OnlySends.write _

theorem onlySends_writeIndex (text : String) (value : Nat) : OnlySends (writeIndex text value) :=
  (onlySends_attempt _ _).bind (fun _ => onlySends_writeU64 _)

theorem onlySends_writeCount (count limit : Nat) (tooMany exceeds : String) :
    OnlySends (writeCount count limit tooMany exceeds) :=
  (onlySends_attempt _ _).bind (fun _ => onlySends_attempt _ _)

theorem onlySends_writeLargeCdcBegin (fileIds : List Nat) :
    OnlySends (writeLargeCdcBegin fileIds) :=
  (onlySends_writeCount _ _ _ _).bind (fun _ => (onlySends_writeU8 _).bind (fun _ =>
    (onlySends_writeU32 _).bind (fun _ => .sendEach (onlySends_writeIndex _) _)))

theorem onlySends_writeReceiverReady (ready : ReceiverReady) :
    OnlySends (writeReceiverReady ready) := by
  have hstripe : ∀ stripe, OnlySends (writeStripe stripe) := fun stripe =>
    (onlySends_writeU64 _).bind (fun _ => (onlySends_writeU64 _).bind (fun _ =>
      onlySends_writeU64 _))
  unfold writeReceiverReady
  refine (onlySends_writeCount _ _ _ _).bind (fun _ => ?_)
  refine (onlySends_writeU8 _).bind (fun _ => ?_)
  refine (onlySends_writeU64 _).bind (fun _ => ?_)
  refine (onlySends_writeU64 _).bind (fun _ => ?_)
  refine (onlySends_writeU64 _).bind (fun _ => ?_)
  refine (onlySends_writeU64 _).bind (fun _ => ?_)
  refine (onlySends_writeU8 _).bind (fun _ => ?_)
  refine (onlySends_writeU32 _).bind (fun _ => ?_)
  refine (OnlySends.sendEach hstripe _).bind (fun _ => ?_)
  refine (onlySends_writeCount _ _ _ _).bind (fun _ => ?_)
  refine (onlySends_writeU32 _).bind (fun _ => ?_)
  exact .sendEach (onlySends_writeIndex _) _

theorem onlySends_writeGenerationCommit (commit : GenerationCommit) :
    OnlySends (writeGenerationCommit commit) := by
  have hlist : ∀ fileIds description, OnlySends (writeGenerationFileIds fileIds description) :=
    fun _ _ => (onlySends_attempt _ _).bind (fun _ => (onlySends_writeU32 _).bind (fun _ =>
      .sendEach (onlySends_writeIndex _) _))
  unfold writeGenerationCommit
  refine (onlySends_attempt _ _).bind (fun _ => ?_)
  refine (onlySends_attempt _ _).bind (fun _ => ?_)
  refine (onlySends_attempt _ _).bind (fun _ => ?_)
  refine (onlySends_attempt _ _).bind (fun _ => ?_)
  refine (onlySends_writeU8 _).bind (fun _ => ?_)
  refine (onlySends_writeIndex _ _).bind (fun _ => ?_)
  refine (hlist _ _).bind (fun _ => ?_)
  refine (hlist _ _).bind (fun _ => ?_)
  exact hlist _ _

/-- A message of the right party that the left one parses. -/
theorem meet_message {p : Party γ} {q : Party Unit} (c : γ) {f : γ → Party α}
    {g : Unit → Party β} (hq : OnlySends q) (hparses : ∀ w, Emits q w (.ok ()) → Parses p w c)
    (h : Meet (f c) (g ()) Q) : Meet (p >>= f) (q >>= g) Q := by
  apply Meet.of_onlySends hq
  intro w u hemits
  refine Agree.bind (Q := fun found _ => found = c)
    (Agree.passed hemits (hparses w hemits) rfl).swap ?_
  intro found u' hfound
  rw [hfound]
  exact h

/-- A message of the right party whose first byte tells the left one what follows. -/
theorem meet_announced {k : UInt8 → Party α} {reader : Party γ} {f : γ → Party α}
    {q : Party Unit} {g : Unit → Party β} {message : UInt8} {c : γ} (hq : OnlySends q)
    (hk : k message = reader >>= f)
    (hparses : ∀ w, Emits q w (.ok ()) → ∃ body, w = [message] ++ body ∧ Parses reader body c)
    (h : Meet (f c) (g ()) Q) : Meet (readU8 >>= k) (q >>= g) Q := by
  apply Meet.of_onlySends hq
  intro w u hemits
  obtain ⟨body, hw, hbody⟩ := hparses w hemits
  have hcut : Emits (writeU8 message >>= fun _ => Proc.write body : Party Unit) w (.ok ()) := by
    rw [hw]
    exact emits_write_bind.mpr ⟨body, emits_write.mpr rfl, rfl⟩
  apply Agree.of_emits_right hemits hcut
  rw [bind_assoc]
  apply agree_u8_back
  rw [hk]
  refine Agree.bind (Q := fun found _ => found = c)
    (Agree.passed (emits_write.mpr rfl) hbody rfl).swap ?_
  intro found u' hfound
  rw [hfound]
  exact h

theorem meet_reuseEntries (entries : List ExactFileReuse) :
    Meet (writeReuseEntries entries) (readReuseEntries entries.length)
      (fun _ received => received = entries) := by
  induction entries with
  | nil => exact Agree.ret rfl
  | cons entry rest ih =>
    rw [writeReuseEntries, List.length_cons, readReuseEntries]
    apply meet_attempt_left
    intro basisFileId hbasis
    obtain ⟨hbasisLimit, hbasisSame⟩ := u64TryFrom_eq_ok.mp hbasis
    rw [hbasisSame]
    apply agree_u64 hbasisLimit
    apply meet_attempt_left
    intro targetFileId htarget
    obtain ⟨htargetLimit, htargetSame⟩ := u64TryFrom_eq_ok.mp htarget
    rw [htargetSame]
    apply agree_u64 htargetLimit
    apply agree_digest
    refine ih.bindRight (fun _ received hreceived => ?_)
    exact Agree.ret (by rw [hreceived])

theorem meet_exactReusePlan (plan : ExactReusePlan) :
    Meet (writeExactReusePlan plan) readExactReusePlan (fun _ received => received = plan) := by
  unfold writeExactReusePlan readExactReusePlan
  apply meet_attempt_left
  intro count hcount
  obtain ⟨hlimit, hsame⟩ := u32TryFrom_eq_ok.mp hcount
  rw [hsame]
  apply meet_attempt_left
  intro _ hfits
  apply agree_u8
  apply agree_ensure_right rfl
  apply agree_u32 hlimit
  apply agree_ensure_right (ensure_eq_ok.mp hfits)
  refine (meet_reuseEntries plan.entries).bindRight (fun _ received hreceived => ?_)
  exact Agree.ret (by rw [hreceived])

end

/-! ## The large files -/

section

variable {env : LaneEnv} {source files : FileTree} {manifest : Manifest}

/-- Both sides add a decision alike. -/
theorem addLargeCdcDecision_side {preflight preflight' : LargeCdcPreflight} {fileId : Nat}
    {entry : ManifestEntry} {decision : CdcLaneDecision} {side : String} (other : String)
    (h : addLargeCdcDecision preflight fileId entry decision side = .ok preflight') :
    addLargeCdcDecision preflight fileId entry decision other = .ok preflight' := by
  unfold addLargeCdcDecision at h ⊢
  obtain ⟨_, hclass, h⟩ := bind_eq_ok.mp h
  obtain ⟨wireBytes, hwireBytes, h⟩ := bind_eq_ok.mp h
  obtain ⟨dataWireBytes, hdata, h⟩ := bind_eq_ok.mp h
  obtain ⟨report, hreport, h⟩ := bind_eq_ok.mp h
  rw [hclass, ok_bind, hwireBytes, ok_bind, hdata, ok_bind, hreport, ok_bind]
  split_ifs at h ⊢ with hcompleted
  · exact h
  · obtain ⟨_, hfirst, h⟩ := bind_eq_ok.mp h
    obtain ⟨counted, hcounted, h⟩ := bind_eq_ok.mp h
    rw [hfirst, ok_bind, addLaneCounts_side other hcounted, ok_bind]
    exact h

/-- Whatever the files, both sides have the same preflight. -/
theorem meet_negotiateCandidates (fileIds : List Nat) (preflight : LargeCdcPreflight)
    (files : FileTree) :
    Meet (negotiateCandidatesSender env source manifest fileIds preflight)
      (negotiateCandidatesReceiver env manifest fileIds preflight files)
      (fun sent received => received.1 = sent) := by
  induction fileIds generalizing preflight files with
  | nil => exact Agree.ret rfl
  | cons fileId rest ih =>
    rw [negotiateCandidatesSender, negotiateCandidatesReceiver]
    apply meet_attempt_left
    intro entry hentry
    rw [okOrElse_eq_ok] at hentry
    rw [hentry, okOrElse_some, attempt_ok, Proc.ret_bind]
    refine Agree.bind (meet_negotiate env source files fileId entry true) ?_
    intro decision negotiated hsame
    apply meet_attempt_right
    intro restored _
    apply meet_attempt_left
    intro preflight' hpreflight
    rw [hsame, addLargeCdcDecision_side _ hpreflight, attempt_ok, Proc.ret_bind]
    exact ih preflight' restored

theorem largeCdcCandidateFileIds_large (manifest : Manifest) (excludedFileIds : Finset Nat) :
    (largeCdcCandidateFileIds manifest excludedFileIds).Nodup ∧
      ∀ fileId ∈ largeCdcCandidateFileIds manifest excludedFileIds, manifest.IsLarge fileId := by
  unfold largeCdcCandidateFileIds
  refine ⟨List.nodup_range.filter _, ?_⟩
  intro fileId hmem
  have hcandidate := (List.mem_filter.mp hmem).2
  rw [Bool.and_eq_true] at hcandidate
  cases hentry : manifest[fileId]? with
  | none =>
    rw [hentry] at hcandidate
    cases hcandidate.1
  | some entry =>
    rw [hentry] at hcandidate
    exact ⟨entry, hentry, of_decide_eq_true hcandidate.1⟩

/-! ## The control connection, both sides -/

variable {session : SessionPlan}

/-- The offer of a receiver arrives behind its message byte. -/
theorem meet_ready {α β : Type} {Q : α → β → Prop} (ready : ReceiverReady) (htyped : ready.Typed)
    {k : UInt8 → Party α} {f : ReceiverReady → Party α} {g : Unit → Party β}
    (hk : k messageReceiverReady = readReceiverReadyAfterMessage messageReceiverReady >>= f)
    (h : Meet (f ready) (g ()) Q) : Meet (readU8 >>= k) (writeReceiverReady ready >>= g) Q :=
  meet_announced (onlySends_writeReceiverReady ready) hk
    (fun _ hemits => ReceiverReady.parses_written htyped hemits) h

/-- The candidates of an update arrive. -/
theorem meet_largeCdcBegin {α β : Type} {Q : α → β → Prop} (excludedFileIds : Finset Nat)
    {k : UInt8 → Party α} {f : List Nat → Party α} {g : Unit → Party β}
    (hk : k messageLargeCdcBegin = readLargeCdcCandidateFileIds manifest >>= f)
    (h : Meet (f (largeCdcCandidateFileIds manifest excludedFileIds)) (g ()) Q) :
    Meet (readU8 >>= k)
      (writeLargeCdcBegin (largeCdcCandidateFileIds manifest excludedFileIds) >>= g) Q := by
  obtain ⟨hnodup, hlarge⟩ := largeCdcCandidateFileIds_large manifest excludedFileIds
  refine meet_announced (onlySends_writeLargeCdcBegin _) hk ?_ h
  intro w hemits
  obtain ⟨⟨hcount, hids⟩, hw⟩ := emits_writeLargeCdcBegin.mp hemits
  refine ⟨_, hw, parses_readLargeCdcCandidateFileIds.mpr ⟨⟨hcount, hnodup, ?_⟩, rfl⟩⟩
  intro fileId hmem
  exact ⟨hlarge fileId hmem, hids fileId hmem⟩

/-- When the receiver is ready, both sides know the same of the large files and the offer, and
whether the session is an update. -/
theorem meet_preparation (mode : DestinationMode) (files : FileTree) (verifiedFileIds : Finset Nat)
    (prepare : Preparation) (transferPlan : TransferPlan) :
    Meet (senderPreparation env session source)
      (receiverPreparation env session mode files verifiedFileIds prepare transferPlan)
      (fun sent received => sent.1 = received.1 ∧ (!sent.2.1) = decide (mode = .fresh) ∧
        sent.2.2 = received.2.2 ∧
        applyLargeCdcPreflight transferPlan session.manifest sent.1 = .ok received.2.1) := by
  unfold senderPreparation receiverPreparation receiverPreflight
  cases mode with
  | fresh =>
    apply meet_attempt_right
    intro ready _
    apply meet_attempt_right
    intro rewritten hrewritten
    apply meet_ready ready.1 ready.2 (by rw [if_neg (by decide)])
    exact Agree.ret ⟨rfl, rfl, rfl, hrewritten⟩
  | updateVerified =>
    unfold negotiateLargeCdcReceiver negotiateLargeCdcSender
    simp only [bind_assoc]
    apply meet_largeCdcBegin verifiedFileIds (by rw [if_pos rfl])
    apply meet_attempt_left
    intro dataWireBytes hdata
    rw [hdata, attempt_ok, Proc.ret_bind]
    refine Agree.bind (meet_negotiateCandidates _ _ files) ?_
    intro preflight negotiated hsame
    apply meet_attempt_right
    intro ready _
    apply meet_attempt_right
    intro rewritten hrewritten
    rw [hsame] at hrewritten ⊢
    apply meet_ready ready.1 ready.2 rfl
    exact Agree.ret ⟨rfl, rfl, rfl, hrewritten⟩

/-- The commits of the receiver arrive. -/
theorem meet_commits (generations : List CatalogGeneration) :
    Meet (readCommits session generations) (writeCommits generations) (fun _ _ => True) := by
  induction generations with
  | nil => exact Agree.ret trivial
  | cons generation rest ih =>
    rw [readCommits, writeCommits]
    refine meet_message (expectedGenerationCommit generation)
      (onlySends_writeGenerationCommit _) ?_ ?_
    · intro w hemits
      exact parses_readGenerationCommit.mpr (emits_writeGenerationCommit.mp hemits)
    · apply meet_attempt_left
      intro _ _
      exact ih

end

/-! ## Merged reports -/

/-- The counters of merged statistics. -/
def CdcLaneStats.counters (stats : CdcLaneStats) : List Nat :=
  [stats.offeredFiles, stats.completedFiles, stats.fallbackFiles, stats.logicalBytes,
    stats.reusedBytes, stats.literalBytes, stats.indexWireBytes, stats.planWireBytes]

theorem counters_lt_of_merge {stats other merged : CdcLaneStats}
    (h : stats.merge other = .ok merged) : ∀ value ∈ merged.counters, value < u64Limit := by
  unfold CdcLaneStats.merge at h
  simp only [bind_eq_ok, addCounter_eq_ok, pure_eq_ok] at h
  obtain ⟨_, ⟨h1, rfl⟩, _, ⟨h2, rfl⟩, _, ⟨h3, rfl⟩, _, ⟨h4, rfl⟩, _, ⟨h5, rfl⟩, _, ⟨h6, rfl⟩,
    _, ⟨h7, rfl⟩, _, ⟨h8, rfl⟩, hmerged⟩ := h
  cases hmerged
  simp only [CdcLaneStats.counters, List.forall_mem_cons]
  exact ⟨h1, h2, h3, h4, h5, h6, h7, h8, by simp⟩

/-- What was merged has the types of an acknowledgement. -/
theorem typed_of_mergeLaneReport {merged report report' : LaneReport} {workers : Nat}
    (hworkers : workers < 2 ^ 32) (h : mergeLaneReport merged report = .ok report') :
    (ackOf report' workers).Typed := by
  unfold mergeLaneReport at h
  simp only [bind_eq_ok, addCounter_eq_ok, pure_eq_ok] at h
  obtain ⟨_, ⟨h1, rfl⟩, _, ⟨h2, rfl⟩, _, ⟨h3, rfl⟩, _, ⟨h4, rfl⟩, cdc, hcdc, _, ⟨_, rfl⟩,
    _, ⟨_, rfl⟩, _, ⟨_, rfl⟩, _, ⟨h5, rfl⟩, _, ⟨h6, rfl⟩, _, ⟨h7, rfl⟩, _, ⟨h8, rfl⟩,
    _, ⟨h9, rfl⟩, _, ⟨h10, rfl⟩, hreport⟩ := h
  cases hreport
  have hcounters := counters_lt_of_merge hcdc
  constructor
  · show ∀ value ∈ _ :: _ :: _ :: _ :: cdc.counters, value < u64Limit
    simp only [List.forall_mem_cons]
    exact ⟨h1, h2, h3, h4, hcounters⟩
  · exact hworkers
  · simp only [TransferAck.fields, ackOf, List.forall_mem_cons]
    exact ⟨h5, h6, h7, h8, h9, h10, by simp⟩

theorem typed_of_merge {schedule : Schedule} {transferred report : LaneReport} {workers : Nat}
    (hworkers : workers < 2 ^ 32) (h : schedule.merge transferred = .ok report) :
    (ackOf report workers).Typed := by
  unfold Schedule.merge mergeLaneReports at h
  simp only [List.foldlM_cons, List.foldlM_nil, bind_eq_ok] at h
  obtain ⟨_, _, _, _, _, _, last, hlast, hsame⟩ := h
  cases hsame
  exact typed_of_mergeLaneReport hworkers hlast

theorem onlySends_writeTransferAck (ack : TransferAck) : OnlySends (writeTransferAck ack) :=
  ⟨_, _, emits_writeTransferAck.mpr rfl⟩

/-- Both ends of a session: they have followed the same schedule, and the receiver has acknowledged
its report of the complete manifest. -/
structure SessionAgrees (session : SessionPlan) (transferred received : LaneReport)
    (sender receiver : SideEnd) : Prop where
  schedule : sender.schedule = receiver.schedule
  ack : sender.ack = receiver.ack
  acknowledged : ∃ workers, receiver.ack = ackOf receiver.report workers
  complete : receiver.report.filesCopied = session.summary.entries ∧
    receiver.report.bytesCopied = session.summary.totalFileBytes
  sent : sender.schedule.merge transferred = .ok sender.report
  received : receiver.schedule.merge received = .ok receiver.report

/-- The control connection of a session. -/
theorem meet_session (env : LaneEnv) (session : SessionPlan) (source files : FileTree)
    (mode : DestinationMode) (verifiedFileIds : Finset Nat) (prepare : Preparation) (workers : Nat)
    (transferred received : LaneReport) :
    Meet (senderSession env session source transferred)
      (receiverSession env session mode files verifiedFileIds prepare workers received)
      (SessionAgrees session transferred received) := by
  unfold senderSession receiverSession
  apply meet_attempt_right
  intro transferPlan hplan
  refine Agree.bind (meet_preparation mode files verifiedFileIds prepare transferPlan) ?_
  intro sent prepared hprepared
  obtain ⟨hpreflight, hfresh, hready, hrewritten⟩ := hprepared
  dsimp only
  apply meet_attempt_left
  intro _ _
  rw [hplan, attempt_ok, Proc.ret_bind, hrewritten, attempt_ok, Proc.ret_bind]
  apply meet_attempt_left
  intro reusePlan _
  refine Agree.bind (meet_exactReusePlan reusePlan) ?_
  intro _ reusePlan' hreuse
  rw [hreuse, ← hfresh, ← hpreflight, ← hready]
  apply meet_attempt_left
  intro schedule hschedule
  rw [hschedule, attempt_ok, Proc.ret_bind]
  apply meet_attempt_left
  intro stats _
  refine Agree.bind (meet_commits schedule.generations) ?_
  intro _ _ _
  apply meet_attempt_left
  intro sentReport hsent
  apply meet_attempt_left
  intro _ _
  apply meet_attempt_right
  intro receivedReport hreceived
  apply meet_attempt_right
  intro wireWorkers hworkers
  obtain ⟨hlimit, hsame⟩ := u32TryFrom_eq_ok.mp hworkers
  rw [hsame]
  apply meet_attempt_right
  intro _ hcomplete
  refine meet_message (ackOf receivedReport workers) (onlySends_writeTransferAck _) ?_ ?_
  · intro w hemits
    exact parses_readTransferAck.mpr
      ⟨typed_of_merge hlimit hreceived, emits_writeTransferAck.mp hemits⟩
  · apply meet_attempt_left
    intro _ _
    exact Agree.ret
      { schedule := rfl, ack := rfl, acknowledged := ⟨workers, rfl⟩
        complete := ensure_eq_ok.mp hcomplete, sent := hsent, received := hreceived }

/-! ## The data streams, both sides -/

/-- When both sides of a data stream return, their reports are equal. -/
theorem meet_stream {env : LaneEnv} {source : FileTree} {manifest : Manifest}
    {cached : Nat → Nat → Option BasisFileIndex}
    (hcache : ∀ number, BuiltCache env (cached number)) (cdcEnabled : Bool)
    (state : Nat → LaneState) (stream number : Nat) (groups : List LaneGroup) :
    Meet (sendStream env source manifest cached stream number groups)
      (receiveStream env manifest cdcEnabled state stream number groups)
      (fun sent received => received = sent) := by
  induction groups generalizing number with
  | nil => exact Agree.ret rfl
  | cons group rest ih =>
    rw [sendStream, receiveStream]
    refine Agree.bind (meet_lane (hcache number) _ group.laneEnd (state number)) ?_
    intro sent received hsame
    refine Agree.bind (ih (number + 1)) ?_
    intro sentRest receivedRest hrest
    exact Agree.ret (by rw [hsame, hrest])

/-! ## Sessions -/

/-- What the cache that the lanes of a sender share answers to the lane of a stream and a group. -/
structure SharedCache (env : LaneEnv) where
  answer : Nat → Nat → Nat → Option BasisFileIndex
  built : ∀ stream number, BuiltCache env (answer stream number)

/-- What both sides bring to a session, apart from what they share: the source; the mode, the
verified files, the destination and its preparation, the workers that write tiny files, and the
destination as each lane finds it. -/
structure SessionSides (env : LaneEnv) where
  source : FileTree
  cache : SharedCache env
  mode : DestinationMode
  verifiedFileIds : Finset Nat
  files : FileTree
  prepare : Preparation
  workers : Nat
  state : Nat → Nat → LaneState

section

variable {env : LaneEnv} (session : SessionPlan) (sides : SessionSides env)

/-- The lanes of both sides have ended on every data stream.  Each side has checked the number of
lanes of its groups, and has merged its own reports. -/
def LanesEnd (sent received : Schedule) (sentReport receivedReport : LaneReport) : Prop :=
  (∀ group ∈ sent.groups ++ received.groups, group.lanes.length = session.dataStreamCount) ∧
  ∃ sentReports receivedReports : Nat → List LaneReport,
    (∀ stream < session.dataStreamCount,
      Ends (sendStream env sides.source session.manifest (sides.cache.answer stream) stream 0
          sent.groups)
        (receiveStream env session.manifest (!received.fresh) (sides.state stream) stream 0
          received.groups)
        (sentReports stream) (receivedReports stream)) ∧
    mergeStreams sent.fresh ((List.range session.dataStreamCount).map sentReports) =
      .ok sentReport ∧
    mergeStreams received.fresh ((List.range session.dataStreamCount).map receivedReports) =
      .ok receivedReport

/-- Both sides have completed the session, on all its connections. -/
def SessionEnds (sender receiver : SideEnd) : Prop :=
  ∃ sentReport receivedReport,
    LanesEnd session sides sender.schedule receiver.schedule sentReport receivedReport ∧
    Ends (senderSession env session sides.source sentReport)
      (receiverSession env session sides.mode sides.files sides.verifiedFileIds sides.prepare
        sides.workers receivedReport)
      sender receiver

variable {session sides}

/-- Lanes that follow the same schedule end with the same report. -/
theorem LanesEnd.report_eq {schedule : Schedule} {sentReport receivedReport : LaneReport}
    (h : LanesEnd session sides schedule schedule sentReport receivedReport) :
    receivedReport = sentReport := by
  obtain ⟨_, sentReports, receivedReports, hends, hsent, hreceived⟩ := h
  have hsame : (List.range session.dataStreamCount).map receivedReports =
      (List.range session.dataStreamCount).map sentReports := by
    apply List.map_congr_left
    intro stream hstream
    exact (meet_stream (sides.cache.built stream) _ _ stream 0 schedule.groups).ends
      (hends stream (List.mem_range.mp hstream))
  rw [hsame, hsent] at hreceived
  cases hreceived
  rfl

/-- A session that both sides complete is acknowledged with the sender's own counts. -/
theorem SessionEnds.accepted {sender receiver : SideEnd}
    (h : SessionEnds session sides sender receiver) :
    receiver.ack.dataWireBytes = sender.report.dataWireBytes ∧
      checkTransferAck session.summary sender.report sender.ack = .ok () := by
  obtain ⟨sentReport, receivedReport, hlanes, hcontrol⟩ := h
  have hagrees := (meet_session env session sides.source sides.files sides.mode
    sides.verifiedFileIds sides.prepare sides.workers sentReport receivedReport).ends hcontrol
  have hsent := hagrees.sent
  rw [hagrees.schedule] at hlanes hsent
  have hreceived := hagrees.received
  rw [hlanes.report_eq, hsent] at hreceived
  have hreport : sender.report = receiver.report := Except.ok.inj hreceived
  obtain ⟨workers, hack⟩ := hagrees.acknowledged
  refine ⟨by rw [hack, hreport]; rfl, ?_⟩
  rw [checkTransferAck, hagrees.ack, hack, hreport]
  refine bind_eq_ok.mpr ⟨(), ensure_eq_ok.mpr hagrees.complete, ensure_eq_ok.mpr rfl⟩

end

/-- The sizes that the two sides add up are the bytes that travel, for tiny packs, negotiations of
large files, candidate lists, commits and exact-reuse plans; and when both sides complete a session,
the receiver acknowledges the wire bytes that the sender has counted, and the sender accepts the
acknowledgement. -/
theorem wireBytes_accounted (env : LaneEnv) :
    (∀ source manifest fileIds expectedTotalBytes w transfer,
      Emits (sendTinyPack env source manifest fileIds expectedTotalBytes) w (.ok transfer) →
      transfer.wireBytes = w.length ∧
        ∃ payload encoded, encodeTinyPack env.zstd payload = .ok encoded ∧
          tinyPackRecordWireBytes fileIds.length encoded.2.length = .ok w.length) ∧
    (∀ source files fileId entry enabled decision result toReceiver fromReceiver toSender
        fromSender,
      Ends (counted (senderNegotiate env source fileId entry) 0 0)
        (counted (receiverNegotiate env files fileId entry enabled) 0 0)
        (decision, toReceiver, fromReceiver) (result, toSender, fromSender) →
      largeCdcDecisionWireBytes decision = .ok (toReceiver + toSender) ∧
        largeCdcDecisionWireBytes result.1 = .ok (toReceiver + toSender)) ∧
    (∀ fileIds w, Emits (writeLargeCdcBegin fileIds) w (.ok ()) →
      largeCdcBeginWireBytes fileIds.length = .ok w.length) ∧
    (∀ commit w, Emits (writeGenerationCommit commit) w (.ok ()) →
      generationCommitWireBytes commit = .ok w.length) ∧
    (∀ plan w, Emits (writeExactReusePlan plan) w (.ok ()) →
      exactReusePlanWireBytes plan.entries.length = .ok w.length) ∧
    ∀ (session : SessionPlan) (sides : SessionSides env) (sender receiver : SideEnd),
      SessionEnds session sides sender receiver →
      receiver.ack.dataWireBytes = sender.report.dataWireBytes ∧
        checkTransferAck session.summary sender.report sender.ack = .ok () := by
  refine ⟨?_, ?_, fun _ _ => largeCdcBeginWireBytes_of_emits,
    fun _ _ => generationCommitWireBytes_of_emits, ?_, fun _ _ _ _ => SessionEnds.accepted⟩
  · intro source manifest fileIds expectedTotalBytes w transfer hemits
    obtain ⟨_, hwire, hrecord⟩ :=
      (exchanges_sendTinyPack fileIds expectedTotalBytes).emits hemits
    exact ⟨hwire, hrecord⟩
  · intro source files fileId entry enabled decision result toReceiver fromReceiver toSender
      fromSender hends
    have hmeet := Agree.counted (meet_negotiate env source files fileId entry enabled)
    obtain ⟨_, hto, hfrom⟩ := Meet.ends hmeet hends
    dsimp only at hto hfrom
    obtain ⟨toRight, toLeft, hsteps⟩ := hends
    have hsender : largeCdcDecisionWireBytes decision = .ok (toReceiver + fromReceiver) :=
      exchanges_senderNegotiate.counted hsteps rfl
    have hreceiver : largeCdcDecisionWireBytes result.1 = .ok (toSender + fromSender) :=
      exchanges_receiverNegotiate.counted hsteps.swap rfl
    rw [hsender, hreceiver, hfrom, ← hto, Nat.add_comm toSender]
    exact ⟨rfl, rfl⟩
  · intro plan w hemits
    exact (exchanges_writeExactReusePlan plan).emits hemits

/-! ## An update -/

/-- Two tiny files and one data stream. -/
def abcSession : SessionPlan where
  manifest := [abcEntry 0x61, abcEntry 0x62]
  summary := ⟨2, 0, 6, 1⟩
  sort := .stable
  dataStreamCount := 1
  limits := {}

/-- A destination that has nothing of the session. -/
def abcReady : { ready : ReceiverReady // ready.Typed } :=
  ⟨{ summary := ⟨2, 0, 6, 1⟩
     destinationSeekPenalty := false
     completedStripes := ∅
     unchangedFileIds := ∅ }, ⟨by constructor <;> norm_num [u64Limit], by simp⟩⟩

/-- The update of an empty destination. -/
def abcSides : SessionSides storingEnv where
  source := abcSource
  cache := { answer := fun _ _ _ => none, built := by intro _ _ _ _ h; cases h }
  mode := .updateVerified
  verifiedFileIds := ∅
  files := fun _ => none
  prepare := fun _ _ => .ok abcReady
  workers := 1
  state := fun _ _ => ⟨fun _ => none, ⟨1, 1, ∅, ∅⟩, none⟩

/-- The one tiny pack of the session. -/
def abcGroups : List LaneGroup :=
  [{ lanes := [[.tinyPack [0, 1] 6]], basis := none, laneEnd := .stream }]

def abcReport : LaneReport where
  filesCopied := 2
  bytesCopied := 6
  dataWireBytes := 157
  tinyPackCount := 1
  rawTinyPackCount := 1
  tinyFilesPacked := 2
  tinyBytesPacked := 6
  tinyPackWireBytes := 156

theorem ends_abcStream :
    Ends (sendStream storingEnv abcSource abcSession.manifest (abcSides.cache.answer 0) 0 0
        abcGroups)
      (receiveStream storingEnv abcSession.manifest true (abcSides.state 0) 0 0 abcGroups)
      [abcReport] [abcReport] :=
  Ends.of_run 400 (by decide +kernel)

theorem sessionEnds_abc : ∃ sender receiver, SessionEnds abcSession abcSides sender receiver := by
  have hrun : ((Config.run 400 ⟨senderSession storingEnv abcSession abcSource abcReport,
      receiverSession storingEnv abcSession .updateVerified abcSides.files ∅ abcSides.prepare 1
        abcReport, [], []⟩).results.map (fun ends =>
          ((ends.1.schedule.fresh, ends.1.schedule.groups),
            (ends.2.schedule.fresh, ends.2.schedule.groups)))) =
        some ((false, abcGroups), (false, abcGroups)) := by
    decide +kernel
  obtain ⟨⟨sender, receiver⟩, hends, hsame⟩ := Option.map_eq_some_iff.mp hrun
  simp only [Prod.mk.injEq] at hsame
  obtain ⟨⟨hsent, hsentGroups⟩, hreceived, hreceivedGroups⟩ := hsame
  refine ⟨sender, receiver, abcReport, abcReport, ?_, Ends.of_run 400 hends⟩
  rw [LanesEnd, hsent, hsentGroups, hreceived, hreceivedGroups]
  refine ⟨by decide, fun _ => [abcReport], fun _ => [abcReport], ?_, by decide +kernel,
    by decide +kernel⟩
  intro stream hstream
  obtain rfl : stream = 0 := Nat.lt_one_iff.mp hstream
  exact ends_abcStream

theorem wireBytes_accounted_abc :
    (∃ w transfer, Emits (sendTinyPack storingEnv abcSource abcSession.manifest [0, 1] 6) w
        (.ok transfer) ∧ transfer.wireBytes = w.length) ∧
    (∃ decision result,
      Ends (counted (senderNegotiate storingEnv abcSource 1 (abcEntry 0x62)) 0 0)
        (counted (receiverNegotiate storingEnv abcSource 1 (abcEntry 0x62) true) 0 0)
        (decision, 0, 9) (result, 9, 0) ∧
      largeCdcDecisionWireBytes decision = .ok 9) ∧
    (∃ w, Emits (writeLargeCdcBegin [0, 1]) w (.ok ()) ∧
      largeCdcBeginWireBytes 2 = .ok w.length) ∧
    (∃ w, Emits (writeGenerationCommit ⟨0, [0], [0], []⟩) w (.ok ()) ∧
      generationCommitWireBytes ⟨0, [0], [0], []⟩ = .ok w.length) ∧
    (∃ w, Emits (writeExactReusePlan ⟨[⟨0, 1, blake3OfAbc abcContent.1⟩]⟩) w (.ok ()) ∧
      exactReusePlanWireBytes 1 = .ok w.length) ∧
    ∃ sender receiver, SessionEnds abcSession abcSides sender receiver ∧
      receiver.ack.dataWireBytes = sender.report.dataWireBytes := by
  obtain ⟨htiny, hnegotiation, hbegin, hcommit, hplan, hsession⟩ := wireBytes_accounted storingEnv
  refine ⟨?_, ?_, ?_, ?_, ?_, ?_⟩
  · obtain ⟨w, transfer, hemits⟩ := emits_of_isSome
      (show (emission (sendTinyPack storingEnv abcSource abcSession.manifest [0, 1] 6)).isSome by
        decide +kernel)
    exact ⟨w, transfer, hemits, (htiny _ _ _ _ _ _ hemits).1⟩
  · have hrun : ((Config.run 400 ⟨counted (senderNegotiate storingEnv abcSource 1 (abcEntry 0x62))
        0 0, counted (receiverNegotiate storingEnv abcSource 1 (abcEntry 0x62) true) 0 0, [],
        []⟩).results.map (fun ends => (ends.1.2, ends.2.2))) = some ((0, 9), (9, 0)) := by
      decide +kernel
    obtain ⟨⟨⟨decision, _⟩, result, _⟩, hends, hcounts⟩ := Option.map_eq_some_iff.mp hrun
    cases hcounts
    have hends := Ends.of_run 400 hends
    exact ⟨decision, result, hends, (hnegotiation _ _ _ _ _ _ _ _ _ _ _ hends).1⟩
  · obtain ⟨w, _, hemits⟩ := emits_of_isSome
      (show (emission (writeLargeCdcBegin [0, 1])).isSome by decide +kernel)
    exact ⟨w, hemits, hbegin _ _ hemits⟩
  · obtain ⟨w, _, hemits⟩ := emits_of_isSome
      (show (emission (writeGenerationCommit ⟨0, [0], [0], []⟩)).isSome by decide +kernel)
    exact ⟨w, hemits, hcommit _ _ hemits⟩
  · obtain ⟨w, _, hemits⟩ := emits_of_isSome
      (show (emission (writeExactReusePlan ⟨[⟨0, 1, blake3OfAbc abcContent.1⟩]⟩)).isSome by
        decide +kernel)
    exact ⟨w, hemits, hplan _ _ hemits⟩
  · obtain ⟨sender, receiver, hends⟩ := sessionEnds_abc
    exact ⟨sender, receiver, hends, (hsession _ _ _ _ hends).1⟩

end NetworkCopy
