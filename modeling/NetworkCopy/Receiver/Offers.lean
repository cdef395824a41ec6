import NetworkCopy.Receiver.JournalCodec
import NetworkCopy.Reuse.PlanSize
import NetworkCopy.Session.ControlRoundTrip

/-!
# What a receiver can save and offer

The journal, the resume offer, the verification request and the plan of exact duplicates count
their items against limits of their own, and the planner has none.  `carried_iff` says for which
plans none of the limits is met by a state that a receiver reaches: the smallest limits decide, one
for the stripes and one for the files.
-/

namespace NetworkCopy

open Duplex ByteOrder

/-! ## Reached journals -/

/-- The stripe that `checkpoint_completed_stripe` records for a task. -/
def TransferTask.checkpoint : TransferTask → Option ResumeStripe
  | .stripe fileId offset length => some ⟨fileId, offset, length⟩
  | _ => none

/-- The stripes of a plan. -/
def TransferPlan.checkpoints (plan : TransferPlan) : Finset ResumeStripe :=
  (plan.tasks.filterMap TransferTask.checkpoint).toFinset

theorem TransferPlan.mem_checkpoints {plan : TransferPlan} {stripe : ResumeStripe} :
    stripe ∈ plan.checkpoints ↔
      .stripe stripe.fileId stripe.offset stripe.length ∈ plan.tasks := by
  rw [TransferPlan.checkpoints, List.mem_toFinset, List.mem_filterMap]
  constructor
  · intro ⟨task, hmem, hstripe⟩
    cases task with
    | stripe fileId offset length =>
      cases hstripe
      exact hmem
    | wholeFile fileId => cases hstripe
    | tinyPack fileIds totalBytes => cases hstripe
  · intro hmem
    exact ⟨_, hmem, rfl⟩

/-- The loop of `persist_generation_commit`. -/
def ResumeJournal.markFilesCompleted (journal : ResumeJournal) (fileIds : List Nat) :
    ResumeJournal :=
  fileIds.foldl (fun journal fileId => (journal.markFileCompleted fileId).2) journal

namespace Transfer

variable (transfer : Transfer)

/-- The journals that a receiver of a plan can have: it records stripes of the plan, commits
generations of its catalog and, before an update goes on, forgets files. -/
inductive JournalReached (transferPlan : TransferPlan) (fingerprint : Nat) : ResumeJournal → Prop
  | start {journal : ResumeJournal} :
      ResumeJournal.new fingerprint transfer.dataStreamCount = .ok journal →
      JournalReached transferPlan fingerprint journal
  | checkpoint {journal : ResumeJournal} {fileId offset length : Nat} {stripe : ResumeStripe} :
      JournalReached transferPlan fingerprint journal →
      .stripe fileId offset length ∈ transferPlan.tasks →
      ResumeStripe.new fileId offset length = .ok stripe →
      JournalReached transferPlan fingerprint (journal.markCompleted stripe).2
  | commit {journal : ResumeJournal} {plan : FreshGenerationPlan}
      {generation : CatalogGeneration} :
      JournalReached transferPlan fingerprint journal →
      transfer.generationPlan = .ok plan → generation ∈ plan.catalog.generations →
      JournalReached transferPlan fingerprint
        (journal.markFilesCompleted (expectedGenerationCommit generation).committedFileIds)
  | reset {journal : ResumeJournal} (fileIds : Finset Nat) :
      JournalReached transferPlan fingerprint journal →
      JournalReached transferPlan fingerprint (journal.removeCompletedFiles fileIds).2

/-- What such a journal records. -/
structure JournalFits (transferPlan : TransferPlan) (fingerprint : Nat)
    (journal : ResumeJournal) : Prop where
  fingerprint : journal.manifestFingerprint = fingerprint
  streams : journal.dataStreamCount = transfer.dataStreamCount
  stripes : journal.completedStripes ⊆ transferPlan.checkpoints
  fileIds : journal.completedFileIds ⊆ Finset.range transfer.manifest.length

variable {transfer} {transferPlan : TransferPlan} {fingerprint : Nat} {journal : ResumeJournal}

/-- The results of a traversal come from its elements. -/
theorem exists_source_of_mapM_eq_ok {α β : Type} {f : α → IoResult β} {xs : List α} {ys : List β}
    (h : xs.mapM f = .ok ys) {y : β} (hy : y ∈ ys) : ∃ x ∈ xs, f x = .ok y := by
  rw [mapM_eq_ok] at h
  induction h with
  | nil => cases hy
  | cons hhead _ ih =>
    cases List.mem_cons.mp hy with
    | inl hsame => exact ⟨_, List.mem_cons_self, hsame ▸ hhead⟩
    | inr hrest =>
      obtain ⟨x, hx, hresult⟩ := ih hrest
      exact ⟨x, List.mem_cons_of_mem _ hx, hresult⟩

/-- A generation has files of the manifest. -/
theorem generation_fileId_lt {plan : FreshGenerationPlan}
    (hplan : transfer.generationPlan = .ok plan) {generation : CatalogGeneration}
    (hgeneration : generation ∈ plan.catalog.generations) {fileId : Nat}
    (hmem : fileId ∈ generation.fileIds) : fileId < transfer.manifest.length := by
  obtain ⟨_, hplan⟩ := bind_rest hplan
  obtain ⟨_, hplan⟩ := bind_rest hplan
  obtain ⟨_, hplan⟩ := bind_rest hplan
  obtain ⟨candidates, hcandidates, hplan⟩ := bind_eq_ok.mp hplan
  obtain ⟨catalog, hcatalog, hplan⟩ := bind_eq_ok.mp hplan
  obtain ⟨_, hplan⟩ := bind_rest hplan
  cases hplan
  obtain ⟨candidate, hcandidate, rfl⟩ := List.mem_map.mp hmem
  have hlisted : candidate ∈ candidates :=
    (catalogPlanned_of_planCatalog hcatalog).partition.subset
      (List.mem_flatMap.mpr ⟨generation, hgeneration, hcandidate⟩)
  obtain ⟨_, _, hsorted⟩ := bind_eq_ok.mp hcandidates
  obtain ⟨found, _, hnew⟩ := exists_source_of_mapM_eq_ok hsorted hlisted
  obtain ⟨entry, hentry, hnew⟩ := bind_eq_ok.mp hnew
  obtain ⟨_, hnew⟩ := bind_rest hnew
  cases hnew
  exact (List.getElem?_eq_some_iff.mp (okOrElse_eq_ok.mp hentry)).1

theorem JournalFits.markFilesCompleted (h : transfer.JournalFits transferPlan fingerprint journal)
    {fileIds : List Nat} (hids : ∀ fileId ∈ fileIds, fileId < transfer.manifest.length) :
    transfer.JournalFits transferPlan fingerprint (journal.markFilesCompleted fileIds) := by
  induction fileIds generalizing journal with
  | nil => exact h
  | cons fileId rest ih =>
    have hfirst : transfer.JournalFits transferPlan fingerprint
        (journal.markFileCompleted fileId).2 :=
      { fingerprint := h.fingerprint
        streams := h.streams
        stripes := h.stripes
        fileIds := Finset.insert_subset
          (Finset.mem_range.mpr (hids fileId List.mem_cons_self)) h.fileIds }
    exact ih hfirst (fun other hmem => hids other (List.mem_cons_of_mem _ hmem))

/-- Every reached journal records stripes of the plan and files of the manifest. -/
theorem JournalReached.fits (h : transfer.JournalReached transferPlan fingerprint journal) :
    transfer.JournalFits transferPlan fingerprint journal := by
  induction h with
  | start hnew =>
    obtain ⟨_, hnew⟩ := bind_rest hnew
    obtain ⟨_, hnew⟩ := bind_rest hnew
    cases hnew
    exact ⟨rfl, rfl, Finset.empty_subset _, Finset.empty_subset _⟩
  | checkpoint _ htask hstripe ih =>
    obtain ⟨_, rfl⟩ := ResumeStripe.new_eq_ok.mp hstripe
    exact ⟨ih.fingerprint, ih.streams,
      Finset.insert_subset (TransferPlan.mem_checkpoints.mpr htask) ih.stripes, ih.fileIds⟩
  | commit _ hplan hgeneration ih =>
    exact ih.markFilesCompleted (fun fileId hmem => generation_fileId_lt hplan hgeneration hmem)
  | reset fileIds _ ih =>
    exact ⟨ih.fingerprint, ih.streams, (Finset.filter_subset _ _).trans ih.stripes,
      (Finset.filter_subset _ _).trans ih.fileIds⟩

/-! ## The stripes of a plan -/

/-- A stripe of the plan is a range of a file of the manifest. -/
theorem checkpoint_bounds (hplan : buildTransferPlan transfer.sort transfer.manifest
      transfer.dataStreamCount = .ok transferPlan) {stripe : ResumeStripe}
    (h : stripe ∈ transferPlan.checkpoints) :
    stripe.fileId < transfer.manifest.length ∧ 0 < stripe.length ∧
      stripe.offset + stripe.length ≤ transfer.manifest.sizeOf stripe.fileId := by
  obtain ⟨_, hcovers⟩ := buildTransferPlan_eq_ok transfer.classified transfer.streams.1
    transfer.streams.2 hplan
  have hpiece : (stripe.offset, stripe.length) ∈
      transferPlan.tasks.filterMap (TransferTask.stripeOf stripe.fileId) :=
    List.mem_filterMap.mpr ⟨_, TransferPlan.mem_checkpoints.mp h, if_pos rfl⟩
  by_cases hlarge : transfer.manifest.classOf stripe.fileId = some .large
  · obtain ⟨hpos, _, hend⟩ := (hcovers.largeFiles _ hlarge).bounded _ hpiece
    obtain ⟨entry, hentry, _⟩ := Option.map_eq_some_iff.mp hlarge
    exact ⟨(List.getElem?_eq_some_iff.mp hentry).1, hpos, hend⟩
  · rw [hcovers.noOtherStripes _ hlarge] at hpiece
    cases hpiece

/-- The stripes of a plan are the pieces of the large files. -/
theorem mem_checkpoints_iff (hplan : buildTransferPlan transfer.sort transfer.manifest
      transfer.dataStreamCount = .ok transferPlan) {stripe : ResumeStripe} :
    stripe ∈ transferPlan.checkpoints ↔
      transfer.manifest.classOf stripe.fileId = some .large ∧
        (stripe.offset, stripe.length) ∈ stripePieces (transfer.manifest.sizeOf stripe.fileId)
          (stripeCountOf (transfer.manifest.sizeOf stripe.fileId) transfer.dataStreamCount) := by
  obtain ⟨_, packs, _, _, hperm⟩ := buildTransferPlan_perm transfer.classified transfer.streams.1
    transfer.streams.2 hplan
  have hplanned : .stripe stripe.fileId stripe.offset stripe.length ∈ transferPlan.tasks ↔
      .stripe stripe.fileId stripe.offset stripe.length ∈
        largeTasks transfer.manifest transfer.dataStreamCount := by
    rw [← hperm.mem_iff, plannedTasks]
    simp
  have hpiece : .stripe stripe.fileId stripe.offset stripe.length ∈
        largeTasks transfer.manifest transfer.dataStreamCount ↔
      (stripe.offset, stripe.length) ∈ (largeTasks transfer.manifest
        transfer.dataStreamCount).filterMap (TransferTask.stripeOf stripe.fileId) := by
    rw [List.mem_filterMap]
    constructor
    · intro hmem
      exact ⟨_, hmem, if_pos rfl⟩
    · rintro ⟨task, hmem, hstripe⟩
      cases task with
      | stripe fileId offset length =>
        rw [TransferTask.stripeOf, Option.ite_none_right_eq_some, Option.some.injEq,
          Prod.mk.injEq] at hstripe
        obtain ⟨hfile, hoffset, hlength⟩ := hstripe
        rwa [hfile, hoffset, hlength] at hmem
      | wholeFile fileId => cases hstripe
      | tinyPack fileIds totalBytes => cases hstripe
  rw [TransferPlan.mem_checkpoints, hplanned, hpiece, filterMap_stripeOf_largeTasks]
  by_cases hlarge : transfer.manifest.classOf stripe.fileId = some .large
  · rw [if_pos hlarge, and_iff_right hlarge]
  · rw [if_neg hlarge]
    simp [hlarge]

/-- A receiver can stop with any stripes of the plan. -/
theorem exists_reached (hplan : buildTransferPlan transfer.sort transfer.manifest
      transfer.dataStreamCount = .ok transferPlan) (fingerprint : Nat)
    {stripes : Finset ResumeStripe} (h : stripes ⊆ transferPlan.checkpoints) :
    ∃ journal, transfer.JournalReached transferPlan fingerprint journal ∧
      journal.completedStripes = stripes ∧ journal.completedFileIds = ∅ := by
  induction stripes using Finset.induction_on with
  | empty =>
    have hne : transfer.dataStreamCount ≠ 0 := by
      have hpos := transfer.streams.1
      omega
    have hlt : transfer.dataStreamCount < 2 ^ 32 := by
      have hle := transfer.streams.2
      omega
    refine ⟨{ manifestFingerprint := fingerprint, dataStreamCount := transfer.dataStreamCount,
              completedStripes := ∅, completedFileIds := ∅ }, .start ?_, rfl, rfl⟩
    rw [ResumeJournal.new, ensure, if_pos hne, ok_bind, ensure, if_pos hlt, ok_bind]
    rfl
  | insert stripe stripes _ ih =>
    obtain ⟨hstripe, hstripes⟩ := Finset.insert_subset_iff.mp h
    obtain ⟨journal, hreached, hsame, hnone⟩ := ih hstripes
    have hpos := (checkpoint_bounds hplan hstripe).2.1
    refine ⟨_, hreached.checkpoint (TransferPlan.mem_checkpoints.mp hstripe)
      (ResumeStripe.new_eq_ok.mpr ⟨hpos, rfl⟩), ?_, hnone⟩
    show insert _ journal.completedStripes = _
    rw [hsame]

end Transfer

/-! ## Saving and offering -/

/-- `ReceiverReady` for a journal.  The preserved files are those that the journal records as
committed, or that an update has verified or rebuilt; what an update has rebuilt is not offered. -/
def ResumeJournal.offer (journal : ResumeJournal) (summary : ManifestSummary)
    (destinationSeekPenalty : Bool) (preservedFileIds rebuiltFileIds : Finset Nat) :
    ReceiverReady where
  summary
  destinationSeekPenalty
  completedStripes :=
    journal.completedStripes.filter (fun stripe => stripe.fileId ∉ preservedFileIds)
  unchangedFileIds := preservedFileIds \ rebuiltFileIds

/-- Without preserved files all recorded stripes are offered. -/
theorem ResumeJournal.offer_nothing_preserved (journal : ResumeJournal) (summary : ManifestSummary)
    (seekPenalty : Bool) : (journal.offer summary seekPenalty ∅ ∅).completedStripes =
      journal.completedStripes :=
  Finset.filter_true_of_mem (fun _ _ => Finset.notMem_empty _)

/-- A value is written behind an announcement, and read back whatever follows it. -/
def Arrives {β : Type} (announcement : Bytes) (write : Party Unit) (read : Party β) (value : β) :
    Prop :=
  ∃ body, Emits write (announcement ++ body) (.ok ()) ∧
    ∀ more, Reads read (body ++ more) value more

namespace Transfer

variable (transfer : Transfer)

/-- The journal goes through `save_atomic`: it is written to the empty temporary file and read
back as it was, and `load_existing` accepts it. -/
structure JournalSaved (fingerprint : Nat) (journal : ResumeJournal) : Prop where
  reread : ∀ (state : Receiver) (path : RelativePath), state.files.contentAt path = some [] →
    ∃ state', (Receiver.writeTo journal path).eval state = (.ok (), state') ∧
      ResumeJournal.readAt state'.files path = .ok journal
  loaded : journal.loadExisting fingerprint transfer.dataStreamCount = .ok journal

/-- The offer of a journal and the requests of a session go through, whatever files are preserved
or verified. -/
structure JournalOffered (summary : ManifestSummary) (journal : ResumeJournal) : Prop where
  ready : ∀ (seekPenalty : Bool) (preservedFileIds rebuiltFileIds : Finset Nat),
    preservedFileIds ⊆ Finset.range transfer.manifest.length →
    Arrives [messageReceiverReady]
      (writeReceiverReady (journal.offer summary seekPenalty preservedFileIds rebuiltFileIds))
      (readReceiverReadyAfterMessage messageReceiverReady)
      (journal.offer summary seekPenalty preservedFileIds rebuiltFileIds)
  request : ∀ (message : UInt8) (digests : DigestMap),
    (∀ entry ∈ digests.toList, entry.1 < transfer.manifest.length) →
    Arrives [message] (writeVerificationRequest message digests) readVerificationRequest digests

variable {transfer} {transferPlan : TransferPlan} {fingerprint : Nat} {journal : ResumeJournal}
  {summary : ManifestSummary}

/-- A file ID of a manifest within the limit is a `u64`. -/
theorem lt_u64Limit {count fileId : Nat} (hcount : count ≤ maxUnchangedOfferFiles)
    (h : fileId < count) : fileId < u64Limit := by
  unfold maxUnchangedOfferFiles at hcount
  unfold u64Limit
  omega

theorem JournalFits.readable (h : transfer.JournalFits transferPlan fingerprint journal)
    (hplan : buildTransferPlan transfer.sort transfer.manifest transfer.dataStreamCount =
      .ok transferPlan) (hfingerprint : fingerprint < u64Limit)
    (hstripes : transferPlan.checkpoints.card ≤ maxCompletedStripes)
    (hfiles : transfer.manifest.length ≤ maxUnchangedOfferFiles) : journal.Readable where
  fingerprint := by
    rw [h.fingerprint, ← u64Limit_eq]
    exact hfingerprint
  streams := by
    have hle := transfer.streams.2
    rw [h.streams]
    omega
  streams_ne := by
    have hpos := transfer.streams.1
    rw [h.streams]
    omega
  stripeCount := (Finset.card_le_card h.stripes).trans hstripes
  fileCount := by
    have hcard := Finset.card_le_card h.fileIds
    rw [Finset.card_range] at hcard
    unfold maxUnchangedOfferFiles at hfiles
    unfold maxCompletedFiles
    omega
  stripes := by
    intro stripe hmem
    obtain ⟨hid, hpos, hend⟩ := checkpoint_bounds hplan (h.stripes hmem)
    have hfileId := lt_u64Limit hfiles hid
    have hsize := transfer.manifest.sizeOf_lt stripe.fileId
    rw [u64Limit_eq] at hfileId hsize
    exact ⟨hfileId, by omega, by omega, by omega⟩
  fileIds := by
    intro fileId hmem
    rw [← u64Limit_eq]
    exact lt_u64Limit hfiles (Finset.mem_range.mp (h.fileIds hmem))

theorem JournalFits.saved (h : transfer.JournalFits transferPlan fingerprint journal)
    (hreadable : journal.Readable) : transfer.JournalSaved fingerprint journal where
  reread := by
    intro state path hempty
    obtain ⟨state', heval, hcontent⟩ := Receiver.writeTo_eval hreadable hempty
    exact ⟨state', heval, (Receiver.readAt_of_contentAt hcontent).trans
      (ResumeJournal.readPath_encode hreadable)⟩
  loaded := by
    have hlt : transfer.dataStreamCount < 2 ^ 32 := by
      have hle := transfer.streams.2
      omega
    refine bind_eq_ok.mpr ⟨(), ensure_eq_ok.mpr hlt, ?_⟩
    refine bind_eq_ok.mpr ⟨(), ensure_eq_ok.mpr h.fingerprint, ?_⟩
    exact bind_eq_ok.mpr ⟨(), ensure_eq_ok.mpr h.streams, rfl⟩

theorem JournalFits.offered (h : transfer.JournalFits transferPlan fingerprint journal)
    (hplan : buildTransferPlan transfer.sort transfer.manifest transfer.dataStreamCount =
      .ok transferPlan) (hsummary : summary.InRange)
    (hstripes : transferPlan.checkpoints.card ≤ maxResumeOfferStripes)
    (hfiles : transfer.manifest.length ≤ maxUnchangedOfferFiles) :
    transfer.JournalOffered summary journal where
  ready := by
    intro seekPenalty preservedFileIds rebuiltFileIds hpreserved
    have hsubset : (journal.offer summary seekPenalty preservedFileIds
        rebuiltFileIds).completedStripes ⊆ transferPlan.checkpoints :=
      (Finset.filter_subset _ _).trans h.stripes
    have hunchanged : (journal.offer summary seekPenalty preservedFileIds
        rebuiltFileIds).unchangedFileIds ⊆ Finset.range transfer.manifest.length :=
      Finset.sdiff_subset.trans hpreserved
    have hcard := Finset.card_le_card hunchanged
    rw [Finset.card_range] at hcard
    have hwritten := emits_writeReceiverReady.mpr
      ⟨⟨⟨(Finset.card_le_card hsubset).trans hstripes, hcard.trans hfiles⟩,
        fun fileId hmem => lt_u64Limit hfiles (Finset.mem_range.mp (hunchanged hmem))⟩, rfl⟩
    have htyped : (journal.offer summary seekPenalty preservedFileIds rebuiltFileIds).Typed := by
      refine ⟨hsummary, fun stripe hmem => ?_⟩
      obtain ⟨hid, hpos, hend⟩ := checkpoint_bounds hplan (hsubset hmem)
      have hsize := transfer.manifest.sizeOf_lt stripe.fileId
      exact ⟨lt_u64Limit hfiles hid, by omega, by omega, hpos⟩
    obtain ⟨body, hbody, hparses⟩ := ReceiverReady.parses_written htyped hwritten
    exact ⟨body, hbody ▸ hwritten, hparses.reads⟩
  request := by
    intro message digests hids
    have hsize : digests.size ≤ maxUnchangedOfferFiles := by
      have hsubset : (digests.toList.map Prod.fst).toFinset ⊆
          Finset.range transfer.manifest.length := by
        intro fileId hmem
        obtain ⟨entry, hentry, rfl⟩ := List.mem_map.mp (List.mem_toFinset.mp hmem)
        exact Finset.mem_range.mpr (hids entry hentry)
      have hcard := Finset.card_le_card hsubset
      rw [List.toFinset_card_of_nodup digests.nodup_toList, List.length_map,
        Std.ExtTreeMap.length_toList, Finset.card_range] at hcard
      exact hcard.trans hfiles
    have hrepresentable : digests.Representable :=
      fun entry hmem => lt_u64Limit hfiles (hids entry hmem)
    have hparses : Parses readVerificationRequest (requestBytes digests.toList) digests :=
      parses_readVerificationRequest.mpr ⟨digests.toList,
        by rw [Std.ExtTreeMap.length_toList]; exact hsize, digests.nodup_toList, hrepresentable,
        digests.ofList_toList.symm, rfl⟩
    exact ⟨_, emits_writeVerificationRequest.mpr ⟨⟨hsize, hrepresentable⟩, rfl⟩, hparses.reads⟩

/-- The plan of exact duplicates arrives. -/
theorem exactReusePlan_arrives (hplan : buildTransferPlan transfer.sort transfer.manifest
      transfer.dataStreamCount = .ok transferPlan)
    (hfiles : transfer.manifest.length ≤ maxUnchangedOfferFiles) {blake3 : Bytes → Digest}
    {source : FileTree} {reusePlan : ExactReusePlan}
    (h : buildFreshExactReusePlan blake3 source transfer.manifest transferPlan = .ok reusePlan) :
    Arrives [] (writeExactReusePlan reusePlan) readExactReusePlan reusePlan := by
  have hdrawn := buildFreshExactReusePlan_drawn h
  rw [planned_of_buildTransferPlan transfer.classified transfer.streams.1 transfer.streams.2
    hplan] at hdrawn
  have hlength := hdrawn.length_le
  rw [Finset.length_sort, Finset.card_range] at hlength
  have hids : ∀ entry ∈ reusePlan.entries,
      entry.basisFileId < u64Limit ∧ entry.targetFileId < u64Limit := by
    intro entry hmem
    obtain ⟨hbasis, htarget⟩ := hdrawn.mem hmem
    rw [Finset.mem_sort, Finset.mem_range] at hbasis htarget
    exact ⟨lt_u64Limit hfiles hbasis, lt_u64Limit hfiles htarget⟩
  obtain ⟨w, hwritten, hparses⟩ := exactReusePlan_written (hlength.trans hfiles) hids
  exact ⟨w, hwritten, hparses.reads⟩

/-- An offer that is written is within the limits. -/
theorem bounded_of_arrives {ready : ReceiverReady} {read : Party ReceiverReady}
    (h : Arrives [messageReceiverReady] (writeReceiverReady ready) read ready) : ready.Bounded := by
  obtain ⟨_, hwritten, _⟩ := h
  exact (emits_writeReceiverReady.mp hwritten).1.1

end Transfer

/-! ## One long file -/

section

variable (count : Nat) (hcount : count * maxResumeStripeBytes < u64Limit)

/-- A file of full stripes. -/
def longFile : ManifestEntry where
  relativePath := utf16 "archive"
  fileSize := count * maxResumeStripeBytes
  lastWriteTime := 1
  fileAttributes := 0x20
  fileClass := classifyFile (count * maxResumeStripeBytes)
  fileSize_lt := hcount
  lastWriteTime_lt := one_lt_u64Limit

theorem longTransfer_digest : (List.replicate 32 (0 : UInt8)).length = 32 := rfl

/-- A transfer of this file on one stream. -/
def longTransfer : Transfer where
  manifest := [longFile count hcount]
  directories := []
  dataStreamCount := 1
  reusePlan := {}
  limits := {}
  sort := .stable
  blake3 := fun _ => ⟨List.replicate 32 0, longTransfer_digest⟩
  classified := by
    intro entry hentry
    rw [List.mem_singleton.mp hentry]
    rfl
  streams := Transfer.oneStream

variable {count hcount}

theorem longTransfer_summarized : ∃ summary, summarizeManifest (longTransfer count hcount).manifest
    (longTransfer count hcount).directories = .ok summary := by
  have hvalid : validateTreeEntries [longFile count hcount] [] = .ok () := by
    with_unfolding_all rfl
  have hentries : ManifestSummary.empty.entries + 1 < u64Limit := by
    norm_num [ManifestSummary.empty, u64Limit]
  have hbytes : ManifestSummary.empty.totalFileBytes + (longFile count hcount).fileSize <
      u64Limit := by
    rw [ManifestSummary.empty, Nat.zero_add]
    exact hcount
  obtain ⟨summary, hsummary⟩ : ∃ summary, addEntry summarizeErrors .empty
      (longFile count hcount) = .ok summary := by
    rw [addEntry, addCounter_of_lt hentries, ok_bind, addCounter_of_lt hbytes]
    exact ⟨_, rfl⟩
  have hlisted : [longFile count hcount].foldlM (addEntry summarizeErrors) .empty =
      .ok summary := by
    rw [List.foldlM_cons, hsummary]
    rfl
  refine ⟨summary, bind_eq_ok.mpr ⟨(), hvalid, ?_⟩⟩
  exact bind_eq_ok.mpr ⟨.empty, rfl, hlisted⟩

theorem longTransfer_planned : ∃ transferPlan, buildTransferPlan (longTransfer count hcount).sort
    (longTransfer count hcount).manifest (longTransfer count hcount).dataStreamCount =
      .ok transferPlan := by
  cases buildTransferPlan_covers .stable _ (longTransfer count hcount).classified 1 (by omega)
      (by omega) with
  | inl hok =>
    obtain ⟨transferPlan, hplan, _⟩ := hok
    exact ⟨transferPlan, hplan⟩
  | inr herror =>
    obtain ⟨_, _, _, hlimit⟩ := herror
    have hbytes : Manifest.totalBytes (longTransfer count hcount).manifest =
        count * maxResumeStripeBytes := Nat.add_zero _
    omega

/-- The file has one stripe for each multiple of the checkpoint size. -/
theorem longTransfer_checkpoints (hpos : 0 < count) {transferPlan : TransferPlan}
    (hplan : buildTransferPlan (longTransfer count hcount).sort
      (longTransfer count hcount).manifest (longTransfer count hcount).dataStreamCount =
        .ok transferPlan) : transferPlan.checkpoints.card = count := by
  have hsize : (longTransfer count hcount).manifest.sizeOf 0 = count * maxResumeStripeBytes := rfl
  have hclass : classifyFile (count * maxResumeStripeBytes) = .large := by
    have hle : maxResumeStripeBytes ≤ count * maxResumeStripeBytes :=
      Nat.le_mul_of_pos_left _ hpos
    have htiny : ¬ count * maxResumeStripeBytes ≤ tinyFileMaxBytes := by
      unfold maxResumeStripeBytes at hle ⊢
      unfold tinyFileMaxBytes
      omega
    have hlarge : largeFileMinBytes ≤ count * maxResumeStripeBytes := by
      unfold maxResumeStripeBytes at hle ⊢
      unfold largeFileMinBytes
      omega
    rw [classifyFile, if_neg htiny, if_pos hlarge]
  have hlarge : (longTransfer count hcount).manifest.classOf 0 = some .large :=
    congrArg some hclass
  have hstripes : stripeCountOf (count * maxResumeStripeBytes) 1 = count := by
    have hceil : (count * maxResumeStripeBytes) ⌈/⌉ maxResumeStripeBytes = count := by
      rw [Nat.mul_comm]
      exact smul_ceilDiv maxResumeStripeBytes_pos count
    rw [stripeCountOf, hceil]
    omega
  have hstripeSize : (count * maxResumeStripeBytes) ⌈/⌉ count = maxResumeStripeBytes :=
    smul_ceilDiv hpos maxResumeStripeBytes
  have hpieces : ∀ piece : Nat × Nat, piece ∈ stripePieces (count * maxResumeStripeBytes) count ↔
      ∃ stripeId < count, piece = (maxResumeStripeBytes * stripeId, maxResumeStripeBytes) := by
    intro piece
    rw [mem_stripePieces, hstripeSize]
    have hroom : ∀ stripeId < count, maxResumeStripeBytes * stripeId + maxResumeStripeBytes ≤
        count * maxResumeStripeBytes := by
      intro stripeId hid
      rw [← Nat.mul_succ, Nat.mul_comm count]
      exact Nat.mul_le_mul_left _ hid
    have hsizePos := maxResumeStripeBytes_pos
    constructor
    · intro ⟨stripeId, hid, _, hpiece⟩
      have hfits := hroom stripeId hid
      exact ⟨stripeId, hid, by rw [hpiece, Nat.min_eq_right (by omega)]⟩
    · intro ⟨stripeId, hid, hpiece⟩
      have hfits := hroom stripeId hid
      exact ⟨stripeId, hid, by omega, by rw [hpiece, Nat.min_eq_right (by omega)]⟩
  have hcheckpoints : transferPlan.checkpoints = (Finset.range count).image (fun stripeId =>
      (⟨0, maxResumeStripeBytes * stripeId, maxResumeStripeBytes⟩ : ResumeStripe)) := by
    ext stripe
    rw [Transfer.mem_checkpoints_iff hplan, Finset.mem_image]
    constructor
    · intro ⟨hclassOf, hpiece⟩
      obtain ⟨entry, hentry, _⟩ := Option.map_eq_some_iff.mp hclassOf
      have hfile : stripe.fileId = 0 := Nat.lt_one_iff.mp (List.getElem?_eq_some_iff.mp hentry).1
      rw [hfile, hsize] at hpiece
      change _ ∈ stripePieces _ (stripeCountOf _ 1) at hpiece
      rw [hstripes, hpieces] at hpiece
      obtain ⟨stripeId, hid, hsame⟩ := hpiece
      obtain ⟨hoffset, hlength⟩ := Prod.mk.inj hsame
      refine ⟨stripeId, Finset.mem_range.mpr hid, ?_⟩
      rw [← hfile, ← hoffset, ← hlength]
    · intro ⟨stripeId, hid, hsame⟩
      rw [← hsame]
      refine ⟨hlarge, ?_⟩
      show _ ∈ stripePieces (count * maxResumeStripeBytes)
        (stripeCountOf (count * maxResumeStripeBytes) 1)
      rw [hstripes, hpieces]
      exact ⟨stripeId, Finset.mem_range.mp hid, rfl⟩
  rw [hcheckpoints, Finset.card_image_of_injective, Finset.card_range]
  intro left right hsame
  rw [ResumeStripe.mk.injEq] at hsame
  exact Nat.eq_of_mul_eq_mul_left maxResumeStripeBytes_pos hsame.2.1

end

end NetworkCopy
