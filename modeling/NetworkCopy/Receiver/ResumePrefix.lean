import NetworkCopy.Receiver.Ledger

/-!
# Restarts find a prefix

`apply_fresh_resume_prefix` accepts the unions of the first generations and nothing else,
and the journal that a stopped session leaves always records such a union, unless a file of
the manifest has the name of a journal.

The names `.networkcopy-resume.bin` and `.networkcopy-resume.tmp` are not reserved.  When
the source has a file with the first of them, its content takes the place of the journal.
-/

namespace NetworkCopy

open Crash Receiver ResumeJournal ByteOrder

open Classical in
/-- The first phase of the first session of a transfer without directories. -/
theorem Transfer.prepare_eval {transfer : Transfer} {input : SessionInput}
    {summary : ManifestSummary} {transferPlan : TransferPlan} {journal : ResumeJournal}
    {state : Receiver} {clock : Nat → Nat} (hdirectories : transfer.directories = [])
    (hsummary : summarizeManifest transfer.manifest [] = .ok summary)
    (hplan : buildTransferPlan transfer.sort transfer.manifest transfer.dataStreamCount =
      .ok transferPlan)
    (hfresh : (transfer.prepareFreshDestination summary.fingerprint).eval
      (start (fun _ => none) clock) = (.ok journal, state)) :
    (transfer.prepare input).eval (start (fun _ => none) clock) =
      (.ok (summary, journal), state) := by
  have hnew : (inspect (fun files => .ok (files.tryExists journalFileName))).eval
      (start (fun _ => none) clock) = (.ok false, start (fun _ => none) clock) := rfl
  have hempty : (inspect (fun files => ensure (rootIsEmpty files)
      ⟨.alreadyExists, "destination directory is not empty and update mode is not enabled",
        none⟩)).eval (start (fun _ => none) clock) = (.ok (), start (fun _ => none) clock) := by
    apply Prog.eval_query
    exact ensure_eq_ok.mpr (fun _ => rfl)
  have hnegotiate : (transfer.negotiateVerifiedFreshResumeFiles input summary.fingerprint).eval
      (start (fun _ => none) clock) = (.ok (), start (fun _ => none) clock) := by
    unfold negotiateVerifiedFreshResumeFiles
    exact Prog.eval_bind_ok hnew
  have hdestination : (transfer.prepareDestination summary.fingerprint transferPlan).eval
      (start (fun _ => none) clock) = (.ok journal, state) := by
    unfold prepareDestination
    rw [Prog.eval_bind_ok hnew]
    exact (Prog.eval_bind_ok hempty).trans hfresh
  unfold prepare
  rw [hdirectories, hsummary, hplan]
  show (transfer.negotiateVerifiedFreshResumeFiles input summary.fingerprint >>= _).eval _ = _
  rw [Prog.eval_bind_ok hnegotiate, Prog.eval_bind_ok hdestination]
  rfl

theorem zeroDigest_length : (List.replicate 32 (0 : UInt8)).length = 32 := rfl

/-- A digest of the right length. -/
def zeroDigest : Digest := ⟨List.replicate 32 0, zeroDigest_length⟩

/-- One tiny file with a given name. -/
def tinyTransfer (name : RelativePath) : Transfer where
  manifest :=
    [{ relativePath := name
       fileSize := 36
       lastWriteTime := 1
       fileAttributes := 0x20
       fileClass := .tiny
       fileSize_lt := by norm_num [u64Limit]
       lastWriteTime_lt := one_lt_u64Limit }]
  directories := []
  dataStreamCount := 1
  reusePlan := {}
  limits := {}
  sort := .stable
  blake3 := fun _ => zeroDigest
  classified := by
    intro entry hentry
    rw [List.mem_singleton] at hentry
    rw [hentry]
    norm_num [classifyFile, tinyFileMaxBytes]
  streams := by decide

/-- Tiny files are not in the catalog. -/
def noGenerations : CatalogPlan where
  generations := []
  candidateFiles := 0
  candidateBytes := 0
  peakCatalogEntries := 0

/-- What a sender with one tiny file sends. -/
def tinyInput (content : Bytes) : SessionInput where
  wholeFile := fun _ => .record ⟨[], zeroDigest⟩
  stripe := fun _ => ⟨[], zeroDigest⟩
  tinyFile := fun _ => content
  verifiedFileIds := ∅
  seekPenalty := false
  processId := 1
  nanos := fun _ => 0

section

variable (name : RelativePath) (fingerprint : Nat)

/-- The journal of a new transfer. -/
def newJournal : ResumeJournal := ⟨fingerprint, 1, ∅, ∅⟩

/-- The receiver after the first phase. -/
def tinyPrepared : Receiver :=
  (((tinyTransfer name).prepareFreshDestination fingerprint).eval
    (Transfer.start (fun _ => none) (fun _ => 0))).2

/-- The first phase leaves the journal of a new transfer. -/
theorem tinyTransfer_prepared (content : Bytes) (summary : ManifestSummary)
    (hsummary : summarizeManifest (tinyTransfer name).manifest [] = .ok summary)
    (hplan : buildTransferPlan .stable (tinyTransfer name).manifest 1 =
      .ok { lanes := [[.tinyPack [0] 36]] })
    (hfresh : (((tinyTransfer name).prepareFreshDestination summary.fingerprint).eval
      (Transfer.start (fun _ => none) (fun _ => 0))).1 = .ok (newJournal summary.fingerprint)) :
    Sys.Reach ((tinyTransfer name).session (tinyInput content),
        Transfer.start (fun _ => none) (fun _ => 0))
      ((tinyTransfer name).receive (tinyInput content) summary (newJournal summary.fingerprint),
        tinyPrepared name summary.fingerprint) := by
  have hpair : ((tinyTransfer name).prepareFreshDestination summary.fingerprint).eval
      (Transfer.start (fun _ => none) (fun _ => 0)) =
        (.ok (newJournal summary.fingerprint), tinyPrepared name summary.fingerprint) := by
    rw [tinyPrepared, ← hfresh]
  have heval : ((tinyTransfer name).prepare (tinyInput content)).eval
      (Transfer.start (fun _ => none) (fun _ => 0)) =
        (.ok (summary, newJournal summary.fingerprint), tinyPrepared name summary.fingerprint) :=
    Transfer.prepare_eval rfl hsummary hplan hpair
  have hreach := Sys.reach_seq (f := fun prepared : ManifestSummary × ResumeJournal =>
    (tinyTransfer name).receive (tinyInput content) prepared.1 prepared.2) heval
  exact hreach

/-- The plan of the session: one pack for the end. -/
def tinyExecution : FreshGenerationExecution where
  generationLanes := []
  trailingLanes := [[.tinyPack [0] 36]]

/-- The receiver when the lanes start. -/
def tinyShared : Receiver := { tinyPrepared name fingerprint with journal := newJournal fingerprint }

/-- The trailing group is the only one. -/
theorem tinyTransfer_received (content : Bytes) (summary : ManifestSummary)
    (hplan : (tinyTransfer name).plan (tinyInput content) (newJournal fingerprint) =
      .ok (⟨noGenerations, 0⟩, tinyExecution)) :
    Sys.Reach ((tinyTransfer name).receive (tinyInput content) summary (newJournal fingerprint),
        tinyPrepared name fingerprint)
      (.par (groupThreads (tinyTransfer name).blake3 (tinyInput content)
          (tinyTransfer name).manifest none tinyExecution.trailingLanes)
        (((tinyTransfer name).finish summary tinyExecution (newJournal fingerprint)).seq
          (fun _ => .done)), tinyShared name fingerprint) := by
  have heval : (do
      let planned ← Prog.lift ((tinyTransfer name).plan (tinyInput content) (newJournal fingerprint))
      let basis ← Prog.lift (basisBeforeGeneration planned.1.catalog
        planned.1.completedGenerationCount)
      Transfer.shareJournal (newJournal fingerprint)
      return (planned, basis) :
        Program ((FreshGenerationPlan × FreshGenerationExecution) × List Nat)).eval
      (tinyPrepared name fingerprint) =
        (.ok ((⟨noGenerations, 0⟩, tinyExecution), []), tinyShared name fingerprint) := by
    rw [hplan]
    rfl
  unfold Transfer.receive
  have hreach := Sys.reach_seq (f := fun planned :
      (FreshGenerationPlan × FreshGenerationExecution) × List Nat =>
    (tinyTransfer name).receiveGenerations (tinyInput content)
      (.par (groupThreads (tinyTransfer name).blake3 (tinyInput content)
          (tinyTransfer name).manifest none planned.1.2.trailingLanes)
        (((tinyTransfer name).finish summary planned.1.2 (newJournal fingerprint)).seq
          (fun _ => .done)))
      ((planned.1.1.catalog.generations.zip planned.1.2.generationLanes).drop
        planned.1.1.completedGenerationCount)
      planned.2) heval
  exact hreach

end

/-- The fingerprint of the manifest with the file `notes`. -/
def notesFingerprint : Nat := 1918270872737016590

/-- The fingerprint of the manifest with a file that has the name of the journal. -/
def clashFingerprint : Nat := 9549832413933499995

/-- A journal for this manifest that records a file with the ID 7. -/
def staleJournal : ResumeJournal := ⟨clashFingerprint, 1, ∅, {7}⟩

/-- It as the content of a file. -/
def staleContent : Bytes :=
  (staleJournal.headerFields ++ [beBytes 4 0, beBytes 4 1] ++ staleJournal.entryFields).flatten

/-- The summary of the manifest. -/
def clashSummary : ManifestSummary := ⟨1, 0, 36, clashFingerprint⟩

/-- The receiver when the file with the name of the journal is written. -/
def clashed : Receiver :=
  ((materializeTinyFile (tinyTransfer journalFileName).manifest (fun _ => staleContent) 0).eval
    (tinyShared journalFileName clashFingerprint)).2

/-- The run in which the file takes the place of the journal. -/
theorem reach_clashed :
    Sys.Reach ((tinyTransfer journalFileName).session (tinyInput staleContent),
        Transfer.start (fun _ => none) (fun _ => 0))
      (.par ((groupThreads (tinyTransfer journalFileName).blake3 (tinyInput staleContent)
          (tinyTransfer journalFileName).manifest none tinyExecution.trailingLanes).set 1 (.ret ()))
        (((tinyTransfer journalFileName).finish clashSummary tinyExecution
          (newJournal clashFingerprint)).seq (fun _ => .done)), clashed) := by
  have hwritten : (materializeTinyFile (tinyTransfer journalFileName).manifest
      (fun _ => staleContent) 0).eval (tinyShared journalFileName clashFingerprint) =
        (.ok (), clashed) := by
    have hok : ((materializeTinyFile (tinyTransfer journalFileName).manifest
      (fun _ => staleContent) 0).eval (tinyShared journalFileName clashFingerprint)).1 =
        .ok () := by decide +kernel
    rw [clashed, ← hok]
  have hprepared := tinyTransfer_prepared journalFileName staleContent clashSummary
    (by decide +kernel) (by decide +kernel) (by decide +kernel)
  have hreceived := tinyTransfer_received journalFileName clashFingerprint staleContent clashSummary
    (by decide +kernel)
  exact (hprepared.trans hreceived).trans (Sys.reach_thread rfl (Prog.steps_of_eval hwritten))

end NetworkCopy
