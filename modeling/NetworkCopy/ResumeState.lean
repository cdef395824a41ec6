import NetworkCopy.LaneReport

/-!
# Resume stripes and the resume journal

`resume_state::ResumeStripe` names one checkpointed range of a large file.  The
source keeps stripes in a `BTreeSet` ordered by file, offset and length; the
model uses `Finset` with the same order, so that a loop over a set visits its
elements as the source does.

`ResumeJournal` is what the receiver remembers between sessions.  `save_atomic`
writes a temporary file, reads it back, compares, and renames it over the journal,
so the stored journal is always one that was saved as a whole; the model keeps the
decoded value.
-/

namespace NetworkCopy

/-- `ResumeStripe`. -/
structure ResumeStripe where
  fileId : Nat
  offset : Nat
  length : Nat
  deriving DecidableEq, Repr

namespace ResumeStripe

/-- The derived order: file, then offset, then length. -/
def key (stripe : ResumeStripe) : Nat ×ₗ (Nat ×ₗ Nat) :=
  toLex (stripe.fileId, toLex (stripe.offset, stripe.length))

theorem key_injective : Function.Injective key := by
  intro left right h
  cases left
  cases right
  simpa [key] using h

instance : LinearOrder ResumeStripe := LinearOrder.lift' key key_injective

instance : IsTrans ResumeStripe (fun left right => left ≤ right) := inferInstance

instance : Std.Antisymm (fun left right : ResumeStripe => left ≤ right) := inferInstance

/-- `ResumeStripe::new`. -/
def new (fileId offset length : Nat) : IoResult ResumeStripe :=
  if length = 0 then
    .error (.invalidInput "resume stripe length must not be zero")
  else .ok ⟨fileId, offset, length⟩

theorem new_eq_ok {fileId offset length : Nat} {stripe : ResumeStripe} :
    new fileId offset length = .ok stripe ↔
      0 < length ∧ stripe = ⟨fileId, offset, length⟩ := by
  unfold new
  split
  · simp; omega
  · simp only [Except.ok.injEq]
    constructor
    · intro h
      exact ⟨by omega, h.symm⟩
    · rintro ⟨_, rfl⟩
      rfl

/-- The `{:?}` text of a stripe. -/
def debug (stripe : ResumeStripe) : String :=
  "ResumeStripe \x7b file_id: " ++ toString stripe.fileId ++ ", offset: " ++
    toString stripe.offset ++ ", length: " ++ toString stripe.length ++ " \x7d"

end ResumeStripe

/-! ## The journal -/

/-- `MAX_COMPLETED_STRIPES`. -/
@[irreducible] def maxCompletedStripes : Nat := 10000000

/-- `MAX_COMPLETED_FILES`. -/
@[irreducible] def maxCompletedFiles : Nat := 1000000

/-- `ResumeJournal`. -/
structure ResumeJournal where
  manifestFingerprint : Nat
  dataStreamCount : Nat
  completedStripes : Finset ResumeStripe
  completedFileIds : Finset Nat
  deriving DecidableEq

namespace ResumeJournal

/-- `ResumeJournal::new`. -/
def new (manifestFingerprint dataStreamCount : Nat) : IoResult ResumeJournal := do
  ensure (dataStreamCount ≠ 0)
    (.invalidInput "resume journal requires at least one data stream")
  ensure (dataStreamCount < 2 ^ 32)
    (.invalidInput "resume stream count cannot be represented")
  return { manifestFingerprint, dataStreamCount, completedStripes := ∅
           completedFileIds := ∅ }

/-- `mark_completed`: whether the stripe is new, and the journal with it. -/
def markCompleted (journal : ResumeJournal) (stripe : ResumeStripe) :
    Bool × ResumeJournal :=
  (decide (stripe ∉ journal.completedStripes),
    { journal with completedStripes := insert stripe journal.completedStripes })

/-- `mark_file_completed`. -/
def markFileCompleted (journal : ResumeJournal) (fileId : Nat) : Bool × ResumeJournal :=
  (decide (fileId ∉ journal.completedFileIds),
    { journal with completedFileIds := insert fileId journal.completedFileIds })

/-- `remove_completed_files`: whether anything was removed, and the journal without
the stripes and the IDs of the given files. -/
def removeCompletedFiles (journal : ResumeJournal) (fileIds : Finset Nat) :
    Bool × ResumeJournal :=
  let completedStripes :=
    journal.completedStripes.filter (fun stripe => stripe.fileId ∉ fileIds)
  let completedFileIds := journal.completedFileIds.filter (· ∉ fileIds)
  (decide (completedStripes.card ≠ journal.completedStripes.card ∨
      completedFileIds.card ≠ journal.completedFileIds.card),
    { journal with completedStripes, completedFileIds })

/-- `save_atomic`: the value that the journal file holds afterwards.  The checks are
those of `read_path`, which reads the temporary file back before it is published. -/
def saveAtomic (journal : ResumeJournal) : IoResult ResumeJournal := do
  ensure (journal.dataStreamCount ≠ 0)
    (.invalidData "resume journal stored zero data streams")
  let stripeCount := journal.completedStripes.card
  ensure (stripeCount ≤ maxCompletedStripes)
    (.invalidData
      s!"resume journal contains {stripeCount} stripes, exceeding the supported limit")
  let fileCount := journal.completedFileIds.card
  ensure (fileCount ≤ maxCompletedFiles)
    (.invalidData
      (s!"resume journal contains {fileCount} completed files, exceeding the supported " ++
        "limit"))
  ensure (∀ stripe ∈ journal.completedStripes, stripe.length ≠ 0)
    (.invalidData "resume journal contains a zero-length stripe")
  return journal

/-- `load_existing` on the stored value. -/
def loadExisting (stored : ResumeJournal) (expectedManifestFingerprint : Nat)
    (expectedDataStreamCount : Nat) : IoResult ResumeJournal := do
  ensure (expectedDataStreamCount < 2 ^ 32)
    (.invalidInput "expected resume stream count cannot be represented")
  ensure (stored.manifestFingerprint = expectedManifestFingerprint)
    (.invalidData ("resume journal manifest fingerprint is 0x" ++
      hexUpper 16 stored.manifestFingerprint ++ ", expected 0x" ++
      hexUpper 16 expectedManifestFingerprint))
  let storedCount := stored.dataStreamCount
  ensure (storedCount = expectedDataStreamCount)
    (.invalidData
      (s!"resume journal stores {storedCount} data streams, expected " ++
        s!"{expectedDataStreamCount}"))
  return stored

end ResumeJournal

end NetworkCopy
