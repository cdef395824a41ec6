import NetworkCopy.Receiver.Store
import NetworkCopy.GenerationExecution

/-!
# Committing a generation

When the lanes of a generation have ended, `commit_fresh_generation` gives every file of
the generation its final name and its metadata, and `persist_generation_commit` records
the generation in the journal.  A later session checks the recorded files with
`validate_fresh_resume_committed_files` before it skips them.

The check compares the attribute word of the file with the word of the manifest.  The
commit restores only some attributes (`restorable_file_attributes`), so the two agree for
the words that it restores unchanged; `committed_accepted_iff` says exactly this.
-/

namespace NetworkCopy

open Crash

/-- `DestinationMode`. -/
inductive DestinationMode where
  | fresh
  | updateVerified
  deriving DecidableEq, Repr

/-! ## The check of a later session -/

/-- The checks of `validate_fresh_resume_committed_files` on the file itself. -/
def validateCommittedNode (fileId : Nat) (entry : ManifestEntry) : Option Node → IoResult Unit
  | none =>
      let text := displayPath entry.relativePath
      .error ⟨.notFound, s!"journaled committed file {fileId} is unavailable: {text}: ", none⟩
  | some .directory =>
      let text := displayPath entry.relativePath
      .error (.invalidData
        s!"journaled committed file {fileId} is not a regular file: {text}")
  | some (.file node) => do
      let text := displayPath entry.relativePath
      ensure (node.isReparsePoint = false)
        (.invalidData s!"journaled committed file {fileId} is not a regular file: {text}")
      let length := node.content.1.length
      let fileSize := entry.fileSize
      ensure (length = fileSize)
        (.invalidData
          (s!"journaled committed file {fileId} contains {length} bytes, expected " ++
            s!"{fileSize}: {text}"))
      ensure (node.lastWriteTime = entry.lastWriteTime)
        (.invalidData
          s!"journaled committed file {fileId} has a different last-write time: {text}")
      ensure (node.fileAttributes = entry.fileAttributes)
        (.invalidData
          s!"journaled committed file {fileId} has different Windows attributes: {text}")

/-- One turn of the loop of `validate_fresh_resume_committed_files`. -/
def validateCommittedFile (files : FileTree) (manifest : Manifest) (fileId : Nat) :
    IoResult Unit := do
  let entry ← okOrElse manifest[fileId]?
    (.invalidData s!"resume journal references unknown completed file ID {fileId}")
  ensure (entry.fileClass ≠ .tiny)
    (.invalidData s!"resume journal marks tiny file {fileId} as a committed catalog file")
  validateCommittedNode fileId entry (files entry.relativePath)

/-- The loop over the completed files. -/
def validateCommittedFiles (files : FileTree) (manifest : Manifest) : List Nat → IoResult Unit
  | [] => .ok ()
  | fileId :: rest => do
      validateCommittedFile files manifest fileId
      validateCommittedFiles files manifest rest

/-- `validate_fresh_resume_committed_files`. -/
def validateFreshResumeCommittedFiles (files : FileTree) (manifest : Manifest)
    (completedFileIds : Finset Nat) : IoResult Unit :=
  validateCommittedFiles files manifest (completedFileIds.sort (· ≤ ·))

/-! ## The commit -/

/-- `GenerationCommit`. -/
structure GenerationCommit where
  generationIndex : Nat
  committedFileIds : List Nat
  publishedFileIds : List Nat
  evictedFileIds : List Nat
  deriving DecidableEq, Repr

/-- `expected_generation_commit`. -/
def expectedGenerationCommit (generation : CatalogGeneration) : GenerationCommit where
  generationIndex := generation.index
  committedFileIds := generation.fileIds
  publishedFileIds := generation.publishedFileIds
  evictedFileIds := generation.evictedFileIds

/-- `validate_generation_commit_ids`. -/
def validateGenerationCommitIds (manifestEntries : Nat) (description : String) :
    List Nat → Finset Nat → IoResult Unit
  | [], _ => .ok ()
  | fileId :: rest, seen => do
      ensure (fileId < manifestEntries)
        (.invalidData s!"{description} references unknown file ID {fileId}")
      ensure (fileId ∉ seen)
        (.invalidData s!"{description} contains duplicate file ID {fileId}")
      validateGenerationCommitIds manifestEntries description rest (insert fileId seen)

/-- `validate_generation_commit`. -/
def validateGenerationCommit (commit : GenerationCommit) (generation : CatalogGeneration)
    (manifestEntries : Nat) : IoResult Unit := do
  let committed := commit.generationIndex
  let expectedIndex := generation.index
  ensure (committed = expectedIndex)
    (.invalidData s!"receiver committed generation {committed}, expected {expectedIndex}")
  validateGenerationCommitIds manifestEntries "generation committed-file list"
    commit.committedFileIds ∅
  validateGenerationCommitIds manifestEntries "generation published-file list"
    commit.publishedFileIds ∅
  validateGenerationCommitIds manifestEntries "generation evicted-file list"
    commit.evictedFileIds ∅
  let expected := expectedGenerationCommit generation
  ensure (commit.committedFileIds = expected.committedFileIds)
    (.invalidData
      "receiver generation committed-file list differs from the deterministic plan")
  ensure (commit.publishedFileIds = expected.publishedFileIds)
    (.invalidData
      "receiver generation published-file list differs from the deterministic plan")
  ensure (commit.evictedFileIds = expected.evictedFileIds)
    (.invalidData "receiver generation eviction list differs from the deterministic plan")

namespace Receiver

/-- `finalize_large_file`. -/
def finalizeLargeFile (fileId : Nat) (entry : ManifestEntry) (mode : DestinationMode) :
    Program Unit := do
  Prog.lift (ensure (entry.fileClass = .large)
    (.invalidInput "large-file finalization received a non-large file"))
  let finalPath := entry.relativePath
  let partPath := temporaryPath finalPath fileId
  let finalExists ← inspect (fun files => .ok (files.tryExists finalPath))
  let temporaryExists ← inspect (fun files => .ok (files.tryExists partPath))
  match finalExists, temporaryExists with
  | false, true => do
      inspect (fun files => files.validateResumeFile partPath entry.fileSize
        "striped temporary file")
      replace partPath finalPath
  | true, false =>
      inspect (fun files => files.validateResumeFile finalPath entry.fileSize
        "finalized striped file")
  | true, true =>
      if mode = .updateVerified then do
        inspect (fun files => files.validateResumeFile partPath entry.fileSize
          "striped update temporary file")
        replace partPath finalPath
      else
        let text := displayPath finalPath
        .fail (.invalidData s!"both final and temporary striped files exist: {text}")
  | false, false =>
      let text := displayPath partPath
      .fail ⟨.notFound, s!"striped temporary file is missing: {text}", none⟩

/-- The `match` of `commit_fresh_generation` on the class of a file. -/
def finalizeCommittedFile (fileId : Nat) (entry : ManifestEntry) : Program Unit :=
  match entry.fileClass with
  | .large => finalizeLargeFile fileId entry .fresh
  | .medium =>
      inspect (fun files => files.validateResumeFile entry.relativePath entry.fileSize
        "committed generation file")
  | .tiny =>
      .fail (.invalidData "fresh catalog generation unexpectedly committed a tiny file")

/-- One turn of the loop of `commit_fresh_generation`. -/
def commitFile (manifest : Manifest) (fileId : Nat) : Program Unit := do
  let entry ← Prog.lift (okOrElse manifest[fileId]?
    (.invalidData s!"fresh generation committed unknown file ID {fileId}"))
  finalizeCommittedFile fileId entry
  restoreFile entry.relativePath entry.lastWriteTime entry.fileAttributes

/-- `commit_fresh_generation`. -/
def commitFreshGeneration (manifest : Manifest) (generation : CatalogGeneration) :
    Program GenerationCommit := do
  Prog.each (commitFile manifest) generation.fileIds
  let commit := expectedGenerationCommit generation
  Prog.lift (validateGenerationCommit commit generation manifest.length)
  return commit

/-- `mark_file_completed` on the journal in memory. -/
def markFileCompleted (fileId : Nat) : Program Unit :=
  .modify (fun state =>
    .ok { state with journal := (state.journal.markFileCompleted fileId).2 })

/-- `persist_generation_commit`.  The lanes have ended, so nothing else uses the journal. -/
def persistGenerationCommit (commit : GenerationCommit) : Program Unit := do
  Prog.each markFileCompleted commit.committedFileIds
  let journal ← Prog.query (fun state : Receiver => .ok state.journal)
  Prog.lift (ensure (∀ fileId ∈ commit.committedFileIds, fileId ∈ journal.completedFileIds)
    (.invalidData "resume journal did not retain every committed generation file"))
  saveAtomic journal

end Receiver

/-! ## What a committed file looks like -/

/-- The file that a commit leaves at the final path. -/
structure CommittedNode (entry : ManifestEntry) (node : FileNode) : Prop where
  size : node.content.1.length = entry.fileSize
  lastWriteTime : node.lastWriteTime = entry.lastWriteTime
  fileAttributes : node.fileAttributes = restorableFileAttributes entry.fileAttributes

namespace Receiver

/-- There is a file of the right size. -/
def Complete (path : RelativePath) (size : Nat) (state : Receiver) : Prop :=
  ∃ node, state.files path = some (.file node) ∧ node.content.1.length = size

section

variable {I P T : Receiver → Prop}

/-- The rule of `finalize_large_file` in a fresh transfer: it renames a part file of the
right size, or finds a final file of the right size. -/
theorem finalizeLargeFile_alone {fileId : Nat} {entry : ManifestEntry}
    (hreplace : ∀ state files, P state → state.files entry.relativePath = none →
      Complete (temporaryPath entry.relativePath fileId) entry.fileSize state →
      state.files.replace (temporaryPath entry.relativePath fileId) entry.relativePath =
        .ok files → I (state.withFiles files) ∧ T (state.withFiles files))
    (hkeep : ∀ state, P state → Complete entry.relativePath entry.fileSize state →
      state.files (temporaryPath entry.relativePath fileId) = none → T state) :
    (finalizeLargeFile fileId entry .fresh).Alone I P (fun _ => T) := by
  have hexists : ∀ (files : FileTree) (path : RelativePath),
      files.tryExists path = false ↔ files path = none := by
    intro files path
    rw [FileTree.tryExists, Option.isSome_eq_false_iff, Option.isNone_iff_eq_none]
  unfold finalizeLargeFile
  refine Prog.Alone.bind (Q := fun _ => P) (alone_lift (fun _ _ _ h => h)) (fun _ => ?_)
  refine Prog.Alone.bind
    (Q := fun found state => P state ∧ state.files.tryExists entry.relativePath = found)
    (alone_inspect ?_) (fun finalExists => ?_)
  · rintro state value hP ⟨⟩
    exact ⟨hP, rfl⟩
  refine Prog.Alone.bind
    (Q := fun found state => (P state ∧ state.files.tryExists entry.relativePath = finalExists) ∧
      state.files.tryExists (temporaryPath entry.relativePath fileId) = found)
    (alone_inspect ?_) (fun temporaryExists => ?_)
  · rintro state value hP ⟨⟩
    exact ⟨hP, rfl⟩
  cases finalExists <;> cases temporaryExists
  · exact alone_fail
  · refine Prog.Alone.bind
      (Q := fun _ state => P state ∧ state.files entry.relativePath = none ∧
        Complete (temporaryPath entry.relativePath fileId) entry.fileSize state)
      (alone_inspect ?_) (fun _ => alone_change ?_)
    · rintro state _ ⟨⟨hP, hfinal⟩, _⟩ hvalid
      exact ⟨hP, (hexists _ _).mp hfinal, FileTree.validateResumeFile_eq_ok.mp hvalid⟩
    · rintro state files ⟨hP, hfinal, hpart⟩ hfiles
      exact hreplace state files hP hfinal hpart hfiles
  · apply alone_inspect
    rintro state _ ⟨⟨hP, _⟩, hpart⟩ hvalid
    exact hkeep state hP (FileTree.validateResumeFile_eq_ok.mp hvalid) ((hexists _ _).mp hpart)
  · exact alone_fail

/-- The rule of one turn of `commit_fresh_generation`.  `M` holds between the final name
and the metadata. -/
theorem commitFile_alone {manifest : Manifest} {fileId : Nat} {M : ManifestEntry → Receiver → Prop}
    (hreplace : ∀ entry state files, manifest[fileId]? = some entry → entry.fileClass = .large →
      P state → state.files entry.relativePath = none →
      Complete (temporaryPath entry.relativePath fileId) entry.fileSize state →
      state.files.replace (temporaryPath entry.relativePath fileId) entry.relativePath =
        .ok files → I (state.withFiles files) ∧ M entry (state.withFiles files))
    (hkeep : ∀ entry state, manifest[fileId]? = some entry → entry.fileClass = .large →
      P state → Complete entry.relativePath entry.fileSize state →
      state.files (temporaryPath entry.relativePath fileId) = none → M entry state)
    (hmedium : ∀ entry state, manifest[fileId]? = some entry → entry.fileClass = .medium →
      P state → Complete entry.relativePath entry.fileSize state → M entry state)
    (hrestore : ∀ entry state files, manifest[fileId]? = some entry → entry.fileClass ≠ .tiny →
      M entry state → state.files.restoreFile entry.relativePath entry.lastWriteTime
        entry.fileAttributes = .ok files → I (state.withFiles files) ∧ T (state.withFiles files)) :
    (commitFile manifest fileId).Alone I P (fun _ => T) := by
  unfold commitFile
  refine Prog.Alone.bind
    (Q := fun entry state => manifest[fileId]? = some entry ∧ P state)
    (alone_lift (fun entry hentry state hP => ⟨okOrElse_eq_ok.mp hentry, hP⟩)) (fun entry => ?_)
  refine Prog.Alone.bind (Q := fun _ state => manifest[fileId]? = some entry ∧
    entry.fileClass ≠ .tiny ∧ M entry state) ?_ (fun _ => alone_change ?_)
  · unfold finalizeCommittedFile
    cases hclass : entry.fileClass with
    | tiny => exact alone_fail
    | medium =>
      apply alone_inspect
      rintro state _ ⟨hentry, hP⟩ hvalid
      exact ⟨hentry, by simp, hmedium entry state hentry hclass hP
        (FileTree.validateResumeFile_eq_ok.mp hvalid)⟩
    | large =>
      apply finalizeLargeFile_alone
      · rintro state files ⟨hentry, hP⟩ hfinal hpart hfiles
        obtain ⟨hI, hM⟩ := hreplace entry state files hentry hclass hP hfinal hpart hfiles
        exact ⟨hI, hentry, by simp, hM⟩
      · rintro state ⟨hentry, hP⟩ hfinal hpart
        exact ⟨hentry, by simp, hkeep entry state hentry hclass hP hfinal hpart⟩
  · rintro state files ⟨hentry, hclass, hM⟩ hfiles
    exact hrestore entry state files hentry hclass hM hfiles

end

/-- What `restore_file` does. -/
theorem restoreFile_ok {files files' : FileTree} {path : RelativePath} {lastWriteTime : Nat}
    {sourceAttributes : UInt32} :
    files.restoreFile path lastWriteTime sourceAttributes = .ok files' ↔
      ∃ node, files path = some (.file node) ∧ files.set path (some (.file
        { node with lastWriteTime
                    fileAttributes := restorableFileAttributes sourceAttributes })) = files' := by
  rw [FileTree.restoreFile, bind_eq_ok]
  simp only [FileTree.openFile_eq_ok, pure_eq_ok, Except.ok.injEq]

/-- A commit leaves a file with the size, the time and the restorable attributes of its
entry. -/
theorem commitFile_committed (manifest : Manifest) (fileId : Nat) :
    (commitFile manifest fileId).Alone (fun _ => True) (fun _ => True)
      (fun _ state => ∃ entry node, manifest[fileId]? = some entry ∧ entry.fileClass ≠ .tiny ∧
        state.files entry.relativePath = some (.file node) ∧ CommittedNode entry node) := by
  apply commitFile_alone
    (M := fun entry state => Complete entry.relativePath entry.fileSize state)
  · rintro entry state files hentry _ _ _ ⟨node, hnode, hsize⟩ hfiles
    refine ⟨trivial, node, ?_, hsize⟩
    unfold FileTree.replace at hfiles
    rw [FileTree.openFile_eq_ok.mpr hnode, ok_bind] at hfiles
    obtain ⟨_, _, hset⟩ := bind_eq_ok.mp hfiles
    rw [pure_eq_ok, Except.ok.injEq] at hset
    rw [withFiles_files, ← hset, FileTree.set_same]
  · intro entry state _ _ _ hfinal _
    exact hfinal
  · intro entry state _ _ _ hfinal
    exact hfinal
  · rintro entry state files hentry hclass ⟨node, hnode, hsize⟩ hfiles
    obtain ⟨node', hnode', rfl⟩ := restoreFile_ok.mp hfiles
    rw [hnode] at hnode'
    cases hnode'
    refine ⟨trivial, entry, _, hentry, hclass, FileTree.set_same _ _ _, ?_⟩
    exact ⟨hsize, rfl, rfl⟩

end Receiver

/-- The attribute words that `restore_file` writes back unchanged. -/
def RestoredUnchanged (attributes : UInt32) : Prop :=
  attributes = fileAttributeNormal ∨
    attributes ≠ 0 ∧ attributes &&& restorableFileAttributeMask = attributes

instance (attributes : UInt32) : Decidable (RestoredUnchanged attributes) :=
  inferInstanceAs (Decidable (_ ∨ _))

theorem restorableFileAttributes_eq_self {attributes : UInt32} :
    restorableFileAttributes attributes = attributes ↔ RestoredUnchanged attributes := by
  unfold restorableFileAttributes RestoredUnchanged
  dsimp only
  split
  · rename_i hnone
    constructor
    · intro h
      exact .inl h.symm
    · rintro (h | ⟨hnonzero, hmask⟩)
      · exact h.symm
      · exact absurd (hmask.symm.trans hnone) hnonzero
  · rename_i hsome
    constructor
    · intro h
      refine .inr ⟨?_, h⟩
      rintro rfl
      exact hsome (by decide)
    · rintro (rfl | ⟨_, hmask⟩)
      · exact absurd (by decide) hsome
      · exact hmask

/-- No restored attribute makes a file a reparse point. -/
theorem restorableFileAttributes_not_reparse (attributes : UInt32) :
    restorableFileAttributes attributes &&& fileAttributeReparsePoint = 0 := by
  unfold restorableFileAttributes
  dsimp only
  split
  · decide
  · rw [UInt32.and_assoc,
      show restorableFileAttributeMask &&& fileAttributeReparsePoint = 0 by decide,
      UInt32.and_zero]

/-- The check of a later session on a committed file. -/
theorem validateCommittedNode_eq_ok {fileId : Nat} {entry : ManifestEntry} {node : FileNode}
    (h : CommittedNode entry node) {u : Unit} :
    validateCommittedNode fileId entry (some (.file node)) = .ok u ↔
      RestoredUnchanged entry.fileAttributes := by
  have hregular : node.isReparsePoint = false := by
    rw [FileNode.isReparsePoint, h.fileAttributes, restorableFileAttributes_not_reparse]
    rfl
  unfold validateCommittedNode
  simp only [bind_eq_ok, ensure_eq_ok, hregular, h.size, h.lastWriteTime, true_and, exists_const,
    h.fileAttributes]
  exact restorableFileAttributes_eq_self

theorem validateCommittedNode_attributes {fileId : Nat} {entry : ManifestEntry} {node : FileNode}
    (h : CommittedNode entry node) (hne : node.fileAttributes ≠ entry.fileAttributes) :
    validateCommittedNode fileId entry (some (.file node)) = .error (.invalidData
      s!"journaled committed file {fileId} has different Windows attributes: {displayPath
        entry.relativePath}") := by
  have hregular : node.isReparsePoint = false := by
    rw [FileNode.isReparsePoint, h.fileAttributes, restorableFileAttributes_not_reparse]
    rfl
  unfold validateCommittedNode
  simp only [ensure, hregular, h.size, h.lastWriteTime, if_true, ok_bind, if_neg hne]

theorem validateCommittedFiles_eq_ok {files : FileTree} {manifest : Manifest} {u : Unit} :
    ∀ {fileIds : List Nat}, validateCommittedFiles files manifest fileIds = .ok u ↔
      ∀ fileId ∈ fileIds, validateCommittedFile files manifest fileId = .ok ()
  | [] => by simp [validateCommittedFiles]
  | fileId :: rest => by
      rw [validateCommittedFiles, bind_eq_ok]
      constructor
      · rintro ⟨_, hfirst, hrest⟩ other hother
        rcases List.mem_cons.mp hother with rfl | hother
        · exact hfirst
        · exact validateCommittedFiles_eq_ok.mp hrest other hother
      · intro h
        exact ⟨(), h fileId (by simp), validateCommittedFiles_eq_ok.mpr
          (fun other hother => h other (List.mem_cons_of_mem _ hother))⟩

/-- A file that a commit has finalised and that nobody has touched since: a run of the
commit has left at the final path what is there now. -/
def Committed (files : FileTree) (manifest : Manifest) (fileId : Nat) : Prop :=
  ∃ before after : Receiver,
    Prog.Steps (Receiver.commitFile manifest fileId, before) (.ret (), after) ∧
      ∀ entry, manifest[fileId]? = some entry →
        files entry.relativePath = after.files entry.relativePath

theorem validateCommittedFile_eq_ok {files : FileTree} {manifest : Manifest} {fileId : Nat}
    (h : Committed files manifest fileId) :
    validateCommittedFile files manifest fileId = .ok () ↔
      ∀ entry, manifest[fileId]? = some entry → RestoredUnchanged entry.fileAttributes := by
  obtain ⟨before, after, hrun, huntouched⟩ := h
  obtain ⟨entry, node, hentry, hclass, hnode, hcommitted⟩ :=
    Prog.Alone.of_steps (Receiver.commitFile_committed manifest fileId) trivial hrun
  have hnow : files entry.relativePath = some (.file node) :=
    (huntouched entry hentry).trans hnode
  unfold validateCommittedFile
  rw [hentry, okOrElse_some, ok_bind, bind_eq_ok]
  constructor
  · rintro ⟨_, _, hvalid⟩ other hother
    cases hother
    rw [hnow] at hvalid
    exact (validateCommittedNode_eq_ok hcommitted).mp hvalid
  · intro hall
    refine ⟨(), ensure_eq_ok.mpr hclass, ?_⟩
    rw [hnow]
    exact (validateCommittedNode_eq_ok hcommitted).mpr (hall entry rfl)

/-- The next session accepts the committed files exactly when the commit has restored the
attribute word of each of them unchanged. -/
theorem committed_accepted_iff (files : FileTree) (manifest : Manifest)
    (completedFileIds : Finset Nat)
    (hcommitted : ∀ fileId ∈ completedFileIds, Committed files manifest fileId) :
    validateFreshResumeCommittedFiles files manifest completedFileIds = .ok () ↔
      ∀ fileId ∈ completedFileIds, ∀ entry, manifest[fileId]? = some entry →
        RestoredUnchanged entry.fileAttributes := by
  unfold validateFreshResumeCommittedFiles
  rw [validateCommittedFiles_eq_ok]
  constructor
  · intro h fileId hmem
    exact (validateCommittedFile_eq_ok (hcommitted fileId hmem)).mp
      (h fileId ((Finset.mem_sort _).mpr hmem))
  · intro h fileId hmem
    rw [Finset.mem_sort] at hmem
    exact (validateCommittedFile_eq_ok (hcommitted fileId hmem)).mpr (h fileId hmem)

/-- 300000 bytes.  Irreducible, so that nothing writes them out. -/
@[irreducible] def sampleContent : FileContent :=
  ⟨List.replicate 300000 0, by rw [List.length_replicate]; norm_num [fileSizeLimit]⟩

theorem sampleContent_length : sampleContent.1.length = 300000 := by
  unfold sampleContent
  exact List.length_replicate

/-- A file with given attributes. -/
def sampleNode (attributes : UInt32) : FileNode where
  content := sampleContent
  lastWriteTime := 7
  fileAttributes := attributes

theorem seven_lt_u64Limit : 7 < u64Limit := by norm_num [u64Limit]

/-- The entry that a scan records for it. -/
def sampleEntry (attributes : UInt32) : ManifestEntry where
  relativePath := utf16 "notes"
  fileSize := 300000
  lastWriteTime := 7
  fileAttributes := attributes
  fileClass := .medium
  fileSize_lt := medium_lt_u64Limit
  lastWriteTime_lt := seven_lt_u64Limit

theorem scanFile_sample {attributes : UInt32} (h : attributes &&& fileAttributeReparsePoint = 0) :
    scanFile (utf16 "notes") (sampleNode attributes) = some (sampleEntry attributes) := by
  have hregular : (sampleNode attributes).isReparsePoint = false := by
    rw [FileNode.isReparsePoint, sampleNode, h]
    rfl
  have hclass : classifyFile 300000 = .medium := by
    norm_num [classifyFile, tinyFileMaxBytes, largeFileMinBytes]
  unfold scanFile
  rw [dif_pos (by norm_num [sampleNode, u64Limit]), hregular]
  simp [sampleNode, sampleEntry, sampleContent_length, hclass]

/-- A receiver that has received the file and not yet restored its metadata. -/
def sampleReceiver (attributes : UInt32) : Receiver where
  files := fun path =>
    if path = utf16 "notes" then some (.file { sampleNode attributes with
      lastWriteTime := 9, fileAttributes := fileAttributeArchive }) else none
  journal := ⟨0, 1, ∅, ∅⟩
  holder := none
  clock := fun _ => 9

/-- What the commit leaves. -/
def committedSample (attributes : UInt32) : FileTree :=
  (sampleReceiver attributes).files.set (utf16 "notes") (some (.file
    { sampleNode attributes with fileAttributes := restorableFileAttributes attributes }))

theorem committed_sample (attributes : UInt32) :
    Committed (committedSample attributes) [sampleEntry attributes] 0 := by
  have hnode : (sampleReceiver attributes).files (utf16 "notes") =
      some (.file { sampleNode attributes with
        lastWriteTime := 9, fileAttributes := fileAttributeArchive }) := by
    simp [sampleReceiver]
  have hcheck : (Receiver.inspect (fun files => files.validateResumeFile (utf16 "notes") 300000
      "committed generation file")).eval (sampleReceiver attributes) =
        (.ok (), sampleReceiver attributes) := by
    apply Prog.eval_query
    exact FileTree.validateResumeFile_eq_ok.mpr ⟨_, hnode, sampleContent_length⟩
  have hrestore : (Receiver.restoreFile (utf16 "notes") 7 attributes).eval
      (sampleReceiver attributes) =
        (.ok (), (sampleReceiver attributes).withFiles (committedSample attributes)) :=
    Receiver.eval_change (Receiver.restoreFile_ok.mpr ⟨_, hnode, rfl⟩)
  have hrun : (Receiver.commitFile [sampleEntry attributes] 0).eval (sampleReceiver attributes) =
      (.ok (), (sampleReceiver attributes).withFiles (committedSample attributes)) := by
    have hentry : (Prog.lift (okOrElse [sampleEntry attributes][0]?
        (.invalidData "fresh generation committed unknown file ID 0")) :
          Program ManifestEntry).eval (sampleReceiver attributes) =
        (.ok (sampleEntry attributes), sampleReceiver attributes) := rfl
    exact (Prog.eval_bind_ok hentry).trans ((Prog.eval_bind_ok hcheck).trans hrestore)
  refine ⟨_, _, Prog.steps_of_eval hrun, ?_⟩
  intro entry hentry
  cases hentry
  rfl

theorem committed_accepted_iff_archive :
    validateFreshResumeCommittedFiles (committedSample 0x20) [sampleEntry 0x20] {0} = .ok () := by
  refine (committed_accepted_iff (committedSample 0x20) [sampleEntry 0x20] {0} ?_).mpr ?_
  · intro fileId hmem
    rw [Finset.mem_singleton] at hmem
    rw [hmem]
    exact committed_sample 0x20
  · intro fileId hmem entry hentry
    rw [Finset.mem_singleton] at hmem
    rw [hmem] at hentry
    cases hentry
    decide

/-- A compressed file (`0x820`) that was committed is refused. -/
theorem committed_not_accepted :
    scanFile (utf16 "notes") (sampleNode 0x820) = some (sampleEntry 0x820) ∧
      Committed (committedSample 0x820) [sampleEntry 0x820] 0 ∧
      validateFreshResumeCommittedFiles (committedSample 0x820) [sampleEntry 0x820] {0} =
        .error (.invalidData
          "journaled committed file 0 has different Windows attributes: notes") := by
  refine ⟨scanFile_sample (by decide), committed_sample 0x820, ?_⟩
  have hsort : ({0} : Finset Nat).sort (· ≤ ·) = [0] := Finset.sort_singleton _ _
  have hnode : CommittedNode (sampleEntry 0x820)
      { sampleNode 0x820 with fileAttributes := restorableFileAttributes 0x820 } :=
    ⟨sampleContent_length, rfl, rfl⟩
  have hname : displayPath (sampleEntry 0x820).relativePath = "notes" := by decide +kernel
  have hset : committedSample 0x820 (sampleEntry 0x820).relativePath = some (.file
      { sampleNode 0x820 with fileAttributes := restorableFileAttributes 0x820 }) :=
    FileTree.set_same _ _ _
  have hentry : [sampleEntry 0x820][0]? = some (sampleEntry 0x820) := rfl
  have hfile : validateCommittedFile (committedSample 0x820) [sampleEntry 0x820] 0 =
      .error (.invalidData
        "journaled committed file 0 has different Windows attributes: notes") := by
    rw [validateCommittedFile, hentry, okOrElse_some, ok_bind, ensure, if_pos (by decide), ok_bind,
      hset, validateCommittedNode_attributes hnode (by decide), hname]
    rfl
  unfold validateFreshResumeCommittedFiles
  rw [hsort, validateCommittedFiles, hfile]
  rfl

end NetworkCopy
