import NetworkCopy.Receiver.Sharing

/-!
# What the journal records

The journal names the files of the generations that were committed.  Lanes save it while a
generation is received, with the set of files unchanged, and the commit of a generation
adds its files in memory before it saves.  What is on disk is therefore always the union of
the first generations, and `apply_fresh_resume_prefix` accepts exactly these unions.

This needs that nothing but `save_atomic` writes to the journal.  A file of the manifest
with the name of a journal breaks it, and `journal_not_prefix` is a run in which one does.

`Quiet` is a step that does not write to a journal; everything outside the lanes and
`save_atomic` makes only such steps.
-/

namespace NetworkCopy

open Crash FileTree Prog ResumeJournal

namespace Receiver

/-! ## Steps that leave the journals alone -/

/-- A path that is not a journal's. -/
abbrev Ordinary (path : RelativePath) : Prop :=
  path ≠ journalFileName ∧ path ≠ temporaryJournalFileName

/-- No file of a manifest has the name of a journal. -/
abbrev Named (manifest : Manifest) : Prop := ∀ entry ∈ manifest, Ordinary entry.relativePath

/-- A step that writes to no journal and removes no directory. -/
structure Quiet (before after : Receiver) : Prop where
  directories : ∀ path, before.files path = some .directory → after.files path = some .directory
  memory : after.journal = before.journal
  journal : after.files journalFileName = before.files journalFileName ∨
    after.files.NoFile journalFileName
  temporary : after.files temporaryJournalFileName = before.files temporaryJournalFileName ∨
    after.files.NoFile temporaryJournalFileName

section

variable {state : Receiver} {files : FileTree} {path : RelativePath}

theorem quiet_of_touches {paths : List RelativePath}
    (h : Touches paths state.files files)
    (hpaths : ∀ path ∈ paths, Ordinary path) :
    Quiet state (state.withFiles files) := by
  refine ⟨fun path hpath => (h.directories path).mpr hpath, rfl, .inl (h.frame _ ?_),
    .inl (h.frame _ ?_)⟩
  · intro hmem
    exact (hpaths _ hmem).1 rfl
  · intro hmem
    exact (hpaths _ hmem).2 rfl

theorem quiet_of_rewrites (h : Rewrites path state.files files)
    (hpath : Ordinary path) :
    Quiet state (state.withFiles files) := by
  apply quiet_of_touches h.touches
  intro other hother
  rw [List.mem_singleton] at hother
  rw [hother]
  exact hpath

/-- Nothing that is free afterwards was written to. -/
theorem quiet_of_removed (h : Touches [path] state.files files)
    (hfree : files path = none) : Quiet state (state.withFiles files) := by
  have hother : ∀ other, files other = state.files other ∨ files.NoFile other := by
    intro other
    by_cases hsame : other = path
    · rw [hsame]
      exact .inr (noFile_of_none hfree)
    · exact .inl (h.frame other (by simpa using hsame))
  exact ⟨fun other hdirectory => (h.directories other).mpr hdirectory, rfl, hother _, hother _⟩

theorem quiet_of_directory (h : state.files.createDirectory path = .ok files) :
    Quiet state (state.withFiles files) := by
  obtain ⟨_, rfl⟩ := createDirectory_eq_ok h
  have hother : ∀ other, (state.files.set path (some .directory)) other = state.files other ∨
      (state.files.set path (some .directory)).NoFile other := by
    intro other
    by_cases hsame : other = path
    · rw [hsame, NoFile, kindAt_eq_false.mpr (set_same _ _ _)]
      exact .inr (by simp)
    · exact .inl (set_ne _ _ hsame)
  refine ⟨?_, rfl, hother _, hother _⟩
  intro other hdirectory
  by_cases hsame : other = path
  · rw [hsame]
    exact set_same _ _ _
  · exact (set_ne _ _ hsame).trans hdirectory

theorem within_change {G : Receiver → Receiver → Prop}
    {change : FileTree → Nat → IoResult FileTree}
    (h : ∀ state files, change state.files (state.clock 0) = .ok files →
      G state (state.withFiles files)) : (modify (onFiles change)).Within G := by
  apply within_modify
  intro state state' hchange
  obtain ⟨files, hfiles, rfl⟩ := onFiles_eq_ok.mp hchange
  exact h state files hfiles

end

section

variable {path source destination : RelativePath} {fileId : Nat} {entry : ManifestEntry}

theorem removeFileIfPresent_quiet (path : RelativePath) :
    (removeFileIfPresent path).Within Quiet := by
  apply within_change
  intro state files hfiles
  obtain ⟨hfree, htouches⟩ := removeFileIfPresent_eq_ok hfiles
  exact quiet_of_removed htouches hfree

theorem removeFile_quiet (path : RelativePath) : (removeFile path).Within Quiet := by
  apply within_change
  intro state files hfiles
  apply quiet_of_removed (removeFile_touches hfiles)
  obtain ⟨_, rfl⟩ := removeFile_eq_set hfiles
  exact set_same _ _ _

theorem createDirectory_quiet (path : RelativePath) : (createDirectory path).Within Quiet :=
  within_change (fun _ _ hfiles => quiet_of_directory hfiles)

theorem createDestinationParent_quiet (path : RelativePath) :
    (createDestinationParent path).Within Quiet :=
  within_each (fun directory _ => createDirectory_quiet directory)

theorem createNew_quiet (h : Ordinary path) :
    (createNew path).Within Quiet := by
  apply within_change
  intro state files hfiles
  apply quiet_of_touches (createNew_touches hfiles)
  intro other hother
  rw [List.mem_singleton] at hother
  rw [hother]
  exact h

theorem replace_quiet (hsource : Ordinary source)
    (hdestination : Ordinary destination) :
    (replace source destination).Within Quiet := by
  apply within_change
  intro state files hfiles
  apply quiet_of_touches (replace_touches hfiles)
  intro other hother
  simp only [List.mem_cons, List.not_mem_nil, or_false] at hother
  rcases hother with rfl | rfl
  · exact hsource
  · exact hdestination

theorem restoreFile_quiet {time : Nat} {attributes : UInt32}
    (h : Ordinary path) :
    (restoreFile path time attributes).Within Quiet :=
  within_change (fun _ _ hfiles => quiet_of_rewrites (restoreFile_rewrites hfiles) h)

/-! ## What makes only such steps -/

variable {completedStripes : Finset ResumeStripe}

theorem finalizeLargeFile_quiet
    (h : Ordinary entry.relativePath) :
    (finalizeLargeFile fileId entry .fresh).Within Quiet := by
  unfold finalizeLargeFile
  refine (within_lift _).bind (fun _ => ?_)
  refine (within_query _).bind (fun finalExists => ?_)
  refine (within_query _).bind (fun temporaryExists => ?_)
  cases finalExists <;> cases temporaryExists
  · exact within_fail _
  · exact (within_query _).bind
      (fun _ => replace_quiet (temporaryPath_ne_journal _ _) h)
  · exact within_query _
  · exact within_fail _

theorem commitFile_quiet {manifest : Manifest} (h : Named manifest) (fileId : Nat) :
    (commitFile manifest fileId).Within Quiet := by
  unfold commitFile
  apply within_lift_bind
  intro entry hentry
  have hname := h entry (List.mem_of_getElem? (okOrElse_eq_ok.mp hentry))
  refine Within.bind ?_ (fun _ => restoreFile_quiet hname)
  unfold finalizeCommittedFile
  cases entry.fileClass with
  | tiny => exact within_fail _
  | medium => exact within_query _
  | large => exact finalizeLargeFile_quiet hname

theorem validateExistingManifestDirectoryPaths_within {G : Receiver → Receiver → Prop}
    (directories : List DirectoryEntry) :
    (validateExistingManifestDirectoryPaths directories).Within G := by
  apply within_each
  intro entry _
  exact (within_lift _).bind (fun _ => within_query _)

theorem materializeManifestDirectories_quiet (directories : List DirectoryEntry) :
    (materializeManifestDirectories directories).Within Quiet := by
  unfold materializeManifestDirectories
  refine (validateExistingManifestDirectoryPaths_within directories).bind (fun _ => ?_)
  apply within_each
  intro entry _
  exact (within_lift _).bind
    (fun _ => within_each (fun directory _ => createDirectory_quiet directory))

theorem prepareResumeLargeFile_within {G : Receiver → Receiver → Prop}
    {transferPlan : TransferPlan} :
    (prepareResumeLargeFile fileId entry transferPlan completedStripes).Within G := by
  unfold prepareResumeLargeFile
  refine (within_query _).bind (fun finalExists => ?_)
  refine (within_query _).bind (fun temporaryExists => ?_)
  cases finalExists <;> cases temporaryExists
  · exact within_fail _
  · exact within_query _
  · refine (within_lift _).bind (fun _ => ?_)
    exact (within_lift _).bind (fun _ => within_query _)
  · exact within_fail _

theorem prepareResumeUncommitted_quiet {transferPlan : TransferPlan} :
    (prepareResumeUncommitted transferPlan completedStripes fileId entry).Within Quiet := by
  unfold prepareResumeUncommitted
  cases entry.fileClass with
  | large => exact prepareResumeLargeFile_within
  | medium => exact (removeFileIfPresent_quiet _).bind (fun _ => removeFileIfPresent_quiet _)
  | tiny => exact (removeFileIfPresent_quiet _).bind (fun _ => removeFileIfPresent_quiet _)

theorem copyFile_quiet (h : Ordinary destination) :
    (Transfer.copyFile source destination).Within Quiet := by
  unfold Transfer.copyFile
  refine (within_query _).bind (fun node => ?_)
  refine (createNew_quiet h).bind (fun _ => ?_)
  refine Within.bind (within_change (fun _ _ hfiles =>
    quiet_of_rewrites (append_rewrites hfiles) h)) (fun _ => ?_)
  refine Within.bind (within_change ?_) (fun _ => within_ret _)
  intro state files hfiles
  obtain ⟨copied, hopen, hset⟩ := bind_eq_ok.mp hfiles
  rw [pure_eq_ok, Except.ok.injEq] at hset
  exact quiet_of_rewrites ⟨copied, _, openFile_eq_ok.mp hopen, hset⟩ h

end

section

variable {transfer : Transfer}

theorem negotiateVerifiedFreshResumeFiles_within {G : Receiver → Receiver → Prop}
    (input : SessionInput) (fingerprint : Nat) :
    (transfer.negotiateVerifiedFreshResumeFiles input fingerprint).Within G := by
  unfold Transfer.negotiateVerifiedFreshResumeFiles
  refine (within_query _).bind (fun resume => ?_)
  split
  · refine ((within_query _).bind (fun _ => within_lift _)).bind (fun journal => ?_)
    split
    · exact within_ret _
    · refine (within_query _).bind (fun _ => ?_)
      exact (within_lift _).bind (fun _ => within_lift _)
  · exact within_ret _

theorem materializeExactReuse_quiet (h : Named transfer.manifest) (reuse : ExactFileReuse) :
    (transfer.materializeExactReuse reuse).Within Quiet := by
  unfold Transfer.materializeExactReuse
  refine (within_lift _).bind (fun basis => ?_)
  apply within_lift_bind
  intro target htarget
  have hname := h target (List.mem_of_getElem? (okOrElse_eq_ok.mp htarget))
  have hpart := temporaryPath_ne_journal target.relativePath reuse.targetFileId
  refine (within_query _).bind (fun _ => ?_)
  refine (within_query _).bind (fun _ => ?_)
  refine (removeFileIfPresent_quiet _).bind (fun _ => ?_)
  refine Within.onError ?_ (removeFile_quiet _)
  unfold Transfer.copyExactReuse
  refine (copyFile_quiet hpart).bind (fun _ => ?_)
  refine (within_lift _).bind (fun _ => ?_)
  refine (within_query _).bind (fun _ => ?_)
  refine (within_lift _).bind (fun _ => ?_)
  exact (replace_quiet hpart hname).bind (fun _ => restoreFile_quiet hname)

theorem finalizeLargeFiles_quiet (h : Named transfer.manifest) :
    transfer.finalizeLargeFiles.Within Quiet := by
  apply within_each
  intro file hfile
  have hname := h file.1 (List.mem_of_getElem? (List.mem_zipIdx_iff_getElem?.mp hfile))
  split
  · exact within_ret _
  · exact finalizeLargeFile_quiet hname

theorem restoreManifestFiles_quiet (h : Named transfer.manifest) :
    transfer.restoreManifestFiles.Within Quiet :=
  within_each (fun entry hentry => restoreFile_quiet (h entry hentry))

end

/-! ## Directories -/

section

variable {I K : Receiver → Prop}

/-- A directory that was made is there. -/
theorem createDirectory_alone {path : RelativePath}
    (hkeep : ∀ before after, K before → Quiet before after → I after ∧ K after) :
    (createDirectory path).Alone I K (fun _ state => state.files path = some .directory) := by
  apply alone_change
  intro state files hstate hfiles
  refine ⟨(hkeep _ _ hstate (quiet_of_directory hfiles)).1, ?_⟩
  obtain ⟨_, rfl⟩ := createDirectory_eq_ok hfiles
  exact set_same _ _ _

/-- A list of directories is made. -/
theorem createDirectories_alone {paths : List RelativePath}
    (hkeep : ∀ before after, K before → Quiet before after → I after ∧ K after) :
    (each createDirectory paths).Alone I K (fun _ state => K state ∧
      ∀ directory ∈ paths, state.files directory = some .directory) :=
  each_alone (fun directory _ => createDirectory_quiet directory) hkeep
    (fun directory _ _ _ hmade hquiet => hquiet.directories directory hmade)
    (fun _ _ => createDirectory_alone hkeep)

/-- A loop over files that makes their directories first. -/
theorem prepareFiles_alone {f : ManifestEntry × Nat → Program Unit} {manifest : Manifest}
    (body : ManifestEntry × Nat → Program Unit)
    (hkeep : ∀ before after, K before → Quiet before after → I after ∧ K after)
    (hf : ∀ file, f file = createDestinationParent file.1.relativePath >>= fun _ => body file)
    (hbody : ∀ file, (body file).Within Quiet) :
    (each f manifest.zipIdx).Alone I K (fun _ state => K state ∧
      Calm manifest (fun _ => False) [] state) := by
  have hloop : (each f manifest.zipIdx).Alone I K (fun _ state => K state ∧
      ∀ file ∈ manifest.zipIdx, ∀ directory ∈ parentDirectories file.1.relativePath,
        state.files directory = some .directory) := by
    apply each_alone _ hkeep
    · intro file _ before after hmade hquiet directory hmem
      exact hquiet.directories directory (hmade directory hmem)
    · intro file _
      rw [hf]
      refine Alone.bind (createDirectories_alone hkeep) (fun _ => ?_)
      have hrest := (hbody file).alone (I := I) (K := fun state => K state ∧
        ∀ directory ∈ parentDirectories file.1.relativePath,
          state.files directory = some .directory) ?_
      · exact hrest.imp (fun _ h => h) (fun _ _ h => h.2)
      · rintro before after ⟨hbefore, hmade⟩ hquiet
        obtain ⟨hI, hK⟩ := hkeep before after hbefore hquiet
        exact ⟨hI, hK, fun directory hmem => hquiet.directories directory (hmade directory hmem)⟩
    · intro file _
      rw [hf]
      exact (createDestinationParent_quiet _).bind (fun _ => hbody file)
  apply hloop.imp (fun _ h => h)
  rintro _ final ⟨hfinal, hmade⟩
  refine ⟨hfinal, ?_, fun _ hpath => hpath.elim⟩
  intro entry hentry
  obtain ⟨fileId, hget⟩ := List.mem_iff_getElem?.mp hentry
  exact hmade (entry, fileId) (List.mem_zipIdx_iff_getElem?.mpr hget)

end

/-! ## Saving the journal -/

section

variable {I P T : Receiver → Prop} {journal : ResumeJournal}

theorem writeTo_alone (hP : ∀ state files, P state →
    Touches [temporaryJournalFileName] state.files files →
      I (state.withFiles files) ∧ P (state.withFiles files)) :
    (writeTo journal temporaryJournalFileName).Alone I P (fun _ => P) := by
  have happend : ∀ bytes, (append temporaryJournalFileName bytes).Alone I P (fun _ => P) :=
    fun bytes => alone_change (fun state files hstate hfiles =>
      hP state files hstate (append_rewrites hfiles).touches)
  have hall : ∀ fields : List Bytes,
      (each (append temporaryJournalFileName) fields).Alone I P (fun _ => P) :=
    fun fields => triple_each (fun _ => rfl) (I := fun _ => P) (stable_eq P)
      (fun field _ _ => happend field)
  have hlift : ∀ result : IoResult Unit, (lift result : Program Unit).Alone I P
      (fun _ => P) := fun result => alone_lift (fun _ _ _ h => h)
  unfold writeTo
  refine Alone.bind (hall _) (fun _ => ?_)
  refine Alone.bind (hlift _) (fun _ => ?_)
  refine Alone.bind (happend _) (fun _ => ?_)
  refine Alone.bind (hlift _) (fun _ => ?_)
  refine Alone.bind (happend _) (fun _ => ?_)
  exact hall _

/-- The rule of `save_atomic`: what it publishes reads as the journal that it was given. -/
theorem saveAtomic_alone (hPI : ∀ state, P state → I state)
    (hI : ∀ state files, I state →
      Touches [temporaryJournalFileName] state.files files →
      files temporaryJournalFileName = none → I (state.withFiles files))
    (hP : ∀ state files, P state →
      Touches [temporaryJournalFileName] state.files files → P (state.withFiles files))
    (hpublish : ∀ state files, P state →
      Touches [temporaryJournalFileName, journalFileName] state.files files →
      files temporaryJournalFileName = none → readAt files journalFileName = .ok journal →
      I (state.withFiles files) ∧ T (state.withFiles files)) :
    (saveAtomic journal).Alone I P (fun _ => T) := by
  have hboth : ∀ state files, P state →
      Touches [temporaryJournalFileName] state.files files →
        I (state.withFiles files) ∧ P (state.withFiles files) := fun state files hstate htouches =>
    ⟨hPI _ (hP state files hstate htouches), hP state files hstate htouches⟩
  unfold saveAtomic
  refine Alone.bind (Q := fun _ => P) (alone_change (fun state files hstate hfiles =>
    hboth state files hstate (removeFileIfPresent_eq_ok hfiles).2)) (fun _ => ?_)
  refine Triple.onError (fun _ => rfl) (S := I) ?_ hPI (stable_eq I)
    (fun _ _ hafter _ => hafter) (fun _ _ hguar => hguar) ?_
  · unfold publishJournal
    refine Alone.bind (Q := fun _ => P) (alone_change (fun state files hstate hfiles =>
      hboth state files hstate (createNew_touches hfiles))) (fun _ => ?_)
    refine Alone.bind (writeTo_alone hboth) (fun _ => ?_)
    refine Alone.bind (Q := fun reloaded state => P state ∧
      readAt state.files temporaryJournalFileName = .ok reloaded)
      (alone_inspect (fun _ _ hstate hread => ⟨hstate, hread⟩)) (fun reloaded => ?_)
    refine Alone.bind (Q := fun _ state => P state ∧
      readAt state.files temporaryJournalFileName = .ok journal) (alone_lift ?_) (fun _ => ?_)
    · rintro _ hsame state ⟨hstate, hread⟩
      rw [ensure_eq_ok] at hsame
      rw [hsame] at hread
      exact ⟨hstate, hread⟩
    · apply alone_change
      rintro state files ⟨hstate, hread⟩ hfiles
      obtain ⟨node, hsource, hdestination⟩ := replace_destination hfiles
      apply hpublish state files hstate (replace_touches hfiles)
        (replace_source hfiles (by decide))
      unfold readAt at hread ⊢
      rw [openFile_eq_ok.mpr hsource] at hread
      rw [openFile_eq_ok.mpr hdestination]
      exact hread
  · apply alone_change
    intro state files hstate hfiles
    refine ⟨hI state files hstate (removeFile_touches hfiles) ?_, trivial⟩
    obtain ⟨_, rfl⟩ := removeFile_eq_set hfiles
    exact set_same _ _ _

end

/-! ## The ledger -/

/-- What a session can resume from: a journal on disk records the first generations, and
beside one that records them all no temporary journal is left. -/
def Resumable (catalog : CatalogPlan) (files : FileTree) : Prop :=
  ∀ journal, readAt files journalFileName = .ok journal →
    ∃ k ≤ catalog.generations.length, journal.completedFileIds = catalog.committedFileIds k ∧
      (k = catalog.generations.length → files.NoFile temporaryJournalFileName)

/-- The journal on disk while `count` generations are committed in memory. -/
structure Ledger (catalog : CatalogPlan) (count : Nat) (files : FileTree) : Prop where
  le : count ≤ catalog.generations.length
  recorded : ∀ journal, readAt files journalFileName = .ok journal →
    ∃ k ≤ count, journal.completedFileIds = catalog.committedFileIds k
  temporary : count = catalog.generations.length → files.NoFile temporaryJournalFileName

section

variable {catalog : CatalogPlan} {count : Nat} {files files' : FileTree} {before after : Receiver}

theorem Ledger.resumable (h : Ledger catalog count files) : Resumable catalog files := by
  intro journal hread
  obtain ⟨k, hk, hcompleted⟩ := h.recorded journal hread
  refine ⟨k, hk.trans h.le, hcompleted, ?_⟩
  rintro rfl
  exact h.temporary (le_antisymm h.le hk)

/-- A journal that can be read is a file. -/
theorem readAt_congr {path : RelativePath} {journal : ResumeJournal}
    (hsame : files' path = files path ∨ files'.NoFile path)
    (hread : readAt files' path = .ok journal) : readAt files path = .ok journal := by
  obtain ⟨node, hopen, hpath⟩ := bind_eq_ok.mp hread
  rw [openFile_eq_ok] at hopen
  rcases hsame with hsame | hfree
  · unfold readAt
    rw [openFile_eq_ok.mpr (hsame ▸ hopen), ok_bind, hpath]
  · exact absurd (kindAt_eq_true.mpr ⟨node, hopen⟩) hfree

theorem noFile_congr {path : RelativePath}
    (hsame : files' path = files path ∨ files'.NoFile path) (h : files.NoFile path) :
    files'.NoFile path := by
  rcases hsame with hsame | hfree
  · rw [NoFile, kindAt, hsame]
    exact h
  · exact hfree

theorem Resumable.quiet (h : Resumable catalog before.files) (hquiet : Quiet before after) :
    Resumable catalog after.files := by
  intro journal hread
  obtain ⟨k, hk, hcompleted, htemporary⟩ := h journal (readAt_congr hquiet.journal hread)
  exact ⟨k, hk, hcompleted, fun hall => noFile_congr hquiet.temporary (htemporary hall)⟩

theorem Ledger.quiet (h : Ledger catalog count before.files) (hquiet : Quiet before after) :
    Ledger catalog count after.files := by
  refine ⟨h.le, fun journal hread => h.recorded journal (readAt_congr hquiet.journal hread), ?_⟩
  intro hall
  exact noFile_congr hquiet.temporary (h.temporary hall)

/-- Saving below the last generation. -/
theorem Ledger.touches (h : Ledger catalog count files) (hlt : count < catalog.generations.length)
    (htouches : Touches [temporaryJournalFileName] files files') :
    Ledger catalog count files' := by
  refine ⟨h.le, fun journal hread => h.recorded journal (readAt_congr (.inl ?_) hread), ?_⟩
  · exact htouches.frame journalFileName (by decide)
  · intro hall
    omega

end

/-! ## Groups and commits -/

/-- The state between the groups of a session, with the files that the journal in memory
records. -/
structure Journaled (catalog : CatalogPlan) (manifest : Manifest) (count : Nat)
    (completed : Finset Nat) (state : Receiver) : Prop where
  ledger : Ledger catalog count state.files
  calm : Calm manifest (fun _ => False) [] state
  memory : state.journal.completedFileIds = completed

section

variable {catalog : CatalogPlan} {manifest : Manifest} {count : Nat} {completed : Finset Nat}

theorem Journaled.quiet {before after : Receiver}
    (h : Journaled catalog manifest count completed before) (hquiet : Quiet before after) :
    Journaled catalog manifest count completed after := by
  refine ⟨h.ledger.quiet hquiet, ⟨?_, fun _ hpath => hpath.elim⟩, ?_⟩
  · intro entry hentry directory hdirectory
    exact hquiet.directories directory (h.calm.parents entry hentry directory hdirectory)
  · rw [hquiet.memory]
    exact h.memory

theorem journaled_within {α : Type} {p : Program α} (h : p.Within Quiet) :
    p.Alone (fun state => Resumable catalog state.files)
      (Journaled catalog manifest count completed)
      (fun _ => Journaled catalog manifest count completed) := by
  apply h.alone
  intro before after hbefore hquiet
  exact ⟨(hbefore.quiet hquiet).ledger.resumable, hbefore.quiet hquiet⟩

/-- A thread of a group keeps the ledger.  Only in the trailing group, which saves nothing,
may all generations be committed. -/
theorem Journaled.guarantee {before after : Receiver} {saves : Prop} {thread : Nat}
    (h : Journaled catalog manifest count (catalog.committedFileIds count) before)
    (hguarantee : Guarantee Ordinary saves thread before after)
    (hsaves : saves → count < catalog.generations.length) :
    Journaled catalog manifest count (catalog.committedFileIds count) after := by
  have hmemory : after.journal.completedFileIds = catalog.committedFileIds count :=
    hguarantee.completed.trans h.memory
  refine ⟨⟨h.ledger.le, ?_, ?_⟩, ⟨?_, fun _ hpath => hpath.elim⟩, hmemory⟩
  · intro journal hread
    rcases hguarantee.published with hsame | hpublished
    · exact h.ledger.recorded journal (readAt_congr (.inl hsame) hread)
    · rw [hpublished, Except.ok.injEq] at hread
      subst hread
      exact ⟨count, le_rfl, hmemory⟩
  · intro hall
    rcases hguarantee.journal with ⟨hmay, _⟩ | ⟨_, hsame, _⟩
    · have := hsaves hmay
      omega
    · exact noFile_congr (.inl hsame) (h.ledger.temporary hall)
  · intro entry hentry directory hdirectory
    exact (hguarantee.directories directory).mpr
      (h.calm.parents entry hentry directory hdirectory)

/-- A reconstruction temporary ends with a digit. -/
theorem reconstructionTemporary_ordinary (path : RelativePath) (processId nanos : Nat) :
    Ordinary (reconstructionTemporary path processId nanos) := by
  have hlast := List.getLast?_eq_some_getLast (digitUnits_ne_nil nanos)
  have hdigit := isDigitUnit_of_mem_digitUnits (List.getLast_mem (digitUnits_ne_nil nanos))
  refine ne_journal_of_getLast ?_ hdigit
  rw [reconstructionTemporary, utf16_append, ← List.append_assoc, List.getLast?_append]
  show ((digitUnits nanos).getLast?).or _ = _
  rw [hlast]
  rfl

/-- All threads of a group may use every ordinary path, and none of them hides one. -/
theorem shares_ordinary (h : Named manifest) {input : SessionInput}
    {lanes : List (List TransferTask)} {saves : Prop}
    (hsaves : ∀ fileId offset length, .stripe fileId offset length ∈ lanes.flatten → saves) :
    Shares input manifest lanes (fun _ => Ordinary) (fun _ _ => False) saves := by
  have howns : ∀ (fileId : Nat) (entry : ManifestEntry), manifest[fileId]? = some entry →
      OwnsFile Ordinary (fun _ => False) fileId entry.relativePath := by
    intro fileId entry hentry
    exact ⟨h entry (List.mem_of_getElem? hentry), fun hhidden => hhidden,
      temporaryPath_ne_journal entry.relativePath fileId⟩
  refine ⟨fun _ => ⟨fun _ hpath => hpath.elim, fun _ hpath => hpath⟩,
    fun _ _ _ _ hpath => hpath.elim, ?_, ?_, hsaves⟩
  · intro index tasks _ fileId entry _ hentry
    exact ⟨howns fileId entry hentry, reconstructionTemporary_ordinary _ _ _⟩
  · intro index fileId _ entry hentry
    exact howns fileId entry hentry

end

/-! ## Commits -/

section

variable {catalog : CatalogPlan} {manifest : Manifest} {count : Nat}
  {generation : CatalogGeneration}

/-- The marks of a commit stay in memory. -/
theorem markFileCompleted_alone (fileIds : List Nat) {completed : Finset Nat} :
    (each markFileCompleted fileIds).Alone (fun state => Resumable catalog state.files)
      (Journaled catalog manifest count completed)
      (fun _ => Journaled catalog manifest count (completed ∪ fileIds.toFinset)) := by
  refine Triple.imp (triple_each (I := fun rest state => ∃ marked,
    Journaled catalog manifest count marked state ∧
      marked ∪ rest.toFinset = completed ∪ fileIds.toFinset) (fun _ => rfl) (stable_eq _) ?_)
    ?_ ?_
  · intro fileId rest _
    apply triple_modify (stable_eq _) (stable_eq _)
    rintro state state' ⟨marked, hstate, hmarked⟩ ⟨⟩
    refine ⟨.inr hstate.ledger.resumable, insert fileId marked, ⟨hstate.ledger,
      ⟨hstate.calm.parents, fun _ hpath => hpath.elim⟩, ?_⟩, ?_⟩
    · show insert fileId state.journal.completedFileIds = insert fileId marked
      rw [hstate.memory]
    · rw [← hmarked]
      simp
  · intro state hstate
    exact ⟨completed, hstate, rfl⟩
  · rintro _ final ⟨marked, hfinal, hmarked⟩
    rw [List.toFinset_nil, Finset.union_empty] at hmarked
    rw [← hmarked]
    exact hfinal

/-- What is published is the journal with the whole generation. -/
theorem persistGenerationCommit_alone (hget : catalog.generations[count]? = some generation) :
    (persistGenerationCommit (expectedGenerationCommit generation)).Alone
      (fun state => Resumable catalog state.files)
      (Journaled catalog manifest count (catalog.committedFileIds count))
      (fun _ => Journaled catalog manifest (count + 1) (catalog.committedFileIds (count + 1))) := by
  have hlt : count < catalog.generations.length := (List.getElem?_eq_some_iff.mp hget).1
  unfold persistGenerationCommit
  refine Alone.bind (markFileCompleted_alone _) (fun _ => ?_)
  show Triple _ _ (Journaled catalog manifest count
    (catalog.committedFileIds count ∪ generation.fileIds.toFinset)) _ _
  rw [← CatalogPlan.committedFileIds_succ hget]
  refine Alone.bind (Q := fun journal state => state.journal = journal ∧
    Journaled catalog manifest count (catalog.committedFileIds (count + 1)) state)
    (triple_query (stable_eq _) (fun _ => stable_eq _) ?_) (fun journal => ?_)
  · rintro state journal hstate ⟨⟩
    exact ⟨rfl, hstate⟩
  refine Alone.bind (alone_lift (fun _ _ _ h => h)) (fun _ => ?_)
  apply saveAtomic_alone
  · rintro state ⟨_, hstate⟩
    exact hstate.ledger.resumable
  · intro state files hstate htouches hfree
    exact hstate.quiet (quiet_of_removed htouches hfree)
  · rintro state files ⟨hjournal, hstate⟩ htouches
    refine ⟨hjournal, hstate.ledger.touches hlt htouches, ⟨?_, fun _ hpath => hpath.elim⟩,
      hstate.memory⟩
    intro entry hentry directory hdirectory
    exact (htouches.directories directory).mpr
      (hstate.calm.parents entry hentry directory hdirectory)
  · rintro state files ⟨hjournal, hstate⟩ htouches hfree hread
    have hledger : Ledger catalog (count + 1) files := by
      refine ⟨hlt, ?_, fun _ => noFile_of_none hfree⟩
      intro other hother
      rw [hread, Except.ok.injEq] at hother
      rw [← hother, ← hjournal]
      exact ⟨count + 1, le_rfl, hstate.memory⟩
    refine ⟨hledger.resumable, hledger, ⟨?_, fun _ hpath => hpath.elim⟩, hstate.memory⟩
    intro entry hentry directory hdirectory
    exact (htouches.directories directory).mpr
      (hstate.calm.parents entry hentry directory hdirectory)

end

end Receiver

/-! ## Sessions -/

namespace Transfer

open Receiver

variable {transfer : Transfer}
variable {plan : FreshGenerationPlan} {input : SessionInput}
  {execution : FreshGenerationExecution}
variable {summary : ManifestSummary}

/-- The catalog that every session plans. -/
theorem generationPlan_eq_ok (h : transfer.generationPlan = .ok plan) :
    plan.catalog.Ordered ∧ plan.completedGenerationCount = 0 := by
  unfold generationPlan at h
  obtain ⟨_, h⟩ := bind_rest h
  obtain ⟨_, h⟩ := bind_rest h
  obtain ⟨_, h⟩ := bind_rest h
  obtain ⟨hordered, hzero, _⟩ := buildFreshGenerationPlanWithLimits_eq_ok h
  exact ⟨hordered, hzero⟩

/-- A session plans the generations that its journal does not record. -/
theorem plan_eq_ok {plan planned : FreshGenerationPlan} {journal : ResumeJournal}
    (hplan : transfer.generationPlan = .ok plan)
    (h : transfer.plan input journal = .ok (planned, execution)) :
    ∃ k ≤ plan.catalog.generations.length,
      journal.completedFileIds = plan.catalog.committedFileIds k ∧
      planned = { plan with completedGenerationCount := k } ∧
      ∃ remaining, remaining.units.Nodup ∧ Scheduled planned remaining execution := by
  obtain ⟨hordered, hzero⟩ := generationPlan_eq_ok hplan
  unfold Transfer.plan at h
  obtain ⟨⟨prepared, remaining⟩, hprepared, h⟩ := bind_eq_ok.mp h
  obtain ⟨built, hbuilt, h⟩ := bind_eq_ok.mp h
  rw [pure_eq_ok, Except.ok.injEq, Prod.mk.injEq] at h
  obtain ⟨rfl, rfl⟩ := h
  have hsplit := buildFreshGenerationExecution_scheduled hbuilt
  have hunits := prepareFreshTransfer_units transfer.classified transfer.streams hprepared
  unfold prepareFreshTransfer at hprepared
  unfold generationPlan at hplan
  obtain ⟨transferPlan, htransfer, hprepared⟩ := bind_eq_ok.mp hprepared
  rw [htransfer, ok_bind] at hplan
  obtain ⟨preflight, hpreflight, hprepared⟩ := bind_eq_ok.mp hprepared
  rw [hpreflight, ok_bind] at hplan
  obtain ⟨reused, hreused, hprepared⟩ := bind_eq_ok.mp hprepared
  rw [hreused, ok_bind] at hplan
  rw [hplan, ok_bind] at hprepared
  obtain ⟨resumed, hresumed, hprepared⟩ := bind_eq_ok.mp hprepared
  obtain ⟨_, hprepared⟩ := bind_rest hprepared
  rw [pure_eq_ok, Except.ok.injEq, Prod.mk.injEq] at hprepared
  obtain ⟨k, hk, hcompleted, rfl⟩ :=
    (applyFreshResumePrefix_eq_ok hordered hzero).mp hresumed
  exact ⟨k, hk, hcompleted, hprepared.1.symm, remaining, hunits, hsplit⟩

/-- A session that has a plan has the catalog. -/
theorem generationPlan_of_plan {journal : ResumeJournal}
    {planned : FreshGenerationPlan × FreshGenerationExecution}
    (h : transfer.plan input journal = .ok planned) :
    ∃ plan, transfer.generationPlan = .ok plan := by
  unfold Transfer.plan prepareFreshTransfer at h
  obtain ⟨_, h, _⟩ := bind_eq_ok.mp h
  obtain ⟨transferPlan, htransfer, h⟩ := bind_eq_ok.mp h
  obtain ⟨preflight, hpreflight, h⟩ := bind_eq_ok.mp h
  obtain ⟨reused, hreused, h⟩ := bind_eq_ok.mp h
  obtain ⟨plan, hplan, _⟩ := bind_eq_ok.mp h
  refine ⟨plan, ?_⟩
  unfold generationPlan
  rw [htransfer, ok_bind, hpreflight, ok_bind, hreused, ok_bind, hplan]

/-- Different numbers of generations have different files. -/
theorem committedFileIds_injective (hplan : transfer.generationPlan = .ok plan) {j k : Nat}
    (hj : j ≤ plan.catalog.generations.length) (hk : k ≤ plan.catalog.generations.length)
    (h : plan.catalog.committedFileIds j = plan.catalog.committedFileIds k) : j = k := by
  obtain ⟨hordered, hzero⟩ := generationPlan_eq_ok hplan
  have hleft := (applyFreshResumePrefix_eq_ok hordered hzero).mpr ⟨j, hj, h.symm, rfl⟩
  have hright := (applyFreshResumePrefix_eq_ok hordered hzero).mpr ⟨k, hk, rfl, rfl⟩
  rw [hleft, Except.ok.injEq, FreshGenerationPlan.mk.injEq] at hright
  exact hright.2

/-- The rule of the loop over the generations. -/
theorem receiveGenerations_safe {catalog : CatalogPlan} {last : Sys Receiver IoError}
    {I Q : Receiver → Prop} {J : Nat → Receiver → Prop}
    {generationLanes : List (List (List TransferTask))}
    (hlength : generationLanes.length = catalog.generations.length)
    (hgroup : ∀ (count : Nat) (generation : CatalogGeneration) (lanes : List (List TransferTask))
      (basis : List Nat) (next : List Nat → Sys Receiver IoError) (state : Receiver),
      catalog.generations[count]? = some generation → generationLanes[count]? = some lanes →
      J count state → (∀ basis final, J (count + 1) final → (next basis).Safe I Q final) →
      (Sys.par (groupThreads transfer.blake3 input transfer.manifest (some basis) lanes)
        ((do
            let commit ← commitFreshGeneration transfer.manifest generation
            persistGenerationCommit commit
            lift (applyGeneration basis generation) : Program (List Nat)).seq next)).Safe
        I Q state) (hlast : ∀ state, J catalog.generations.length state → last.Safe I Q state) :
    ∀ (pairs : List (CatalogGeneration × List (List TransferTask))) (count : Nat)
      (basis : List Nat) (state : Receiver), count ≤ catalog.generations.length →
      pairs = (catalog.generations.zip generationLanes).drop count → J count state →
      (transfer.receiveGenerations input last pairs basis).Safe I Q state
  | [], count, basis, state, hcount, hpairs, hstate => by
      have hall := List.drop_eq_nil_iff.mp hpairs.symm
      rw [List.length_zip, hlength, Nat.min_self] at hall
      rw [le_antisymm hcount hall] at hstate
      exact hlast state hstate
  | (generation, lanes) :: rest, count, basis, state, hcount, hpairs, hstate => by
      have hget : (catalog.generations.zip generationLanes)[count]? = some (generation, lanes) := by
        rw [← List.head?_drop, ← hpairs, List.head?_cons]
      obtain ⟨hgeneration, hlanes⟩ := List.getElem?_zip_eq_some.mp hget
      have hlt := (List.getElem?_eq_some_iff.mp hgeneration).1
      have hrest : rest = (catalog.generations.zip generationLanes).drop (count + 1) := by
        rw [← List.tail_drop, ← hpairs, List.tail_cons]
      unfold receiveGenerations
      apply hgroup count generation lanes basis _ state hgeneration hlanes hstate
      intro basis final hfinal
      exact receiveGenerations_safe hlength hgroup hlast rest (count + 1) basis final hlt hrest hfinal

/-- A group and its commit add one generation to the ledger. -/
theorem generation_safe (hnames : Named transfer.manifest) {catalog : CatalogPlan} {count : Nat}
    {generation : CatalogGeneration} {lanes : List (List TransferTask)} {basis : List Nat}
    {next : List Nat → Sys Receiver IoError} {state : Receiver} {Q : Receiver → Prop}
    (hget : catalog.generations[count]? = some generation)
    (hstate : Journaled catalog transfer.manifest count (catalog.committedFileIds count) state)
    (hnext : ∀ basis final, Journaled catalog transfer.manifest (count + 1)
      (catalog.committedFileIds (count + 1)) final →
      (next basis).Safe (fun state => Resumable catalog state.files) Q final) :
    (Sys.par (groupThreads transfer.blake3 input transfer.manifest (some basis) lanes)
      ((do
          let commit ← commitFreshGeneration transfer.manifest generation
          persistGenerationCommit commit
          lift (applyGeneration basis generation) : Program (List Nat)).seq next)).Safe
      (fun state => Resumable catalog state.files) Q state := by
  have hlt : count < catalog.generations.length := (List.getElem?_eq_some_iff.mp hget).1
  have hshares : Shares input transfer.manifest lanes (fun _ => Ordinary) (fun _ _ => False) True :=
    shares_ordinary hnames (fun _ _ _ _ => trivial)
  apply hshares.safe
    (J := Journaled catalog transfer.manifest count (catalog.committedFileIds count))
  · intro index before after hbefore hguarantee
    exact hbefore.guarantee hguarantee (fun _ => hlt)
  · exact hstate
  · intro current hcurrent
    exact hcurrent.ledger.resumable
  · exact fun _ => hstate.calm
  · intro final hfinal _
    refine Sys.safe_seq (T := fun _ => Journaled catalog transfer.manifest (count + 1)
      (catalog.committedFileIds (count + 1))) ?_ hfinal.ledger.resumable hfinal
      (fun basis last _ hlast => hnext basis last hlast)
    refine Alone.bind (Q := fun commit state =>
      commit = expectedGenerationCommit generation ∧
        Journaled catalog transfer.manifest count (catalog.committedFileIds count) state)
      ?_ (fun commit => ?_)
    · unfold commitFreshGeneration
      refine Alone.bind (journaled_within
        (within_each (fun fileId _ => commitFile_quiet hnames fileId))) (fun _ => ?_)
      refine Alone.bind (alone_lift (fun _ _ _ h => h)) (fun _ => ?_)
      rintro current hcurrent moved rfl
      exact ⟨rfl, hcurrent⟩
    · rintro current ⟨rfl, hcurrent⟩
      refine Alone.bind (persistGenerationCommit_alone hget) (fun _ => ?_) current hcurrent
      exact alone_lift (fun _ _ _ h => h)

/-- The end of a session removes the journal. -/
theorem finish_alone (hnames : Named transfer.manifest) {catalog : CatalogPlan}
    {journal : ResumeJournal} {completed : Finset Nat} :
    (transfer.finish summary execution journal).Alone (fun state => Resumable catalog state.files)
      (Journaled catalog transfer.manifest catalog.generations.length completed)
      (fun _ state => state.files.NoFile journalFileName ∧
        state.files.NoFile temporaryJournalFileName) := by
  unfold finish
  refine Alone.bind (journaled_within (finalizeLargeFiles_quiet hnames)) (fun _ => ?_)
  refine Alone.bind (journaled_within (within_each
    (fun reuse _ => materializeExactReuse_quiet hnames reuse))) (fun _ => ?_)
  refine Alone.bind (journaled_within (restoreManifestFiles_quiet hnames)) (fun _ => ?_)
  refine Alone.bind (journaled_within (within_lift _)) (fun _ => ?_)
  apply alone_change
  intro state files hstate hfiles
  obtain ⟨hfree, htouches⟩ := removeFileIfPresent_eq_ok hfiles
  have hafter := hstate.quiet (quiet_of_removed htouches hfree)
  exact ⟨hafter.ledger.resumable, noFile_of_none hfree, hafter.ledger.temporary rfl⟩

/-- The trailing group saves nothing. -/
theorem trailing_safe (hnames : Named transfer.manifest) {catalog : CatalogPlan}
    {journal : ResumeJournal} {state : Receiver}
    (htrailing : ∀ task ∈ execution.trailingLanes.flatten, catalogTaskFileId task = none)
    (hstate : Journaled catalog transfer.manifest catalog.generations.length
      (catalog.committedFileIds catalog.generations.length) state) :
    (Sys.par (groupThreads transfer.blake3 input transfer.manifest none execution.trailingLanes)
      ((transfer.finish summary execution journal).seq (fun _ => .done))).Safe
      (fun state => Resumable catalog state.files)
      (fun state => state.files.NoFile journalFileName ∧
        state.files.NoFile temporaryJournalFileName) state := by
  have hshares : Shares input transfer.manifest execution.trailingLanes (fun _ => Ordinary)
      (fun _ _ => False) False := by
    apply shares_ordinary hnames
    intro fileId offset length hmem
    cases htrailing _ hmem
  apply hshares.safe
    (J := Journaled catalog transfer.manifest catalog.generations.length
      (catalog.committedFileIds catalog.generations.length))
  · intro index before after hbefore hguarantee
    exact hbefore.guarantee hguarantee (fun hfalse => hfalse.elim)
  · exact hstate
  · intro current hcurrent
    exact hcurrent.ledger.resumable
  · exact fun _ => hstate.calm
  · intro final hfinal _
    refine Sys.safe_seq (finish_alone hnames) hfinal.ledger.resumable hfinal ?_
    intro _ last hlast hgone
    exact Sys.safe_done hlast hgone

/-- A session after its destination is prepared. -/
theorem receive_safe (hnames : Named transfer.manifest)
    (hplan : transfer.generationPlan = .ok plan) {journal : ResumeJournal} {count : Nat}
    {state : Receiver}
    (hcompleted : journal.completedFileIds = plan.catalog.committedFileIds count)
    (hledger : Ledger plan.catalog count state.files)
    (hcalm : Calm transfer.manifest (fun _ => False) [] state) :
    (transfer.receive input summary journal).Safe
      (fun state => Resumable plan.catalog state.files)
      (fun state => state.files.NoFile journalFileName ∧
        state.files.NoFile temporaryJournalFileName) state := by
  unfold receive
  refine Sys.safe_seq (P := fun current => current = state)
    (T := fun planned current => transfer.plan input journal = .ok planned.1 ∧
      Journaled plan.catalog transfer.manifest count (plan.catalog.committedFileIds count) current)
    ?_ hledger.resumable rfl ?_
  · refine Alone.bind (Q := fun planned current =>
      transfer.plan input journal = .ok planned ∧ current = state)
      (alone_lift (fun _ hplanned _ hcurrent => ⟨hplanned, hcurrent⟩)) (fun planned => ?_)
    refine Alone.bind (Q := fun _ current =>
      transfer.plan input journal = .ok planned ∧ current = state)
      (alone_lift (fun _ _ _ h => h)) (fun basis => ?_)
    refine Alone.bind (Q := fun _ current =>
      transfer.plan input journal = .ok planned ∧ Journaled plan.catalog transfer.manifest count
        (plan.catalog.committedFileIds count) current)
      (triple_modify (stable_eq _) (stable_eq _) ?_) (fun _ => ?_)
    · rintro current next ⟨hplanned, rfl⟩ ⟨⟩
      exact ⟨.inr hledger.resumable, hplanned, hledger,
        ⟨hcalm.parents, fun _ hpath => hpath.elim⟩, hcompleted⟩
    · rintro current hcurrent moved rfl
      exact hcurrent
  · rintro ⟨⟨planned, execution⟩, basis⟩ final _ ⟨hplanned, hfinal⟩
    obtain ⟨k, hk, hprefixed, rfl, remaining, _, hscheduled⟩ := plan_eq_ok hplan hplanned
    have hsame := committedFileIds_injective hplan hk hfinal.ledger.le
      (hprefixed.symm.trans hcompleted)
    subst hsame
    exact receiveGenerations_safe
      (J := fun count => Journaled plan.catalog transfer.manifest count
        (plan.catalog.committedFileIds count)) hscheduled.count
      (fun count generation lanes basis next state hget _ hstate hnext =>
        generation_safe hnames hget hstate hnext)
      (fun state hstate => trailing_safe hnames hscheduled.trailing hstate)
      _ k basis final hk rfl hfinal

/-- What the first phase of a session leaves: its journal is on disk, it records the first
generations, and the directories of all files are there. -/
structure Prepared (transfer : Transfer) (catalog : CatalogPlan) (journal : ResumeJournal)
    (state : Receiver) : Prop where
  calm : Calm transfer.manifest (fun _ => False) [] state
  ledger : ∃ count, journal.completedFileIds = catalog.committedFileIds count ∧
    Ledger catalog count state.files

theorem Prepared.quiet {catalog : CatalogPlan} {journal : ResumeJournal}
    {before after : Receiver} (h : transfer.Prepared catalog journal before)
    (hquiet : Quiet before after) : transfer.Prepared catalog journal after := by
  obtain ⟨count, hcompleted, hledger⟩ := h.ledger
  refine ⟨⟨?_, fun _ hpath => hpath.elim⟩, count, hcompleted, hledger.quiet hquiet⟩
  intro entry hentry directory hdirectory
  exact hquiet.directories directory (h.calm.parents entry hentry directory hdirectory)

section

variable {catalog : CatalogPlan} {fingerprint : Nat}

theorem loadExisting_alone {dataStreamCount : Nat} {I P : Receiver → Prop} :
    (loadExisting fingerprint dataStreamCount).Alone I P (fun journal state => P state ∧
      readAt state.files journalFileName = .ok journal) := by
  unfold Receiver.loadExisting
  refine Alone.bind (Q := fun stored state => P state ∧
    readAt state.files journalFileName = .ok stored)
    (alone_inspect (fun _ _ hstate hread => ⟨hstate, hread⟩)) (fun stored => alone_lift ?_)
  rintro journal hjournal state ⟨hstate, hread⟩
  unfold ResumeJournal.loadExisting at hjournal
  simp only [bind_eq_ok, ensure_eq_ok, pure_eq_ok, Except.ok.injEq] at hjournal
  obtain ⟨_, _, _, _, _, _, rfl⟩ := hjournal
  exact ⟨hstate, hread⟩

/-- A new transfer starts with a journal that records nothing. -/
theorem prepareFreshDestination_alone :
    (transfer.prepareFreshDestination fingerprint).Alone
      (fun state => Resumable catalog state.files)
      (fun state => state.files.NoFile journalFileName)
      (fun journal => transfer.Prepared catalog journal) := by
  have hvacuous : ∀ files : FileTree, files.NoFile journalFileName → Resumable catalog files := by
    intro files hfree journal hread
    have hnone : readAt (fun _ => none) journalFileName = .ok journal :=
      readAt_congr (.inr hfree) hread
    cases hnone
  unfold prepareFreshDestination
  refine Alone.bind (Q := fun _ state =>
    state.files.NoFile journalFileName ∧ Calm transfer.manifest (fun _ => False) [] state)
    (prepareFiles_alone (fun file => if file.1.fileClass = .large then do
        createNew (temporaryPath file.1.relativePath file.2)
        setLen (temporaryPath file.1.relativePath file.2) file.1.fileSize
      else return ()) ?_ (fun file => rfl) ?_) (fun _ => ?_)
  · intro before after hfree hquiet
    have hafter := noFile_congr hquiet.journal hfree
    exact ⟨hvacuous _ hafter, hafter⟩
  · intro file
    have hpart := temporaryPath_ne_journal file.1.relativePath file.2
    split
    · exact (createNew_quiet hpart).bind (fun _ => within_change (fun _ _ hfiles =>
        quiet_of_rewrites (setLen_rewrites hfiles) hpart))
    · exact within_ret _
  refine Alone.bind (Q := fun journal state => journal.completedFileIds = ∅ ∧
    state.files.NoFile journalFileName ∧ Calm transfer.manifest (fun _ => False) [] state)
    (alone_lift ?_) (fun journal => ?_)
  · rintro journal hjournal state hstate
    unfold ResumeJournal.new at hjournal
    simp only [bind_eq_ok, ensure_eq_ok, pure_eq_ok, Except.ok.injEq] at hjournal
    obtain ⟨_, _, _, _, rfl⟩ := hjournal
    exact ⟨rfl, hstate⟩
  refine Alone.bind (Q := fun _ state => transfer.Prepared catalog journal state ∧
    ∀ other, readAt state.files journalFileName = .ok other → other = journal)
    (saveAtomic_alone ?_ ?_ ?_ ?_) (fun _ => ?_)
  · rintro state ⟨_, hfree, _⟩
    exact hvacuous _ hfree
  · intro state files hstate htouches hfree
    exact hstate.quiet (quiet_of_removed htouches hfree)
  · rintro state files ⟨hempty, hfree, hcalm⟩ htouches
    refine ⟨hempty, noFile_congr (.inl (htouches.frame journalFileName (by decide))) hfree,
      ⟨?_, fun _ hpath => hpath.elim⟩⟩
    intro entry hentry directory hdirectory
    exact (htouches.directories directory).mpr (hcalm.parents entry hentry directory hdirectory)
  · rintro state files ⟨hempty, hfree, hcalm⟩ htouches htemporary hread
    have hunique : ∀ other, readAt files journalFileName = .ok other → other = journal := by
      intro other hother
      rw [hread, Except.ok.injEq] at hother
      exact hother.symm
    have hzero : journal.completedFileIds = catalog.committedFileIds 0 := hempty
    have hledger : Ledger catalog 0 files := by
      refine ⟨Nat.zero_le _, ?_, fun _ => noFile_of_none htemporary⟩
      intro other hother
      rw [hunique other hother]
      exact ⟨0, le_rfl, hzero⟩
    refine ⟨hledger.resumable, ⟨⟨?_, fun _ hpath => hpath.elim⟩, 0, hzero, hledger⟩, hunique⟩
    intro entry hentry directory hdirectory
    exact (htouches.directories directory).mpr (hcalm.parents entry hentry directory hdirectory)
  · apply loadExisting_alone.imp (fun _ h => h)
    rintro other final ⟨⟨hprepared, hunique⟩, hread⟩
    rw [hunique other hread]
    exact hprepared

/-- A later session starts with the journal on disk. -/
theorem prepareResumeDestination_alone {transferPlan : TransferPlan} :
    (transfer.prepareResumeDestination fingerprint transferPlan).Alone
      (fun state => Resumable catalog state.files) (fun state => Resumable catalog state.files)
      (fun journal => transfer.Prepared catalog journal) := by
  have hkeep : ∀ (journal : ResumeJournal) (before after : Receiver),
      (∃ count, journal.completedFileIds = catalog.committedFileIds count ∧
        Ledger catalog count before.files) → Quiet before after →
      Resumable catalog after.files ∧
        ∃ count, journal.completedFileIds = catalog.committedFileIds count ∧
          Ledger catalog count after.files := by
    rintro journal before after ⟨count, hcompleted, hledger⟩ hquiet
    exact ⟨(hledger.quiet hquiet).resumable, count, hcompleted, hledger.quiet hquiet⟩
  unfold prepareResumeDestination
  refine Alone.bind (Q := fun journal state =>
    ∃ count, journal.completedFileIds = catalog.committedFileIds count ∧
      Ledger catalog count state.files) ?_ (fun journal => ?_)
  · apply loadExisting_alone.imp (fun _ h => h)
    rintro journal final ⟨hresumable, hread⟩
    obtain ⟨k, hk, hcompleted, htemporary⟩ := hresumable journal hread
    refine ⟨k, hcompleted, hk, ?_, htemporary⟩
    intro other hother
    rw [hread, Except.ok.injEq] at hother
    rw [← hother]
    exact ⟨k, le_rfl, hcompleted⟩
  refine Alone.bind ((within_query _).alone (hkeep journal)) (fun _ => ?_)
  refine Alone.bind ((within_lift _).alone (hkeep journal)) (fun _ => ?_)
  refine Alone.bind (prepareFiles_alone (fun file =>
      if file.2 ∈ journal.completedFileIds then
        removeFileIfPresent (temporaryPath file.1.relativePath file.2)
      else prepareResumeUncommitted transferPlan journal.completedStripes file.2 file.1)
    (hkeep journal) (fun file => rfl) ?_) (fun _ => ?_)
  · intro file
    split
    · exact removeFileIfPresent_quiet _
    · exact prepareResumeUncommitted_quiet
  · rintro state ⟨hledger, hcalm⟩ moved rfl
    exact ⟨hcalm, hledger⟩

theorem prepareDestination_alone {transferPlan : TransferPlan} :
    (transfer.prepareDestination fingerprint transferPlan).Alone
      (fun state => Resumable catalog state.files) (fun state => Resumable catalog state.files)
      (fun journal => transfer.Prepared catalog journal) := by
  unfold prepareDestination
  refine Alone.bind (Q := fun resume state =>
    state.files.tryExists journalFileName = resume ∧ Resumable catalog state.files)
    (alone_inspect ?_) (fun resume => ?_)
  · rintro state resume hstate ⟨⟩
    exact ⟨rfl, hstate⟩
  cases resume with
  | true =>
    apply prepareResumeDestination_alone.imp _ (fun _ _ h => h)
    exact fun state hstate => hstate.2
  | false =>
    refine Alone.bind (Q := fun _ state => state.files.NoFile journalFileName)
      (alone_inspect ?_) (fun _ => prepareFreshDestination_alone)
    rintro state _ ⟨hnone, _⟩ _
    rw [tryExists, Option.isSome_eq_false_iff, Option.isNone_iff_eq_none] at hnone
    exact noFile_of_none hnone

theorem prepare_alone (input : SessionInput) :
    (transfer.prepare input).Alone (fun state => Resumable catalog state.files)
      (fun state => Resumable catalog state.files)
      (fun prepared => transfer.Prepared catalog prepared.2) := by
  have hkeep : ∀ before after : Receiver, Resumable catalog before.files → Quiet before after →
      Resumable catalog after.files ∧ Resumable catalog after.files :=
    fun before after hbefore hquiet => ⟨hbefore.quiet hquiet, hbefore.quiet hquiet⟩
  unfold prepare
  refine Alone.bind ((within_lift _).alone hkeep) (fun summary => ?_)
  refine Alone.bind
    ((validateExistingManifestDirectoryPaths_within _).alone hkeep) (fun _ => ?_)
  refine Alone.bind ((within_lift _).alone hkeep) (fun transferPlan => ?_)
  refine Alone.bind ((negotiateVerifiedFreshResumeFiles_within input _).alone hkeep) (fun _ => ?_)
  refine Alone.bind prepareDestination_alone (fun journal => ?_)
  refine Alone.bind ((materializeManifestDirectories_quiet _).alone
    (K := fun state => transfer.Prepared catalog journal state) ?_) (fun _ => ?_)
  · intro before after hbefore hquiet
    obtain ⟨count, _, hledger⟩ := (hbefore.quiet hquiet).ledger
    exact ⟨hledger.resumable, hbefore.quiet hquiet⟩
  · rintro state hstate moved rfl
    exact hstate

end

/-- Every state of a session can be resumed from, and a session that ends leaves no
journal. -/
theorem session_resumable (hnames : Named transfer.manifest)
    (hplan : transfer.generationPlan = .ok plan) (input : SessionInput) {state : Receiver}
    (hstate : Resumable plan.catalog state.files) :
    (transfer.session input).Safe (fun state => Resumable plan.catalog state.files)
      (fun state => state.files.NoFile journalFileName ∧
        state.files.NoFile temporaryJournalFileName) state := by
  unfold session
  apply Sys.safe_seq (prepare_alone input) hstate hstate
  intro prepared final _ hprepared
  obtain ⟨count, hcompleted, hledger⟩ := hprepared.ledger
  exact receive_safe hnames hplan hcompleted hledger hprepared.calm

theorem resumable_of_disk (hnames : Named transfer.manifest)
    (hplan : transfer.generationPlan = .ok plan) {files : FileTree} (h : transfer.Disk files) :
    Resumable plan.catalog files := by
  induction h with
  | empty =>
    intro journal hread
    cases hread
  | session before input clock run ih =>
    have hstart : Resumable plan.catalog (start _ clock).files := ih
    exact (session_resumable hnames hplan input hstart _ run).1

end Transfer

end NetworkCopy
