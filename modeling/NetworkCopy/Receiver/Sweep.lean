import NetworkCopy.Receiver.Ownership

/-!
# What a session may leave

At every moment the files below the destination root have a name that belongs to the
transfer: the path of a file, of its part file or of its temporary, or the name of a
journal.  `Swept gone` says so, and that there is no file at the paths of `gone`.

`Places lasting` is a step that makes files only at the paths of `lasting` and directories
only where the manifest has one.  Such a step keeps `Swept gone` when no lasting path is in
`gone`.
-/

namespace NetworkCopy

open Crash Receiver

namespace Transfer

/-- The directories of a manifest: those it lists and those its files lie in. -/
def HasDirectory (transfer : Transfer) (path : RelativePath) : Prop :=
  (∃ entry ∈ transfer.manifest, path ∈ parentDirectories entry.relativePath) ∨
    ∃ entry ∈ transfer.directories, path ∈ directoryPaths entry.relativePath

/-- The names that belong to a session. -/
def Known (transfer : Transfer) (input : SessionInput) (path : RelativePath) : Prop :=
  (∃ fileId, FileName transfer.manifest input fileId path) ∨ path = journalFileName ∨
    path = temporaryJournalFileName

/-- All files have a known name, all directories belong to the manifest, and there is no
file at the paths of `gone`. -/
structure Swept (transfer : Transfer) (input : SessionInput) (gone : RelativePath → Prop)
    (files : FileTree) : Prop where
  known : ∀ path, files.kindAt path = some true → transfer.Known input path
  directories : ∀ path, files path = some .directory → transfer.HasDirectory path
  gone : ∀ path, gone path → files.NoFile path

/-- A step that makes files only at lasting paths. -/
structure Places (transfer : Transfer) (lasting : RelativePath → Prop)
    (before after : Receiver) : Prop where
  files : ∀ path, after.files.kindAt path = some true →
    before.files.kindAt path = some true ∨ lasting path
  kept : ∀ path, before.files path = some .directory → after.files path = some .directory
  made : ∀ path, after.files path = some .directory →
    before.files path = some .directory ∨ transfer.HasDirectory path

section

variable {transfer : Transfer} {input : SessionInput} {gone gone' lasting : RelativePath → Prop}
  {before after state : Receiver} {files : FileTree} {path : RelativePath}

theorem Swept.mono (h : transfer.Swept input gone files) (hsub : ∀ path, gone' path → gone path) :
    transfer.Swept input gone' files :=
  ⟨h.known, h.directories, fun path hpath => h.gone path (hsub path hpath)⟩

theorem Places.noFile (h : transfer.Places lasting before after) (hpath : ¬ lasting path)
    (hfree : before.files.NoFile path) : after.files.NoFile path := by
  intro hfile
  rcases h.files path hfile with hbefore | hlasting
  · exact hfree hbefore
  · exact hpath hlasting

theorem Swept.places (h : transfer.Swept input gone before.files)
    (hstep : transfer.Places lasting before after)
    (hlasting : ∀ path, lasting path → transfer.Known input path ∧ ¬ gone path) :
    transfer.Swept input gone after.files := by
  refine ⟨?_, ?_, ?_⟩
  · intro path hfile
    rcases hstep.files path hfile with hbefore | hpath
    · exact h.known path hbefore
    · exact (hlasting path hpath).1
  · intro path hdirectory
    rcases hstep.made path hdirectory with hbefore | hpath
    · exact h.directories path hbefore
    · exact hpath
  · intro path hgone
    exact hstep.noFile (fun hpath => (hlasting path hpath).2 hgone) (h.gone path hgone)

theorem places_of_touches {paths : List RelativePath}
    (h : FileTree.Touches paths state.files files)
    (hpaths : ∀ path ∈ paths, files.NoFile path ∨ lasting path) :
    transfer.Places lasting state (state.withFiles files) := by
  refine ⟨?_, fun path hdirectory => (h.directories path).mpr hdirectory,
    fun path hdirectory => .inl ((h.directories path).mp hdirectory)⟩
  intro path hfile
  by_cases hmem : path ∈ paths
  · rcases hpaths path hmem with hfree | hpath
    · exact absurd hfile hfree
    · exact .inr hpath
  · rw [withFiles_files, h.kindAt hmem] at hfile
    exact .inl hfile

/-- Rewriting a file makes none. -/
theorem places_of_rewrites (h : FileTree.Rewrites path state.files files) :
    transfer.Places lasting state (state.withFiles files) := by
  refine ⟨?_, fun other hdirectory => (h.touches.directories other).mpr hdirectory,
    fun other hdirectory => .inl ((h.touches.directories other).mp hdirectory)⟩
  intro other hfile
  rw [withFiles_files, h.kindAt] at hfile
  exact .inl hfile

theorem places_of_directory (h : state.files.createDirectory path = .ok files)
    (hpath : transfer.HasDirectory path) :
    transfer.Places lasting state (state.withFiles files) := by
  refine ⟨?_, (quiet_of_directory h).directories, ?_⟩
  · obtain ⟨_, rfl⟩ := FileTree.createDirectory_eq_ok h
    intro other hfile
    by_cases hsame : other = path
    · rw [hsame, withFiles_files,
        FileTree.kindAt_eq_false.mpr (FileTree.set_same _ _ _)] at hfile
      cases hfile
    · rw [withFiles_files, FileTree.kindAt, FileTree.set_ne _ _ hsame] at hfile
      exact .inl hfile
  · obtain ⟨_, rfl⟩ := FileTree.createDirectory_eq_ok h
    intro other hdirectory
    by_cases hsame : other = path
    · rw [hsame]
      exact .inr hpath
    · rw [withFiles_files, FileTree.set_ne _ _ hsame] at hdirectory
      exact .inl hdirectory

/-! ## Calls -/

theorem removeFileIfPresent_places (path : RelativePath) :
    (removeFileIfPresent path).Within (transfer.Places lasting) := by
  apply within_change
  intro state files hfiles
  obtain ⟨hfree, htouches⟩ := FileTree.removeFileIfPresent_eq_ok hfiles
  apply places_of_touches htouches
  intro other hother
  rw [List.mem_singleton] at hother
  rw [hother]
  exact .inl (FileTree.noFile_of_none hfree)

theorem removeFile_places (path : RelativePath) :
    (removeFile path).Within (transfer.Places lasting) := by
  apply within_change
  intro state files hfiles
  apply places_of_touches (FileTree.removeFile_touches hfiles)
  intro other hother
  rw [List.mem_singleton] at hother
  rw [hother]
  obtain ⟨_, rfl⟩ := FileTree.removeFile_eq_set hfiles
  exact .inl (FileTree.noFile_of_none (FileTree.set_same _ _ _))

theorem createDirectories_places {paths : List RelativePath}
    (h : ∀ path ∈ paths, transfer.HasDirectory path) :
    (Prog.each createDirectory paths).Within (transfer.Places lasting) :=
  Prog.within_each (fun path hpath =>
    within_change (fun _ _ hfiles => places_of_directory hfiles (h path hpath)))

theorem createNew_places (h : lasting path) :
    (createNew path).Within (transfer.Places lasting) := by
  apply within_change
  intro state files hfiles
  apply places_of_touches (FileTree.createNew_touches hfiles)
  intro other hother
  rw [List.mem_singleton] at hother
  rw [hother]
  exact .inr h

theorem replace_places {source destination : RelativePath} (h : lasting destination) :
    (replace source destination).Within (transfer.Places lasting) := by
  apply within_change
  intro state files hfiles
  apply places_of_touches (FileTree.replace_touches hfiles)
  intro other hother
  simp only [List.mem_cons, List.not_mem_nil, or_false] at hother
  by_cases hsame : other = destination
  · rw [hsame]
    exact .inr h
  · rcases hother with rfl | hother
    · exact .inl (FileTree.noFile_of_none (FileTree.replace_source hfiles hsame))
    · exact absurd hother hsame

theorem rewrites_places {change : FileTree → Nat → IoResult FileTree}
    (hchange : ∀ files now files', change files now = .ok files' →
      FileTree.Rewrites path files files') :
    (Prog.modify (onFiles change)).Within (transfer.Places lasting) :=
  within_change (fun _ _ hfiles => places_of_rewrites (hchange _ _ _ hfiles))

theorem saveAtomic_places {journal : ResumeJournal} (hjournal : lasting journalFileName)
    (htemporary : lasting temporaryJournalFileName) :
    (saveAtomic journal).Within (transfer.Places lasting) := by
  have happend : ∀ bytes, (append temporaryJournalFileName bytes).Within
      (transfer.Places lasting) :=
    fun bytes => rewrites_places (fun _ _ _ hfiles => FileTree.append_rewrites hfiles)
  unfold saveAtomic
  refine (removeFileIfPresent_places _).bind (fun _ => ?_)
  refine Prog.Within.onError ?_ (removeFile_places _)
  unfold publishJournal
  refine (createNew_places htemporary).bind (fun _ => ?_)
  refine Prog.Within.bind ?_ (fun _ => ?_)
  · unfold writeTo
    refine (Prog.within_each (fun bytes _ => happend bytes)).bind (fun _ => ?_)
    refine (Prog.within_lift _).bind (fun _ => ?_)
    refine (happend _).bind (fun _ => ?_)
    refine (Prog.within_lift _).bind (fun _ => ?_)
    refine (happend _).bind (fun _ => ?_)
    exact Prog.within_each (fun bytes _ => happend bytes)
  refine (Prog.within_query _).bind (fun _ => ?_)
  refine (Prog.within_lift _).bind (fun _ => ?_)
  exact replace_places hjournal

theorem finalizeLargeFile_places {fileId : Nat} {entry : ManifestEntry}
    (h : lasting entry.relativePath) :
    (finalizeLargeFile fileId entry .fresh).Within (transfer.Places lasting) := by
  unfold finalizeLargeFile
  refine (Prog.within_lift _).bind (fun _ => ?_)
  refine (Prog.within_query _).bind (fun finalExists => ?_)
  refine (Prog.within_query _).bind (fun temporaryExists => ?_)
  cases finalExists <;> cases temporaryExists
  · exact Prog.within_fail _
  · exact (Prog.within_query _).bind (fun _ => replace_places h)
  · exact Prog.within_query _
  · exact Prog.within_fail _

theorem commitFile_places {manifest : Manifest}
    (h : ∀ entry ∈ manifest, lasting entry.relativePath) (fileId : Nat) :
    (commitFile manifest fileId).Within (transfer.Places lasting) := by
  unfold commitFile
  apply Prog.within_lift_bind
  intro entry hentry
  have hfinal := h entry (List.mem_of_getElem? (okOrElse_eq_ok.mp hentry))
  refine Prog.Within.bind ?_ (fun _ => rewrites_places (fun _ _ _ hfiles =>
    FileTree.restoreFile_rewrites hfiles))
  unfold finalizeCommittedFile
  cases entry.fileClass with
  | tiny => exact Prog.within_fail _
  | medium => exact Prog.within_query _
  | large => exact finalizeLargeFile_places hfinal

theorem persistGenerationCommit_places {commit : GenerationCommit}
    (hjournal : lasting journalFileName) (htemporary : lasting temporaryJournalFileName) :
    (persistGenerationCommit commit).Within (transfer.Places lasting) := by
  unfold persistGenerationCommit
  refine Prog.Within.bind (Prog.within_each (fun fileId _ => Prog.within_modify ?_)) (fun _ => ?_)
  · rintro state state' ⟨⟩
    exact ⟨fun _ hfile => .inl hfile, fun _ hdirectory => hdirectory,
      fun _ hdirectory => .inl hdirectory⟩
  refine (Prog.within_query _).bind (fun journal => ?_)
  exact (Prog.within_lift _).bind (fun _ => saveAtomic_places hjournal htemporary)

end

end Transfer

end NetworkCopy
