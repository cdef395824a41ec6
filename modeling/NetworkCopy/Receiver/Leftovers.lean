import NetworkCopy.Receiver.Sweep

/-!
# A finished transfer leaves only its files

Whatever a stopped session leaves, a later session that ends removes or renames: part
files of tiny and medium files are removed when the destination is prepared, part files of
large files get their final names, and the journal is removed at the end.  The temporary of
a reconstruction is removed by the session that made it and by no other; its name contains
the process ID and the time.  So a session that dies inside `reconstruct` leaves a file that
no later session knows.
-/

namespace NetworkCopy

open Crash Prog Receiver

namespace Transfer

variable {transfer : Transfer} {input : SessionInput}

/-- The litter of all files. -/
def Litters (transfer : Transfer) (input : SessionInput) (path : RelativePath) : Prop :=
  ∃ fileId, Litter transfer.manifest input fileId path

/-- The temporaries of a session. -/
def Temporaries (transfer : Transfer) (input : SessionInput) (path : RelativePath) : Prop :=
  ∃ fileId entry, transfer.manifest[fileId]? = some entry ∧
    path = input.temporary entry.relativePath fileId

/-- What may stay when a session stops between two groups: the files, the part files of
large files and the journals. -/
def Lasting (transfer : Transfer) (path : RelativePath) : Prop :=
  (∃ entry ∈ transfer.manifest, path = entry.relativePath) ∨
    (∃ fileId entry, transfer.manifest[fileId]? = some entry ∧ entry.fileClass = .large ∧
      path = temporaryPath entry.relativePath fileId) ∨
    path = journalFileName ∨ path = temporaryJournalFileName

section

variable (hnames : NamesDistinct transfer.manifest input)

include hnames

theorem final_not_litter {entry : ManifestEntry} (hentry : entry ∈ transfer.manifest) :
    ¬ transfer.Litters input entry.relativePath := by
  obtain ⟨i, hi⟩ := List.mem_iff_getElem?.mp hentry
  rintro ⟨j, other, hj, ⟨_, hpart⟩ | htemporary⟩
  · exact hnames.parts i j entry other hi hj hpart
  · exact hnames.temporaries i j entry other hi hj htemporary

theorem lasting_known {path : RelativePath} (h : transfer.Lasting path) :
    transfer.Known input path ∧ ¬ transfer.Litters input path := by
  rcases h with ⟨entry, hentry, rfl⟩ | ⟨fileId, entry, hentry, hlarge, rfl⟩ | hjournal
  · obtain ⟨fileId, hget⟩ := List.mem_iff_getElem?.mp hentry
    exact ⟨.inl ⟨fileId, entry, hget, .inl rfl⟩, final_not_litter hnames hentry⟩
  · have hname : FileName transfer.manifest input fileId
        (temporaryPath entry.relativePath fileId) := ⟨entry, hentry, .inr (.inl rfl)⟩
    refine ⟨.inl ⟨fileId, hname⟩, ?_⟩
    rintro ⟨other, hlitter⟩
    have hsame := hnames.unique hname hlitter.fileName
    subst hsame
    obtain ⟨otherEntry, hother, ⟨hclass, _⟩ | htemporary⟩ := hlitter
    · rw [hentry, Option.some.injEq] at hother
      rw [← hother] at hclass
      exact hclass hlarge
    · exact reconstructionTemporary_ne_temporaryPath _ _ _ _ _ htemporary.symm
  · refine ⟨.inr hjournal, ?_⟩
    rintro ⟨fileId, hlitter⟩
    have hordinary := hnames.ordinary hlitter.fileName
    rcases hjournal with rfl | rfl
    · exact hordinary.1 rfl
    · exact hordinary.2 rfl

/-- The part file of a tiny or medium file does not last. -/
theorem part_not_lasting {fileId : Nat} {entry : ManifestEntry}
    (hentry : transfer.manifest[fileId]? = some entry) (hclass : entry.fileClass ≠ .large) :
    ¬ transfer.Lasting (temporaryPath entry.relativePath fileId) := by
  intro hlasting
  exact (lasting_known hnames hlasting).2 ⟨fileId, entry, hentry, .inl ⟨hclass, rfl⟩⟩

/-- Steps that make only lasting files keep what is swept of the litter. -/
theorem swept_places {gone : RelativePath → Prop} (hgone : ∀ path, gone path →
    transfer.Litters input path) {before after : Receiver}
    (h : transfer.Swept input gone before.files)
    (hstep : transfer.Places transfer.Lasting before after) :
    transfer.Swept input (fun _ => False) after.files ∧ transfer.Swept input gone after.files := by
  have hafter := h.places hstep (fun path hpath =>
    ⟨(lasting_known hnames hpath).1, fun hlitter => (lasting_known hnames hpath).2
      (hgone path hlitter)⟩)
  exact ⟨hafter.mono (fun _ hfalse => hfalse.elim), hafter⟩

end

/-! ## Preparing the destination -/

/-- What holds at every moment of a session. -/
abbrev Orderly (transfer : Transfer) (input : SessionInput) (state : Receiver) : Prop :=
  transfer.Swept input (fun _ => False) state.files

theorem prepareFreshFile_places {file : ManifestEntry × Nat}
    (hfile : file ∈ transfer.manifest.zipIdx) :
    (prepareFreshFile file).Within (transfer.Places transfer.Lasting) := by
  have hget : transfer.manifest[file.2]? = some file.1 := List.mem_zipIdx_iff_getElem?.mp hfile
  have hmem := List.mem_of_getElem? hget
  unfold prepareFreshFile
  refine (createDirectories_places (fun directory hdirectory =>
    .inl ⟨file.1, hmem, hdirectory⟩)).bind (fun _ => ?_)
  split
  · rename_i hlarge
    refine (createNew_places (.inr (.inl ⟨file.2, file.1, hget, hlarge, rfl⟩))).bind (fun _ => ?_)
    exact rewrites_places (fun _ _ _ hfiles => FileTree.setLen_rewrites hfiles)
  · exact within_ret _

theorem prepareResumeFile_places {transferPlan : TransferPlan}
    {completedStripes : Finset ResumeStripe} {committedFileIds : Finset Nat}
    {file : ManifestEntry × Nat} (hfile : file ∈ transfer.manifest.zipIdx) :
    (prepareResumeFile transferPlan completedStripes committedFileIds file).Within
      (transfer.Places transfer.Lasting) := by
  have hmem := List.mem_of_getElem? (List.mem_zipIdx_iff_getElem?.mp hfile)
  unfold prepareResumeFile
  refine (createDirectories_places (fun directory hdirectory =>
    .inl ⟨file.1, hmem, hdirectory⟩)).bind (fun _ => ?_)
  split
  · exact removeFileIfPresent_places _
  · unfold prepareResumeUncommitted
    cases file.1.fileClass with
    | large => exact prepareResumeLargeFile_within
    | medium => exact (removeFileIfPresent_places _).bind (fun _ => removeFileIfPresent_places _)
    | tiny => exact (removeFileIfPresent_places _).bind (fun _ => removeFileIfPresent_places _)

theorem loadExisting_within {G : Receiver → Receiver → Prop} {fingerprint dataStreamCount : Nat} :
    (Receiver.loadExisting fingerprint dataStreamCount).Within G :=
  (within_query _).bind (fun _ => within_lift _)

theorem materializeManifestDirectories_places {lasting : RelativePath → Prop} :
    (materializeManifestDirectories transfer.directories).Within (transfer.Places lasting) := by
  unfold materializeManifestDirectories
  refine (validateExistingManifestDirectoryPaths_within _).bind (fun _ => ?_)
  apply within_each
  intro entry hentry
  exact (within_lift _).bind (fun _ => createDirectories_places
    (fun path hpath => .inr ⟨entry, hentry, hpath⟩))

/-- A removed file is gone. -/
theorem removeFileIfPresent_alone {I K : Receiver → Prop} {path : RelativePath}
    {lasting : RelativePath → Prop}
    (hkeep : ∀ before after, K before → transfer.Places lasting before after →
      I after ∧ K after) :
    (removeFileIfPresent path).Alone I K (fun _ state => K state ∧ state.files.NoFile path) := by
  have hkept := (removeFileIfPresent_places path).alone hkeep
  have hgone : (removeFileIfPresent path).Alone (fun _ => True) (fun _ => True)
      (fun _ state => state.files.NoFile path) := by
    apply alone_change
    intro state files _ hfiles
    exact ⟨trivial, FileTree.noFile_of_none (FileTree.removeFileIfPresent_eq_ok hfiles).1⟩
  refine ((hkept.and hgone).weaken (fun _ _ hboth => hboth.1)).imp ?_ (fun _ _ hboth => hboth)
  exact fun state hstate => ⟨hstate, trivial⟩

section

variable (hnames : NamesDistinct transfer.manifest input)
variable {transferPlan : TransferPlan} {fingerprint : Nat}

include hnames

/-- No temporary comes back in a step of the preparation. -/
theorem swept_temporaries (before after : Receiver)
    (h : transfer.Swept input (transfer.Temporaries input) before.files)
    (hstep : transfer.Places transfer.Lasting before after) : transfer.Orderly input after ∧
      transfer.Swept input (transfer.Temporaries input) after.files := by
  apply swept_places hnames _ h hstep
  rintro path ⟨fileId, entry, hentry, rfl⟩
  exact ⟨fileId, entry, hentry, .inr rfl⟩

/-- A later session removes the part files of tiny and medium files. -/
theorem prepareResumeFile_alone {completedStripes : Finset ResumeStripe}
    {committedFileIds : Finset Nat} {file : ManifestEntry × Nat}
    (hfile : file ∈ transfer.manifest.zipIdx) :
    (prepareResumeFile transferPlan completedStripes committedFileIds file).Alone
      (transfer.Orderly input)
      (fun state => transfer.Swept input (transfer.Temporaries input) state.files)
      (fun _ state => file.1.fileClass ≠ .large →
        state.files.NoFile (temporaryPath file.1.relativePath file.2)) := by
  have hget : transfer.manifest[file.2]? = some file.1 := List.mem_zipIdx_iff_getElem?.mp hfile
  have hmem := List.mem_of_getElem? hget
  have hkeep := swept_temporaries hnames
  unfold prepareResumeFile
  refine Alone.bind ((createDirectories_places (fun directory hdirectory =>
    .inl ⟨file.1, hmem, hdirectory⟩)).alone hkeep) (fun _ => ?_)
  have hremoved : (removeFileIfPresent (temporaryPath file.1.relativePath file.2)).Alone
      (transfer.Orderly input)
      (fun state => transfer.Swept input (transfer.Temporaries input) state.files)
      (fun _ state => transfer.Swept input (transfer.Temporaries input) state.files ∧
        state.files.NoFile (temporaryPath file.1.relativePath file.2)) :=
    removeFileIfPresent_alone hkeep
  split
  · exact hremoved.imp (fun _ h => h) (fun _ _ h _ => h.2)
  · unfold prepareResumeUncommitted
    split
    · rename_i hlarge
      exact (prepareResumeLargeFile_within.alone hkeep).imp (fun _ h => h)
        (fun _ _ _ hclass => absurd hlarge hclass)
    · rename_i hclass
      refine Alone.bind hremoved (fun _ => ?_)
      have hrest := Within.alone (G := transfer.Places transfer.Lasting)
        (I := transfer.Orderly input) (K := fun state =>
          transfer.Swept input (transfer.Temporaries input) state.files ∧
            state.files.NoFile (temporaryPath file.1.relativePath file.2))
        (removeFileIfPresent_places file.1.relativePath) ?_
      · exact hrest.imp (fun _ h => h) (fun _ _ h _ => h.2)
      · rintro before after ⟨hbefore, hfree⟩ hstep
        obtain ⟨horderly, hafter⟩ := hkeep before after hbefore hstep
        exact ⟨horderly, hafter, hstep.noFile (part_not_lasting hnames hget hclass) hfree⟩

theorem prepareResumeDestination_swept :
    (transfer.prepareResumeDestination fingerprint transferPlan).Alone (transfer.Orderly input)
      (fun state => transfer.Swept input (transfer.Temporaries input) state.files)
      (fun _ state => transfer.Swept input (transfer.Litters input) state.files) := by
  have hkeep := swept_temporaries hnames
  unfold prepareResumeDestination
  refine Alone.bind (loadExisting_within.alone hkeep) (fun journal => ?_)
  refine Alone.bind ((within_query _).alone hkeep) (fun _ => ?_)
  refine Alone.bind ((within_lift _).alone hkeep) (fun _ => ?_)
  refine Alone.bind (each_alone (fun file hfile => prepareResumeFile_places hfile)
    hkeep ?_ (fun file hfile => prepareResumeFile_alone hnames hfile)) (fun _ => ?_)
  · intro file hfile before after hfree hstep hclass
    exact hstep.noFile
      (part_not_lasting hnames (List.mem_zipIdx_iff_getElem?.mp hfile) hclass) (hfree hclass)
  · rintro state ⟨hswept, hparts⟩ moved rfl
    refine ⟨hswept.known, hswept.directories, ?_⟩
    rintro path ⟨fileId, entry, hentry, ⟨hclass, rfl⟩ | rfl⟩
    · exact hparts (entry, fileId) (List.mem_zipIdx_iff_getElem?.mpr hentry) hclass
    · exact hswept.gone _ ⟨fileId, entry, hentry, rfl⟩

theorem prepareFreshDestination_swept :
    (transfer.prepareFreshDestination fingerprint).Alone (transfer.Orderly input)
      (fun state => transfer.Swept input (transfer.Litters input) state.files)
      (fun _ state => transfer.Swept input (transfer.Litters input) state.files) := by
  have hwithin : (transfer.prepareFreshDestination fingerprint).Within
      (transfer.Places transfer.Lasting) := by
    unfold prepareFreshDestination
    refine (within_each (fun file hfile => prepareFreshFile_places hfile)).bind (fun _ => ?_)
    refine (within_lift _).bind (fun journal => ?_)
    exact (saveAtomic_places (.inr (.inr (.inl rfl))) (.inr (.inr (.inr rfl)))).bind
      (fun _ => loadExisting_within)
  apply hwithin.alone
  intro before after hbefore hstep
  exact swept_places hnames (fun _ hlitter => hlitter) hbefore hstep

open Classical in
theorem prepareDestination_swept :
    (transfer.prepareDestination fingerprint transferPlan).Alone (transfer.Orderly input)
      (fun state => transfer.Swept input (transfer.Temporaries input) state.files)
      (fun _ state => transfer.Swept input (transfer.Litters input) state.files) := by
  unfold prepareDestination
  refine Alone.bind (alone_inspect (fun _ _ hstate _ => hstate)) (fun resume => ?_)
  cases resume with
  | true => exact prepareResumeDestination_swept hnames
  | false =>
    -- Nothing is there yet, so nothing has to be swept.
    refine Alone.bind (alone_inspect ?_)
      (fun _ => prepareFreshDestination_swept hnames)
    intro state _ hstate hempty
    have hnone := ensure_eq_ok.mp hempty
    exact ⟨hstate.known, hstate.directories, fun path _ =>
      FileTree.noFile_of_none (hnone path)⟩

theorem prepare_swept :
    (transfer.prepare input).Alone (transfer.Orderly input)
      (fun state => transfer.Swept input (transfer.Temporaries input) state.files)
      (fun _ state => transfer.Swept input (transfer.Litters input) state.files) := by
  have hkeep := swept_temporaries hnames
  unfold prepare
  refine Alone.bind ((within_lift _).alone hkeep) (fun summary => ?_)
  refine Alone.bind
    ((validateExistingManifestDirectoryPaths_within _).alone hkeep) (fun _ => ?_)
  refine Alone.bind ((within_lift _).alone hkeep) (fun transferPlan => ?_)
  refine Alone.bind
    ((negotiateVerifiedFreshResumeFiles_within input _).alone hkeep) (fun _ => ?_)
  refine Alone.bind (prepareDestination_swept hnames) (fun journal => ?_)
  have hmaterialize : (materializeManifestDirectories transfer.directories).Alone
      (transfer.Orderly input)
      (fun state => transfer.Swept input (transfer.Litters input) state.files)
      (fun _ state => transfer.Swept input (transfer.Litters input) state.files) := by
    apply Within.alone materializeManifestDirectories_places
    intro before after hbefore hstep
    exact swept_places hnames (fun _ hlitter => hlitter) hbefore hstep
  refine Alone.bind hmaterialize (fun _ => ?_)
  rintro state hstate moved rfl
  exact hstate

end

/-- The directories that the manifest lists are made. -/
theorem prepare_made :
    (transfer.prepare input).Alone (fun _ => True) (fun _ => True)
      (fun _ state => ∀ entry ∈ transfer.directories, ∀ path ∈ directoryPaths entry.relativePath,
        state.files path = some .directory) := by
  have hkeep : ∀ before after : Receiver, True → Quiet before after → True ∧ True :=
    fun _ _ _ _ => ⟨trivial, trivial⟩
  unfold prepare
  refine Alone.bind (alone_true _) (fun _ => ?_)
  refine Alone.bind (alone_true _) (fun _ => ?_)
  refine Alone.bind (alone_true _) (fun _ => ?_)
  refine Alone.bind (alone_true _) (fun _ => ?_)
  refine Alone.bind (alone_true _) (fun _ => ?_)
  refine Alone.bind (Q := fun _ state => ∀ entry ∈ transfer.directories,
    ∀ path ∈ directoryPaths entry.relativePath, state.files path = some .directory)
    ?_ (fun _ => ?_)
  · unfold materializeManifestDirectories
    refine Alone.bind (alone_true _) (fun _ => ?_)
    have hmade : ∀ entry ∈ transfer.directories, ∀ before after : Receiver,
        (∀ path ∈ directoryPaths entry.relativePath, before.files path = some .directory) →
        Quiet before after →
        ∀ path ∈ directoryPaths entry.relativePath, after.files path = some .directory :=
      fun entry _ before after hbefore hquiet path hpath =>
        hquiet.directories path (hbefore path hpath)
    refine (each_alone (G := Quiet) (fun entry _ => (within_lift _).bind
      (fun _ => within_each (fun path _ => createDirectory_quiet path))) hkeep
      hmade ?_).imp (fun _ h => h) (fun _ _ h => h.2)
    intro entry _
    refine Alone.bind (alone_true _) (fun _ => ?_)
    exact (createDirectories_alone hkeep).imp (fun _ h => h) (fun _ _ h => h.2)
  · rintro state hstate moved rfl
    exact hstate

/-! ## Groups -/

/-- Between two groups no litter is there and every directory is. -/
structure Clean (transfer : Transfer) (input : SessionInput) (state : Receiver) : Prop where
  swept : transfer.Swept input (transfer.Litters input) state.files
  furnished : ∀ path, transfer.HasDirectory path → state.files path = some .directory

/-- While a group runs, the litter of the files that none of its threads receives is gone. -/
structure Bounded (transfer : Transfer) (input : SessionInput) (lanes : List (List TransferTask))
    (state : Receiver) : Prop where
  swept : transfer.Swept input (fun path => ∃ fileId,
    Litter transfer.manifest input fileId path ∧ ∀ index, fileId ∉ threadFiles lanes index)
    state.files
  furnished : ∀ path, transfer.HasDirectory path → state.files path = some .directory

section

variable (hnames : NamesDistinct transfer.manifest input) {lanes : List (List TransferTask)}

include hnames

theorem Bounded.guarantee {saves : Prop} {index : Nat} {before after : Receiver}
    (h : transfer.Bounded input lanes before)
    (hstep : Guarantee (fun path => ∃ fileId ∈ threadFiles lanes index,
      FileName transfer.manifest input fileId path) saves index before after) :
    transfer.Bounded input lanes after := by
  refine ⟨⟨?_, ?_, ?_⟩, fun path hpath => (hstep.directories path).mpr (h.furnished path hpath)⟩
  · intro path hfile
    by_cases hown : ∃ fileId ∈ threadFiles lanes index,
        FileName transfer.manifest input fileId path
    · obtain ⟨fileId, _, hname⟩ := hown
      exact .inl ⟨fileId, hname⟩
    · by_cases hordinary : Ordinary path
      · rw [hstep.frame path hown hordinary.1 hordinary.2] at hfile
        exact h.swept.known path hfile
      · rw [not_and_or, not_not, not_not] at hordinary
        exact .inr hordinary
  · intro path hdirectory
    exact h.swept.directories path ((hstep.directories path).mp hdirectory)
  · rintro path ⟨fileId, hlitter, hfree⟩
    have hordinary := hnames.ordinary hlitter.fileName
    have hforeign : ¬ ∃ other ∈ threadFiles lanes index,
        FileName transfer.manifest input other path := by
      rintro ⟨other, hmem, hname⟩
      rw [hnames.unique hname hlitter.fileName] at hmem
      exact hfree index hmem
    rw [FileTree.NoFile, hstep.frame path hforeign hordinary.1 hordinary.2]
    exact h.swept.gone path ⟨fileId, hlitter, hfree⟩

/-- A group leaves no litter. -/
theorem group_clean {basis : Option (List Nat)} {next : Sys Receiver IoError} {state : Receiver}
    {Q : Receiver → Prop} (hunits : (lanes.flatten.flatMap TransferTask.units).Nodup)
    (hstate : transfer.Clean input state)
    (hnext : ∀ final, transfer.Clean input final → next.Safe (transfer.Orderly input) Q final) :
    (Sys.par (groupThreads transfer.blake3 input transfer.manifest basis lanes) next).Safe
      (transfer.Orderly input) Q state := by
  have hsaves : ∀ fileId offset length, .stripe fileId offset length ∈ lanes.flatten → True :=
    fun _ _ _ _ => trivial
  have hshares := shares_files hnames hunits hsaves
  have hparents : ∀ current : Receiver,
      (∀ path, transfer.HasDirectory path → current.files path = some .directory) →
      ∀ entry ∈ transfer.manifest, ∀ directory ∈ parentDirectories entry.relativePath,
        current.files directory = some .directory :=
    fun current hcurrent entry hentry directory hdirectory =>
      hcurrent directory (.inl ⟨entry, hentry, hdirectory⟩)
  apply hshares.safe (J := transfer.Bounded input lanes)
  · intro index before after hbefore hguarantee
    exact hbefore.guarantee hnames hguarantee
  · refine ⟨hstate.swept.mono ?_, hstate.furnished⟩
    rintro path ⟨fileId, hlitter, _⟩
    exact ⟨fileId, hlitter⟩
  · intro current hcurrent
    exact hcurrent.swept.mono (fun _ hfalse => hfalse.elim)
  · intro index
    refine ⟨hparents state hstate.furnished, ?_⟩
    rintro path ⟨fileId, _, hlitter⟩ _
    exact hstate.swept.gone path ⟨fileId, hlitter⟩
  · intro final hfinal hcalm
    apply hnext final
    refine ⟨⟨hfinal.swept.known, hfinal.swept.directories, ?_⟩, hfinal.furnished⟩
    rintro path ⟨fileId, hlitter⟩
    by_cases hmem : ∃ index, fileId ∈ threadFiles lanes index
    · obtain ⟨index, hindex⟩ := hmem
      exact (hcalm index (lt_of_mem_threadFiles hindex)).hidden path ⟨fileId, hindex, hlitter⟩
        (by simp)
    · exact hfinal.swept.gone path ⟨fileId, hlitter, fun index hindex => hmem ⟨index, hindex⟩⟩

theorem Clean.places {before after : Receiver} (h : transfer.Clean input before)
    (hstep : transfer.Places transfer.Lasting before after) :
    transfer.Orderly input after ∧ transfer.Clean input after := by
  obtain ⟨horderly, hswept⟩ := swept_places hnames (fun _ hlitter => hlitter) h.swept hstep
  exact ⟨horderly, hswept, fun path hpath => hstep.kept path (h.furnished path hpath)⟩

/-- A group and its commit. -/
theorem generation_clean {generation : CatalogGeneration} {basis : List Nat}
    {next : List Nat → Sys Receiver IoError} {state : Receiver} {Q : Receiver → Prop}
    (hunits : (lanes.flatten.flatMap TransferTask.units).Nodup)
    (hstate : transfer.Clean input state)
    (hnext : ∀ basis final, transfer.Clean input final →
      (next basis).Safe (transfer.Orderly input) Q final) :
    (Sys.par (groupThreads transfer.blake3 input transfer.manifest (some basis) lanes)
      ((do
          let commit ← commitFreshGeneration transfer.manifest generation
          persistGenerationCommit commit
          lift (applyGeneration basis generation) : Program (List Nat)).seq next)).Safe
      (transfer.Orderly input) Q state := by
  apply group_clean hnames hunits hstate
  intro final hfinal
  refine Sys.safe_seq (T := fun _ => transfer.Clean input) ?_
    (hfinal.swept.mono (fun _ hfalse => hfalse.elim)) hfinal
    (fun basis last _ hlast => hnext basis last hlast)
  apply Within.alone (G := transfer.Places transfer.Lasting) _
    (fun before after hbefore hstep => hbefore.places hnames hstep)
  have hfinals : ∀ entry ∈ transfer.manifest, transfer.Lasting entry.relativePath :=
    fun entry hentry => .inl ⟨entry, hentry, rfl⟩
  refine Within.bind ?_ (fun commit => ?_)
  · unfold commitFreshGeneration
    refine (within_each (fun fileId _ => commitFile_places hfinals fileId)).bind (fun _ => ?_)
    exact (within_lift _).bind (fun _ => within_ret _)
  · exact (persistGenerationCommit_places (.inr (.inr (.inl rfl))) (.inr (.inr (.inr rfl)))).bind
      (fun _ => within_lift _)

end

end Transfer

end NetworkCopy
