import NetworkCopy.Receiver.Leftovers
import NetworkCopy.Receiver.ResumePrefix

/-!
# Transfers of several sessions

What a session that ends leaves: the files and the directories of the manifest, and nothing
else.  The end of a session renames or removes the part files that are left, and
`removeJournal` comes last.

`TidyDisk` are the files that sessions leave when none of them stops while one of its
reconstruction temporaries is there.
-/

namespace NetworkCopy

open Crash Prog Receiver

namespace Transfer

variable {transfer : Transfer} {input : SessionInput}

/-! ## The end of a session -/

variable {state : Receiver}

/-- The files of the manifest. -/
def Finals (transfer : Transfer) (path : RelativePath) : Prop :=
  ∃ entry ∈ transfer.manifest, path = entry.relativePath

/-- The part files of the files that `keep` selects, and all temporaries. -/
def Strays (transfer : Transfer) (input : SessionInput) (keep : Nat → Prop)
    (path : RelativePath) : Prop :=
  transfer.Temporaries input path ∨ ∃ fileId entry, transfer.manifest[fileId]? = some entry ∧
    keep fileId ∧ path = temporaryPath entry.relativePath fileId

/-- Every directory is there, and no stray file is. -/
structure Tidy (transfer : Transfer) (input : SessionInput) (keep : Nat → Prop)
    (state : Receiver) : Prop where
  swept : transfer.Swept input (transfer.Strays input keep) state.files
  furnished : ∀ path, transfer.HasDirectory path → state.files path = some .directory

theorem Tidy.orderly {keep : Nat → Prop} (h : transfer.Tidy input keep state) :
    transfer.Orderly input state :=
  h.swept.mono (fun _ hfalse => hfalse.elim)

/-- Steps that make only files which are known and not stray. -/
theorem Tidy.places {keep : Nat → Prop} {lasting : RelativePath → Prop} {before after : Receiver}
    (h : transfer.Tidy input keep before) (hstep : transfer.Places lasting before after)
    (hlasting : ∀ path, lasting path →
      transfer.Known input path ∧ ¬ transfer.Strays input keep path) :
    transfer.Orderly input after ∧ transfer.Tidy input keep after := by
  have hafter : transfer.Tidy input keep after :=
    ⟨h.swept.places hstep hlasting, fun path hpath => hstep.kept path (h.furnished path hpath)⟩
  exact ⟨hafter.orderly, hafter⟩

/-- Only where files and directories are matters. -/
theorem Tidy.congr {keep : Nat → Prop} {before after : Receiver}
    (h : transfer.Tidy input keep before)
    (hkind : ∀ path, after.files.kindAt path = before.files.kindAt path) :
    transfer.Tidy input keep after := by
  have hdirectory : ∀ path,
      after.files path = some .directory ↔ before.files path = some .directory := by
    intro path
    rw [← FileTree.kindAt_eq_false, ← FileTree.kindAt_eq_false, hkind]
  refine ⟨⟨?_, ?_, ?_⟩, fun path hpath => (hdirectory path).mpr (h.furnished path hpath)⟩
  · intro path hfile
    rw [hkind] at hfile
    exact h.swept.known path hfile
  · intro path hpath
    exact h.swept.directories path ((hdirectory path).mp hpath)
  · intro path hpath
    rw [FileTree.NoFile, hkind]
    exact h.swept.gone path hpath

/-- What a session leaves when it ends. -/
structure Finished (transfer : Transfer) (input : SessionInput) (state : Receiver) : Prop where
  tidy : transfer.Tidy input (fun _ => True) state
  finals : ∀ entry ∈ transfer.manifest, state.files.kindAt entry.relativePath = some true

/-- Where an exact duplicate is written. -/
def ReusePlaces (transfer : Transfer) (reuse : ExactFileReuse) (path : RelativePath) : Prop :=
  transfer.Finals path ∨ ∃ target, transfer.manifest[reuse.targetFileId]? = some target ∧
    path = temporaryPath target.relativePath reuse.targetFileId

theorem copyFile_places {source destination : RelativePath} {lasting : RelativePath → Prop}
    (h : lasting destination) : (copyFile source destination).Within (transfer.Places lasting) := by
  unfold copyFile
  refine (within_query _).bind (fun node => ?_)
  refine (createNew_places h).bind (fun _ => ?_)
  refine Within.bind (rewrites_places (fun _ _ _ hfiles =>
    FileTree.append_rewrites hfiles)) (fun _ => ?_)
  refine Within.bind (within_change ?_) (fun _ => within_ret _)
  intro state files hfiles
  obtain ⟨copied, hopen, hset⟩ := bind_eq_ok.mp hfiles
  rw [pure_eq_ok, Except.ok.injEq] at hset
  have hrewrites : FileTree.Rewrites destination state.files files :=
    ⟨copied, _, FileTree.openFile_eq_ok.mp hopen, hset⟩
  exact places_of_rewrites hrewrites

theorem materializeExactReuse_places (reuse : ExactFileReuse) :
    (transfer.materializeExactReuse reuse).Within
      (transfer.Places (transfer.ReusePlaces reuse)) := by
  unfold materializeExactReuse
  refine (within_lift _).bind (fun basis => ?_)
  apply within_lift_bind
  intro target htarget
  have hget := okOrElse_eq_ok.mp htarget
  refine (within_query _).bind (fun _ => ?_)
  refine (within_query _).bind (fun _ => ?_)
  refine (removeFileIfPresent_places _).bind (fun _ => ?_)
  refine Within.onError ?_ (removeFile_places _)
  unfold copyExactReuse
  refine (copyFile_places (.inr ⟨target, hget, rfl⟩)).bind (fun _ => ?_)
  refine (within_lift _).bind (fun _ => ?_)
  refine (within_query _).bind (fun _ => ?_)
  refine (within_lift _).bind (fun _ => ?_)
  refine (replace_places (.inl ⟨target, List.mem_of_getElem? hget, rfl⟩)).bind (fun _ => ?_)
  exact rewrites_places (fun _ _ _ hfiles => FileTree.restoreFile_rewrites hfiles)

/-- The part file of a duplicate gets its final name. -/
theorem materializeExactReuse_alone {K : Receiver → Prop} (reuse : ExactFileReuse) :
    (transfer.materializeExactReuse reuse).Alone (fun _ => True) K
      (fun _ state => ∀ target, transfer.manifest[reuse.targetFileId]? = some target →
        state.files.NoFile (temporaryPath target.relativePath reuse.targetFileId)) := by
  unfold materializeExactReuse
  refine Alone.bind (alone_true _) (fun basis => ?_)
  refine Alone.bind (Q := fun target _ =>
    transfer.manifest[reuse.targetFileId]? = some target)
    (alone_lift (fun target htarget _ _ => okOrElse_eq_ok.mp htarget)) (fun target => ?_)
  intro state htarget
  refine Spec.mono (Q := fun _ state =>
    state.files.NoFile (temporaryPath target.relativePath reuse.targetFileId)) ?_ ?_
  · refine Alone.bind (P := fun _ => True) (alone_true _) (fun _ => ?_)
      state trivial
    refine Alone.bind (alone_true _) (fun _ => ?_)
    refine Alone.bind (alone_true _) (fun _ => ?_)
    refine Triple.onError (fun _ => rfl) (S := fun _ => True) ?_ (fun _ _ => trivial)
      (stable_eq _) (fun _ _ _ _ => trivial) (fun _ _ hguar => hguar) (alone_true _)
    unfold copyExactReuse
    refine Alone.bind (alone_true _) (fun _ => ?_)
    refine Alone.bind (alone_true _) (fun _ => ?_)
    refine Alone.bind (alone_true _) (fun _ => ?_)
    refine Alone.bind (alone_true _) (fun _ => ?_)
    refine Alone.bind (Q := fun _ state =>
      state.files.NoFile (temporaryPath target.relativePath reuse.targetFileId))
      ?_ (fun _ => ?_)
    · apply alone_change
      intro before files _ hfiles
      exact ⟨trivial, FileTree.noFile_of_none
        (FileTree.replace_source hfiles (temporaryPath_ne _ _))⟩
    · apply alone_change
      intro before files hfree hfiles
      refine ⟨trivial, ?_⟩
      rw [withFiles_files, FileTree.NoFile, (FileTree.restoreFile_rewrites hfiles).kindAt]
      exact hfree
  · intro _ final hfinal other hother
    rw [htarget, Option.some.injEq] at hother
    rw [← hother]
    exact hfinal

/-- Only a file can be restored, and restoring it makes nothing. -/
theorem restoreManifestFiles_finished :
    transfer.restoreManifestFiles.Alone (transfer.Orderly input)
      (transfer.Tidy input (fun _ => True)) (fun _ => transfer.Finished input) := by
  have hturns : transfer.restoreManifestFiles.Alone (transfer.Orderly input)
      (transfer.Tidy input (fun _ => True)) (fun _ state =>
        transfer.Tidy input (fun _ => True) state ∧ ∀ entry ∈ transfer.manifest,
          state.files.kindAt entry.relativePath = some true) := by
    unfold restoreManifestFiles
    apply each_alone_turns
      (G := fun _ before after => ∀ path, after.files.kindAt path = before.files.kindAt path)
    · intro entry _
      apply within_change
      intro state files hfiles path
      exact (FileTree.restoreFile_rewrites hfiles).kindAt path
    · intro _ _ before after hbefore hkind
      have hafter := hbefore.congr hkind
      exact ⟨hafter.orderly, hafter⟩
    · intro _ _ entry _
      right
      intro before after hbefore hkind
      rw [hkind]
      exact hbefore
    · intro entry _
      apply alone_change
      intro state files _ hfiles
      refine ⟨trivial, ?_⟩
      rw [withFiles_files, (FileTree.restoreFile_rewrites hfiles).kindAt]
      obtain ⟨node, _, hnode, _⟩ := FileTree.restoreFile_rewrites hfiles
      exact FileTree.kindAt_eq_true.mpr ⟨node, hnode⟩
  exact hturns.imp (fun _ h => h) (fun _ _ h => ⟨h.1, h.2⟩)

section

variable (hnames : NamesDistinct transfer.manifest input)

include hnames

/-- The part files of other files are not where a file of the manifest or its duplicate is. -/
theorem part_not_final {fileId : Nat} {entry : ManifestEntry}
    (hentry : transfer.manifest[fileId]? = some entry) :
    ¬ transfer.Finals (temporaryPath entry.relativePath fileId) := by
  rintro ⟨other, hother, hsame⟩
  obtain ⟨index, hindex⟩ := List.mem_iff_getElem?.mp hother
  exact hnames.parts index fileId other entry hindex hentry hsame.symm

theorem finals_known {path : RelativePath} (h : transfer.Finals path) {keep : Nat → Prop} :
    transfer.Known input path ∧ ¬ transfer.Strays input keep path := by
  obtain ⟨entry, hentry, rfl⟩ := h
  obtain ⟨index, hindex⟩ := List.mem_iff_getElem?.mp hentry
  refine ⟨.inl ⟨index, entry, hindex, .inl rfl⟩, ?_⟩
  rintro (⟨other, otherEntry, hother, htemporary⟩ | ⟨other, otherEntry, hother, _, hpart⟩)
  · exact hnames.temporaries index other entry otherEntry hindex hother htemporary
  · exact hnames.parts index other entry otherEntry hindex hother hpart

/-- The large files that are not duplicates get their final names. -/
theorem finalizeLargeFiles_tidy :
    transfer.finalizeLargeFiles.Alone (transfer.Orderly input) (transfer.Clean input)
      (fun _ => transfer.Tidy input
        (fun fileId => fileId ∉ exactReuseTargetFileIds transfer.reusePlan)) := by
  have hfinals : ∀ path, transfer.Finals path → transfer.Lasting path := fun _ h => .inl h
  have hturns : transfer.finalizeLargeFiles.Alone (transfer.Orderly input) (transfer.Clean input)
      (fun _ state => transfer.Clean input state ∧ ∀ file ∈ transfer.manifest.zipIdx,
        file.1.fileClass = .large → file.2 ∉ exactReuseTargetFileIds transfer.reusePlan →
        state.files.NoFile (temporaryPath file.1.relativePath file.2)) := by
    unfold finalizeLargeFiles
    apply each_alone_turns (G := fun _ => transfer.Places transfer.Finals)
    · intro file hfile
      have hmem := List.mem_of_getElem? (List.mem_zipIdx_iff_getElem?.mp hfile)
      split
      · exact within_ret _
      · exact finalizeLargeFile_places ⟨file.1, hmem, rfl⟩
    · intro _ _ before after hbefore hstep
      apply hbefore.places hnames
      exact ⟨fun path hpath => (hstep.files path hpath).imp_right (hfinals path), hstep.kept,
        hstep.made⟩
    · intro _ _ file hfile
      right
      intro before after hfree hstep hlarge htarget
      exact hstep.noFile (part_not_final hnames (List.mem_zipIdx_iff_getElem?.mp hfile))
        (hfree hlarge htarget)
    · intro file hfile
      split
      · rename_i hskip
        apply alone_ret
        rintro state _ hlarge htarget
        rcases hskip with hclass | hmem
        · exact absurd hlarge hclass
        · exact absurd hmem htarget
      · refine Triple.imp (finalizeLargeFile_alone (T := fun state =>
          state.files.NoFile (temporaryPath file.1.relativePath file.2)) ?_ ?_)
          (fun _ h => h) (fun _ _ h _ _ => h)
        · intro state files _ _ _ hfiles
          exact ⟨trivial, FileTree.noFile_of_none
            (FileTree.replace_source hfiles (temporaryPath_ne _ _))⟩
        · intro state _ _ hfree
          exact FileTree.noFile_of_none hfree
  apply hturns.imp (fun _ h => h)
  rintro _ state ⟨hclean, hlarge⟩
  refine ⟨⟨hclean.swept.known, hclean.swept.directories, ?_⟩, hclean.furnished⟩
  rintro path (⟨fileId, entry, hentry, rfl⟩ | ⟨fileId, entry, hentry, htarget, rfl⟩)
  · exact hclean.swept.gone _ ⟨fileId, entry, hentry, .inr rfl⟩
  · by_cases hclass : entry.fileClass = .large
    · exact hlarge (entry, fileId) (List.mem_zipIdx_iff_getElem?.mpr hentry) hclass htarget
    · exact hclean.swept.gone _ ⟨fileId, entry, hentry, .inl ⟨hclass, rfl⟩⟩

/-- The duplicates get their final names. -/
theorem materializeExactReuse_tidy :
    (each transfer.materializeExactReuse transfer.reusePlan.entries).Alone
      (transfer.Orderly input)
      (transfer.Tidy input (fun fileId => fileId ∉ exactReuseTargetFileIds transfer.reusePlan))
      (fun _ => transfer.Tidy input (fun _ => True)) := by
  have hturns : (each transfer.materializeExactReuse transfer.reusePlan.entries).Alone
      (transfer.Orderly input)
      (transfer.Tidy input (fun fileId => fileId ∉ exactReuseTargetFileIds transfer.reusePlan))
      (fun _ state => transfer.Tidy input
          (fun fileId => fileId ∉ exactReuseTargetFileIds transfer.reusePlan) state ∧
        ∀ reuse ∈ transfer.reusePlan.entries, ∀ target,
          transfer.manifest[reuse.targetFileId]? = some target →
          state.files.NoFile (temporaryPath target.relativePath reuse.targetFileId)) := by
    apply each_alone_turns (G := fun reuse => transfer.Places (transfer.ReusePlaces reuse))
    · intro reuse _
      exact materializeExactReuse_places reuse
    · intro reuse hreuse before after hbefore hstep
      apply hbefore.places hstep
      rintro path (hfinal | ⟨target, htarget, rfl⟩)
      · exact finals_known hnames hfinal
      · refine ⟨.inl ⟨_, target, htarget, .inr (.inl rfl)⟩, ?_⟩
        rintro (⟨fileId, entry, _, htemporary⟩ | ⟨fileId, entry, _, hnot, hpart⟩)
        · exact reconstructionTemporary_ne_temporaryPath _ _ _ _ _ htemporary.symm
        · rw [← partSuffix_injective hpart] at hnot
          exact hnot (List.mem_toFinset.mpr (List.mem_map_of_mem hreuse))
    · intro reuse _ other _
      -- Two entries with one target write to the same part file.
      by_cases hsame : reuse.targetFileId = other.targetFileId
      · left
        intro state hstate
        rw [← hsame]
        exact hstate
      · right
        intro before after hfree hstep target htarget
        apply hstep.noFile _ (hfree target htarget)
        rintro (hfinal | ⟨entry, _, hpart⟩)
        · exact part_not_final hnames htarget hfinal
        · exact hsame (partSuffix_injective hpart).symm
    · intro reuse _
      exact materializeExactReuse_alone reuse
  apply hturns.imp (fun _ h => h)
  rintro _ state ⟨htidy, htargets⟩
  refine ⟨⟨htidy.swept.known, htidy.swept.directories, ?_⟩, htidy.furnished⟩
  rintro path (htemporary | ⟨fileId, entry, hentry, _, rfl⟩)
  · exact htidy.swept.gone path (.inl htemporary)
  · by_cases hmem : fileId ∈ exactReuseTargetFileIds transfer.reusePlan
    · obtain ⟨reuse, hreuse, rfl⟩ := List.mem_map.mp (List.mem_toFinset.mp hmem)
      exact htargets reuse hreuse entry hentry
    · exact htidy.swept.gone _ (.inr ⟨fileId, entry, hentry, hmem, rfl⟩)

/-- The end of a session. -/
theorem finish_finished {summary : ManifestSummary} {execution : FreshGenerationExecution}
    {journal : ResumeJournal} :
    (transfer.finish summary execution journal).Alone (transfer.Orderly input)
      (transfer.Clean input) (fun _ => transfer.Finished input) := by
  unfold finish
  refine Alone.bind (finalizeLargeFiles_tidy hnames) (fun _ => ?_)
  refine Alone.bind (materializeExactReuse_tidy hnames) (fun _ => ?_)
  refine Alone.bind restoreManifestFiles_finished (fun _ => ?_)
  refine Alone.bind (Q := fun _ => transfer.Finished input)
    (alone_lift (fun _ _ _ h => h)) (fun _ => ?_)
  apply alone_change
  intro state files hstate hfiles
  obtain ⟨hfree, htouches⟩ := FileTree.removeFileIfPresent_eq_ok hfiles
  have hplaces : transfer.Places (fun _ => False) state (state.withFiles files) := by
    apply places_of_touches htouches
    intro path hpath
    rw [List.mem_singleton] at hpath
    rw [hpath]
    exact .inl (FileTree.noFile_of_none hfree)
  obtain ⟨horderly, htidy⟩ := hstate.tidy.places hplaces (fun _ hfalse => hfalse.elim)
  refine ⟨horderly, htidy, ?_⟩
  intro entry hentry
  have hname : entry.relativePath ∉ [journalFileName] := by
    rw [List.mem_singleton]
    exact (hnames.named entry hentry).1
  rw [withFiles_files, htouches.kindAt hname]
  exact hstate.finals entry hentry

/-! ## Sessions -/

/-- A session after its destination is prepared. -/
theorem receive_finished {plan : FreshGenerationPlan} (hplan : transfer.generationPlan = .ok plan)
    {summary : ManifestSummary} {journal : ResumeJournal} {state : Receiver}
    (hstate : transfer.Clean input state) :
    (transfer.receive input summary journal).Safe (transfer.Orderly input)
      (transfer.Finished input) state := by
  have horderly : ∀ current, transfer.Clean input current → transfer.Orderly input current :=
    fun current hcurrent => hcurrent.swept.mono (fun _ hfalse => hfalse.elim)
  unfold receive
  refine Sys.safe_seq (P := transfer.Clean input)
    (T := fun planned current => transfer.plan input journal = .ok planned.1 ∧
      transfer.Clean input current) ?_ (horderly state hstate) hstate ?_
  · refine Alone.bind (Q := fun planned current =>
      transfer.plan input journal = .ok planned ∧ transfer.Clean input current)
      (alone_lift (fun _ hplanned _ hcurrent => ⟨hplanned, hcurrent⟩)) (fun planned => ?_)
    refine Alone.bind (Q := fun _ current =>
      transfer.plan input journal = .ok planned ∧ transfer.Clean input current)
      (alone_lift (fun _ _ _ h => h)) (fun basis => ?_)
    refine Alone.bind (Q := fun _ current =>
      transfer.plan input journal = .ok planned ∧ transfer.Clean input current)
      (triple_modify (stable_eq _) (stable_eq _) ?_) (fun _ => ?_)
    · rintro current next ⟨hplanned, hcurrent⟩ ⟨⟩
      exact ⟨.inr (horderly current hcurrent), hplanned, hcurrent.swept, hcurrent.furnished⟩
    · rintro current hcurrent moved rfl
      exact hcurrent
  · rintro ⟨⟨planned, execution⟩, basis⟩ final _ ⟨hplanned, hfinal⟩
    obtain ⟨k, hk, _, rfl, remaining, hnodup, hscheduled⟩ := plan_eq_ok hplan hplanned
    have hunits : ∀ lanes ∈ execution.trailingLanes :: execution.generationLanes,
        (lanes.flatten.flatMap TransferTask.units).Nodup := by
      intro lanes hlanes
      exact hnodup.sublist ((hscheduled.remaining lanes hlanes).flatMap _)
    refine receiveGenerations_safe (J := fun _ => transfer.Clean input) hscheduled.count
      ?_ ?_ _ k basis final hk rfl hfinal
    · intro count generation lanes basis next state _ hlanes hstate hnext
      exact generation_clean hnames
        (hunits lanes (List.mem_cons_of_mem _ (List.mem_of_getElem? hlanes))) hstate hnext
    · intro state hstate
      apply group_clean hnames (hunits _ List.mem_cons_self) hstate
      intro final hfinal
      refine Sys.safe_seq (finish_finished hnames) (horderly final hfinal) hfinal ?_
      intro _ last hlast hfinished
      exact Sys.safe_done hlast hfinished

/-- Every state of a session is orderly, and a session that ends had a plan and is
finished. -/
theorem session_finished {state : Receiver}
    (hresumable : ∀ plan, transfer.generationPlan = .ok plan → Resumable plan.catalog state.files)
    (hstate : transfer.Swept input (transfer.Temporaries input) state.files) :
    (transfer.session input).Safe (transfer.Orderly input) (fun state =>
      transfer.Finished input state ∧ ∃ plan, transfer.generationPlan = .ok plan) state := by
  have horderly : transfer.Orderly input state := hstate.mono (fun _ hfalse => hfalse.elim)
  unfold session
  cases hplan : transfer.generationPlan with
  | error error =>
    -- Without a catalog no session has a plan.
    apply Sys.safe_seq (prepare_swept hnames) horderly hstate
    rintro ⟨summary, journal⟩ final hfinal _
    unfold receive
    cases hplanned : transfer.plan input journal with
    | error => exact Sys.safe_fail hfinal
    | ok planned =>
      obtain ⟨plan, hok⟩ := generationPlan_of_plan hplanned
      rw [hplan] at hok
      cases hok
  | ok plan =>
    have hcatalog : (transfer.prepare input).Alone
        (fun state => Resumable plan.catalog state.files)
        (fun state => Resumable plan.catalog state.files)
        (fun prepared => transfer.Prepared plan.catalog prepared.2) := prepare_alone input
    have hprepare := (((prepare_swept hnames).and prepare_made).and hcatalog).weaken
      (fun _ _ hall => hall.1.1)
    apply Sys.safe_seq hprepare horderly ⟨⟨hstate, trivial⟩, hresumable plan hplan⟩
    rintro ⟨summary, journal⟩ final _ ⟨⟨hswept, hmade⟩, hprepared⟩
    have hclean : transfer.Clean input final := by
      refine ⟨hswept, ?_⟩
      rintro path (⟨entry, hentry, hpath⟩ | ⟨entry, hentry, hpath⟩)
      · exact hprepared.calm.parents entry hentry path hpath
      · exact hmade entry hentry path hpath
    intro c hc
    obtain ⟨hcurrent, hdone⟩ := receive_finished hnames hplan hclean c hc
    exact ⟨hcurrent, fun hend => ⟨hdone hend, plan, rfl⟩⟩

end

/-! ## Runs -/

variable {files : FileTree}

/-- What is on disk between two sessions. -/
structure Rested (transfer : Transfer) (files : FileTree) : Prop where
  known : ∀ path, files.kindAt path = some true →
    (∃ fileId entry, transfer.manifest[fileId]? = some entry ∧
      (path = entry.relativePath ∨ path = temporaryPath entry.relativePath fileId)) ∨
    path = journalFileName ∨ path = temporaryJournalFileName
  directories : ∀ path, files path = some .directory → transfer.HasDirectory path

/-- A session starts without temporaries of its own. -/
theorem Rested.swept (h : transfer.Rested files)
    (hnames : NamesDistinct transfer.manifest input) :
    transfer.Swept input (transfer.Temporaries input) files := by
  refine ⟨?_, h.directories, ?_⟩
  · intro path hfile
    rcases h.known path hfile with ⟨fileId, entry, hentry, hpath⟩ | hjournal
    · exact .inl ⟨fileId, entry, hentry, hpath.imp_right .inl⟩
    · exact .inr hjournal
  · rintro path ⟨fileId, entry, hentry, rfl⟩ hfile
    rcases h.known _ hfile with ⟨other, otherEntry, hother, hfinal | hpart⟩ | hjournal
    · exact hnames.temporaries other fileId otherEntry entry hother hentry hfinal.symm
    · exact reconstructionTemporary_ne_temporaryPath _ _ _ _ _ hpart
    · obtain ⟨hleft, hright⟩ := hnames.ordinary ⟨entry, hentry, .inr (.inr rfl)⟩
      rcases hjournal with hsame | hsame
      · exact hleft hsame
      · exact hright hsame

/-- A session that stops without temporaries. -/
theorem rested_of_orderly (h : transfer.Orderly input state)
    (htidy : ∀ fileId entry, transfer.manifest[fileId]? = some entry →
      state.files.NoFile (input.temporary entry.relativePath fileId)) :
    transfer.Rested state.files := by
  refine ⟨?_, h.directories⟩
  intro path hfile
  rcases h.known path hfile with ⟨fileId, entry, hentry, hpath⟩ | hjournal
  · rcases hpath with hfinal | hpart | rfl
    · exact .inl ⟨fileId, entry, hentry, .inl hfinal⟩
    · exact .inl ⟨fileId, entry, hentry, .inr hpart⟩
    · exact absurd hfile (htidy fileId entry hentry)
  · exact .inr hjournal

/-- No file of the manifest has the name of a reconstruction temporary of a session. -/
def TemporariesApart (transfer : Transfer) (input : SessionInput) : Prop :=
  ∀ (i j : Nat) (left right : ManifestEntry), transfer.manifest[i]? = some left →
    transfer.manifest[j]? = some right → pathComponents left.relativePath ≠
      pathComponents (input.temporary right.relativePath j)

/-- The files that sessions leave behind, each of which stops anywhere but not while one of
its reconstruction temporaries is there. -/
inductive TidyDisk (transfer : Transfer) : FileTree → Prop
  | empty : TidyDisk transfer (fun _ => none)
  | session {files : FileTree} (before : TidyDisk transfer files) (input : SessionInput)
      (clock : Nat → Nat) (names : transfer.TemporariesApart input)
      {sys : Sys Receiver IoError} {state : Receiver}
      (run : Sys.Reach (transfer.session input, start files clock) (sys, state))
      (tidy : ∀ fileId entry, transfer.manifest[fileId]? = some entry →
        state.files.NoFile (input.temporary entry.relativePath fileId)) :
      TidyDisk transfer state.files

theorem TidyDisk.disk (h : transfer.TidyDisk files) : transfer.Disk files := by
  induction h with
  | empty => exact .empty
  | session _ input clock _ run _ ih => exact .session ih input clock run

/-- A session of a manifest that is not accepted does nothing. -/
theorem session_refused {error : IoError}
    (h : validateTreeEntries transfer.manifest transfer.directories = .error error)
    {c : Sys Receiver IoError × Receiver} (hrun : Sys.Reach (transfer.session input, state) c) :
    c = (.fail error, state) := by
  have hfail : transfer.session input = .fail error := by
    unfold session prepare summarizeManifest
    rw [h]
    rfl
  rw [hfail] at hrun
  rcases Relation.ReflTransGen.cases_head hrun with hsame | ⟨next, hfirst, _⟩
  · exact hsame.symm
  · cases hfirst

theorem TidyDisk.rested (hapart : NamesApart transfer.manifest) (h : transfer.TidyDisk files) :
    transfer.Rested files := by
  induction h with
  | empty =>
    constructor
    · intro path hfile
      cases hfile
    · intro path hdirectory
      cases hdirectory
  | session before input clock names run tidy ih =>
    cases hvalid : validateTreeEntries transfer.manifest transfer.directories with
    | error error =>
      have hsame := session_refused hvalid run
      cases hsame
      exact ih
    | ok =>
      have hnames := namesDistinct_of_namesApart hvalid hapart names
      have hstart : transfer.Swept input (transfer.Temporaries input)
          (start _ clock).files := ih.swept hnames
      refine rested_of_orderly (session_finished hnames ?_ hstart _ run).1 tidy
      exact fun plan hplan => resumable_of_disk hnames.named hplan before.disk

end Transfer

/-! ## Runs to the end -/

section

variable (name : RelativePath) (fingerprint : Nat) (content : Bytes)

/-- The receiver when the tiny file is written. -/
def tinyWritten : Receiver :=
  ((materializeTinyFile (tinyTransfer name).manifest (fun _ => content) 0).eval
    (tinyShared name fingerprint)).2

/-- The receiver at the end of the session. -/
def tinyFinished : Receiver :=
  (((tinyTransfer name).finish ⟨1, 0, 36, fingerprint⟩ tinyExecution (newJournal fingerprint)).eval
    (tinyWritten name fingerprint content)).2

/-- A session with one tiny file runs to its end. -/
theorem tinyTransfer_done
    (hsummary : summarizeManifest (tinyTransfer name).manifest [] =
      .ok ⟨1, 0, 36, fingerprint⟩)
    (hplan : buildTransferPlan .stable (tinyTransfer name).manifest 1 =
      .ok { lanes := [[.tinyPack [0] 36]] })
    (hfresh : (((tinyTransfer name).prepareFreshDestination fingerprint).eval
      (Transfer.start (fun _ => none) (fun _ => 0))).1 = .ok (newJournal fingerprint))
    (hplanned : (tinyTransfer name).plan (tinyInput content) (newJournal fingerprint) =
      .ok (⟨noGenerations, 0⟩, tinyExecution))
    (hwritten : ((materializeTinyFile (tinyTransfer name).manifest (fun _ => content) 0).eval
      (tinyShared name fingerprint)).1 = .ok ())
    (hfinished : (((tinyTransfer name).finish ⟨1, 0, 36, fingerprint⟩ tinyExecution
      (newJournal fingerprint)).eval (tinyWritten name fingerprint content)).1 = .ok ()) :
    Sys.Reach ((tinyTransfer name).session (tinyInput content),
        Transfer.start (fun _ => none) (fun _ => 0))
      (.done, tinyFinished name fingerprint content) := by
  have hprepared := tinyTransfer_prepared name content ⟨1, 0, 36, fingerprint⟩ hsummary hplan hfresh
  have hreceived := tinyTransfer_received name fingerprint content ⟨1, 0, 36, fingerprint⟩ hplanned
  have hwrite : (materializeTinyFile (tinyTransfer name).manifest (fun _ => content) 0).eval
      (tinyShared name fingerprint) = (.ok (), tinyWritten name fingerprint content) := by
    rw [tinyWritten, ← hwritten]
  have hfinish : ((tinyTransfer name).finish ⟨1, 0, 36, fingerprint⟩ tinyExecution
      (newJournal fingerprint)).eval (tinyWritten name fingerprint content) =
        (.ok (), tinyFinished name fingerprint content) := by
    rw [tinyFinished, ← hfinished]
  have hget : (groupThreads (tinyTransfer name).blake3 (tinyInput content)
      (tinyTransfer name).manifest none tinyExecution.trailingLanes)[1]? =
        some (materializeTinyFile (tinyTransfer name).manifest (fun _ => content) 0) := rfl
  -- The worker writes the file, and the lane has nothing else to do.
  have hthreads : (groupThreads (tinyTransfer name).blake3 (tinyInput content)
      (tinyTransfer name).manifest none tinyExecution.trailingLanes).set 1 (.ret ()) =
        [.ret (), .ret ()] := rfl
  have hworker := (hprepared.trans hreceived).trans
    (Sys.reach_thread hget (steps_of_eval hwrite))
  rw [hthreads] at hworker
  refine (hworker.tail (.join ?_)).trans ?_
  · intro p hp
    simpa using hp
  · have hreach := Sys.reach_seq (f := fun _ : Unit => (.done : Sys Receiver IoError)) hfinish
    exact hreach

end

end NetworkCopy
