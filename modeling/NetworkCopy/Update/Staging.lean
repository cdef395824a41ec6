import NetworkCopy.Lib.Outcome
import NetworkCopy.Update.Restart

/-!
# Staging a download

`stage_update_from_reader` empties the staging directory, writes the download to a partial file,
checks its size and digest, and renames the partial file to the staged executable.

A download is what each call of `read` gives.  The file system takes the bytes of a `write_all` one
after another, so a write can fail after any of them.
-/

namespace NetworkCopy

open Crash

/-- `partial_staged_executable_path`. -/
def partialStagedExecutablePath (plan : UpdateInstallPlan) : WinPath :=
  plan.stagingDirectory.join (osStr (plan.selectedAsset.name ++ updatePartialSuffix))

/-- What `prepare_update_staging_directory` removes. -/
def stagingPaths (plan : UpdateInstallPlan) : List WinPath :=
  [plan.stagedExecutable, partialStagedExecutablePath plan, plan.backupExecutable,
    updateBackupPartialPath plan.stagingDirectory, plan.handoffPlan,
    plan.stagingDirectory.join (osStr (updateHandoffFile ++ updatePartialSuffix)),
    plan.startupMarker, plan.startupMarker.withSuffix updatePartialSuffix]

namespace UpdateEnv

variable (env : UpdateEnv)

/-- A call that changes no file. -/
def callOn (path : WinPath) (before after : String) : FileProg Unit :=
  .act .ok (fun _ => .ret ())
    (fun error => .fail (error.context (before ++ " " ++ path.debug ++ " " ++ after)))

/-- `prepare_update_staging_directory`. -/
def prepareUpdateStagingDirectory (plan : UpdateInstallPlan) : FileProg Unit := do
  callOn plan.stagingDirectory "update staging directory" "could not be created"
  .each env.removeFileIfExists (stagingPaths plan)

/-- `write_all` of a block behind what has been written. -/
def writeBlock (path : WinPath) (written block : Bytes) : FileProg Unit :=
  .each (fun length => .act
      (fun files => .ok (env.setFile files path (some (written ++ block.take length))))
      (fun _ => .ret ())
      (fun error => .fail (error.context
        ("partial update file " ++ path.debug ++ " could not be written"))))
    (List.range' 1 block.length)

/-- The loop of `write_verified_staged_update`, with what it has written.  `reads` are the results
of the calls of `read`. -/
def downloadLoop (plan : UpdateInstallPlan) (path : WinPath) (reads : Nat → IoResult Bytes)
    (turn : Nat) (written : Bytes) : FileProg Bytes :=
  match reads turn with
  | .error error => .fail (error.context "update download could not be read")
  | .ok block =>
      if block = [] then .ret written
      else if checkedAdd written.length block.length = none then
        .fail (.invalidData "update download size overflowed u64")
      else if plan.selectedAsset.size.toNat < written.length + block.length then
        .fail (.invalidData ("update download exceeded its expected size of " ++
          toString plan.selectedAsset.size.toNat ++ " bytes"))
      else
        (env.writeBlock path written block).bind (fun _ =>
          downloadLoop plan path reads (turn + 1) (written ++ block))
termination_by plan.selectedAsset.size.toNat - written.length
decreasing_by
  have hpos : 0 < block.length := List.length_pos_iff.mpr ‹¬ block = []›
  rw [List.length_append]
  omega

/-- `write_verified_staged_update`. -/
def writeVerifiedStagedUpdate (plan : UpdateInstallPlan) (path : WinPath)
    (reads : Nat → IoResult Bytes) : FileProg VerifiedStagedUpdate := do
  .act (fun files => if (env.fileAt files path).isSome then .error (osError .alreadyExists)
      else .ok (env.setFile files path (some []))) (fun _ => .ret ())
    (fun error => .fail (error.context
      ("partial update file " ++ path.debug ++ " could not be created")))
  let content ← env.downloadLoop plan path reads 0 []
  .lift (ensure (content.length = plan.selectedAsset.size.toNat) (.invalidData
    ("update download contained " ++ toString content.length ++ " bytes, but GitHub reported " ++
      toString plan.selectedAsset.size.toNat ++ " bytes")))
  .lift (ensure (env.sha256Hex content = plan.selectedAsset.sha256Hex) (.invalidData
    ("update download SHA-256 mismatch: expected " ++ plan.selectedAsset.sha256Hex ++
      ", received " ++ env.sha256Hex content)))
  callOn path "partial update file" "could not be flushed"
  callOn path "partial update file" "could not be synchronized to disk"
  .act (fun files => do
      let found ← okOrElse (env.fileAt files path) (osError .notFound)
      return env.renamed files path plan.stagedExecutable found) (fun _ => .ret ())
    (fun error => .fail (error.context ("verified update file " ++ path.debug ++
      " could not be renamed to " ++ plan.stagedExecutable.debug)))
  return ⟨plan.stagedExecutable, UInt64.ofNat content.length, env.sha256Hex content⟩

/-- The check of the plan and the emptying of its directory. -/
def stagingPreparation (plan : UpdateInstallPlan) : FileProg Unit := do
  .lift (validateUpdateStagingPlan plan)
  env.prepareUpdateStagingDirectory plan

/-- The removal of an incomplete download after an error. -/
def discardDownload (plan : UpdateInstallPlan) (error : IoError) : FileProg VerifiedStagedUpdate :=
  failAfter (env.removeFileIfExists (partialStagedExecutablePath plan))
    ("incomplete update file " ++ (partialStagedExecutablePath plan).debug) error

/-- `stage_update_from_reader`. -/
def stageUpdateFromReader (plan : UpdateInstallPlan) (reads : Nat → IoResult Bytes) :
    FileProg VerifiedStagedUpdate := do
  env.stagingPreparation plan
  (env.writeVerifiedStagedUpdate plan (partialStagedExecutablePath plan) reads).orElse
    (env.discardDownload plan)

/-! ## What staging leaves -/

/-- The staged executable is the expected download. -/
def Staged (plan : UpdateInstallPlan) (files : Volume) : Prop :=
  ∃ content, env.fileAt files plan.stagedExecutable = some content ∧
    env.Matches content plan.selectedAsset.size.toNat plan.selectedAsset.sha256Hex

/-- Neither a partial file nor a staged executable is there. -/
def NothingStaged (plan : UpdateInstallPlan) (files : Volume) : Prop :=
  env.fileAt files (partialStagedExecutablePath plan) = none ∧
    env.fileAt files plan.stagedExecutable = none

/-- There is no staged executable but the verified one, and the partial file is not too long. -/
def OnlyVerified (plan : UpdateInstallPlan) (files : Volume) : Prop :=
  (env.fileAt files plan.stagedExecutable = none ∨ env.Staged plan files) ∧
    ∀ content, env.fileAt files (partialStagedExecutablePath plan) = some content →
      content.length ≤ plan.selectedAsset.size.toNat

/-- Files have gone and none has come or changed. -/
def OnlyRemoved (before after : Volume) : Prop :=
  ∀ key, after key = before key ∨ after key = none

/-- The programs that are about to remove an incomplete download. -/
def Discards (plan : UpdateInstallPlan) (p : FileProg VerifiedStagedUpdate) : Prop :=
  ∃ error, p = env.discardDownload plan error

variable {env} {plan : UpdateInstallPlan} {files : Volume}

theorem fileAt_setFile (files : Volume) (path other : WinPath) (content : Option Bytes) :
    env.fileAt (env.setFile files path content) other =
      if other.key env.upcase = path.key env.upcase then content else env.fileAt files other := by
  unfold fileAt setFile
  rw [Function.update_apply]

/-! ## The preparation -/

theorem OnlyRemoved.remove {before after : Volume} (h : OnlyRemoved before after)
    (path : WinPath) : OnlyRemoved before (env.setFile after path none) := by
  intro key
  by_cases hkey : key = path.key env.upcase
  · right
    rw [setFile, hkey, Function.update_self]
  · rw [setFile, Function.update_of_ne hkey]
    exact h key

/-- What is left to remove is all that can still be there. -/
theorem outcome_removals (paths : List WinPath) :
    (Prog.each env.removeFileIfExists paths).AnyOutcome (OnlyRemoved files)
      (fun _ files' => OnlyRemoved files files' ∧
        ∀ path ∈ paths, env.fileAt files' path = none)
      (fun _ files' => OnlyRemoved files files') files := by
  have hloop : (Prog.each env.removeFileIfExists paths).AnyOutcome (OnlyRemoved files)
      (fun _ files' => OnlyRemoved files files' ∧
        ∀ path ∈ paths, path ∈ [] ∨ env.fileAt files' path = none)
      (fun _ files' => OnlyRemoved files files') files := Prog.outcome_each
    (J := fun rest files' => OnlyRemoved files files' ∧
      ∀ path ∈ paths, path ∈ rest ∨ env.fileAt files' path = none)
    (fun path rest files' _ hfiles' => by
      obtain ⟨hremoved, hgone⟩ := hfiles'
      refine Prog.outcome_act ?_ (fun _ => hremoved)
      rintro _ ⟨⟩
      refine ⟨hremoved.remove path, hremoved.remove path, ?_⟩
      intro other hother
      rw [fileAt_setFile]
      by_cases hkey : other.key env.upcase = path.key env.upcase
      · right
        rw [if_pos hkey]
      · rw [if_neg hkey]
        rcases hgone other hother with hmem | hnone
        · rcases List.mem_cons.mp hmem with hsame | hrest
          · exact absurd (congrArg (WinPath.key env.upcase) hsame) hkey
          · exact .inl hrest
        · exact .inr hnone)
    ⟨fun _ => .inl rfl, fun path hpath => .inl hpath⟩
  refine hloop.mono (fun _ h => h) ?_ (fun _ _ h => h)
  rintro _ files' ⟨hremoved, hgone⟩
  exact ⟨hremoved, fun path hpath => (hgone path hpath).resolve_left (List.not_mem_nil)⟩

theorem outcome_prepare (files : Volume) :
    (env.stagingPreparation plan).AnyOutcome (OnlyRemoved files)
      (fun _ files' => validateUpdateStagingPlan plan = .ok () ∧ env.NothingStaged plan files')
      (fun _ files' => OnlyRemoved files files') files := by
  have hsame : OnlyRemoved files files := fun _ => .inl rfl
  refine Prog.outcome_lift_bind (fun _ hvalid => ?_) (fun _ _ => hsame)
  refine Prog.AnyOutcome.bind (I := OnlyRemoved files) (Q := fun _ files' => files = files')
    (E := fun _ files' => files = files') (Prog.outcome_act ?_ (fun _ => rfl)) ?_ ?_
  · rintro _ ⟨⟩
    exact ⟨hsame, rfl⟩
  · rintro _ _ rfl
    refine (outcome_removals (stagingPaths plan)).mono (fun _ h => h) ?_ (fun _ _ h => h)
    rintro _ files' ⟨_, hgone⟩
    exact ⟨hvalid, hgone _ (by simp [stagingPaths]), hgone _ (by simp [stagingPaths])⟩
  · rintro _ _ rfl
    exact hsame

/-! ## The download -/

variable {content : Bytes}

/-- The partial file holds this much of the download. -/
structure Downloading (env : UpdateEnv) (plan : UpdateInstallPlan) (content : Bytes)
    (files : Volume) : Prop where
  partialFile : env.fileAt files (partialStagedExecutablePath plan) = some content
  staged : env.fileAt files plan.stagedExecutable = none
  length : content.length ≤ plan.selectedAsset.size.toNat

theorem Downloading.onlyVerified (h : env.Downloading plan content files) :
    env.OnlyVerified plan files := by
  refine ⟨.inl h.staged, ?_⟩
  intro found hfound
  rw [h.partialFile] at hfound
  cases hfound
  exact h.length

/-- The two paths of a plan that is accepted name different files. -/
theorem partial_ne_staged (hvalid : validateUpdateStagingPlan plan = .ok ()) :
    plan.stagedExecutable.key env.upcase ≠ (partialStagedExecutablePath plan).key env.upcase := by
  have hstaged : plan.stagedExecutable =
      plan.stagingDirectory.join (osStr plan.selectedAsset.name) := by
    unfold validateUpdateStagingPlan at hvalid
    obtain ⟨_, hvalid⟩ := bind_rest hvalid
    obtain ⟨_, hvalid⟩ := bind_rest hvalid
    obtain ⟨_, hvalid⟩ := bind_rest hvalid
    obtain ⟨_, hvalid⟩ := bind_rest hvalid
    obtain ⟨_, hvalid⟩ := bind_rest hvalid
    obtain ⟨_, hstaged, _⟩ := bind_eq_ok.mp hvalid
    exact ensure_eq_ok.mp hstaged
  have hunfinished : osStr (plan.selectedAsset.name ++ updatePartialSuffix) =
      osStr plan.selectedAsset.name ++ osStr updatePartialSuffix := by
    unfold osStr
    rw [String.toList_append, List.flatMap_append]
  have hsuffix : (osStr updatePartialSuffix).length = 8 := by decide
  rw [hstaged, partialStagedExecutablePath, hunfinished]
  refine WinPath.key_ne_of_length (WinPath.fileName_join _ _) (WinPath.fileName_join _ _) ?_
  rw [List.length_append]
  omega

theorem Downloading.write {files : Volume} (hne : plan.stagedExecutable.key env.upcase ≠
      (partialStagedExecutablePath plan).key env.upcase)
    (hstaged : env.fileAt files plan.stagedExecutable = none)
    (hlength : content.length ≤ plan.selectedAsset.size.toNat) :
    env.Downloading plan content
      (env.setFile files (partialStagedExecutablePath plan) (some content)) where
  partialFile := by rw [fileAt_setFile, if_pos rfl]
  staged := by rw [fileAt_setFile, if_neg hne, hstaged]
  length := hlength

theorem outcome_writeBlock {written block : Bytes}
    (hne : plan.stagedExecutable.key env.upcase ≠
      (partialStagedExecutablePath plan).key env.upcase)
    (hroom : written.length + block.length ≤ plan.selectedAsset.size.toNat)
    (hfiles : env.Downloading plan written files) :
    (env.writeBlock (partialStagedExecutablePath plan) written block).AnyOutcome
      (env.OnlyVerified plan)
      (fun _ files' => env.Downloading plan (written ++ block) files')
      (fun _ files' => env.fileAt files' plan.stagedExecutable = none) files := by
  have hloop : (env.writeBlock (partialStagedExecutablePath plan) written block).AnyOutcome
      (env.OnlyVerified plan)
      (fun _ files' => env.fileAt files' plan.stagedExecutable = none ∧
        (([] : List Nat) = [] → env.Downloading plan (written ++ block) files'))
      (fun _ files' => env.fileAt files' plan.stagedExecutable = none) files := by
    refine Prog.outcome_each (J := fun rest files' =>
      env.fileAt files' plan.stagedExecutable = none ∧
        (rest = [] → env.Downloading plan (written ++ block) files')) ?_ ⟨hfiles.staged, ?_⟩
    · rintro length rest files' hsuffix ⟨hstaged, _⟩
      refine Prog.outcome_act ?_ (fun _ => hstaged)
      rintro _ ⟨⟩
      have hlength : (written ++ block.take length).length ≤ plan.selectedAsset.size.toNat := by
        rw [List.length_append, List.length_take]
        omega
      have hdownloading := Downloading.write hne hstaged hlength
      refine ⟨hdownloading.onlyVerified, hdownloading.staged, ?_⟩
      intro hlast
      subst hlast
      -- The last length is the one of the whole block.
      obtain ⟨before, hbefore⟩ := hsuffix
      have hends := congrArg List.getLast? hbefore
      rw [List.getLast?_concat, List.getLast?_range'] at hends
      split at hends
      · cases hends
      · have hlast := Option.some.inj hends
        have hwhole : block.take length = block := List.take_of_length_le (by omega)
        rw [hwhole] at hdownloading ⊢
        exact hdownloading
    · intro hempty
      rw [List.range'_eq_nil_iff, List.length_eq_zero_iff] at hempty
      rw [hempty, List.append_nil]
      exact hfiles
  exact hloop.mono (fun _ h => h) (fun _ _ h => h.2 rfl) (fun _ _ h => h)

theorem outcome_downloadLoop
    (hne : plan.stagedExecutable.key env.upcase ≠
      (partialStagedExecutablePath plan).key env.upcase)
    (reads : Nat → IoResult Bytes) (turn : Nat) (written : Bytes) {files : Volume}
    (hfiles : env.Downloading plan written files) :
    (env.downloadLoop plan (partialStagedExecutablePath plan) reads turn written).AnyOutcome
      (env.OnlyVerified plan)
      (fun content files' => env.Downloading plan content files')
      (fun _ files' => env.fileAt files' plan.stagedExecutable = none) files := by
  fun_induction env.downloadLoop plan (partialStagedExecutablePath plan) reads turn written
    generalizing files with
  | case1 => exact hfiles.staged
  | case2 => exact hfiles
  | case3 => exact hfiles.staged
  | case4 => exact hfiles.staged
  | case5 turn written block hread hblock hfits hroom ih =>
    refine Prog.AnyOutcome.bind (outcome_writeBlock hne (by omega) hfiles) ?_ (fun _ _ h => h)
    intro _ files' hwritten
    exact ih hwritten

theorem outcome_callOn {path : WinPath} {before after : String}
    (hfiles : env.Downloading plan content files) :
    (callOn path before after).AnyOutcome (env.OnlyVerified plan)
      (fun _ files' => env.Downloading plan content files')
      (fun _ files' => env.fileAt files' plan.stagedExecutable = none) files := by
  refine Prog.outcome_act ?_ (fun _ => hfiles.staged)
  rintro _ ⟨⟩
  exact ⟨hfiles.onlyVerified, hfiles⟩

/-- The rename of a verified download. -/
theorem onlyVerified_renamed (files : Volume) (hne : plan.stagedExecutable.key env.upcase ≠
      (partialStagedExecutablePath plan).key env.upcase)
    (hmatches : env.Matches content plan.selectedAsset.size.toNat
      plan.selectedAsset.sha256Hex) :
    env.OnlyVerified plan (env.renamed files (partialStagedExecutablePath plan)
      plan.stagedExecutable content) ∧
    env.Staged plan (env.renamed files (partialStagedExecutablePath plan)
      plan.stagedExecutable content) := by
  have hstaged : env.Staged plan (env.renamed files (partialStagedExecutablePath plan)
      plan.stagedExecutable content) :=
    ⟨content, by rw [renamed, fileAt_setFile, if_pos rfl], hmatches⟩
  refine ⟨⟨.inr hstaged, ?_⟩, hstaged⟩
  intro found hfound
  rw [renamed, fileAt_setFile, if_neg hne.symm, fileAt_setFile, if_pos rfl] at hfound
  cases hfound

/-- The body of a staging ends with the verified download in place, or without a staged
executable. -/
theorem outcome_writeVerified (reads : Nat → IoResult Bytes)
    (hvalid : validateUpdateStagingPlan plan = .ok ()) (hfiles : env.NothingStaged plan files) :
    (env.writeVerifiedStagedUpdate plan (partialStagedExecutablePath plan) reads).AnyOutcome
      (env.OnlyVerified plan)
      (fun staged files' => staged = verifiedStagedUpdate plan ∧ env.Staged plan files')
      (fun _ files' => env.fileAt files' plan.stagedExecutable = none) files := by
  have hne : plan.stagedExecutable.key env.upcase ≠
      (partialStagedExecutablePath plan).key env.upcase := partial_ne_staged hvalid
  obtain ⟨hunfinished, hstaged⟩ := hfiles
  unfold writeVerifiedStagedUpdate
  refine Prog.AnyOutcome.bind (I := env.OnlyVerified plan)
    (Q := fun _ files' => env.Downloading plan [] files')
    (E := fun _ files' => env.fileAt files' plan.stagedExecutable = none)
    (Prog.outcome_act ?_ (fun _ => hstaged)) ?_ (fun _ _ h => h)
  · intro files' hrun
    rw [hunfinished] at hrun
    cases hrun
    have hempty : ([] : Bytes).length ≤ plan.selectedAsset.size.toNat := Nat.zero_le _
    have hcreated := Downloading.write hne hstaged hempty
    exact ⟨hcreated.onlyVerified, hcreated⟩
  · intro _ created hcreated
    refine Prog.AnyOutcome.bind (outcome_downloadLoop hne reads 0 [] hcreated) ?_ (fun _ _ h => h)
    intro content written hwritten
    refine Prog.outcome_lift_bind (fun _ hlength => ?_) (fun _ _ => hwritten.staged)
    have hsize := ensure_eq_ok.mp hlength
    refine Prog.outcome_lift_bind (fun _ hhash => ?_) (fun _ _ => hwritten.staged)
    have hdigest := ensure_eq_ok.mp hhash
    refine Prog.AnyOutcome.bind (outcome_callOn hwritten) ?_ (fun _ _ h => h)
    intro _ flushed hflushed
    refine Prog.AnyOutcome.bind (outcome_callOn hflushed) ?_ (fun _ _ h => h)
    intro _ synced hsynced
    have hmatches : env.Matches content plan.selectedAsset.size.toNat
        plan.selectedAsset.sha256Hex := ⟨hsize, hdigest⟩
    refine Prog.AnyOutcome.bind (I := env.OnlyVerified plan)
      (Q := fun _ files' => env.Staged plan files')
      (E := fun _ files' => env.fileAt files' plan.stagedExecutable = none)
      (Prog.outcome_act ?_ (fun _ => hsynced.staged)) ?_ (fun _ _ h => h)
    · intro files' hrun
      rw [hsynced.partialFile] at hrun
      cases hrun
      exact onlyVerified_renamed synced hne hmatches
    · intro _ final hfinal
      refine ⟨?_, hfinal⟩
      rw [verifiedStagedUpdate, hsize, hdigest, UInt64.ofNat_toNat]

/-- After an error the removal of the partial file leaves nothing. -/
theorem outcome_discard (error : IoError)
    (hne : plan.stagedExecutable.key env.upcase ≠
      (partialStagedExecutablePath plan).key env.upcase)
    (hfiles : env.fileAt files plan.stagedExecutable = none) :
    (env.discardDownload plan error).Outcome (env.Discards plan) (env.OnlyVerified plan)
      (fun staged files' => staged = verifiedStagedUpdate plan ∧ env.Staged plan files')
      (fun _ files' => env.NothingStaged plan files') files := by
  refine ⟨?_, fun hfails => absurd ⟨error, rfl⟩ hfails⟩
  rintro _ ⟨⟩
  have hunfinished : env.fileAt (env.setFile files (partialStagedExecutablePath plan) none)
      (partialStagedExecutablePath plan) = none := by
    rw [fileAt_setFile, if_pos rfl]
  have hstaged : env.fileAt (env.setFile files (partialStagedExecutablePath plan) none)
      plan.stagedExecutable = none := by
    rw [fileAt_setFile, if_neg hne, hfiles]
  refine ⟨⟨.inl hstaged, ?_⟩, hunfinished, hstaged⟩
  intro content hcontent
  rw [hunfinished] at hcontent
  cases hcontent

/-- A call that returns leaves the verified download.  A call that fails leaves nothing, or it has
failed while it prepared the directory and only removed files.  Wherever it is, it is in the
preparation, or there is no staged executable but the verified one and the partial file is not too
long. -/
theorem stageUpdateFromReader_allOrNothing {reads : Nat → IoResult Bytes}
    {p : FileProg VerifiedStagedUpdate} {files' : Volume}
    (hrun : Prog.SureSteps (env.Discards plan) (env.stageUpdateFromReader plan reads, files)
      (p, files')) :
    (∀ staged, p = .ret staged →
      staged = verifiedStagedUpdate plan ∧ env.Staged plan files') ∧
    (∀ error, p = .fail error → env.NothingStaged plan files' ∨
      Prog.Steps (env.stagingPreparation plan, files) (.fail error, files') ∧
        OnlyRemoved files files') ∧
    ((∃ p', Prog.Steps (env.stagingPreparation plan, files) (p', files') ∧
        OnlyRemoved files files') ∨ env.OnlyVerified plan files') := by
  have hprepare := (Prog.outcome_steps (env.stagingPreparation plan) files).and
    (outcome_prepare files)
  have houtcome : (env.stageUpdateFromReader plan reads).Outcome (env.Discards plan)
      (fun files' => (∃ p', Prog.Steps (env.stagingPreparation plan, files) (p', files') ∧
        OnlyRemoved files files') ∨ env.OnlyVerified plan files')
      (fun staged files' => staged = verifiedStagedUpdate plan ∧ env.Staged plan files')
      (fun error files' => env.NothingStaged plan files' ∨
        Prog.Steps (env.stagingPreparation plan, files) (.fail error, files') ∧
          OnlyRemoved files files') files := by
    refine Prog.AnyOutcome.bind (hprepare.mono (fun files' h => ?_) (fun _ _ h => h)
      (fun _ _ h => h)) ?_ (fun _ _ h => .inr h)
    · obtain ⟨⟨p', hsteps⟩, hremoved⟩ := h
      exact .inl ⟨p', hsteps, hremoved⟩
    rintro _ prepared ⟨_, hvalid, hnothing⟩
    refine Prog.AnyOutcome.orElse ((outcome_writeVerified reads hvalid hnothing).mono
      (fun _ h => .inr h) (fun _ _ h => h) (fun _ _ h => h)) (fun _ _ h => h) ?_
    intro error failed hfailed
    exact (outcome_discard error (partial_ne_staged hvalid) hfailed).mono
      (fun _ h => .inr h) (fun _ _ h => h) (fun _ _ h => .inl h)
  obtain ⟨hleft, hmoment⟩ := houtcome.reached
    (.inl ⟨_, Relation.ReflTransGen.refl, fun _ => .inl rfl⟩) hrun
  refine ⟨?_, ?_, hmoment⟩
  · rintro staged rfl
    exact hleft
  · rintro error rfl
    exact hleft

theorem discards_never_fails {run : Volume → Except IoError Volume}
    {next : Volume → FileProg VerifiedStagedUpdate}
    {handler : IoError → FileProg VerifiedStagedUpdate}
    (files : Volume) (error : IoError) (h : env.Discards plan (.act run next handler)) :
    run files ≠ .error error := by
  obtain ⟨cause, hsame⟩ := h
  cases hsame
  intro hrun
  cases hrun

end UpdateEnv

/-! ### A download of one byte -/

/-- The update of an agent with a name of its own. -/
def customPlan : UpdateInstallPlan := agentPlan .preserveCurrentName "agent.exe" "agent.exe"

/-- One read gives the byte and the next one the end. -/
def oneByte (turn : Nat) : IoResult Bytes := .ok (if turn = 0 then [0x61] else [])

theorem eval_prepare_customPlan : ∃ prepared,
    (sampleEnv.stagingPreparation customPlan).eval (fun _ => none) = (.ok (), prepared) ∧
      sampleEnv.fileAt prepared (partialStagedExecutablePath customPlan) = none := by
  have hvalid : validateUpdateStagingPlan customPlan = .ok () := by decide +kernel
  have hdirectory : (UpdateEnv.callOn customPlan.stagingDirectory "update staging directory"
      "could not be created").eval (fun _ => none) = (.ok (), fun _ => none) := rfl
  have hremoved := @RecoveryEnv.eval_each_remove sampleRecoveryEnv (stagingPaths customPlan)
    (fun _ => none)
  exact ⟨_, (Prog.eval_bind_ok (RecoveryEnv.eval_lift hvalid)).trans
    ((Prog.eval_bind_ok hdirectory).trans hremoved), RecoveryEnv.fileAt_removeAll_none rfl⟩

theorem eval_writeVerified_oneByte {prepared : Volume}
    (hempty : sampleEnv.fileAt prepared (partialStagedExecutablePath customPlan) = none) :
    ∃ files', (sampleEnv.writeVerifiedStagedUpdate customPlan
      (partialStagedExecutablePath customPlan) oneByte).eval prepared =
        (.ok (verifiedStagedUpdate customPlan), files') := by
  have hsize : customPlan.selectedAsset.size.toNat = 1 := rfl
  have hcreate : (Prog.act (fun files : Volume =>
      if (sampleEnv.fileAt files (partialStagedExecutablePath customPlan)).isSome then
        .error (osError .alreadyExists)
      else .ok (sampleEnv.setFile files (partialStagedExecutablePath customPlan) (some [])))
      (fun _ => .ret ()) (fun error => .fail (error.context ("partial update file " ++
        (partialStagedExecutablePath customPlan).debug ++ " could not be created"))) :
        FileProg Unit).eval prepared =
      (.ok (), sampleEnv.setFile prepared (partialStagedExecutablePath customPlan) (some [])) := by
    simp [Prog.eval, hempty]
  have hloop (created : Volume) : (sampleEnv.downloadLoop customPlan
      (partialStagedExecutablePath customPlan) oneByte 0 []).eval created = (.ok [0x61],
        sampleEnv.setFile created (partialStagedExecutablePath customPlan) (some [0x61])) := by
    rw [UpdateEnv.downloadLoop]
    simp only [oneByte, if_true, List.cons_ne_nil, if_false, List.length_nil, List.length_singleton,
      checkedAdd, u64Limit, hsize]
    rw [UpdateEnv.downloadLoop]
    rfl
  have hwritten (created : Volume) : sampleEnv.fileAt (sampleEnv.setFile created
      (partialStagedExecutablePath customPlan) (some [0x61]))
      (partialStagedExecutablePath customPlan) = some [0x61] := by
    rw [UpdateEnv.fileAt_setFile, if_pos rfl]
  unfold UpdateEnv.writeVerifiedStagedUpdate
  rw [Prog.eval_bind_ok hcreate, Prog.eval_bind_ok (hloop _),
    Prog.eval_bind_ok (RecoveryEnv.eval_ensure (by rfl)),
    Prog.eval_bind_ok (RecoveryEnv.eval_ensure (by rfl))]
  simp [UpdateEnv.callOn, Prog.eval, hwritten]
  rfl

/-- The download is staged. -/
theorem stageUpdateFromReader_oneByte : ∃ files', Prog.SureSteps (sampleEnv.Discards customPlan)
      (sampleEnv.stageUpdateFromReader customPlan oneByte, fun _ => none)
      (.ret (verifiedStagedUpdate customPlan), files') ∧
    sampleEnv.Staged customPlan files' := by
  obtain ⟨prepared, hprepare, hempty⟩ := eval_prepare_customPlan
  obtain ⟨files', hwrite⟩ := eval_writeVerified_oneByte hempty
  have heval : (sampleEnv.stageUpdateFromReader customPlan oneByte).eval (fun _ => none) =
      (.ok (verifiedStagedUpdate customPlan), files') :=
    (Prog.eval_bind_ok hprepare).trans (Prog.eval_orElse_ok hwrite)
  have hrun : Prog.SureSteps (sampleEnv.Discards customPlan)
      (sampleEnv.stageUpdateFromReader customPlan oneByte, fun _ => none)
      (.ret (verifiedStagedUpdate customPlan), files') :=
    Prog.sureSteps_of_eval (fun _ _ _ files error h => UpdateEnv.discards_never_fails files error h)
      heval
  obtain ⟨hreturned, _⟩ := UpdateEnv.stageUpdateFromReader_allOrNothing hrun
  exact ⟨files', hrun, (hreturned _ rfl).2⟩

end NetworkCopy
