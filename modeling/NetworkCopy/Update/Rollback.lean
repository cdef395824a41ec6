import NetworkCopy.Update.Restart
import NetworkCopy.Update.Staging

/-!
# Undoing an update

`complete_update_handoff_after_parent_exit` prepares and publishes an update, and
`rollback_failed_update_startup` undoes it when the new program does not start.  Every call may
fail.  The running program is safe as long as no file of the transaction is that program: these
files are written and removed without a look at what they were.
-/

namespace NetworkCopy

open Crash Prog

namespace UpdateEnv

variable (env : UpdateEnv)

/-! ## The helper -/

/-- `complete_update_handoff_after_parent_exit`. -/
def completeUpdateHandoffAfterParentExit (handoff : UpdateHandoffPlan) :
    FileProg (PreparedUpdateInstallation × UpdateInstallationPublication) := do
  let installation ← env.prepareUpdateInstallationFiles handoff
  let publication ← env.publishPreparedUpdateInstallation handoff installation
  return (installation, publication)

/-- The `match` of `rollback_failed_update_startup`. -/
def undoPublication (handoff : UpdateHandoffPlan) (installation : PreparedUpdateInstallation) :
    UpdateInstallationPublication → FileProg Unit
  | .publishedSideBySide installedExecutable created => do
      .lift (ensure (installedExecutable = handoff.installPath) (.invalidData
        ("published official executable " ++ installedExecutable.debug ++
          " does not match rollback path " ++ handoff.installPath.debug)))
      if created then do
        env.verifyPreparedInstallationFile installedExecutable
          "official update executable before startup rollback" handoff.expectedSize.toNat
          handoff.expectedSha256Hex
        env.removeFileIfExists installedExecutable
      else return ()
  | .replacedInPlace installedExecutable => do
      .lift (ensure (installedExecutable = handoff.installPath) (.invalidData
        ("replaced custom executable " ++ installedExecutable.debug ++
          " does not match rollback path " ++ handoff.installPath.debug)))
      env.rollbackCustomNamedUpdate handoff installation

/-- `rollback_failed_update_startup`. -/
def rollbackFailedUpdateStartup (handoff : UpdateHandoffPlan)
    (installation : PreparedUpdateInstallation) (publication : UpdateInstallationPublication) :
    FileProg Unit := do
  env.undoPublication handoff installation publication
  env.removeFileIfExists (handoff.startupMarker.withSuffix updatePartialSuffix)
  env.removeFileIfExists handoff.startupMarker

/-! ## What is promised -/

/-- Only the files at some paths have changed. -/
def Elsewhere (env : UpdateEnv) (paths : List WinPath) (before after : Volume) : Prop :=
  ∀ path, (∀ written ∈ paths, path.key env.upcase ≠ written.key env.upcase) →
    env.fileAt after path = env.fileAt before path

/-- The running program is the verified update, because restoring it from the backup has failed. -/
structure RestorationFailed (env : UpdateEnv) (handoff : UpdateHandoffPlan) (state : Volume) :
    Prop where
  naming : handoff.naming = .preserveCurrentName
  update : ∃ content, env.fileAt state handoff.currentExecutable = some content ∧
    env.Matches content handoff.expectedSize.toNat handoff.expectedSha256Hex
  failed : ∃ installation middle error,
    Prog.Steps (env.rollbackCustomNamedUpdate handoff installation, middle) (.fail error, state)

end UpdateEnv

/-- The update leaves the new program or the old one, what it did can be undone, and its clean-up
keeps both programs.  The handoff is undone from any later volume that still has the installed
program and the backup. -/
structure RecoveryEnv.UpdateSafe (env : RecoveryEnv) (handoff : UpdateHandoffPlan) : Prop where
  completed : ∀ files done state,
    Prog.Steps (env.completeUpdateHandoffAfterParentExit handoff, files) (.ret done, state) →
      ∃ content, env.fileAt state handoff.installPath = some content ∧
        env.Matches content handoff.expectedSize.toNat handoff.expectedSha256Hex
  failed : ∀ files error state,
    Prog.Steps (env.completeUpdateHandoffAfterParentExit handoff, files) (.fail error, state) →
      env.fileAt state handoff.currentExecutable = env.fileAt files handoff.currentExecutable ∨
        env.RestorationFailed handoff state
  rolledBack : ∀ files installation publication completed later p state,
    Prog.Steps (env.completeUpdateHandoffAfterParentExit handoff, files)
      (.ret (installation, publication), completed) →
    env.fileAt later handoff.installPath = env.fileAt completed handoff.installPath →
    env.fileAt later handoff.backupExecutable = env.fileAt completed handoff.backupExecutable →
    Prog.Steps (env.rollbackFailedUpdateStartup handoff installation publication, later)
      (p, state) →
      (p = .ret () →
        env.fileAt state handoff.installPath = env.fileAt files handoff.installPath) ∧
      (env.fileAt state handoff.installPath = env.fileAt later handoff.installPath ∨
        env.fileAt state handoff.installPath = env.fileAt files handoff.installPath) ∧
      ∀ paths, successfulUpdateCleanupPaths handoff = .ok paths →
        env.Elsewhere (handoff.installPath :: paths) later state
  cleanedUp : ∀ entries files p state,
    Prog.Steps (env.removeSuccessfulUpdateTransactionFiles entries handoff, files) (p, state) →
      env.fileAt state handoff.currentExecutable = env.fileAt files handoff.currentExecutable ∧
        env.fileAt state handoff.installPath = env.fileAt files handoff.installPath

namespace UpdateEnv

variable {env : UpdateEnv} {handoff : UpdateHandoffPlan} {files : Volume}

/-! ## Files that are left alone -/

variable {source destination : WinPath} {before after : Volume} {paths : List WinPath}

theorem Elsewhere.refl (paths : List WinPath) : env.Elsewhere paths files files := fun _ _ => rfl

theorem Elsewhere.trans {first second third : Volume} (h : env.Elsewhere paths first second)
    (h' : env.Elsewhere paths second third) :
    env.Elsewhere paths first third :=
  fun path hpath => (h' path hpath).trans (h path hpath)

theorem Elsewhere.mono {paths others : List WinPath} (h : env.Elsewhere paths before after)
    (hsubset : paths ⊆ others) :
    env.Elsewhere others before after :=
  fun path hpath => h path (fun written hmem => hpath written (hsubset hmem))

theorem Elsewhere.setFile (h : env.Elsewhere paths before after) {path : WinPath}
    (hmem : path ∈ paths) (content : Option Bytes) :
    env.Elsewhere paths before (env.setFile after path content) := by
  intro other hother
  rw [fileAt_setFile, if_neg (hother path hmem)]
  exact h other hother

theorem Elsewhere.renamed (h : env.Elsewhere paths before after) (hsource : source ∈ paths)
    (hdestination : destination ∈ paths) (content : Bytes) :
    env.Elsewhere paths before (env.renamed after source destination content) :=
  (h.setFile hsource none).setFile hdestination (some content)

/-! ## Outcomes of the calls -/

section

variable {I : Volume → Prop}
variable {path : WinPath}

theorem outcome_remove (hI : I (env.setFile files path none)) :
    (env.removeFileIfExists path).AnyOutcome I
      (fun _ state => env.setFile files path none = state) (fun _ state => files = state)
      files := by
  refine outcome_act ?_ (fun _ => rfl)
  rintro _ ⟨⟩
  exact ⟨hI, rfl⟩

theorem outcome_replace {source destination : WinPath}
    (hI : ∀ content, env.fileAt files source = some content →
      I (env.renamed files source destination content)) :
    (env.replace source destination).AnyOutcome I
      (fun _ state => ∃ content, env.fileAt files source = some content ∧
        env.renamed files source destination content = state)
      (fun _ state => files = state) files := by
  refine outcome_act ?_ (fun _ => rfl)
  intro state hrun
  obtain ⟨content, hcontent, hrun⟩ := bind_eq_ok.mp hrun
  cases hrun
  have hfound := okOrElse_eq_ok.mp hcontent
  exact ⟨hI content hfound, content, hfound, rfl⟩

theorem outcome_moveNew {source destination : WinPath}
    (hI : ∀ content, env.fileAt files source = some content →
      I (env.renamed files source destination content)) :
    (env.moveNew source destination).AnyOutcome I
      (fun _ state => ∃ content, env.fileAt files source = some content ∧
        (source.key env.upcase = destination.key env.upcase ∨
          env.fileAt files destination = none) ∧
        env.renamed files source destination content = state)
      (fun _ state => files = state) files := by
  refine outcome_act ?_ (fun _ => rfl)
  intro state hrun
  obtain ⟨content, hcontent, hrun⟩ := bind_eq_ok.mp hrun
  obtain ⟨_, hfree, hrun⟩ := bind_eq_ok.mp hrun
  cases hrun
  have hfound := okOrElse_eq_ok.mp hcontent
  exact ⟨hI content hfound, content, hfound, ensure_eq_ok.mp hfree, rfl⟩

theorem outcome_inspect {label : String} (hI : I files) :
    (env.inspectFileDigest path label).AnyOutcome I
      (fun found state => (∃ content, env.fileAt files path = some content ∧
        found = env.inspected content) ∧ files = state)
      (fun _ state => files = state) files := by
  refine outcome_query hI ?_ (fun _ => rfl)
  intro found hfound
  split at hfound
  · next content hcontent =>
      cases hfound
      exact ⟨⟨content, hcontent, rfl⟩, rfl⟩
  · cases hfound

/-- A file that passes the check is as expected. -/
theorem outcome_verifyPrepared {label : String} {size : Nat} {sha256Hex : String} (hI : I files) :
    (env.verifyPreparedInstallationFile path label size sha256Hex).AnyOutcome I
      (fun _ state => (∃ content, env.fileAt files path = some content ∧
        env.Matches content size sha256Hex) ∧ files = state)
      (fun _ state => files = state) files := by
  unfold verifyPreparedInstallationFile
  refine AnyOutcome.bind (outcome_inspect hI) ?_ (fun _ _ h => h)
  rintro found _ ⟨⟨content, hcontent, rfl⟩, rfl⟩
  refine outcome_lift_bind (fun _ hsize => ?_) (fun _ _ => rfl)
  refine outcome_lift (fun _ hdigest => ?_) (fun _ _ => rfl)
  exact ⟨⟨content, hcontent, ensure_eq_ok.mp hsize, ensure_eq_ok.mp hdigest⟩, rfl⟩

/-- A cleanup behind an error removes one file at most, and the error stays. -/
theorem outcome_failAfter {α : Type} {Q : α → Volume → Prop} {note : String} {error : IoError}
    (hI : I (env.setFile files path none)) :
    (failAfter (env.removeFileIfExists path) note error : FileProg α).AnyOutcome I Q
      (fun _ state => files = state ∨ env.setFile files path none = state) files := by
  unfold failAfter
  refine AnyOutcome.bind (Q := fun _ state => env.setFile files path none = state)
    (E := fun _ state => files = state) ?_ (fun _ _ h => .inr h) (fun _ _ h => .inl h)
  exact AnyOutcome.orElse (outcome_remove hI) (fun _ _ h => h) (fun _ _ h => h)

end

/-! ## Copies -/

/-- The copy loop ends with the whole file. -/
theorem getLast?_copyLengths (length : Nat) : (copyLengths length).getLast? = some length := by
  have hblock : 0 < updateDownloadBufferSize := by
    unfold updateDownloadBufferSize
    omega
  have hreach := Nat.lt_div_mul_add (a := length) hblock
  unfold copyLengths
  rw [List.getLast?_map, List.getLast?_range]
  simp only [Nat.add_eq_zero_iff, Nat.one_ne_zero, and_false, if_false, Option.map_some,
    Nat.add_sub_cancel, Option.some.injEq]
  rw [Nat.add_one_mul]
  omega

/-- The loop that writes a copy. -/
theorem outcome_writeCopy {destination : WinPath} {content : Bytes} {before : Volume}
    (h : env.Elsewhere [destination] before files) :
    (each (fun length => env.writeContent destination (content.take length))
      (copyLengths content.length)).AnyOutcome (env.Elsewhere [destination] before)
      (fun _ state => env.Elsewhere [destination] before state ∧
        env.fileAt state destination = some content)
      (fun _ state => env.Elsewhere [destination] before state) files := by
  have hlast := getLast?_copyLengths content.length
  have hloop : (each (fun length => env.writeContent destination (content.take length))
      (copyLengths content.length)).AnyOutcome (env.Elsewhere [destination] before)
      (fun _ state => env.Elsewhere [destination] before state ∧
        (([] : List Nat) = [] → env.fileAt state destination = some content))
      (fun _ state => env.Elsewhere [destination] before state) files := by
    refine outcome_each (J := fun rest state => env.Elsewhere [destination] before state ∧
      (rest = [] → env.fileAt state destination = some content)) ?_ ⟨h, ?_⟩
    · rintro length rest state hsuffix ⟨helse, _⟩
      refine ⟨?_, fun _ _ => helse⟩
      rintro _ ⟨⟩
      have hwritten := helse.setFile List.mem_cons_self (some (content.take length))
      refine ⟨hwritten, hwritten, ?_⟩
      rintro rfl
      -- The last length is the one of the whole file.
      obtain ⟨front, hfront⟩ := hsuffix
      rw [← hfront, List.getLast?_concat] at hlast
      cases hlast
      rw [fileAt_setFile, if_pos rfl, List.take_length]
    · intro hempty
      rw [hempty] at hlast
      cases hlast
  exact hloop.mono (fun _ h => h) (fun _ _ h => ⟨h.1, h.2 rfl⟩) (fun _ _ h => h)

/-- A copy that succeeds is the file that was copied, and only the copy is written. -/
theorem outcome_copyInner {expected : Option (Nat × String)} :
    (env.copyVerifiedFileInner source destination expected).AnyOutcome
      (env.Elsewhere [destination] files)
      (fun _ state => ∃ content, env.fileAt files source = some content ∧
        env.fileAt state destination = some content ∧
        (∀ wanted ∈ expected, env.Matches content wanted.1 wanted.2) ∧
        env.Elsewhere [destination] files state)
      (fun _ state => env.Elsewhere [destination] files state) files := by
  have hself : env.Elsewhere [destination] files files := Elsewhere.refl _
  unfold copyVerifiedFileInner
  refine AnyOutcome.bind (Q := fun content state => env.fileAt files source = some content ∧
      files = state) (E := fun _ state => files = state)
    (outcome_query hself (fun _ hcontent => ⟨okOrElse_eq_ok.mp hcontent, rfl⟩)
      (fun _ => rfl)) ?_ (fun _ state h => h ▸ hself)
  rintro content _ ⟨hsource, rfl⟩
  refine outcome_lift_bind (fun _ _ => ?_) (fun _ _ => hself)
  refine outcome_lift_bind (fun _ hsizes => ?_) (fun _ _ => hself)
  refine AnyOutcome.bind (Q := fun _ state => env.Elsewhere [destination] files state)
    (E := fun _ state => files = state) ⟨?_, fun _ _ => rfl⟩ ?_ (fun _ state h => h ▸ hself)
  · intro state hrun
    dsimp only at hrun
    split at hrun
    · cases hrun
    · cases hrun
      have hcreated := hself.setFile List.mem_cons_self (some [])
      exact ⟨hcreated, hcreated⟩
  intro _ created hcreated
  refine AnyOutcome.bind (outcome_writeCopy hcreated) ?_ (fun _ _ h => h)
  rintro _ written ⟨helse, hwritten⟩
  refine outcome_lift_bind (fun _ hdigests => ?_) (fun _ _ => helse)
  refine AnyOutcome.bind (outcome_inspect helse) ?_ (fun _ state h => h ▸ helse)
  rintro found _ ⟨_, rfl⟩
  refine outcome_lift_bind (fun _ _ => ?_) (fun _ _ => helse)
  exact ⟨content, hsource, hwritten, fun wanted hmem =>
    ⟨ensure_eq_ok.mp hsizes wanted hmem, ensure_eq_ok.mp hdigests wanted hmem⟩, helse⟩

theorem outcome_copyVerified {expected : Option (Nat × String)} :
    (env.copyVerifiedFile source destination expected).AnyOutcome
      (env.Elsewhere [destination] files)
      (fun _ state => ∃ content, env.fileAt files source = some content ∧
        env.fileAt state destination = some content ∧
        (∀ wanted ∈ expected, env.Matches content wanted.1 wanted.2) ∧
        env.Elsewhere [destination] files state)
      (fun _ state => env.Elsewhere [destination] files state) files := by
  unfold copyVerifiedFile
  refine AnyOutcome.orElse outcome_copyInner (fun _ _ h => h) ?_
  intro error state helse
  have hremoved := helse.setFile List.mem_cons_self none
  refine (outcome_failAfter hremoved).mono (fun _ h => h) (fun _ _ h => h) ?_
  rintro _ final (rfl | rfl)
  · exact helse
  · exact hremoved

/-! ## The places of a transaction -/

/-- No file of the transaction is the running or the installed program, whatever the case of the
letters. -/
def ProgramsApart (env : UpdateEnv) (handoff : UpdateHandoffPlan) : Prop :=
  ∀ paths, successfulUpdateCleanupPaths handoff = .ok paths → ∀ path ∈ paths,
    path.key env.upcase ≠ handoff.currentExecutable.key env.upcase ∧
      path.key env.upcase ≠ handoff.installPath.key env.upcase

/-- What the helper writes besides the installed program. -/
def helperPaths (handoff : UpdateHandoffPlan) (candidate rollback : WinPath) : List WinPath :=
  [updateBackupPartialPath handoff.stagingDirectory, candidate, handoff.backupExecutable, rollback,
    handoff.startupMarker.withSuffix updatePartialSuffix, handoff.startupMarker]

/-- The two candidates, apart from the programs and from the backup. -/
structure Places (env : UpdateEnv) (handoff : UpdateHandoffPlan) (candidate rollback : WinPath) :
    Prop where
  candidatePath : updateInstallCandidatePath handoff = .ok candidate
  rollbackPath : updateRollbackCandidatePath handoff = .ok rollback
  cleanedUp : ∃ paths, successfulUpdateCleanupPaths handoff = .ok paths ∧
    helperPaths handoff candidate rollback ⊆ paths
  current_ne : ∀ path ∈ helperPaths handoff candidate rollback,
    handoff.currentExecutable.key env.upcase ≠ path.key env.upcase
  install_ne : ∀ path ∈ helperPaths handoff candidate rollback,
    handoff.installPath.key env.upcase ≠ path.key env.upcase
  candidate_ne : handoff.backupExecutable.key env.upcase ≠ candidate.key env.upcase
  rollback_ne : handoff.backupExecutable.key env.upcase ≠ rollback.key env.upcase

theorem places_of_apart {candidate : WinPath} (haccepted : handoff.Accepted)
    (happart : env.ProgramsApart handoff)
    (hcandidate : updateInstallCandidatePath handoff = .ok candidate) :
    ∃ rollback, env.Places handoff candidate rollback := by
  have hsource := hcandidate
  unfold updateInstallCandidatePath at hcandidate
  obtain ⟨directory, hdirectory, hcandidate⟩ := bind_eq_ok.mp hcandidate
  obtain ⟨name, hname, hcandidate⟩ := bind_eq_ok.mp hcandidate
  cases hcandidate
  have hinstall : handoff.installPath = directory.join name :=
    WinPath.eq_join (okOrElse_eq_ok.mp hdirectory) (okOrElse_eq_ok.mp hname)
  have hrollback := updateRollbackCandidatePath_join hinstall
  have hpaths : ∃ paths, successfulUpdateCleanupPaths handoff = .ok paths ∧
      helperPaths handoff (directory.join (name ++ osStr updateInstallCandidateSuffix))
        (directory.join (name ++ osStr updateRollbackCandidateSuffix)) ⊆ paths := by
    unfold successfulUpdateCleanupPaths
    rw [hsource, hrollback, ok_bind, ok_bind]
    refine ⟨_, rfl, ?_⟩
    intro path hpath
    simp only [helperPaths, List.mem_cons, List.not_mem_nil, or_false] at hpath ⊢
    tauto
  obtain ⟨paths, hlist, hsubset⟩ := hpaths
  have hbackup : handoff.backupExecutable.fileName = some (osStr updateBackupFile) := by
    rw [haccepted.backup, WinPath.fileName_join]
  have hshort : (osStr updateBackupFile).length = 12 := by decide
  have hlonger : ∀ ending : String, 12 < (osStr ending).length →
      handoff.backupExecutable.key env.upcase ≠
        (directory.join (name ++ osStr ending)).key env.upcase := by
    intro ending hending
    refine WinPath.key_ne_of_length hbackup (WinPath.fileName_join _ _) ?_
    rw [hshort, List.length_append]
    omega
  exact ⟨_, {
    candidatePath := hsource
    rollbackPath := hrollback
    cleanedUp := ⟨paths, hlist, hsubset⟩
    current_ne := fun path hpath => (happart paths hlist path (hsubset hpath)).1.symm
    install_ne := fun path hpath => (happart paths hlist path (hsubset hpath)).2.symm
    candidate_ne := hlonger _ (by decide)
    rollback_ne := hlonger _ (by decide) }⟩

/-! ## Preparing -/

/-- What preparing leaves: the backup is the running program and the candidate the update. -/
structure Prepared (env : UpdateEnv) (handoff : UpdateHandoffPlan) (files : Volume)
    (installation : PreparedUpdateInstallation) (state : Volume) : Prop where
  backupPath : installation.backupExecutable = handoff.backupExecutable
  candidatePath : updateInstallCandidatePath handoff = .ok installation.installCandidate
  elsewhere : env.Elsewhere [updateBackupPartialPath handoff.stagingDirectory,
    installation.installCandidate, handoff.backupExecutable] files state
  backup : ∃ original, env.fileAt files handoff.currentExecutable = some original ∧
    env.fileAt state handoff.backupExecutable = some original
  candidate : ∃ update, env.fileAt state installation.installCandidate = some update ∧
    env.Matches update handoff.expectedSize.toNat handoff.expectedSha256Hex

/-- The running program is as it was. -/
def CurrentKept (env : UpdateEnv) (handoff : UpdateHandoffPlan) (before after : Volume) : Prop :=
  env.fileAt after handoff.currentExecutable = env.fileAt before handoff.currentExecutable

theorem outcome_prepareInstallation (haccepted : handoff.Accepted)
    (happart : env.ProgramsApart handoff) :
    (env.prepareUpdateInstallationFiles handoff).AnyOutcome (fun _ => True)
      (env.Prepared handoff files) (fun _ state => env.CurrentKept handoff files state) files := by
  unfold prepareUpdateInstallationFiles
  refine outcome_lift_bind (fun _ _ => ?_) (fun _ _ => rfl)
  refine outcome_lift_bind (fun candidate hcandidate => ?_) (fun _ _ => rfl)
  refine outcome_lift_bind (fun _ _ => ?_) (fun _ _ => rfl)
  obtain ⟨rollback, hplaces⟩ := places_of_apart haccepted happart hcandidate
  let unfinished := updateBackupPartialPath handoff.stagingDirectory
  let written := [unfinished, candidate, handoff.backupExecutable]
  have hkept : ∀ state, env.Elsewhere written files state →
      env.CurrentKept handoff files state := by
    intro state helse
    refine helse handoff.currentExecutable ?_
    intro path hpath
    refine hplaces.current_ne path ?_
    simp only [written, unfinished, helperPaths, List.mem_cons, List.not_mem_nil,
      or_false] at hpath ⊢
    tauto
  have hunfinished : unfinished ∈ written := List.mem_cons_self
  have hsecond : candidate ∈ written := List.mem_cons_of_mem _ List.mem_cons_self
  have hthird : handoff.backupExecutable ∈ written :=
    List.mem_cons_of_mem _ (List.mem_cons_of_mem _ List.mem_cons_self)
  have hstart : env.Elsewhere written files files := Elsewhere.refl _
  refine AnyOutcome.bind (outcome_remove trivial) ?_ (fun _ state h => hkept _ (h ▸ hstart))
  rintro _ _ rfl
  have hfirst := hstart.setFile hunfinished none
  refine AnyOutcome.bind (outcome_remove trivial) ?_ (fun _ state h => hkept _ (h ▸ hfirst))
  rintro _ _ rfl
  have hcleared := hfirst.setFile hsecond none
  have hcopy : ∀ {before after : Volume} {path : WinPath}, env.Elsewhere written files before →
      path ∈ written → env.Elsewhere [path] before after → env.Elsewhere written files after :=
    fun hbefore hpath hafter => hbefore.trans (hafter.mono (List.cons_subset.mpr
      ⟨hpath, List.nil_subset _⟩))
  refine AnyOutcome.bind (outcome_copyVerified.mono (fun _ _ => trivial) (fun _ _ h => h)
    (fun _ _ h => h)) ?_ (fun _ _ h => hkept _ (hcopy hcleared hunfinished h))
  rintro backupCopy copied ⟨original, hcurrent, hpartial, _, hcopied⟩
  rw [hkept _ hcleared] at hcurrent
  have hcopied := hcopy hcleared hunfinished hcopied
  -- The backup takes its place, or the partial one goes.
  refine AnyOutcome.bind (Q := fun _ state => env.Elsewhere written files state ∧
      env.fileAt state handoff.backupExecutable = some original)
    (E := fun _ state => env.Elsewhere written files state) ?_ ?_ (fun _ _ h => hkept _ h)
  · refine AnyOutcome.orElse (outcome_replace (fun _ _ => trivial)) ?_ ?_
    · rintro _ _ ⟨content, hcontent, rfl⟩
      cases hpartial.symm.trans hcontent
      refine ⟨hcopied.renamed hunfinished hthird _, ?_⟩
      rw [renamed, fileAt_setFile, if_pos rfl]
    · rintro _ _ rfl
      refine (outcome_failAfter trivial).mono (fun _ h => h) (fun _ _ h => h) ?_
      rintro _ _ (rfl | rfl)
      · exact hcopied
      · exact hcopied.setFile hunfinished none
  rintro _ published ⟨hpublished, hbackup⟩
  refine AnyOutcome.bind (outcome_inspect trivial) ?_
    (fun _ state h => h ▸ hkept _ hpublished)
  rintro found _ ⟨_, rfl⟩
  split
  · refine (outcome_failAfter trivial).mono (fun _ h => h) (fun _ _ h => h) ?_
    rintro _ _ (rfl | rfl)
    · exact hkept _ hpublished
    · exact hkept _ (hpublished.setFile hthird none)
  · refine AnyOutcome.bind (outcome_copyVerified.mono (fun _ _ => trivial) (fun _ _ h => h)
      (fun _ _ h => h)) ?_ (fun _ _ h => hkept _ (hcopy hpublished hsecond h))
    rintro candidateCopy state ⟨update, _, hupdate, hmatches, helse⟩
    exact {
      backupPath := rfl
      candidatePath := hcandidate
      elsewhere := hcopy hpublished hsecond helse
      backup := by
        refine ⟨original, hcurrent, ?_⟩
        rw [helse _ (by simpa using hplaces.candidate_ne)]
        exact hbackup
      candidate := ⟨update, hupdate, hmatches _ rfl⟩ }

/-! ## Restoring -/

/-- Where a restoration can be: the installed program is what it was or the backup, and besides it
only the candidate has changed. -/
structure Restoring (env : UpdateEnv) (handoff : UpdateHandoffPlan) (rollback : WinPath)
    (original : Bytes) (before after : Volume) : Prop where
  elsewhere : env.Elsewhere [rollback, handoff.installPath] before after
  install : env.fileAt after handoff.installPath = env.fileAt before handoff.installPath ∨
    env.fileAt after handoff.installPath = some original

theorem outcome_restore {candidate rollback : WinPath} {installation : PreparedUpdateInstallation}
    {original : Bytes} (hplaces : env.Places handoff candidate rollback)
    (hpath : installation.backupExecutable = handoff.backupExecutable)
    (hbackup : env.fileAt files handoff.backupExecutable = some original) :
    (env.rollbackCustomNamedUpdate handoff installation).AnyOutcome
      (env.Restoring handoff rollback original files)
      (fun _ state => env.Restoring handoff rollback original files state ∧
        env.fileAt state handoff.installPath = some original)
      (fun _ state => env.Restoring handoff rollback original files state) files := by
  have hinstall : handoff.installPath.key env.upcase ≠ rollback.key env.upcase :=
    hplaces.install_ne rollback (by simp [helperPaths])
  have hbefore : ∀ state, env.Elsewhere [rollback] files state →
      env.Restoring handoff rollback original files state := by
    intro state helse
    refine ⟨helse.mono (by simp), .inl (helse _ ?_)⟩
    simpa using hinstall
  have hself : env.Elsewhere [rollback] files files := Elsewhere.refl _
  unfold rollbackCustomNamedUpdate
  refine outcome_lift_bind (fun found hfound => ?_) (fun _ _ => hbefore _ hself)
  cases hplaces.rollbackPath.symm.trans hfound
  refine outcome_lift_bind (fun _ _ => ?_) (fun _ _ => hbefore _ hself)
  refine AnyOutcome.bind (outcome_verifyPrepared (hbefore _ hself)) ?_
    (fun _ state h => h ▸ hbefore _ hself)
  rintro _ _ ⟨_, rfl⟩
  have hremoved := hself.setFile List.mem_cons_self none
  refine AnyOutcome.bind (outcome_remove (hbefore _ hremoved)) ?_
    (fun _ state h => h ▸ hbefore _ hself)
  rintro _ _ rfl
  refine AnyOutcome.bind (outcome_copyVerified.mono
    (fun _ h => hbefore _ (hremoved.trans h)) (fun _ _ h => h) (fun _ _ h => h)) ?_
    (fun _ _ h => hbefore _ (hremoved.trans h))
  rintro _ copied ⟨content, hsource, hcopy, _, hcopied⟩
  have hcopied := hremoved.trans hcopied
  rw [hpath, fileAt_setFile, if_neg hplaces.rollback_ne, hbackup] at hsource
  cases hsource
  -- The one call that changes the installed program.
  have hrestored : env.Restoring handoff rollback original files
        (env.renamed copied rollback handoff.installPath original) ∧
      env.fileAt (env.renamed copied rollback handoff.installPath original)
        handoff.installPath = some original := by
    have hfile : env.fileAt (env.renamed copied rollback handoff.installPath original)
        handoff.installPath = some original := by
      rw [renamed, fileAt_setFile, if_pos rfl]
    refine ⟨⟨?_, .inr hfile⟩, hfile⟩
    exact (hcopied.mono (by simp)).renamed (by simp) (by simp) _
  refine AnyOutcome.bind (Q := fun _ state => env.Restoring handoff rollback original files
      state ∧ env.fileAt state handoff.installPath = some original)
    (E := fun _ state => copied = state) ((outcome_replace ?_).mono (fun _ h => h) ?_
      (fun _ _ h => h)) ?_ (fun _ state h => h ▸ hbefore _ hcopied)
  · intro content hcontent
    cases hcopy.symm.trans hcontent
    exact hrestored.1
  · rintro _ _ ⟨content, hcontent, rfl⟩
    cases hcopy.symm.trans hcontent
    exact hrestored
  rintro _ state hstate
  refine (outcome_verifyPrepared hstate.1).mono (fun _ h => h) ?_ ?_
  · rintro _ _ ⟨_, rfl⟩
    exact hstate
  · rintro _ _ rfl
    exact hstate.1

/-! ## Publishing -/

/-- What a publication leaves to undo. -/
def Undoable (env : UpdateEnv) (handoff : UpdateHandoffPlan) (before : Volume) :
    UpdateInstallationPublication → Volume → Prop
  | .publishedSideBySide _ true, _ => env.fileAt before handoff.installPath = none
  | .publishedSideBySide _ false, state =>
      env.fileAt state handoff.installPath = env.fileAt before handoff.installPath
  | .replacedInPlace _, state => ∃ original,
      env.fileAt before handoff.installPath = some original ∧
        env.fileAt state handoff.backupExecutable = some original

/-- The installed program is the update, and what was there before can be brought back. -/
structure Published (env : UpdateEnv) (handoff : UpdateHandoffPlan) (before : Volume)
    (publication : UpdateInstallationPublication) (state : Volume) : Prop where
  installed : ∃ content, env.fileAt state handoff.installPath = some content ∧
    env.Matches content handoff.expectedSize.toNat handoff.expectedSha256Hex
  undoable : env.Undoable handoff before publication state

section

variable {installation : PreparedUpdateInstallation} {rollback : WinPath} {middle : Volume}

theorem Prepared.kept (h : env.Prepared handoff files installation middle) {program : WinPath}
    (hprogram : ∀ path ∈ helperPaths handoff installation.installCandidate rollback,
      program.key env.upcase ≠ path.key env.upcase) :
    env.fileAt middle program = env.fileAt files program := by
  refine h.elsewhere program (fun path hpath => hprogram path ?_)
  simp only [helperPaths, List.mem_cons, List.not_mem_nil, or_false] at hpath ⊢
  tauto

theorem outcome_publishCustom (h : env.Prepared handoff files installation middle)
    (hplaces : env.Places handoff installation.installCandidate rollback) :
    (env.publishCustomNamedUpdate handoff installation).AnyOutcome (fun _ => True)
      (env.Published handoff files)
      (fun _ state => env.CurrentKept handoff files state ∨ env.RestorationFailed handoff state)
      middle := by
  have hcurrent : env.CurrentKept handoff files middle := h.kept hplaces.current_ne
  obtain ⟨original, horiginal, hbackup⟩ := h.backup
  obtain ⟨update, hupdate, hmatches⟩ := h.candidate
  unfold publishCustomNamedUpdate
  refine outcome_lift_bind (fun _ _ => ?_) (fun _ _ => .inl hcurrent)
  refine outcome_lift_bind (fun _ hvalid => ?_) (fun _ _ => .inl hcurrent)
  have hnaming : handoff.naming = .preserveCurrentName ∧
      handoff.installPath = handoff.currentExecutable := by
    unfold validateCustomReplacementPaths at hvalid
    obtain ⟨_, hcustom, hvalid⟩ := bind_eq_ok.mp hvalid
    obtain ⟨_, hsame, _⟩ := bind_eq_ok.mp hvalid
    exact ⟨ensure_eq_ok.mp hcustom, ensure_eq_ok.mp hsame⟩
  obtain ⟨hcustom, hsame⟩ := hnaming
  refine AnyOutcome.bind (outcome_verifyPrepared trivial) ?_
    (fun _ state hstate => .inl (hstate ▸ hcurrent))
  rintro _ _ ⟨_, rfl⟩
  refine AnyOutcome.bind (outcome_replace (fun _ _ => trivial)) ?_
    (fun _ state hstate => .inl (hstate ▸ hcurrent))
  rintro _ _ ⟨content, hcontent, rfl⟩
  cases hupdate.symm.trans hcontent
  -- From here on the installed program is the update, and the backup the original.
  let replaced := env.renamed middle installation.installCandidate handoff.installPath update
  have hinstalled : env.fileAt replaced handoff.installPath = some update := by
    simp only [replaced]
    rw [renamed, fileAt_setFile, if_pos rfl]
  have hkept : env.fileAt replaced handoff.backupExecutable = some original := by
    have hinstall := hplaces.install_ne handoff.backupExecutable (by simp [helperPaths])
    simp only [replaced]
    rw [renamed, fileAt_setFile, if_neg hinstall.symm, fileAt_setFile,
      if_neg hplaces.candidate_ne, hbackup]
  refine AnyOutcome.bind (Q := fun _ state => replaced = state)
    (E := fun _ state => env.CurrentKept handoff files state ∨
      env.RestorationFailed handoff state) ?_ ?_ (fun _ _ hstate => hstate)
  · refine AnyOutcome.orElse (outcome_verifyPrepared trivial)
      (fun _ _ hstate => hstate.2) ?_
    rintro error _ rfl
    unfold restoreAfter
    have hrestore := (outcome_steps (env.rollbackCustomNamedUpdate handoff installation)
      replaced).and (outcome_restore hplaces h.backupPath hkept)
    have horElse (note : IoError → IoError) :
        ((env.rollbackCustomNamedUpdate handoff installation).orElse
          (fun rollbackError => .fail (note rollbackError))).AnyOutcome (fun _ => True)
          (fun _ state => env.CurrentKept handoff files state)
          (fun _ state => env.CurrentKept handoff files state ∨
            env.RestorationFailed handoff state) replaced := by
      refine AnyOutcome.orElse (hrestore.mono (fun _ _ => trivial) (fun _ _ h => h)
        (fun _ _ h => h)) ?_ ?_
      · rintro _ state ⟨_, _, hrestored⟩
        rw [hsame] at hrestored
        exact hrestored.trans horiginal.symm
      · rintro rollbackError state ⟨hfailed, hstate⟩
        rcases hstate.install with hunchanged | hrestored
        · rw [hinstalled, hsame] at hunchanged
          exact .inr ⟨hcustom, ⟨update, hunchanged, hmatches⟩, installation, replaced,
            rollbackError, hfailed⟩
        · rw [hsame] at hrestored
          exact .inl (hrestored.trans horiginal.symm)
    refine AnyOutcome.bind (horElse _) ?_ (fun _ _ h => h)
    exact fun _ _ hstate => .inl hstate
  rintro _ _ rfl
  exact {
    installed := ⟨update, hinstalled, hmatches⟩
    undoable := ⟨original, by rw [hsame, horiginal], hkept⟩ }

theorem outcome_publishOfficial (h : env.Prepared handoff files installation middle)
    (hplaces : env.Places handoff installation.installCandidate rollback) :
    (env.publishOfficiallyNamedUpdate handoff installation).AnyOutcome (fun _ => True)
      (env.Published handoff files)
      (fun _ state => env.CurrentKept handoff files state) middle := by
  have hcurrent : env.CurrentKept handoff files middle := h.kept hplaces.current_ne
  have hbefore := h.kept hplaces.install_ne
  obtain ⟨original, horiginal, _⟩ := h.backup
  obtain ⟨update, hupdate, hmatches⟩ := h.candidate
  unfold publishOfficiallyNamedUpdate
  refine outcome_lift_bind (fun _ _ => ?_) (fun _ _ => hcurrent)
  refine AnyOutcome.bind (Q := fun present state =>
      present = (env.fileAt middle handoff.installPath).isSome ∧ middle = state)
    (E := fun _ state => middle = state) (outcome_query trivial ?_ (fun _ => rfl)) ?_
    (fun _ state hstate => hstate ▸ hcurrent)
  · rintro _ ⟨⟩
    exact ⟨rfl, rfl⟩
  rintro present _ ⟨hpresent, rfl⟩
  split
  · -- The update is there already.
    refine AnyOutcome.bind (Q := fun _ state => (∃ content,
        env.fileAt middle handoff.installPath = some content ∧
          env.Matches content handoff.expectedSize.toNat handoff.expectedSha256Hex) ∧
        middle = state) (E := fun _ state => middle = state) ?_ ?_
      (fun _ state hstate => hstate ▸ hcurrent)
    · refine AnyOutcome.orElse (outcome_verifyPrepared trivial) (fun _ _ hstate => hstate) ?_
      exact fun _ _ hstate => hstate
    rintro _ _ ⟨hinstalled, rfl⟩
    refine AnyOutcome.bind (outcome_remove trivial) ?_
      (fun _ state hstate => hstate ▸ hcurrent)
    rintro _ _ rfl
    have hsame : env.fileAt (env.setFile middle installation.installCandidate none)
        handoff.installPath = env.fileAt middle handoff.installPath := by
      rw [fileAt_setFile, if_neg (hplaces.install_ne _ (by simp [helperPaths]))]
    refine ⟨?_, hsame.trans hbefore⟩
    rw [hsame]
    exact hinstalled
  · -- The destination is free, so it is not the running program.
    have hfree : env.fileAt middle handoff.installPath = none := by
      rw [← Option.not_isSome_iff_eq_none, ← hpresent]
      assumption
    have hne : handoff.currentExecutable.key env.upcase ≠
        handoff.installPath.key env.upcase := by
      intro hsame
      have hsome := hcurrent.trans horiginal
      unfold fileAt at hsome hfree
      rw [hsame, hfree] at hsome
      cases hsome
    refine AnyOutcome.bind (outcome_moveNew (fun _ _ => trivial)) ?_
      (fun _ state hstate => hstate ▸ hcurrent)
    rintro _ _ ⟨content, hcontent, _, rfl⟩
    cases hupdate.symm.trans hcontent
    let moved := env.renamed middle installation.installCandidate handoff.installPath update
    have hinstalled : env.fileAt moved handoff.installPath = some update := by
      simp only [moved]
      rw [renamed, fileAt_setFile, if_pos rfl]
    have hmoved : env.CurrentKept handoff files moved := by
      have hcandidate := hplaces.current_ne installation.installCandidate (by simp [helperPaths])
      unfold CurrentKept
      simp only [moved]
      rw [renamed, fileAt_setFile, if_neg hne, fileAt_setFile, if_neg hcandidate]
      exact hcurrent
    refine AnyOutcome.bind (Q := fun _ state => moved = state)
      (E := fun _ state => env.CurrentKept handoff files state) ?_ ?_ (fun _ _ hstate => hstate)
    · refine AnyOutcome.orElse (outcome_verifyPrepared trivial)
        (fun _ _ hstate => hstate.2) ?_
      rintro error _ rfl
      refine (outcome_failAfter trivial).mono (fun _ h => h) (fun _ _ h => h) ?_
      rintro _ _ (rfl | rfl)
      · exact hmoved
      · unfold CurrentKept
        rw [fileAt_setFile, if_neg hne]
        exact hmoved
    rintro _ _ rfl
    exact ⟨⟨update, hinstalled, hmatches⟩, hbefore.symm.trans hfree⟩

theorem outcome_publish (h : env.Prepared handoff files installation middle)
    (hplaces : env.Places handoff installation.installCandidate rollback) :
    (env.publishPreparedUpdateInstallation handoff installation).AnyOutcome (fun _ => True)
      (env.Published handoff files)
      (fun _ state => env.CurrentKept handoff files state ∨ env.RestorationFailed handoff state)
      middle := by
  have hcurrent : env.CurrentKept handoff files middle := h.kept hplaces.current_ne
  unfold publishPreparedUpdateInstallation
  refine outcome_lift_bind (fun _ _ => ?_) (fun _ _ => .inl hcurrent)
  refine outcome_lift_bind (fun _ _ => ?_) (fun _ _ => .inl hcurrent)
  refine outcome_lift_bind (fun _ _ => ?_) (fun _ _ => .inl hcurrent)
  refine outcome_lift_bind (fun _ _ => ?_) (fun _ _ => .inl hcurrent)
  refine AnyOutcome.bind (outcome_verifyPrepared trivial) ?_
    (fun _ state hstate => .inl (hstate ▸ hcurrent))
  rintro _ _ ⟨_, rfl⟩
  refine outcome_lift_bind (fun _ _ => ?_) (fun _ _ => .inl hcurrent)
  refine AnyOutcome.bind (outcome_verifyPrepared trivial) ?_
    (fun _ state hstate => .inl (hstate ▸ hcurrent))
  rintro _ _ ⟨_, rfl⟩
  cases handoff.naming with
  | preserveCurrentName => exact outcome_publishCustom h hplaces
  | publishedAssetName =>
    exact (outcome_publishOfficial h hplaces).mono (fun _ h => h) (fun _ _ h => h)
      (fun _ _ h => .inl h)

end

/-- The helper installs the update, or the running program is as it was, or restoring it has
failed. -/
theorem outcome_complete (haccepted : handoff.Accepted) (happart : env.ProgramsApart handoff) :
    (env.completeUpdateHandoffAfterParentExit handoff).AnyOutcome (fun _ => True)
      (fun done state => done.1.backupExecutable = handoff.backupExecutable ∧
        updateInstallCandidatePath handoff = .ok done.1.installCandidate ∧
        env.Published handoff files done.2 state)
      (fun _ state => env.CurrentKept handoff files state ∨ env.RestorationFailed handoff state)
      files := by
  unfold completeUpdateHandoffAfterParentExit
  refine AnyOutcome.bind (outcome_prepareInstallation haccepted happart) ?_
    (fun _ _ h => .inl h)
  rintro installation prepared hprepared
  obtain ⟨rollback, hplaces⟩ := places_of_apart haccepted happart hprepared.candidatePath
  refine AnyOutcome.bind (outcome_publish hprepared hplaces) ?_ (fun _ _ h => h)
  rintro publication state hpublished
  exact ⟨hprepared.backupPath, hprepared.candidatePath, hpublished⟩

/-! ## Undoing -/

/-- Where undoing can be: the installed program is what it was or what it was before the update, and
besides it only files of the transaction have changed. -/
structure Undoing (env : UpdateEnv) (handoff : UpdateHandoffPlan) (rollback : WinPath)
    (before later state : Volume) : Prop where
  elsewhere : env.Elsewhere [handoff.installPath, rollback,
    handoff.startupMarker.withSuffix updatePartialSuffix, handoff.startupMarker] later state
  install : env.fileAt state handoff.installPath = env.fileAt later handoff.installPath ∨
    env.fileAt state handoff.installPath = env.fileAt before handoff.installPath

/-- The installed program is what it was before the update. -/
structure Undone (env : UpdateEnv) (handoff : UpdateHandoffPlan) (rollback : WinPath)
    (before later state : Volume) : Prop extends
    env.Undoing handoff rollback before later state where
  undone : env.fileAt state handoff.installPath = env.fileAt before handoff.installPath

section

variable {installation : PreparedUpdateInstallation} {candidate rollback : WinPath}
  {publication : UpdateInstallationPublication} {before later : Volume}

theorem Undone.remove {state : Volume} (h : env.Undone handoff rollback before later state)
    {path : WinPath} (hplaces : env.Places handoff candidate rollback)
    (hmarker : path ∈ [handoff.startupMarker.withSuffix updatePartialSuffix,
      handoff.startupMarker]) :
    env.Undone handoff rollback before later (env.setFile state path none) := by
  have hne : handoff.installPath.key env.upcase ≠ path.key env.upcase := by
    refine hplaces.install_ne path ?_
    simp only [helperPaths, List.mem_cons, List.not_mem_nil, or_false] at hmarker ⊢
    tauto
  have hundone : env.fileAt (env.setFile state path none) handoff.installPath =
      env.fileAt before handoff.installPath := by
    rw [fileAt_setFile, if_neg hne, h.undone]
  have helse := h.elsewhere.setFile
    (List.mem_cons_of_mem _ (List.mem_cons_of_mem _ hmarker)) none
  exact ⟨⟨helse, .inr hundone⟩, hundone⟩

theorem outcome_undoPublication (hplaces : env.Places handoff candidate rollback)
    (hpath : installation.backupExecutable = handoff.backupExecutable)
    (h : env.Undoable handoff before publication later) :
    (env.undoPublication handoff installation publication).AnyOutcome
      (env.Undoing handoff rollback before later)
      (fun _ state => env.Undone handoff rollback before later state)
      (fun _ state => env.Undoing handoff rollback before later state) later := by
  have hself : env.Undoing handoff rollback before later later := ⟨Elsewhere.refl _, .inl rfl⟩
  cases publication with
  | publishedSideBySide path created =>
    refine outcome_lift_bind (fun _ hsame => ?_) (fun _ _ => hself)
    cases ensure_eq_ok.mp hsame
    cases created with
    | false => exact ⟨hself, h⟩
    | true =>
      refine AnyOutcome.bind (outcome_verifyPrepared hself) ?_
        (fun _ state hstate => hstate ▸ hself)
      rintro _ _ ⟨_, rfl⟩
      have hundone : env.fileAt (env.setFile later handoff.installPath none)
          handoff.installPath = env.fileAt before handoff.installPath := by
        rw [fileAt_setFile, if_pos rfl, h]
      have hremoved : env.Undoing handoff rollback before later
          (env.setFile later handoff.installPath none) :=
        ⟨hself.elsewhere.setFile List.mem_cons_self none, .inr hundone⟩
      refine (outcome_remove hremoved).mono (fun _ h => h) ?_ ?_
      · rintro _ _ rfl
        exact ⟨hremoved, hundone⟩
      · rintro _ _ rfl
        exact hself
  | replacedInPlace path =>
    obtain ⟨original, horiginal, hbackup⟩ := h
    refine outcome_lift_bind (fun _ _ => ?_) (fun _ _ => hself)
    have hundoing : ∀ state, env.Restoring handoff rollback original later state →
        env.Undoing handoff rollback before later state := by
      intro state hstate
      exact ⟨hstate.elsewhere.mono (by simp), by rw [horiginal]; exact hstate.install⟩
    refine (outcome_restore hplaces hpath hbackup).mono hundoing ?_
      (fun _ state hstate => hundoing state hstate)
    rintro _ state ⟨hrestoring, hrestored⟩
    exact ⟨hundoing state hrestoring, hrestored.trans horiginal.symm⟩

theorem outcome_undo (hplaces : env.Places handoff candidate rollback)
    (hpath : installation.backupExecutable = handoff.backupExecutable)
    (h : env.Undoable handoff before publication later) :
    (env.rollbackFailedUpdateStartup handoff installation publication).AnyOutcome
      (env.Undoing handoff rollback before later)
      (fun _ state => env.Undone handoff rollback before later state)
      (fun _ state => env.Undoing handoff rollback before later state) later := by
  unfold rollbackFailedUpdateStartup
  refine AnyOutcome.bind (outcome_undoPublication hplaces hpath h) ?_ (fun _ _ h => h)
  rintro _ state hundone
  have hpartial := hundone.remove hplaces List.mem_cons_self
  refine AnyOutcome.bind (outcome_remove hpartial.toUndoing) ?_
    (fun _ _ hstate => hstate ▸ hundone.toUndoing)
  rintro _ _ rfl
  have hmarker := hpartial.remove hplaces (List.mem_cons_of_mem _ List.mem_cons_self)
  refine (outcome_remove hmarker.toUndoing).mono (fun _ h => h) ?_ ?_
  · rintro _ _ rfl
    exact hmarker
  · rintro _ _ rfl
    exact hpartial.toUndoing

/-- What can be undone depends on two files. -/
theorem Undoable.congr {state state' : Volume} (h : env.Undoable handoff before publication state)
    (hinstall : env.fileAt state' handoff.installPath = env.fileAt state handoff.installPath)
    (hbackup : env.fileAt state' handoff.backupExecutable =
      env.fileAt state handoff.backupExecutable) :
    env.Undoable handoff before publication state' := by
  cases publication with
  | publishedSideBySide path created =>
    cases created with
    | false => exact hinstall.trans h
    | true => exact h
  | replacedInPlace path =>
    obtain ⟨original, horiginal, hfound⟩ := h
    exact ⟨original, horiginal, hbackup.trans hfound⟩

end

end UpdateEnv

namespace RecoveryEnv

variable {env : RecoveryEnv} {handoff : UpdateHandoffPlan}

/-! ## Safety -/

theorem updateSafe_of_apart (haccepted : handoff.Accepted)
    (happart : env.ProgramsApart handoff) : env.UpdateSafe handoff := by
  have hcomplete : ∀ files done state,
      Steps (env.completeUpdateHandoffAfterParentExit handoff, files) (.ret done, state) →
        done.1.backupExecutable = handoff.backupExecutable ∧
          updateInstallCandidatePath handoff = .ok done.1.installCandidate ∧
          env.Published handoff files done.2 state :=
    fun files done state hsteps =>
      ((UpdateEnv.outcome_complete haccepted happart).of_steps trivial hsteps).1
  exact {
    completed := fun files done state hsteps => (hcomplete files done state hsteps).2.2.installed
    failed := fun files error state hsteps =>
      ((UpdateEnv.outcome_complete haccepted happart).of_steps trivial hsteps).1
    rolledBack := by
      intro files installation publication completed later p state hsteps hinstall hbackup hreached
      obtain ⟨hpath, hcandidate, hpublished⟩ := hcomplete files _ _ hsteps
      obtain ⟨rollback, hplaces⟩ := UpdateEnv.places_of_apart haccepted happart hcandidate
      obtain ⟨hleft, hundoing⟩ := (UpdateEnv.outcome_undo hplaces hpath
        (hpublished.undoable.congr hinstall hbackup)).of_steps
          ⟨UpdateEnv.Elsewhere.refl _, .inl rfl⟩ hreached
      refine ⟨?_, hundoing.install, ?_⟩
      · rintro rfl
        exact hleft.undone
      · intro paths hpaths
        obtain ⟨_, hlist, hsubset⟩ := hplaces.cleanedUp
        cases hpaths.symm.trans hlist
        refine hundoing.elsewhere.mono (List.cons_subset_cons _ (List.Subset.trans ?_ hsubset))
        simp [UpdateEnv.helperPaths]
    cleanedUp := by
      intro entries files p state hsteps
      have hprogress := progress_of_steps hsteps
      exact ⟨hprogress.kept (fun paths hpaths path hpath => (happart paths hpaths path hpath).1),
        hprogress.kept (fun paths hpaths path hpath => (happart paths hpaths path hpath).2)⟩ }

theorem apart_of_updateSafe (haccepted : handoff.Accepted) (h : env.UpdateSafe handoff) :
    env.ProgramsApart handoff := by
  intro paths hpaths path hpath
  obtain ⟨entries, files, state, hsteps, hremoved⟩ :=
    removal_of_key env haccepted hpaths hpath
  obtain ⟨hcurrent, hinstall⟩ := h.cleanedUp entries files _ state hsteps
  exact ⟨fun hsame => hremoved _ hsame hcurrent, fun hsame => hremoved _ hsame hinstall⟩

end RecoveryEnv

/-- The same update of an agent that runs as the partial backup in its staging directory. -/
def partialBackupHandoff : UpdateHandoffPlan :=
  { customHandoff with
    currentExecutable := updateBackupPartialPath customHandoff.stagingDirectory
    installPath := updateBackupPartialPath customHandoff.stagingDirectory }

end NetworkCopy
