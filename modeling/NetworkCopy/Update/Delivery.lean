import NetworkCopy.Update.Transaction

/-!
# Whether a planned update can be delivered

A plan is delivered when it is staged, handed over and published.  The checks along the way look
at the same paths again; this module follows a plan through all of them.  A program with a name of
its own always gets its update.  A program with an official name gets it side by side, and that
works exactly when the new name names another file and the program does not run from the staging
directory itself.
-/

namespace NetworkCopy

open Crash WinPath

/-! ## What planning decides -/

variable {release : ReleaseInfo}

theorem findExpectedAsset_mem {names : List String} {asset : ReleaseAssetInfo}
    (h : findExpectedAsset release names = .ok (some asset)) :
    asset.name ∈ names := by
  induction names with
  | nil => cases h
  | cons expectedName rest ih =>
    rw [findExpectedAsset] at h
    split at h
    · exact List.mem_cons_of_mem _ (ih h)
    · next found hfilter =>
        cases h
        have hmem : asset ∈ release.assets.filter (fun asset => asset.name = expectedName) := by
          rw [hfilter]
          exact List.mem_singleton_self asset
        have hname : asset.name = expectedName := by simpa using (List.mem_filter.mp hmem).2
        rw [hname]
        exact List.mem_cons_self
    · cases h

/-- What is known of a selected asset. -/
structure SelectedReleaseAsset.Sound (asset : SelectedReleaseAsset) (kind : ReleaseArtifactKind)
    (version : StableVersion) : Prop where
  name_mem : asset.name ∈ kind.expectedAssetNames version
  size_ne : asset.size ≠ 0
  digest : isSha256Hex asset.sha256Hex
  url : validateAssetDownloadUrl asset.downloadUrl = .ok ()

theorem selectReleaseAsset_sound {kind : ReleaseArtifactKind} {asset : SelectedReleaseAsset}
    {version : StableVersion} (hversion : parseStableVersion release.tagName = .ok version)
    (h : selectReleaseAsset release kind = .ok asset) : asset.Sound kind version := by
  unfold selectReleaseAsset at h
  rw [hversion, ok_bind] at h
  obtain ⟨selected, hfind, h⟩ := bind_eq_ok.mp h
  obtain ⟨info, hselected, h⟩ := bind_eq_ok.mp h
  obtain ⟨_, h⟩ := bind_rest h
  obtain ⟨_, h⟩ := bind_rest h
  obtain ⟨_, hsize, h⟩ := bind_eq_ok.mp h
  obtain ⟨⟨⟩, hurl, h⟩ := bind_eq_ok.mp h
  obtain ⟨digest, _, h⟩ := bind_eq_ok.mp h
  obtain ⟨hex, hhex, h⟩ := bind_eq_ok.mp h
  cases h
  rw [okOrElse_eq_ok.mp hselected] at hfind
  exact {
    name_mem := findExpectedAsset_mem hfind
    size_ne := ensure_eq_ok.mp hsize
    digest := isSha256Hex_of_parse hhex
    url := hurl }

/-- What a plan consists of. -/
theorem buildUpdateInstallPlan_eq_ok {current localAppData : WinPath}
    {kind : ReleaseArtifactKind} {plan : UpdateInstallPlan}
    (h : buildUpdateInstallPlan current localAppData release kind = .ok plan) :
    current.isAbsolute = true ∧ localAppData.isAbsolute = true ∧
    ∃ (directory : WinPath) (fileName : List UInt16) (asset : SelectedReleaseAsset)
      (version : StableVersion), current = directory.join fileName ∧
      selectReleaseAsset release kind = .ok asset ∧
      parseStableVersion release.tagName = .ok version ∧
      plan = {
        artifactKind := kind
        selectedAsset := asset
        naming := if isOfficialReleaseFileName fileName kind then .publishedAssetName
          else .preserveCurrentName
        currentExecutable := current
        installPath := if isOfficialReleaseFileName fileName kind then
          directory.join (osStr asset.name) else current
        stagingDirectory := stagingDirectoryFor localAppData kind version
        stagedExecutable :=
          (stagingDirectoryFor localAppData kind version).join (osStr asset.name)
        backupExecutable :=
          (stagingDirectoryFor localAppData kind version).join (osStr updateBackupFile)
        handoffPlan :=
          (stagingDirectoryFor localAppData kind version).join (osStr updateHandoffFile)
        startupMarker :=
          (stagingDirectoryFor localAppData kind version).join
            (osStr updateStartupMarkerFile) } := by
  unfold buildUpdateInstallPlan at h
  obtain ⟨_, hcurrent, h⟩ := bind_eq_ok.mp h
  obtain ⟨_, hlocal, h⟩ := bind_eq_ok.mp h
  obtain ⟨directory, hdirectory, h⟩ := bind_eq_ok.mp h
  obtain ⟨fileName, hname, h⟩ := bind_eq_ok.mp h
  obtain ⟨asset, hasset, h⟩ := bind_eq_ok.mp h
  obtain ⟨version, hversion, h⟩ := bind_eq_ok.mp h
  cases h
  refine ⟨ensure_eq_ok.mp hcurrent, ensure_eq_ok.mp hlocal, directory, fileName, asset, version,
    eq_join (okOrElse_eq_ok.mp hdirectory) (okOrElse_eq_ok.mp hname), hasset, hversion, ?_⟩
  by_cases hofficial : isOfficialReleaseFileName fileName kind = true
  · simp [hofficial]
  · simp [hofficial]

/-! ## The checks -/

theorem checkReservedPath_join (directory : WinPath) (fileName label : String) :
    checkReservedPath directory (directory.join (osStr fileName)) fileName label = .ok () :=
  ensure_eq_ok.mpr rfl

theorem checkHandoffPath_eq_ok {directory actual : WinPath} {fileName label : String} {u : Unit} :
    checkHandoffPath directory actual fileName label = .ok u ↔
      actual = directory.join (osStr fileName) := ensure_eq_ok

/-- What `validate_update_handoff_plan` accepts. -/
structure UpdateHandoffPlan.Accepted (plan : UpdateHandoffPlan) : Prop where
  processId_ne : plan.parentProcessId ≠ 0
  size_ne : plan.expectedSize ≠ 0
  digest : isSha256Hex plan.expectedSha256Hex
  absolute : ∀ entry ∈ plan.paths, entry.1.isAbsolute = true
  staged : ∃ name, plan.stagedExecutable = plan.stagingDirectory.join name ∧
    isOfficialReleaseFileName name plan.artifactKind = true ∧
    checkHandoffNaming plan name = .ok ()
  backup : plan.backupExecutable = plan.stagingDirectory.join (osStr updateBackupFile)
  handoffPlan : plan.handoffPlan = plan.stagingDirectory.join (osStr updateHandoffFile)
  startupMarker : plan.startupMarker = plan.stagingDirectory.join (osStr updateStartupMarkerFile)
  staged_ne : ¬ (plan.stagedExecutable = plan.currentExecutable ∨
    plan.stagedExecutable = plan.installPath ∨ plan.stagedExecutable = plan.backupExecutable ∨
    plan.stagedExecutable = plan.handoffPlan ∨ plan.stagedExecutable = plan.startupMarker)

theorem validateUpdateHandoffPlan_eq_ok {plan : UpdateHandoffPlan} :
    validateUpdateHandoffPlan plan = .ok () ↔ plan.Accepted := by
  unfold validateUpdateHandoffPlan
  constructor
  · intro h
    obtain ⟨_, hprocess, h⟩ := bind_eq_ok.mp h
    obtain ⟨_, hsize, h⟩ := bind_eq_ok.mp h
    obtain ⟨digest, hdigest, h⟩ := bind_eq_ok.mp h
    obtain ⟨⟨⟩, habsolute, h⟩ := bind_eq_ok.mp h
    obtain ⟨_, hparent, h⟩ := bind_eq_ok.mp h
    obtain ⟨name, hname, h⟩ := bind_eq_ok.mp h
    obtain ⟨_, hofficial, h⟩ := bind_eq_ok.mp h
    obtain ⟨_, hbackup, h⟩ := bind_eq_ok.mp h
    obtain ⟨_, hhandoff, h⟩ := bind_eq_ok.mp h
    obtain ⟨_, hmarker, h⟩ := bind_eq_ok.mp h
    obtain ⟨⟨⟩, hnaming, h⟩ := bind_eq_ok.mp h
    exact {
      processId_ne := ensure_eq_ok.mp hprocess
      size_ne := ensure_eq_ok.mp hsize
      digest := decodeSha256Hex_eq_ok.mp ⟨digest, hdigest⟩
      absolute := fun entry hentry => ensure_eq_ok.mp (checkAll_eq_ok.mp habsolute entry hentry)
      staged := ⟨name, eq_join (ensure_eq_ok.mp hparent) (okOrElse_eq_ok.mp hname),
        ensure_eq_ok.mp hofficial, hnaming⟩
      backup := checkHandoffPath_eq_ok.mp hbackup
      handoffPlan := checkHandoffPath_eq_ok.mp hhandoff
      startupMarker := checkHandoffPath_eq_ok.mp hmarker
      staged_ne := ensure_eq_ok.mp h }
  · intro h
    obtain ⟨digest, hdigest⟩ := decodeSha256Hex_eq_ok.mpr h.digest
    obtain ⟨name, hstaged, hofficial, hnaming⟩ := h.staged
    refine bind_eq_ok.mpr ⟨(), ensure_eq_ok.mpr h.processId_ne, ?_⟩
    refine bind_eq_ok.mpr ⟨(), ensure_eq_ok.mpr h.size_ne, ?_⟩
    refine bind_eq_ok.mpr ⟨digest, hdigest, ?_⟩
    refine bind_eq_ok.mpr ⟨(), checkAll_eq_ok.mpr
      (fun entry hentry => ensure_eq_ok.mpr (h.absolute entry hentry)), ?_⟩
    refine bind_eq_ok.mpr ⟨(), ensure_eq_ok.mpr (by rw [hstaged, parent_join]), ?_⟩
    refine bind_eq_ok.mpr ⟨name, okOrElse_eq_ok.mpr (by rw [hstaged, fileName_join]), ?_⟩
    refine bind_eq_ok.mpr ⟨(), ensure_eq_ok.mpr hofficial, ?_⟩
    refine bind_eq_ok.mpr ⟨(), checkHandoffPath_eq_ok.mpr h.backup, ?_⟩
    refine bind_eq_ok.mpr ⟨(), checkHandoffPath_eq_ok.mpr h.handoffPlan, ?_⟩
    refine bind_eq_ok.mpr ⟨(), checkHandoffPath_eq_ok.mpr h.startupMarker, ?_⟩
    refine bind_eq_ok.mpr ⟨(), hnaming, ?_⟩
    exact ensure_eq_ok.mpr h.staged_ne

/-! ## Names with a suffix -/

/-- A name with a suffix is no name that ends otherwise. -/
theorem join_append_ne {directory directory' : WinPath} {name name' : List UInt16}
    {ending : String} (hlast : (osStr ending).getLast? ≠ name'.getLast?)
    (hne : osStr ending ≠ []) :
    directory.join (name ++ osStr ending) ≠ directory'.join name' := by
  intro hsame
  have hnames := (join_inj.mp hsame).2
  apply hlast
  rw [← hnames, List.getLast?_append_of_ne_nil _ hne]

theorem getLast?_expected {kind : ReleaseArtifactKind} {version : StableVersion}
    {name : String} (hname : name ∈ kind.expectedAssetNames version) :
    (osStr name).getLast? = some 0x65 := by
  obtain ⟨middle, htext, hascii, _⟩ := toList_expected hname
  have hend : officialEnd = "-Windows-x64.ex".toList ++ ['e'] := by rfl
  unfold osStr
  rw [flatMap_wideUnits hascii, htext, hend, ← List.append_assoc, ← List.append_assoc,
    List.map_append]
  simp

theorem osStr_updateRollbackCandidateSuffix :
    (osStr updateRollbackCandidateSuffix).getLast? = some 0x6c := by rfl

/-- The rollback candidate of a custom name stands for itself. -/
theorem validateCustomReplacementPaths_ok {handoff : UpdateHandoffPlan} {candidate : WinPath}
    {directory : WinPath} {fileName stagedName : List UInt16}
    (hnaming : handoff.naming = .preserveCurrentName)
    (hinstall : handoff.installPath = directory.join fileName)
    (hcurrent : handoff.currentExecutable = directory.join fileName)
    (hstaged : handoff.stagedExecutable = handoff.stagingDirectory.join stagedName)
    (hlast : stagedName.getLast? = some 0x65)
    (hbackup : handoff.backupExecutable = handoff.stagingDirectory.join (osStr updateBackupFile))
    (hplan : handoff.handoffPlan = handoff.stagingDirectory.join (osStr updateHandoffFile))
    (hmarker : handoff.startupMarker =
      handoff.stagingDirectory.join (osStr updateStartupMarkerFile))
    (hcandidate : candidate = directory.join (fileName ++ osStr updateInstallCandidateSuffix)) :
    validateCustomReplacementPaths handoff candidate
      (directory.join (fileName ++ osStr updateRollbackCandidateSuffix)) = .ok () := by
  have hsuffix : osStr updateRollbackCandidateSuffix ≠ [] := by
    intro hnil
    have hend := osStr_updateRollbackCandidateSuffix
    rw [hnil] at hend
    cases hend
  unfold validateCustomReplacementPaths
  refine bind_eq_ok.mpr ⟨(), ensure_eq_ok.mpr hnaming, ?_⟩
  refine bind_eq_ok.mpr ⟨(), ensure_eq_ok.mpr (hinstall.trans hcurrent.symm), ?_⟩
  refine bind_eq_ok.mpr ⟨(), ensure_eq_ok.mpr (by rw [hinstall]; simp), ?_⟩
  rw [checkAll_eq_ok]
  intro entry hentry
  apply ensure_eq_ok.mpr
  simp only [List.mem_cons, List.not_mem_nil, or_false] at hentry
  rcases hentry with rfl | rfl | rfl | rfl | rfl | rfl
  · show directory.join (fileName ++ osStr updateRollbackCandidateSuffix) ≠
      handoff.currentExecutable
    rw [hcurrent]
    intro hsame
    exact hsuffix (List.append_right_eq_self.mp (join_inj.mp hsame).2)
  · show _ ≠ handoff.stagedExecutable
    rw [hstaged]
    apply join_append_ne _ hsuffix
    rw [osStr_updateRollbackCandidateSuffix, hlast]
    decide
  · show _ ≠ handoff.backupExecutable
    rw [hbackup]
    apply join_append_ne _ hsuffix
    rw [osStr_updateRollbackCandidateSuffix]
    decide
  · show _ ≠ handoff.handoffPlan
    rw [hplan]
    apply join_append_ne _ hsuffix
    rw [osStr_updateRollbackCandidateSuffix]
    decide
  · show _ ≠ handoff.startupMarker
    rw [hmarker]
    apply join_append_ne _ hsuffix
    rw [osStr_updateRollbackCandidateSuffix]
    decide
  · show _ ≠ candidate
    rw [hcandidate]
    intro hsame
    have hnames := List.append_cancel_left (join_inj.mp hsame).2
    have hlengths : (osStr updateRollbackCandidateSuffix).length =
        (osStr updateInstallCandidateSuffix).length := congrArg List.length hnames
    revert hlengths
    decide

/-! ## Delivery -/

/-- What `stage_and_verify_update` reports about a plan. -/
def verifiedStagedUpdate (plan : UpdateInstallPlan) : VerifiedStagedUpdate :=
  ⟨plan.stagedExecutable, plan.selectedAsset.size, plan.selectedAsset.sha256Hex⟩

namespace UpdateEnv

variable {env : UpdateEnv}

/-- The bytes are the expected ones, as far as their number and digest tell. -/
def Matches (env : UpdateEnv) (content : Bytes) (size : Nat) (sha256Hex : String) : Prop :=
  content.length = size ∧ env.sha256Hex content = sha256Hex

/-- What preparing leaves: a backup of the running program, and a candidate that is the update.
The destination is free, or the update is there, or it is the running program. -/
structure ReadyToPublish (env : UpdateEnv) (handoff : UpdateHandoffPlan)
    (installation : PreparedUpdateInstallation) (files : Volume) : Prop where
  backupPath : installation.backupExecutable = handoff.backupExecutable
  candidatePath : updateInstallCandidatePath handoff = .ok installation.installCandidate
  candidateReport : installation.candidateSize = handoff.expectedSize.toNat ∧
    installation.candidateSha256Hex = handoff.expectedSha256Hex
  original : ∃ original, env.fileAt files handoff.currentExecutable = some original ∧
    env.fileAt files handoff.backupExecutable = some original ∧
    env.Matches original installation.backupSize installation.backupSha256Hex
  candidate : ∃ update, env.fileAt files installation.installCandidate = some update ∧
    env.Matches update handoff.expectedSize.toNat handoff.expectedSha256Hex
  destination : ∀ content, env.fileAt files handoff.installPath = some content →
    env.Matches content handoff.expectedSize.toNat handoff.expectedSha256Hex ∨
      handoff.installPath.key env.upcase = handoff.currentExecutable.key env.upcase

/-- A plan can be carried out: staging accepts it, the handoff plan is built from it and accepted,
and whatever preparing leaves can be published. -/
structure Deliverable (env : UpdateEnv) (plan : UpdateInstallPlan) : Prop where
  staging : validateUpdateStagingPlan plan = .ok ()
  handoff : ∀ processId : UInt32, processId ≠ 0 → ∃ handoff,
    buildUpdateHandoffPlan plan (verifiedStagedUpdate plan) processId = .ok handoff ∧
    validateUpdateHandoffPlan handoff = .ok () ∧
    ∀ installation files, env.ReadyToPublish handoff installation files →
      ∃ publication files', (env.publishPreparedUpdateInstallation handoff installation).eval
        files = (.ok publication, files')

/-- A program with an official name does not run from the staging directory of the release, and
the new name names another file. -/
def SideBySide (env : UpdateEnv) (current localAppData : WinPath) (release : ReleaseInfo)
    (kind : ReleaseArtifactKind) : Prop :=
  ∀ directory fileName asset version, current = directory.join fileName →
    selectReleaseAsset release kind = .ok asset →
    parseStableVersion release.tagName = .ok version →
    isOfficialReleaseFileName fileName kind = true →
      directory ≠ stagingDirectoryFor localAppData kind version ∧
        fileName.map env.upcase ≠ (osStr asset.name).map env.upcase

/-! ### Running the checks on files -/

variable {files : Volume} {content : Bytes}
variable {source destination : WinPath}

theorem eval_inspectFileDigest {path : WinPath} {label : String}
    (hfile : env.fileAt files path = some content) :
    (env.inspectFileDigest path label).eval files = (.ok (env.inspected content), files) := by
  apply Prog.eval_query
  simp only [hfile]

theorem eval_verifyPrepared {path : WinPath} {label : String} {size : Nat} {sha256Hex : String}
    (hfile : env.fileAt files path = some content)
    (hmatches : env.Matches content size sha256Hex) :
    (env.verifyPreparedInstallationFile path label size sha256Hex).eval files =
      (.ok (), files) := by
  unfold verifyPreparedInstallationFile
  rw [Prog.eval_bind_ok (eval_inspectFileDigest hfile)]
  have hsize : (env.inspected content).size = size := hmatches.1
  have hdigest : (env.inspected content).sha256Hex = sha256Hex := hmatches.2
  simp only [ensure, if_pos hsize, if_pos hdigest]
  rfl

/-- A file that is verified is as expected. -/
theorem matches_of_verifyPrepared {files files' : Volume} {path : WinPath} {label : String}
    {size : Nat} {sha256Hex : String} (hfile : env.fileAt files path = some content)
    (h : (env.verifyPreparedInstallationFile path label size sha256Hex).eval files =
      (.ok (), files')) : env.Matches content size sha256Hex := by
  unfold verifyPreparedInstallationFile at h
  rw [Prog.eval_bind_ok (eval_inspectFileDigest hfile)] at h
  obtain ⟨⟨⟩, middle, hsize, h⟩ := Prog.eval_bind_eq_ok h
  have hfirst : (env.inspected content).size = size := by
    by_contra hne
    rw [ensure, if_neg hne] at hsize
    cases hsize
  have hsecond : (env.inspected content).sha256Hex = sha256Hex := by
    by_contra hne
    rw [ensure, if_neg hne] at h
    cases h
  exact ⟨hfirst, hsecond⟩

theorem eval_replace (hfile : env.fileAt files source = some content) :
    (env.replace source destination).eval files =
      (.ok (), env.renamed files source destination content) := by
  simp [replace, Prog.eval, hfile, okOrElse, bind, Except.bind, pure, Except.pure]

theorem eval_moveNew (hfile : env.fileAt files source = some content)
    (hfree : env.fileAt files destination = none) :
    (env.moveNew source destination).eval files =
      (.ok (), env.renamed files source destination content) := by
  simp [moveNew, Prog.eval, hfile, hfree, okOrElse, ensure, bind, Except.bind, pure, Except.pure]

@[simp] theorem fileAt_renamed :
    env.fileAt (env.renamed files source destination content) destination = some content := by
  simp [fileAt, renamed, setFile]

/-! ### Publishing what is ready -/

variable {handoff : UpdateHandoffPlan} {installation : PreparedUpdateInstallation}

/-- Everything before the naming decides is in order. -/
theorem eval_publishPrepared (hvalid : validateUpdateHandoffPlan handoff = .ok ())
    (hready : env.ReadyToPublish handoff installation files) :
    (env.publishPreparedUpdateInstallation handoff installation).eval files =
      (match handoff.naming with
      | .preserveCurrentName => env.publishCustomNamedUpdate handoff installation
      | .publishedAssetName => env.publishOfficiallyNamedUpdate handoff installation).eval
        files := by
  obtain ⟨original, _, hbackup, horiginal⟩ := hready.original
  obtain ⟨update, hcandidate, hupdate⟩ := hready.candidate
  rw [← hready.backupPath] at hbackup
  unfold publishPreparedUpdateInstallation
  rw [hvalid, hready.candidatePath]
  simp only [ensure, if_pos hready.backupPath, if_pos hready.candidateReport, Prog.lift,
    Prog.ret_bind, if_true]
  refine (Prog.eval_bind_ok (eval_verifyPrepared hbackup horiginal)).trans ?_
  refine (Prog.eval_bind_ok (eval_verifyPrepared hcandidate hupdate)).trans ?_
  cases handoff.naming <;> rfl

/-- A custom name is replaced in place. -/
theorem publishCustomNamed_ok {rollbackCandidate : WinPath}
    (hready : env.ReadyToPublish handoff installation files)
    (hrollback : updateRollbackCandidatePath handoff = .ok rollbackCandidate)
    (hpaths : validateCustomReplacementPaths handoff installation.installCandidate
      rollbackCandidate = .ok ()) :
    ∃ publication files', (env.publishCustomNamedUpdate handoff installation).eval files =
      (.ok publication, files') := by
  obtain ⟨original, hcurrent, _, horiginal⟩ := hready.original
  obtain ⟨update, hcandidate, hupdate⟩ := hready.candidate
  refine ⟨.replacedInPlace handoff.installPath,
    env.renamed files installation.installCandidate handoff.installPath update, ?_⟩
  unfold publishCustomNamedUpdate
  rw [hrollback]
  simp only [Prog.lift, Prog.ret_bind, hpaths]
  rw [Prog.eval_bind_ok (eval_verifyPrepared hcurrent horiginal),
    Prog.eval_bind_ok (eval_replace hcandidate),
    Prog.eval_bind_ok (Prog.eval_orElse_ok (eval_verifyPrepared fileAt_renamed hupdate))]
  rfl

/-- An official name is published beside the running program, unless it is its file. -/
theorem publishOfficiallyNamed_ok (hready : env.ReadyToPublish handoff installation files)
    (hother : handoff.installPath.key env.upcase ≠ handoff.currentExecutable.key env.upcase) :
    ∃ publication files', (env.publishOfficiallyNamedUpdate handoff installation).eval files =
      (.ok publication, files') := by
  obtain ⟨update, hcandidate, hupdate⟩ := hready.candidate
  have hne : handoff.installPath ≠ handoff.currentExecutable := fun hsame => hother (by rw [hsame])
  unfold publishOfficiallyNamedUpdate
  simp only [ensure, if_pos hne, Prog.lift, Prog.ret_bind]
  cases hdestination : env.fileAt files handoff.installPath with
  | some content =>
    have hpresent : (env.fileExists handoff.installPath).eval files = (.ok true, files) :=
      Prog.eval_query (by rw [hdestination]; rfl)
    have hcontent := (hready.destination content hdestination).resolve_right hother
    rw [Prog.eval_bind_ok hpresent]
    simp only [if_true]
    rw [Prog.eval_bind_ok (Prog.eval_orElse_ok (eval_verifyPrepared hdestination hcontent))]
    exact ⟨_, _, rfl⟩
  | none =>
    have hpresent : (env.fileExists handoff.installPath).eval files = (.ok false, files) :=
      Prog.eval_query (by rw [hdestination]; rfl)
    rw [Prog.eval_bind_ok hpresent]
    simp only [Bool.false_eq_true, if_false]
    rw [Prog.eval_bind_ok (eval_moveNew hcandidate hdestination),
      Prog.eval_bind_ok (Prog.eval_orElse_ok (eval_verifyPrepared fileAt_renamed hupdate))]
    exact ⟨_, _, rfl⟩

/-- What is published under an official name is neither the running program's path, nor another
program's file. -/
theorem publishOfficiallyNamed_inv {files files' : Volume}
    {publication : UpdateInstallationPublication}
    (h : (env.publishOfficiallyNamedUpdate handoff installation).eval files =
      (.ok publication, files')) :
    handoff.installPath ≠ handoff.currentExecutable ∧
      ∀ content, env.fileAt files handoff.installPath = some content →
        env.Matches content handoff.expectedSize.toNat handoff.expectedSha256Hex := by
  unfold publishOfficiallyNamedUpdate at h
  obtain ⟨⟨⟩, middle, hensure, h⟩ := Prog.eval_bind_eq_ok h
  have hne : handoff.installPath ≠ handoff.currentExecutable := by
    by_contra hsame
    rw [ensure, if_neg (not_not_intro hsame)] at hensure
    cases hensure
  simp only [ensure, if_pos hne] at hensure
  cases hensure
  refine ⟨hne, ?_⟩
  intro content hcontent
  have hpresent : (env.fileExists handoff.installPath).eval files = (.ok true, files) :=
    Prog.eval_query (by rw [hcontent]; rfl)
  rw [Prog.eval_bind_ok hpresent] at h
  simp only [if_true] at h
  obtain ⟨⟨⟩, middle, hverify, _⟩ := Prog.eval_bind_eq_ok h
  match hresult : (env.verifyPreparedInstallationFile handoff.installPath
      "existing official update executable" handoff.expectedSize.toNat
      handoff.expectedSha256Hex).eval files with
  | (.ok (), _) => exact matches_of_verifyPrepared hcontent hresult
  | (.error error, _) =>
    rw [Prog.eval_orElse_error hresult] at hverify
    cases hverify

/-! ### Planning and the checks -/

variable {kind : ReleaseArtifactKind} {plan : UpdateInstallPlan} {current localAppData : WinPath}
  {release : ReleaseInfo}
variable {directory : WinPath}

/-- Staging accepts what planning makes. -/
theorem validateUpdateStagingPlan_of_build
    (hplan : buildUpdateInstallPlan current localAppData release kind = .ok plan) :
    validateUpdateStagingPlan plan = .ok () := by
  obtain ⟨_, hlocal, directory, fileName, asset, version, _, hasset, hversion, rfl⟩ :=
    buildUpdateInstallPlan_eq_ok hplan
  have hsound := selectReleaseAsset_sound hversion hasset
  unfold validateUpdateStagingPlan
  refine bind_eq_ok.mpr ⟨(), ensure_eq_ok.mpr hlocal, ?_⟩
  refine bind_eq_ok.mpr ⟨(), ensure_eq_ok.mpr hsound.size_ne, ?_⟩
  refine bind_eq_ok.mpr ⟨(), ensure_eq_ok.mpr hsound.digest, ?_⟩
  refine bind_eq_ok.mpr ⟨(), hsound.url, ?_⟩
  refine bind_eq_ok.mpr ⟨(), ensure_eq_ok.mpr (isSingleFileName_expected hsound.name_mem), ?_⟩
  refine bind_eq_ok.mpr ⟨(), ensure_eq_ok.mpr rfl, ?_⟩
  refine bind_eq_ok.mpr ⟨(), checkReservedPath_join _ _ _, ?_⟩
  refine bind_eq_ok.mpr ⟨(), checkReservedPath_join _ _ _, ?_⟩
  exact checkReservedPath_join _ _ _

/-- The handoff plan of an install plan whose staged file has been verified. -/
def plannedHandoff (plan : UpdateInstallPlan) (processId : UInt32) : UpdateHandoffPlan where
  parentProcessId := processId
  artifactKind := plan.artifactKind
  naming := plan.naming
  currentExecutable := plan.currentExecutable
  installPath := plan.installPath
  stagingDirectory := plan.stagingDirectory
  stagedExecutable := plan.stagedExecutable
  backupExecutable := plan.backupExecutable
  handoffPlan := plan.handoffPlan
  startupMarker := plan.startupMarker
  expectedSize := plan.selectedAsset.size
  expectedSha256Hex := plan.selectedAsset.sha256Hex

theorem buildUpdateHandoffPlan_verified {processId : UInt32}
    (hstaging : validateUpdateStagingPlan plan = .ok ()) (hprocess : processId ≠ 0) :
    buildUpdateHandoffPlan plan (verifiedStagedUpdate plan) processId = .ok handoff ↔
      handoff = plannedHandoff plan processId ∧ (plannedHandoff plan processId).Accepted := by
  rw [← validateUpdateHandoffPlan_eq_ok]
  unfold buildUpdateHandoffPlan
  rw [hstaging, ok_bind]
  simp only [ensure, if_pos hprocess, verifiedStagedUpdate, if_true, ok_bind]
  show (validateUpdateHandoffPlan (plannedHandoff plan processId) >>= _) = _ ↔ _
  rw [bind_eq_ok]
  constructor
  · intro ⟨⟨⟩, hvalid, hresult⟩
    cases hresult
    exact ⟨rfl, hvalid⟩
  · intro ⟨hresult, hvalid⟩
    rw [hresult]
    exact ⟨(), hvalid, rfl⟩

/-- A staged file is none of the files that the updater keeps beside it. -/
theorem staged_ne_reserved {version : StableVersion} {name reserved : String}
    (hname : name ∈ kind.expectedAssetNames version) (hreserved : (osStr reserved).length < 34) :
    directory.join (osStr name) ≠ directory.join (osStr reserved) := by
  intro hsame
  have hlength := length_osStr_expected hname
  rw [(join_inj.mp hsame).2] at hlength
  omega

/-- The handoff plan is accepted unless the program runs from the staging directory under an
official name. -/
theorem plannedHandoff_accepted {processId : UInt32}
    (hplan : buildUpdateInstallPlan current localAppData release kind = .ok plan)
    (hprocess : processId ≠ 0) (hother : plan.naming = .publishedAssetName →
      current.parent ≠ some plan.stagingDirectory) :
    (plannedHandoff plan processId).Accepted := by
  obtain ⟨habsolute, hlocal, directory, fileName, asset, version, rfl, hasset, hversion, rfl⟩ :=
    buildUpdateInstallPlan_eq_ok hplan
  have hsound := selectReleaseAsset_sound hversion hasset
  have hofficial := isOfficialReleaseFileName_expected hsound.name_mem
  have hreserved : ∀ reserved : String, (osStr reserved).length < 34 →
      (stagingDirectoryFor localAppData kind version).join (osStr asset.name) ≠
        (stagingDirectoryFor localAppData kind version).join (osStr reserved) :=
    fun reserved => staged_ne_reserved hsound.name_mem
  have hstaged : (stagingDirectoryFor localAppData kind version).join (osStr asset.name) ≠
      directory.join fileName := by
    intro hsame
    obtain ⟨hdirectory, hname⟩ := join_inj.mp hsame
    rw [hname] at hofficial
    simp only [if_pos hofficial, parent_join] at hother
    exact hother trivial (by rw [hdirectory])
  have hinstall : (if isOfficialReleaseFileName fileName kind = true then
        directory.join (osStr asset.name) else directory.join fileName).isAbsolute = true ∧
      (stagingDirectoryFor localAppData kind version).join (osStr asset.name) ≠
        if isOfficialReleaseFileName fileName kind = true then
          directory.join (osStr asset.name) else directory.join fileName := by
    split
    · next hkind =>
        simp only [if_pos hkind, parent_join] at hother
        refine ⟨habsolute, fun hsame => hother trivial ?_⟩
        rw [(join_inj.mp hsame).1]
    · exact ⟨habsolute, hstaged⟩
  have hpaths : ∀ path : WinPath × String, path ∈ [(directory.join fileName, "current executable"),
      (if isOfficialReleaseFileName fileName kind = true then
        directory.join (osStr asset.name) else directory.join fileName, "install path"),
      (stagingDirectoryFor localAppData kind version, "staging directory"),
      ((stagingDirectoryFor localAppData kind version).join (osStr asset.name),
        "staged executable"),
      ((stagingDirectoryFor localAppData kind version).join (osStr updateBackupFile),
        "backup executable"),
      ((stagingDirectoryFor localAppData kind version).join (osStr updateHandoffFile),
        "handoff plan"),
      ((stagingDirectoryFor localAppData kind version).join (osStr updateStartupMarkerFile),
        "startup marker")] → path.1.isAbsolute = true := by
    simp only [List.forall_mem_cons, List.not_mem_nil, false_imp_iff, implies_true, and_true]
    exact ⟨habsolute, hinstall.1, hlocal, hlocal, hlocal, hlocal, hlocal⟩
  refine {
    processId_ne := hprocess
    size_ne := hsound.size_ne
    digest := hsound.digest
    absolute := hpaths
    staged := ⟨osStr asset.name, rfl, hofficial, ?_⟩
    backup := rfl
    handoffPlan := rfl
    startupMarker := rfl
    staged_ne := ?_ }
  · by_cases hkind : isOfficialReleaseFileName fileName kind = true
    · simp [plannedHandoff, checkHandoffNaming, hkind, ensure, bind, Except.bind]
    · simp [plannedHandoff, checkHandoffNaming, hkind, ensure]
  · rintro (hsame | hsame | hsame | hsame | hsame)
    · exact hstaged hsame
    · exact hinstall.2 hsame
    · exact hreserved updateBackupFile (by decide) hsame
    · exact hreserved updateHandoffFile (by decide) hsame
    · exact hreserved updateStartupMarkerFile (by decide) hsame

theorem updateInstallCandidatePath_join {name : List UInt16}
    (hinstall : handoff.installPath = directory.join name) :
    updateInstallCandidatePath handoff =
      .ok (directory.join (name ++ osStr updateInstallCandidateSuffix)) := by
  unfold updateInstallCandidatePath
  rw [hinstall, parent_join, fileName_join]
  rfl

theorem updateRollbackCandidatePath_join {name : List UInt16}
    (hinstall : handoff.installPath = directory.join name) :
    updateRollbackCandidatePath handoff =
      .ok (directory.join (name ++ osStr updateRollbackCandidateSuffix)) := by
  unfold updateRollbackCandidatePath
  rw [hinstall, parent_join, fileName_join]
  rfl

/-- A program whose file the new name names cannot be updated. -/
theorem names_differ_of_publication {fileName assetName : List UInt16} {update : Bytes}
    (hvalid : validateUpdateHandoffPlan handoff = .ok ())
    (hnaming : handoff.naming = .publishedAssetName)
    (hcurrent : handoff.currentExecutable = directory.join fileName)
    (hinstall : handoff.installPath = directory.join assetName)
    (hupdate : env.Matches update handoff.expectedSize.toNat handoff.expectedSha256Hex)
    (hpublish : ∀ installation files, env.ReadyToPublish handoff installation files →
      ∃ publication files', (env.publishPreparedUpdateInstallation handoff installation).eval
        files = (.ok publication, files')) :
    fileName.map env.upcase ≠ assetName.map env.upcase := by
  intro hsame
  have hlengths : fileName.length = assetName.length := by
    have hmapped := congrArg List.length hsame
    rw [List.length_map, List.length_map] at hmapped
    exact hmapped
  have hsuffix : (osStr updateInstallCandidateSuffix).length = 27 := by decide
  have hbackupName : (osStr updateBackupFile).length = 12 := by decide
  have hkeys : handoff.installPath.key env.upcase = handoff.currentExecutable.key env.upcase := by
    rw [hcurrent, hinstall, key_join, key_join, hsame]
  -- The running program is one byte longer than its update.
  let candidate := directory.join (assetName ++ osStr updateInstallCandidateSuffix)
  let original := update ++ [0]
  let installation : PreparedUpdateInstallation := {
    backupExecutable := handoff.backupExecutable
    installCandidate := candidate
    backupSize := original.length
    backupSha256Hex := env.sha256Hex original
    candidateSize := handoff.expectedSize.toNat
    candidateSha256Hex := handoff.expectedSha256Hex }
  let files : Volume := fun key =>
    if key = candidate.key env.upcase then some update else some original
  have hcandidateName : candidate.fileName =
      some (assetName ++ osStr updateInstallCandidateSuffix) := fileName_join _ _
  have hother : ∀ {path : WinPath} {name : List UInt16}, path.fileName = some name →
      name.length ≠ assetName.length + 27 → env.fileAt files path = some original := by
    intro path name hname hlength
    refine if_neg (key_ne_of_length hname hcandidateName ?_)
    rw [List.length_append, hsuffix]
    exact hlength
  have hinstalled : env.fileAt files handoff.installPath = some original :=
    hother (by rw [hinstall, fileName_join]) (by omega)
  have hready : env.ReadyToPublish handoff installation files := {
    backupPath := rfl
    candidatePath := updateInstallCandidatePath_join hinstall
    candidateReport := ⟨rfl, rfl⟩
    original := by
      refine ⟨original, ?_, ?_, rfl, rfl⟩
      · exact hother (by rw [hcurrent, fileName_join]) (by omega)
      · have hbackup := (validateUpdateHandoffPlan_eq_ok.mp hvalid).backup
        exact hother (by rw [hbackup, fileName_join]) (by omega)
    candidate := ⟨update, if_pos rfl, hupdate⟩
    destination := fun content hcontent => .inr hkeys }
  obtain ⟨publication, files', hresult⟩ := hpublish installation files hready
  rw [eval_publishPrepared hvalid hready, hnaming] at hresult
  have hmatches := (publishOfficiallyNamed_inv hresult).2 original hinstalled
  have hlength : (update ++ [0]).length = handoff.expectedSize.toNat := hmatches.1
  rw [List.length_append, hupdate.1] at hlength
  simp at hlength

/-- A plan that can be carried out is for a program that can stay beside its update. -/
theorem sideBySide_of_deliverable
    (hplan : buildUpdateInstallPlan current localAppData release kind = .ok plan)
    (hstaged : ∃ content, env.Matches content plan.selectedAsset.size.toNat
      plan.selectedAsset.sha256Hex) (hdeliverable : env.Deliverable plan) :
    env.SideBySide current localAppData release kind := by
  have hstaging := validateUpdateStagingPlan_of_build hplan
  obtain ⟨_, _, directory, fileName, asset, version, hcurrent, hasset, hversion, hfields⟩ :=
    buildUpdateInstallPlan_eq_ok hplan
  have hplanCurrent : plan.currentExecutable = directory.join fileName := by rw [hfields, hcurrent]
  intro directory' fileName' asset' version' hcurrent' hasset' hversion' hofficial
  rw [hcurrent] at hcurrent'
  obtain ⟨rfl, rfl⟩ := join_inj.mp hcurrent'
  rw [hasset] at hasset'
  cases hasset'
  rw [hversion] at hversion'
  cases hversion'
  have hinstall : plan.installPath = directory.join (osStr asset.name) := by
    rw [hfields]
    exact if_pos hofficial
  have hnaming : plan.naming = .publishedAssetName := by
    rw [hfields]
    exact if_pos hofficial
  obtain ⟨handoff, hbuild, hvalid, hpublish⟩ := hdeliverable.handoff 1 (by decide)
  obtain ⟨rfl, haccepted⟩ := (buildUpdateHandoffPlan_verified hstaging (by decide)).mp hbuild
  constructor
  · intro hsame
    apply haccepted.staged_ne
    right
    left
    show plan.stagedExecutable = plan.installPath
    rw [hinstall, hsame, hfields]
  · obtain ⟨content, hcontent⟩ := hstaged
    exact names_differ_of_publication hvalid hnaming hplanCurrent hinstall hcontent hpublish

theorem deliverable_of_sideBySide
    (hplan : buildUpdateInstallPlan current localAppData release kind = .ok plan)
    (hside : env.SideBySide current localAppData release kind) : env.Deliverable plan := by
  have hstaging := validateUpdateStagingPlan_of_build hplan
  obtain ⟨_, _, directory, fileName, asset, version, hcurrent, hasset, hversion, hfields⟩ :=
    buildUpdateInstallPlan_eq_ok hplan
  have hsound := selectReleaseAsset_sound hversion hasset
  have hplanCurrent : plan.currentExecutable = directory.join fileName := by rw [hfields, hcurrent]
  refine ⟨hstaging, fun processId hprocess => ?_⟩
  have haccepted : (plannedHandoff plan processId).Accepted := by
    refine plannedHandoff_accepted hplan hprocess ?_
    intro hnaming hparent
    rw [hcurrent, parent_join, hfields] at hparent
    rw [hfields] at hnaming
    have hofficial : isOfficialReleaseFileName fileName kind = true := by
      by_contra hcustom
      simp [hcustom] at hnaming
    exact (hside directory fileName asset version hcurrent hasset hversion hofficial).1
      (Option.some.inj hparent)
  have hvalid := validateUpdateHandoffPlan_eq_ok.mpr haccepted
  refine ⟨_, (buildUpdateHandoffPlan_verified hstaging hprocess).mpr ⟨rfl, haccepted⟩, hvalid, ?_⟩
  intro installation files hready
  rw [eval_publishPrepared hvalid hready]
  by_cases hofficial : isOfficialReleaseFileName fileName kind = true
  · have hnaming : (plannedHandoff plan processId).naming = .publishedAssetName := by
      show plan.naming = _
      rw [hfields]
      exact if_pos hofficial
    have hinstall : plan.installPath = directory.join (osStr asset.name) := by
      rw [hfields]
      exact if_pos hofficial
    rw [hnaming]
    apply publishOfficiallyNamed_ok hready
    show plan.installPath.key _ ≠ plan.currentExecutable.key _
    rw [hinstall, hplanCurrent, key_join, key_join]
    intro hsame
    exact (hside directory fileName asset version hcurrent hasset hversion hofficial).2
      (join_inj.mp hsame).2.symm
  · have hnaming : (plannedHandoff plan processId).naming = .preserveCurrentName := by
      show plan.naming = _
      rw [hfields]
      exact if_neg hofficial
    have hinstall : (plannedHandoff plan processId).installPath = directory.join fileName := by
      show plan.installPath = _
      rw [hfields, ← hcurrent]
      exact if_neg hofficial
    have hcandidate := hready.candidatePath
    rw [updateInstallCandidatePath_join hinstall] at hcandidate
    rw [hnaming]
    refine publishCustomNamed_ok hready (updateRollbackCandidatePath_join hinstall) ?_
    refine validateCustomReplacementPaths_ok hnaming hinstall hplanCurrent ?_
      (getLast?_expected hsound.name_mem) haccepted.backup haccepted.handoffPlan
      haccepted.startupMarker (Except.ok.inj hcandidate).symm
    show plan.stagedExecutable = plan.stagingDirectory.join (osStr asset.name)
    rw [hfields]

/-- A planned update can be delivered exactly when the program does not have an official name, or
the new name names another file and the program does not run from the staging directory. -/
theorem planned_update_deliverable (env : UpdateEnv) {current localAppData : WinPath}
    {release : ReleaseInfo} {kind : ReleaseArtifactKind} {plan : UpdateInstallPlan}
    (hplan : buildUpdateInstallPlan current localAppData release kind = .ok plan)
    (hstaged : ∃ content, env.Matches content plan.selectedAsset.size.toNat
      plan.selectedAsset.sha256Hex) :
    env.Deliverable plan ↔ env.SideBySide current localAppData release kind :=
  ⟨sideBySide_of_deliverable hplan hstaged, deliverable_of_sideBySide hplan⟩

end UpdateEnv

/-! ### An agent without a version in its name -/

/-- A release whose agent has no version in its name. -/
def unversionedRelease : ReleaseInfo where
  tagName := "v1.2.3"
  assets := [{
    id := 1
    name := "NetworkCopy-Speed-Agent-Windows-x64.exe"
    state := "uploaded"
    size := 1
    digest := some "sha256:ca978112ca1bbdcafac231b39a23dc4da786eff8147c4e72b9807785afee48bb"
    downloadUrl := "https://github.com/Nemeth-Tamas/networkcopy-speed/releases/download/a.exe" }]

/-- A directory of programs. -/
def toolsDirectory : WinPath := ⟨some (osStr "C:"), true, [.normal (osStr "Tools")]⟩

/-- An agent with this file name. -/
def agentExecutable (fileName : String) : WinPath := toolsDirectory.join (osStr fileName)

/-- The local data of a user. -/
def userAppData : WinPath := ⟨some (osStr "C:"), true, [.normal (osStr "Data")]⟩

/-- The agent of the release. -/
def unversionedAsset : SelectedReleaseAsset where
  id := 1
  name := "NetworkCopy-Speed-Agent-Windows-x64.exe"
  size := 1
  sha256Hex := "ca978112ca1bbdcafac231b39a23dc4da786eff8147c4e72b9807785afee48bb"
  downloadUrl := "https://github.com/Nemeth-Tamas/networkcopy-speed/releases/download/a.exe"

/-- The plan that installs the release for an agent. -/
def agentPlan (naming : UpdateInstallNaming) (fileName installName : String) :
    UpdateInstallPlan where
  artifactKind := .agent
  selectedAsset := unversionedAsset
  naming := naming
  currentExecutable := agentExecutable fileName
  installPath := agentExecutable installName
  stagingDirectory := stagingDirectoryFor userAppData .agent ⟨1, 2, 3⟩
  stagedExecutable :=
    (stagingDirectoryFor userAppData .agent ⟨1, 2, 3⟩).join (osStr unversionedAsset.name)
  backupExecutable :=
    (stagingDirectoryFor userAppData .agent ⟨1, 2, 3⟩).join (osStr updateBackupFile)
  handoffPlan := (stagingDirectoryFor userAppData .agent ⟨1, 2, 3⟩).join (osStr updateHandoffFile)
  startupMarker :=
    (stagingDirectoryFor userAppData .agent ⟨1, 2, 3⟩).join (osStr updateStartupMarkerFile)

/-- The upper case of ASCII, and the digests of the two files of one byte that matter here. -/
def sampleEnv : UpdateEnv where
  upcase := fun unit => if 0x61 ≤ unit ∧ unit ≤ 0x7A then unit - 0x20 else unit
  sha256Hex := fun content =>
    if content = [0x61] then "ca978112ca1bbdcafac231b39a23dc4da786eff8147c4e72b9807785afee48bb"
    else "3e23e8160039594a33894f6564e1b1348bbd7a0088d42c4acb73eeaed59c009d"

theorem parse_unversionedRelease :
    parseStableVersion unversionedRelease.tagName = .ok ⟨1, 2, 3⟩ := by
  with_unfolding_all rfl

theorem select_unversionedRelease :
    selectReleaseAsset unversionedRelease .agent = .ok unversionedAsset := by
  with_unfolding_all rfl

theorem build_agentPlan {fileName : String} :
    buildUpdateInstallPlan (agentExecutable fileName) userAppData unversionedRelease .agent =
      .ok (if isOfficialReleaseFileName (osStr fileName) .agent then
        agentPlan .publishedAssetName fileName unversionedAsset.name
      else agentPlan .preserveCurrentName fileName fileName) := by
  have habsolute : (toolsDirectory.join (osStr fileName)).isAbsolute = true := rfl
  have hlocal : userAppData.isAbsolute = true := rfl
  unfold buildUpdateInstallPlan
  simp only [ensure, if_pos habsolute, if_pos hlocal, agentExecutable, parent_join,
    fileName_join, okOrElse, select_unversionedRelease, parse_unversionedRelease, ok_bind]
  by_cases hofficial : isOfficialReleaseFileName (osStr fileName) .agent = true
  · simp only [if_pos hofficial]
    rfl
  · simp only [if_neg hofficial]
    rfl

/-- An agent with a name of its own. -/
theorem planned_update_deliverable_custom :
    buildUpdateInstallPlan (agentExecutable "a.exe") userAppData unversionedRelease .agent =
      .ok (agentPlan .preserveCurrentName "a.exe" "a.exe") ∧
    (sampleEnv.Deliverable (agentPlan .preserveCurrentName "a.exe" "a.exe") ↔
      sampleEnv.SideBySide (agentExecutable "a.exe") userAppData unversionedRelease .agent) := by
  have hplan : buildUpdateInstallPlan (agentExecutable "a.exe") userAppData unversionedRelease
      .agent = .ok (agentPlan .preserveCurrentName "a.exe" "a.exe") := by
    have hcustom : isOfficialReleaseFileName (osStr "a.exe") .agent = false := by rfl
    rw [build_agentPlan, hcustom]
    rfl
  exact ⟨hplan, UpdateEnv.planned_update_deliverable sampleEnv hplan
    ⟨[0x61], by decide, by decide⟩⟩

/-- The agent under the very name that the release has for it is staged and verified, and cannot be
published. -/
theorem unversioned_agent_not_deliverable :
    buildUpdateInstallPlan (agentExecutable unversionedAsset.name) userAppData unversionedRelease
      .agent = .ok (agentPlan .publishedAssetName unversionedAsset.name unversionedAsset.name) ∧
    sampleEnv.Matches [0x61] unversionedAsset.size.toNat unversionedAsset.sha256Hex ∧
    ¬ sampleEnv.Deliverable
      (agentPlan .publishedAssetName unversionedAsset.name unversionedAsset.name) := by
  have hmem : unversionedAsset.name ∈ ReleaseArtifactKind.agent.expectedAssetNames ⟨1, 2, 3⟩ :=
    (selectReleaseAsset_sound parse_unversionedRelease select_unversionedRelease).name_mem
  have hofficial := isOfficialReleaseFileName_expected hmem
  have hplan : buildUpdateInstallPlan (agentExecutable unversionedAsset.name) userAppData
      unversionedRelease .agent =
        .ok (agentPlan .publishedAssetName unversionedAsset.name unversionedAsset.name) := by
    rw [build_agentPlan, if_pos hofficial]
  have hmatches : sampleEnv.Matches [0x61] unversionedAsset.size.toNat
      unversionedAsset.sha256Hex := ⟨by decide, by decide⟩
  refine ⟨hplan, hmatches, fun hdeliverable => ?_⟩
  have hside := UpdateEnv.sideBySide_of_deliverable hplan ⟨[0x61], hmatches⟩ hdeliverable
  exact (hside toolsDirectory _ _ _ rfl select_unversionedRelease parse_unversionedRelease hofficial).2 rfl

end NetworkCopy
