import NetworkCopy.Lib.ByteReader
import NetworkCopy.Lib.Endings
import NetworkCopy.Update.Delivery

/-!
# Cleaning up after an update

The new program removes the files of its update, in a fixed order, and the staging directory.  The
handoff plan goes last: as long as it is there, `recover_interrupted_update_cleanup_from_handoff`
can do the rest after a crash.  It reads the plan and the startup marker, checks that it runs in the
installed program, and removes the same files again.

Files are compared by the key of the volume, recorded paths and directory entries as `Path` compares
them.  A listing of the staging directory has the names under which its files are stored, and those
of its subdirectories.
-/

namespace NetworkCopy

open Crash ByteOrder

/-- `UPDATE_PARTIAL_SUFFIX`, `UPDATE_HANDOFF_PARTIAL_SUFFIX` and
`UPDATE_STARTUP_MARKER_PARTIAL_SUFFIX`. -/
def updatePartialSuffix : String := ".partial"

/-! ## Records -/

/-- `UPDATE_HANDOFF_MAGIC`: `NCH1`. -/
def updateHandoffMagic : Bytes := [0x4E, 0x43, 0x48, 0x31]

/-- `UPDATE_HANDOFF_VERSION`. -/
def updateHandoffVersion : Nat := 1

/-- `UPDATE_HANDOFF_MAX_BYTES`. -/
def updateHandoffMaxBytes : Nat := 1024 * 1024

/-- `UPDATE_HANDOFF_MAX_PATH_UTF16_UNITS`. -/
def updateHandoffMaxPathUnits : Nat := 32767

/-- `UPDATE_HANDOFF_DIGEST_BYTES`. -/
def updateHandoffDigestBytes : Nat := 32

/-- `UPDATE_STARTUP_MARKER_MAGIC`: `NCS1`. -/
def updateStartupMarkerMagic : Bytes := [0x4E, 0x43, 0x53, 0x31]

/-- `UPDATE_STARTUP_MARKER_VERSION`. -/
def updateStartupMarkerVersion : Nat := 1

/-- `UPDATE_STARTUP_MARKER_BYTES`. -/
def updateStartupMarkerBytes : Nat := 4 + 2 + 4 + 8 + sha256HexLength

/-- `UpdateStartupMarker`. -/
structure UpdateStartupMarker where
  processId : UInt32
  expectedSize : UInt64
  expectedSha256Hex : String
  deriving DecidableEq, Repr

/-- `UpdateRecoveryOutcome`. -/
inductive UpdateRecoveryOutcome where
  | noTransaction
  | deferredActiveStartup (stagingDirectory : WinPath) (processId : UInt32)
  | cleaned (stagingDirectory : WinPath) (startupMarkerPresent : Bool)
  deriving DecidableEq, Repr

/-- `invalid_handoff`. -/
def invalidHandoff (message : String) : IoError := .invalidData message

/-- A reader of a record. -/
abbrev RecordReader (α : Type) := ByteReader IoError α

/-- `UpdateHandoffReader::read_array`. -/
def readHandoffArray (length : Nat) (label : String) : RecordReader Bytes :=
  ByteReader.take length (invalidHandoff ("update handoff " ++ label ++ " is truncated"))

/-- `UpdateHandoffReader::read_u8`, `read_u16`, `read_u32` and `read_u64`. -/
def readHandoffUint (width : Nat) (label : String) : RecordReader Nat :=
  ByteReader.uint width (invalidHandoff ("update handoff " ++ label ++ " is truncated"))

/-- `UpdateHandoffReader::read_path`.  `pathOf` is `PathBuf::from(OsString::from_wide(units))`. -/
def readHandoffPath (pathOf : List UInt16 → WinPath) (label : String) : RecordReader WinPath := do
  let unitCount ← readHandoffUint 4 (label ++ " UTF-16 unit count")
  ByteReader.check (unitCount ≠ 0) (invalidHandoff ("update handoff " ++ label ++ " path is empty"))
  ByteReader.check (unitCount ≤ updateHandoffMaxPathUnits)
    (invalidHandoff ("update handoff " ++ label ++ " path contains " ++ toString unitCount ++
      " UTF-16 units, exceeding the " ++ toString updateHandoffMaxPathUnits ++ "-unit limit"))
  let units ← ByteReader.many unitCount (readHandoffUint 2 (label ++ " UTF-16 contents"))
  ByteReader.check (0 ∉ units)
    (invalidHandoff ("update handoff " ++ label ++ " path contains a null UTF-16 unit"))
  return pathOf (units.map UInt16.ofNat)

/-- `decode_artifact_kind`. -/
def decodeArtifactKind : Nat → IoResult ReleaseArtifactKind
  | 1 => .ok .manager
  | 2 => .ok .agent
  | 3 => .ok .cli
  | 4 => .ok .guiHungarian
  | 5 => .ok .guiEnglish
  | code => .error (invalidHandoff s!"unknown update handoff artifact kind {code}")

/-- `decode_install_naming`. -/
def decodeInstallNaming : Nat → IoResult UpdateInstallNaming
  | 1 => .ok .publishedAssetName
  | 2 => .ok .preserveCurrentName
  | code => .error (invalidHandoff s!"unknown update handoff install naming {code}")

/-- `encode_lower_hex`. -/
def encodeLowerHex (bytes : Bytes) : String :=
  String.ofList (bytes.flatMap (fun byte =>
    [Nat.digitChar (byte.toNat / 16), Nat.digitChar (byte.toNat % 16)]))

/-- The fields of `decode_update_handoff_plan`. -/
def readHandoffFields (pathOf : List UInt16 → WinPath) : RecordReader UpdateHandoffPlan := do
  let magic ← readHandoffArray 4 "handoff magic"
  ByteReader.check (magic = updateHandoffMagic) (invalidHandoff "update handoff magic is invalid")
  let version ← readHandoffUint 2 "handoff version"
  ByteReader.check (version = updateHandoffVersion)
    (invalidHandoff s!"unsupported update handoff version {version}; expected 1")
  let headerReserved ← readHandoffUint 2 "header reserved value"
  ByteReader.check (headerReserved = 0)
    (invalidHandoff "update handoff header reserved value is not zero")
  let parentProcessId ← readHandoffUint 4 "parent process ID"
  let kindCode ← readHandoffUint 1 "artifact kind"
  let artifactKind ← decodeArtifactKind kindCode
  let namingCode ← readHandoffUint 1 "install naming"
  let naming ← decodeInstallNaming namingCode
  let namingReserved ← readHandoffUint 2 "naming reserved value"
  ByteReader.check (namingReserved = 0)
    (invalidHandoff "update handoff naming reserved value is not zero")
  let expectedSize ← readHandoffUint 8 "expected executable size"
  let digest ← readHandoffArray updateHandoffDigestBytes "SHA-256 digest"
  let currentExecutable ← readHandoffPath pathOf "current executable"
  let installPath ← readHandoffPath pathOf "install path"
  let stagingDirectory ← readHandoffPath pathOf "staging directory"
  let stagedExecutable ← readHandoffPath pathOf "staged executable"
  let backupExecutable ← readHandoffPath pathOf "backup executable"
  let handoffPlan ← readHandoffPath pathOf "handoff plan"
  let startupMarker ← readHandoffPath pathOf "startup marker"
  return {
    parentProcessId := UInt32.ofNat parentProcessId
    artifactKind
    naming
    currentExecutable
    installPath
    stagingDirectory
    stagedExecutable
    backupExecutable
    handoffPlan
    startupMarker
    expectedSize := UInt64.ofNat expectedSize
    expectedSha256Hex := encodeLowerHex digest }

/-- `decode_update_handoff_plan`. -/
def decodeUpdateHandoffPlan (pathOf : List UInt16 → WinPath) (encoded : Bytes) :
    IoResult UpdateHandoffPlan := do
  ensure (encoded.length ≤ updateHandoffMaxBytes) (.invalidData
    ("encoded update handoff plan exceeds the " ++ toString updateHandoffMaxBytes ++
      "-byte limit"))
  let (plan, rest) ← (readHandoffFields pathOf).run encoded
  ensure (rest = []) (invalidHandoff
    ("update handoff contains " ++ toString rest.length ++ " trailing byte(s)"))
  validateUpdateHandoffPlan plan
  return plan

/-- `validate_update_startup_marker`. -/
def validateUpdateStartupMarker (marker : UpdateStartupMarker) : IoResult Unit := do
  ensure (marker.processId ≠ 0)
    (.invalidData "update startup marker contains an invalid zero process ID")
  ensure (marker.expectedSize ≠ 0)
    (.invalidData "update startup marker contains an invalid zero-byte size")
  ensure (isSha256Hex marker.expectedSha256Hex) (.invalidData
    "update startup marker SHA-256 must contain exactly 64 lowercase hexadecimal characters")

/-- `decode_update_startup_marker`. -/
def decodeUpdateStartupMarker (encoded : Bytes) : IoResult UpdateStartupMarker := do
  ensure (encoded.length = updateStartupMarkerBytes) (.invalidData
    ("update startup marker contains " ++ toString encoded.length ++ " bytes, expected " ++
      toString updateStartupMarkerBytes))
  ensure (encoded.take 4 = updateStartupMarkerMagic)
    (.invalidData "update startup marker has an invalid magic value")
  let version := leValue ((encoded.drop 4).take 2)
  ensure (version = updateStartupMarkerVersion)
    (.invalidData s!"update startup marker version {version} is unsupported")
  let expectedSha256Hex ← okOrElse (String.fromUTF8? (encoded.drop 18).toByteArray)
    (.invalidData "update startup marker SHA-256 is not valid UTF-8")
  let marker : UpdateStartupMarker := {
    processId := UInt32.ofNat (leValue ((encoded.drop 6).take 4))
    expectedSize := UInt64.ofNat (leValue ((encoded.drop 10).take 8))
    expectedSha256Hex }
  validateUpdateStartupMarker marker
  return marker

/-- `validate_startup_marker_for_handoff`. -/
def validateStartupMarkerForHandoff (marker : UpdateStartupMarker) (handoff : UpdateHandoffPlan) :
    IoResult Unit := do
  ensure (marker.expectedSize = handoff.expectedSize) (.invalidData
    ("update startup marker records " ++ toString marker.expectedSize ++ " bytes, expected " ++
      toString handoff.expectedSize))
  ensure (marker.expectedSha256Hex = handoff.expectedSha256Hex)
    (.invalidData "update startup marker SHA-256 does not match the handoff")

/-! ## The files of a transaction -/

/-- A path with a text behind it, as `push` on its `OsString` makes it. -/
def WinPath.withSuffix (path : WinPath) (ending : String) : WinPath :=
  match path.components.getLast? with
  | some (.normal name) =>
      { path with components := path.components.dropLast ++ [.normal (name ++ osStr ending)] }
  | _ => path

/-- `successful_update_cleanup_paths`. -/
def successfulUpdateCleanupPaths (handoff : UpdateHandoffPlan) : IoResult (List WinPath) := do
  let installCandidate ← updateInstallCandidatePath handoff
  let rollbackCandidate ← updateRollbackCandidatePath handoff
  let stagedPartial := handoff.stagedExecutable.withSuffix updatePartialSuffix
  let backupPartial := updateBackupPartialPath handoff.stagingDirectory
  let handoffPartial :=
    handoff.stagingDirectory.join (osStr (updateHandoffFile ++ updatePartialSuffix))
  let startupMarkerPartial := handoff.startupMarker.withSuffix updatePartialSuffix
  return [handoff.stagedExecutable, installCandidate, rollbackCandidate, stagedPartial,
    backupPartial, handoffPartial, startupMarkerPartial, handoff.backupExecutable,
    handoff.startupMarker, handoff.handoffPlan]

/-! ## Cleaning up -/

/-- What recovery asks of its surroundings: how units spell a path, its own process, and whether
another process can be opened (`open_parent_process`). -/
structure RecoveryEnv extends UpdateEnv where
  pathOf : List UInt16 → WinPath
  processId : UInt32
  openProcess : UInt32 → IoResult Bool

/-- The names that a directory has for its files, and its subdirectories. -/
structure DirectoryListing where
  fileNames : List (List UInt16)
  subdirectories : List (List UInt16)
  deriving DecidableEq, Repr

namespace RecoveryEnv

variable (env : RecoveryEnv) (entries : DirectoryListing)

/-- The subdirectories, and the files that are still there. -/
def presentEntries (directory : WinPath) (files : Volume) : List (List UInt16) :=
  entries.subdirectories ++
    entries.fileNames.filter (fun name => (env.fileAt files (directory.join name)).isSome)

/-- `validate_successful_cleanup_directory`. -/
def validateSuccessfulCleanupDirectory (handoff : UpdateHandoffPlan)
    (cleanupPaths : List WinPath) : FileProg Unit := do
  let present ← .query (fun files => .ok (env.presentEntries entries handoff.stagingDirectory files))
  .lift (checkAll (fun name =>
    let path := handoff.stagingDirectory.join name
    ensure (path ∈ cleanupPaths) (.invalidData
      ("successful update staging directory contains an unknown entry that will not be deleted: " ++
        path.debug))) present)

/-- `fs::remove_dir`. -/
def removeDirectory (directory : WinPath) : FileProg Unit :=
  .query (fun files => ensure (env.presentEntries entries directory files = []) (osError .other))

/-- `remove_successful_update_transaction_files`. -/
def removeSuccessfulUpdateTransactionFiles (handoff : UpdateHandoffPlan) : FileProg Unit := do
  .lift (validateUpdateHandoffPlan handoff)
  let cleanupPaths ← .lift (successfulUpdateCleanupPaths handoff)
  env.validateSuccessfulCleanupDirectory entries handoff cleanupPaths
  .each env.removeFileIfExists cleanupPaths
  env.removeDirectory entries handoff.stagingDirectory

/-! ## Recovery -/

/-- `read_update_handoff_plan`. -/
def readUpdateHandoffPlan (path : WinPath) : FileProg UpdateHandoffPlan := do
  .lift (ensure path.isAbsolute (.invalidInput "update handoff path must be absolute"))
  let encoded ← env.readFile path
  .lift (ensure (encoded.length ≤ updateHandoffMaxBytes) (.invalidData
    ("update handoff file exceeds the " ++ toString updateHandoffMaxBytes ++ "-byte limit")))
  let handoff ← .lift (decodeUpdateHandoffPlan env.pathOf encoded)
  .lift (ensure (handoff.handoffPlan = path) (.invalidData
    ("update handoff file was loaded from " ++ path.debug ++ ", but its encoded path is " ++
      handoff.handoffPlan.debug)))
  return handoff

/-- `read_update_startup_marker`. -/
def readUpdateStartupMarker (path : WinPath) : FileProg UpdateStartupMarker := do
  let encoded ← env.readFile path
  .lift (decodeUpdateStartupMarker encoded)

/-- `fs::canonicalize` of a file. -/
def canonicalize (path : WinPath) : FileProg WinPath :=
  .query (fun files =>
    if (env.fileAt files path).isSome then .ok (path.key env.upcase)
    else .error (osError .notFound))

/-- `validate_recovery_installed_identity`. -/
def validateRecoveryInstalledIdentity (currentExecutable : WinPath) (handoff : UpdateHandoffPlan) :
    FileProg Unit := do
  .lift (ensure currentExecutable.isAbsolute (.invalidInput
    ("running executable path is not absolute during update recovery: " ++
      currentExecutable.debug)))
  let canonicalCurrent ← env.canonicalize currentExecutable
  let canonicalInstalled ← env.canonicalize handoff.installPath
  .lift (ensure (canonicalCurrent = canonicalInstalled) (.invalidData
    ("stale update transaction belongs to " ++ canonicalInstalled.debug ++
      ", but the running executable is " ++ canonicalCurrent.debug)))
  env.verifyPreparedInstallationFile currentExecutable
    "running executable during stale update recovery" handoff.expectedSize.toNat
    handoff.expectedSha256Hex

/-- `open_parent_process`. -/
def openParentProcess (processId : UInt32) : IoResult Bool := do
  ensure (processId ≠ 0)
    (.invalidInput "update handoff parent process ID must not be zero")
  ensure (processId ≠ env.processId)
    (.invalidInput "update helper cannot wait for its own process")
  env.openProcess processId

/-- The end of `recover_interrupted_update_cleanup_from_handoff`. -/
def finishCleanup (handoff : UpdateHandoffPlan) (startupMarkerPresent : Bool) :
    FileProg UpdateRecoveryOutcome := do
  env.removeSuccessfulUpdateTransactionFiles entries handoff
  return .cleaned handoff.stagingDirectory startupMarkerPresent

/-- The part of `recover_interrupted_update_cleanup_from_handoff` behind the plan. -/
def recoverFromPlan (currentExecutable handoffPath : WinPath)
    (expectedArtifactKind : ReleaseArtifactKind) (handoff : UpdateHandoffPlan) :
    FileProg UpdateRecoveryOutcome := do
  .lift (ensure (handoff.artifactKind = expectedArtifactKind) (.invalidData
    ("stale update transaction targets " ++ handoff.artifactKind.label ++
      ", but recovery expects " ++ expectedArtifactKind.label)))
  let expectedStagingDirectory ← .lift (okOrElse handoffPath.parent
    (.invalidInput "stale update handoff path has no parent directory"))
  .lift (ensure (handoff.handoffPlan = handoffPath) (.invalidData
    ("stale update handoff records " ++ handoff.handoffPlan.debug ++ ", but recovery opened " ++
      handoffPath.debug)))
  .lift (ensure (handoff.stagingDirectory = expectedStagingDirectory) (.invalidData
    ("stale update handoff records staging directory " ++ handoff.stagingDirectory.debug ++
      ", expected " ++ expectedStagingDirectory.debug)))
  env.validateRecoveryInstalledIdentity currentExecutable handoff
  let marker ← (do return some (← env.readUpdateStartupMarker handoff.startupMarker) :
    FileProg (Option UpdateStartupMarker)).orElse (fun error =>
      if error.kind = .notFound then .ret none else .fail error)
  match marker with
  | none => env.finishCleanup entries handoff false
  | some marker => do
      .lift (validateStartupMarkerForHandoff marker handoff)
      .lift (ensure (marker.processId ≠ env.processId) (.invalidData
        "stale update marker unexpectedly belongs to the running recovery process"))
      let alive ← .lift (env.openParentProcess marker.processId)
      if alive then return .deferredActiveStartup handoff.stagingDirectory marker.processId
      else env.finishCleanup entries handoff true

/-- `recover_interrupted_update_cleanup_from_handoff`. -/
def recoverInterruptedUpdateCleanupFromHandoff (currentExecutable handoffPath : WinPath)
    (expectedArtifactKind : ReleaseArtifactKind) : FileProg UpdateRecoveryOutcome := do
  let present ← env.fileExists handoffPath
  if present then do
    let handoff ← env.readUpdateHandoffPlan handoffPath
    env.recoverFromPlan entries currentExecutable handoffPath expectedArtifactKind handoff
  else return .noTransaction

end RecoveryEnv

/-! ## Names of the transaction -/

theorem WinPath.withSuffix_join (directory : WinPath) (name : List UInt16) (ending : String) :
    (directory.join name).withSuffix ending = directory.join (name ++ osStr ending) := by
  simp [withSuffix, join]

theorem length_le_osStr (text : String) : text.toList.length ≤ (osStr text).length := by
  unfold osStr
  rw [List.length_flatMap]
  have hunits : ∀ c : Char, 1 ≤ (wideUnits c).length := by
    intro c
    unfold wideUnits
    split <;> simp
  induction text.toList with
  | nil => exact Nat.le_refl _
  | cons c rest ih =>
    have hc := hunits c
    simp only [List.length_cons, List.map_cons, List.sum_cons]
    omega

/-- An official name is longer than the names that the updater reserves. -/
theorem length_of_official {name : List UInt16} {kind : ReleaseArtifactKind}
    (h : isOfficialReleaseFileName name kind = true) : 19 ≤ name.length := by
  unfold isOfficialReleaseFileName at h
  split at h
  · cases h
  · next text htext =>
      have hname : osStr text = name := by
        unfold toStr at htext
        simp only at htext
        split at htext
        · next hsame =>
            cases htext
            exact hsame
        · cases htext
      have hle := length_le_osStr text
      rw [hname] at hle
      split at h
      · next hunversioned =>
          have hlengths : text.toList.length = kind.unversionedName.toList.length := by
            have hmapped := congrArg List.length (eq_of_beq hunversioned)
            rw [List.length_map, List.length_map] at hmapped
            exact hmapped
          have hstart : officialStart.length = 18 := by rfl
          have hend : officialEnd.length = 16 := by rfl
          rw [hlengths, ReleaseArtifactKind.unversionedName, String.toList_ofList,
            List.length_append, List.length_append, hstart, hend] at hle
          omega
      · simp only at h
        split at h
        · cases h
        · next version hversion =>
            obtain ⟨rest, hstart, _⟩ := Option.bind_eq_some_iff.mp hversion
            unfold stripStart at hstart
            split at hstart
            · next hprefix =>
                have hfront := (List.isPrefixOf_iff_prefix.mp hprefix).length_le
                have hlength : "networkcopy-speed-v".toList.length = 19 := by rfl
                rw [hlength, List.length_map] at hfront
                omega
            · cases hstart

/-- The files that are removed, for an installed program with a file name. -/
theorem successfulUpdateCleanupPaths_eq {handoff : UpdateHandoffPlan} {directory : WinPath}
    {name stagedName : List UInt16} (haccepted : handoff.Accepted)
    (hinstall : handoff.installPath = directory.join name)
    (hstaged : handoff.stagedExecutable = handoff.stagingDirectory.join stagedName) :
    successfulUpdateCleanupPaths handoff = .ok (
      [handoff.stagingDirectory.join stagedName,
        directory.join (name ++ osStr updateInstallCandidateSuffix),
        directory.join (name ++ osStr updateRollbackCandidateSuffix),
        handoff.stagingDirectory.join (stagedName ++ osStr updatePartialSuffix),
        handoff.stagingDirectory.join (osStr updateBackupPartialFile),
        handoff.stagingDirectory.join (osStr (updateHandoffFile ++ updatePartialSuffix)),
        handoff.stagingDirectory.join (osStr updateStartupMarkerFile ++ osStr updatePartialSuffix),
        handoff.stagingDirectory.join (osStr updateBackupFile),
        handoff.stagingDirectory.join (osStr updateStartupMarkerFile)] ++
      [handoff.stagingDirectory.join (osStr updateHandoffFile)]) := by
  unfold successfulUpdateCleanupPaths
  rw [UpdateEnv.updateInstallCandidatePath_join hinstall,
    UpdateEnv.updateRollbackCandidatePath_join hinstall, ok_bind, ok_bind, haccepted.startupMarker,
    haccepted.backup, haccepted.handoffPlan, hstaged, WinPath.withSuffix_join,
    WinPath.withSuffix_join]
  rfl

/-- The handoff plan goes last, and no other file of the transaction is it. -/
theorem successfulUpdateCleanupPaths_last {handoff : UpdateHandoffPlan} {directory : WinPath}
    {name : List UInt16} {paths : List WinPath} {upcase : UInt16 → UInt16}
    (haccepted : handoff.Accepted) (hinstall : handoff.installPath = directory.join name)
    (hpaths : successfulUpdateCleanupPaths handoff = .ok paths) :
    ∃ others, paths = others ++ [handoff.handoffPlan] ∧
      ∀ path ∈ others, path.key upcase ≠ handoff.handoffPlan.key upcase := by
  obtain ⟨stagedName, hstaged, hofficial, _⟩ := haccepted.staged
  rw [successfulUpdateCleanupPaths_eq haccepted hinstall hstaged] at hpaths
  cases hpaths
  refine ⟨_, by rw [haccepted.handoffPlan], ?_⟩
  have hlong := length_of_official hofficial
  have hplan : (osStr updateHandoffFile).length = 16 := by decide
  have hname : ∀ {place : WinPath} {other : List UInt16}, other.length ≠ 16 →
      (place.join other).key upcase ≠ handoff.handoffPlan.key upcase := by
    intro place other hlength
    refine WinPath.key_ne_of_length (WinPath.fileName_join _ _)
      (by rw [haccepted.handoffPlan]; exact WinPath.fileName_join _ _) ?_
    rw [hplan]
    exact hlength
  have hcandidate : (osStr updateInstallCandidateSuffix).length = 27 := by decide
  have hrollback : (osStr updateRollbackCandidateSuffix).length = 29 := by decide
  have hpartial : (osStr updatePartialSuffix).length = 8 := by decide
  have hmarker : (osStr updateStartupMarkerFile).length = 17 := by decide
  intro path hpath
  simp only [List.mem_cons, List.not_mem_nil, or_false] at hpath
  rcases hpath with rfl | rfl | rfl | rfl | rfl | rfl | rfl | rfl | rfl <;> apply hname
  · omega
  · rw [List.length_append, hcandidate]
    omega
  · rw [List.length_append, hrollback]
    omega
  · rw [List.length_append, hpartial]
    omega
  · decide
  · decide
  · rw [List.length_append, hpartial, hmarker]
    decide
  · decide
  · rw [hmarker]
    decide

/-! ## Removing files -/

namespace RecoveryEnv

variable {env : RecoveryEnv} {entries : DirectoryListing}
variable {paths : List WinPath} {files : Volume}

/-- The volume without some files. -/
def removeAll (env : RecoveryEnv) (paths : List WinPath) (files : Volume) : Volume :=
  paths.foldl (fun files path => env.setFile files path none) files

theorem fileAt_setFile_none (files : Volume) (path other : WinPath) :
    env.fileAt (env.setFile files path none) other =
      if other.key env.upcase = path.key env.upcase then none else env.fileAt files other := by
  unfold UpdateEnv.fileAt UpdateEnv.setFile
  rw [Function.update_apply]

theorem fileAt_removeAll_of_ne {other : WinPath}
    (h : ∀ path ∈ paths, path.key env.upcase ≠ other.key env.upcase) :
    env.fileAt (env.removeAll paths files) other = env.fileAt files other := by
  induction paths generalizing files with
  | nil => rfl
  | cons path rest ih =>
    rw [removeAll, List.foldl_cons]
    refine (ih (fun p hp => h p (List.mem_cons_of_mem _ hp))).trans ?_
    rw [fileAt_setFile_none, if_neg (fun hsame => h path List.mem_cons_self hsame.symm)]

/-- Nothing that is absent comes back. -/
theorem fileAt_removeAll_none {other : WinPath} (h : env.fileAt files other = none) :
    env.fileAt (env.removeAll paths files) other = none := by
  induction paths generalizing files with
  | nil => exact h
  | cons path rest ih =>
    rw [removeAll, List.foldl_cons]
    apply ih
    rw [fileAt_setFile_none, h, ite_self]

theorem fileAt_removeAll_of_mem {path : WinPath} (h : path ∈ paths) :
    env.fileAt (env.removeAll paths files) path = none := by
  induction paths generalizing files with
  | nil => cases h
  | cons first rest ih =>
    rw [removeAll, List.foldl_cons]
    cases List.mem_cons.mp h with
    | inl hsame =>
      apply fileAt_removeAll_none
      rw [fileAt_setFile_none, if_pos (by rw [hsame])]
    | inr hrest => exact ih hrest

theorem removeAll_append (front rest : List WinPath) (files : Volume) :
    env.removeAll (front ++ rest) files = env.removeAll rest (env.removeAll front files) :=
  List.foldl_append

/-- What is left after a removal was there before. -/
theorem presentEntries_removeAll {directory : WinPath} {name : List UInt16}
    (h : name ∈ env.presentEntries entries directory (env.removeAll paths files)) :
    name ∈ env.presentEntries entries directory files := by
  cases List.mem_append.mp h with
  | inl hsubdirectory => exact List.mem_append_left _ hsubdirectory
  | inr hfile =>
    obtain ⟨hentry, hpresent⟩ := List.mem_filter.mp hfile
    refine List.mem_append_right _ (List.mem_filter.mpr ⟨hentry, ?_⟩)
    by_contra habsent
    rw [Bool.not_eq_true, Option.isSome_eq_false_iff, Option.isNone_iff_eq_none] at habsent
    rw [fileAt_removeAll_none habsent] at hpresent
    cases hpresent

/-! ### Runs of the removal -/

/-- Only known entries are in the staging directory. -/
def OnlyKnown (env : RecoveryEnv) (entries : DirectoryListing) (handoff : UpdateHandoffPlan)
    (paths : List WinPath) (files : Volume) : Prop :=
  ∀ name ∈ env.presentEntries entries handoff.stagingDirectory files,
    handoff.stagingDirectory.join name ∈ paths

/-- How far a removal has come. -/
def Progress (env : RecoveryEnv) (entries : DirectoryListing) (handoff : UpdateHandoffPlan)
    (files state : Volume) : Prop :=
  state = files ∨ ∃ paths front rest, successfulUpdateCleanupPaths handoff = .ok paths ∧
    env.OnlyKnown entries handoff paths files ∧ paths = front ++ rest ∧
    state = env.removeAll front files

section

variable {I : Volume → Prop} {α : Type}

/-- A look at one state. -/
theorem query_alone {f : Volume → IoResult α} {start : Volume} :
    (Prog.query f : FileProg α).Alone I (fun state => state = start)
      (fun value state => f start = .ok value ∧ state = start) := by
  apply Prog.triple_query (Prog.stable_eq _) (fun _ => Prog.stable_eq _)
  intro state value hstate hvalue
  rw [hstate] at hvalue
  exact ⟨hvalue, hstate⟩

theorem lift_alone {result : IoResult α} {P : Volume → Prop} :
    (Prog.lift result : FileProg α).Alone I P (fun value state => result = .ok value ∧ P state) :=
  Prog.triple_lift (fun _ => Prog.stable_eq _) (fun _ hvalue _ hstate => ⟨hvalue, hstate⟩)

theorem removeFileIfExists_alone {path : WinPath} {start : Volume}
    (hI : I (env.setFile start path none)) :
    (env.removeFileIfExists path).Alone I (fun state => state = start)
      (fun _ state => state = env.setFile start path none) := by
  intro state hstate moved hmoved
  subst hstate hmoved
  refine ⟨?_, fun _ => trivial⟩
  intro state' hrun
  cases hrun
  refine ⟨.inr hI, ?_⟩
  intro final hfinal
  exact hfinal.symm

/-- What follows a look may use what it saw. -/
theorem alone_of_fact {p : FileProg α} {Q : α → Volume → Prop} {fact : Prop} {P : Volume → Prop}
    (h : fact → p.Alone I P Q) : p.Alone I (fun state => fact ∧ P state) Q :=
  fun state hstate => h hstate.1 state hstate.2

end

/-- Wherever the removal stops, it has removed the first files in order, and only when no unknown
entry was there. -/
theorem removal_alone (handoff : UpdateHandoffPlan) (files : Volume) :
    (env.removeSuccessfulUpdateTransactionFiles entries handoff).Alone
      (env.Progress entries handoff files) (fun state => state = files) (fun _ _ => True) := by
  unfold removeSuccessfulUpdateTransactionFiles
  refine Prog.Alone.bind lift_alone (fun _ => alone_of_fact (fun _ => ?_))
  refine Prog.Alone.bind lift_alone (fun paths => alone_of_fact (fun hpaths => ?_))
  refine Prog.Triple.bind (Q := fun _ state => env.OnlyKnown entries handoff paths files ∧
    state = files) (fun _ => rfl) ?_ (fun _ => alone_of_fact (fun hknown => ?_))
  · unfold validateSuccessfulCleanupDirectory
    refine Prog.Alone.bind query_alone
      (fun present => alone_of_fact (fun hpresent => ?_))
    cases hpresent
    refine lift_alone.imp (fun _ h => h) (fun _ state hdone => ⟨?_, hdone.2⟩)
    intro name hname
    exact ensure_eq_ok.mp (checkAll_eq_ok.mp hdone.1 name hname)
  refine Prog.Triple.bind (Q := fun _ state => state = env.removeAll paths files)
    (fun _ => rfl) ?_ (fun _ => ?_)
  · refine (Prog.triple_each (I := fun rest state => ∃ front, paths = front ++ rest ∧
      state = env.removeAll front files) (fun _ => rfl) (Prog.stable_eq _) ?_).imp ?_ ?_
    · intro path rest _ state hstate
      obtain ⟨front, hsplit, hfront⟩ := hstate
      have hnext : env.setFile state path none = env.removeAll (front ++ [path]) files := by
        rw [removeAll_append, ← hfront]
        rfl
      have hagain : paths = (front ++ [path]) ++ rest := by
        rw [hsplit, List.append_assoc]
        rfl
      have hprogress : env.Progress entries handoff files (env.setFile state path none) :=
        .inr ⟨paths, front ++ [path], rest, hpaths, hknown, hagain, hnext⟩
      refine ((removeFileIfExists_alone hprogress).imp (fun _ h => h) ?_) state rfl
      intro _ final hfinal
      exact ⟨front ++ [path], hagain, hfinal.trans hnext⟩
    · intro state hstate
      exact ⟨[], rfl, hstate⟩
    · intro _ state hdone
      obtain ⟨front, hsplit, hfront⟩ := hdone
      rw [List.append_nil] at hsplit
      rw [hfront, hsplit]
  exact query_alone.imp (fun _ h => h) (fun _ _ _ => trivial)

/-- Where a removal can stop. -/
theorem progress_of_steps {handoff : UpdateHandoffPlan} {files files' : Volume}
    {p : FileProg Unit}
    (h : Prog.Steps (env.removeSuccessfulUpdateTransactionFiles entries handoff, files)
      (p, files')) : env.Progress entries handoff files files' :=
  (removal_alone handoff files).reached rfl (.inl rfl) h

end RecoveryEnv

end NetworkCopy
