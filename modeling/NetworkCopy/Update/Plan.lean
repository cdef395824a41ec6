import NetworkCopy.ContentHash
import NetworkCopy.Update.Release

/-!
# Update plans

`build_update_install_plan` decides where an update is staged and where it is installed;
`validate_update_staging_plan` checks the plan before the download, and
`validate_update_handoff_plan` the plan that is handed to the helper process.  The helper works
beside the installed program (`update_install_candidate_path`, `update_rollback_candidate_path`)
and checks that these paths are not taken by others.
-/

namespace NetworkCopy

open LineText

/-- `UPDATE_DATA_DIRECTORY`. -/
def updateDataDirectory : String := "NetworkCopy Speed Edition"

/-- `UPDATE_STAGING_DIRECTORY`. -/
def updateStagingDirectory : String := "Updates"

/-- `UPDATE_BACKUP_FILE`. -/
def updateBackupFile : String := "previous.exe"

/-- `UPDATE_BACKUP_PARTIAL_FILE`. -/
def updateBackupPartialFile : String := "previous.exe.partial"

/-- `UPDATE_HANDOFF_FILE`. -/
def updateHandoffFile : String := "handoff-plan.bin"

/-- `UPDATE_STARTUP_MARKER_FILE`. -/
def updateStartupMarkerFile : String := "startup-ok.marker"

/-- `UPDATE_INSTALL_CANDIDATE_SUFFIX`. -/
def updateInstallCandidateSuffix : String := ".networkcopy-update.partial"

/-- `UPDATE_ROLLBACK_CANDIDATE_SUFFIX`. -/
def updateRollbackCandidateSuffix : String := ".networkcopy-rollback.partial"

/-- `UpdateInstallNaming`. -/
inductive UpdateInstallNaming where
  | publishedAssetName
  | preserveCurrentName
  deriving DecidableEq, Repr

/-- `UpdateInstallPlan`. -/
structure UpdateInstallPlan where
  artifactKind : ReleaseArtifactKind
  selectedAsset : SelectedReleaseAsset
  naming : UpdateInstallNaming
  currentExecutable : WinPath
  installPath : WinPath
  stagingDirectory : WinPath
  stagedExecutable : WinPath
  backupExecutable : WinPath
  handoffPlan : WinPath
  startupMarker : WinPath
  deriving DecidableEq, Repr

/-- `VerifiedStagedUpdate`. -/
structure VerifiedStagedUpdate where
  executable : WinPath
  size : UInt64
  sha256Hex : String
  deriving DecidableEq, Repr

/-- `UpdateHandoffPlan`. -/
structure UpdateHandoffPlan where
  parentProcessId : UInt32
  artifactKind : ReleaseArtifactKind
  naming : UpdateInstallNaming
  currentExecutable : WinPath
  installPath : WinPath
  stagingDirectory : WinPath
  stagedExecutable : WinPath
  backupExecutable : WinPath
  handoffPlan : WinPath
  startupMarker : WinPath
  expectedSize : UInt64
  expectedSha256Hex : String
  deriving DecidableEq, Repr

/-! ## Planning -/

/-- The staging directory of a version of a program. -/
def stagingDirectoryFor (localAppData : WinPath) (kind : ReleaseArtifactKind)
    (version : StableVersion) : WinPath :=
  (((localAppData.join (osStr updateDataDirectory)).join (osStr updateStagingDirectory)).join
    (osStr kind.storageKey)).join (osStr (String.ofList ('v' :: version.text)))

/-- `build_update_install_plan`. -/
def buildUpdateInstallPlan (currentExecutable localAppData : WinPath) (release : ReleaseInfo)
    (artifactKind : ReleaseArtifactKind) : IoResult UpdateInstallPlan := do
  ensure currentExecutable.isAbsolute (.invalidInput "current executable path must be absolute")
  ensure localAppData.isAbsolute (.invalidInput "LOCALAPPDATA path must be absolute")
  let currentParent ← okOrElse currentExecutable.parent
    (.invalidInput "current executable path has no parent directory")
  let currentFileName ← okOrElse currentExecutable.fileName
    (.invalidInput "current executable path has no file name")
  let selectedAsset ← selectReleaseAsset release artifactKind
  let releaseVersion ← parseStableVersion release.tagName
  let stagingDirectory := stagingDirectoryFor localAppData artifactKind releaseVersion
  let naming :=
    if isOfficialReleaseFileName currentFileName artifactKind then
      UpdateInstallNaming.publishedAssetName
    else .preserveCurrentName
  let installPath := match naming with
    | .publishedAssetName => currentParent.join (osStr selectedAsset.name)
    | .preserveCurrentName => currentExecutable
  return {
    artifactKind
    selectedAsset
    naming
    currentExecutable
    installPath
    stagingDirectory
    stagedExecutable := stagingDirectory.join (osStr selectedAsset.name)
    backupExecutable := stagingDirectory.join (osStr updateBackupFile)
    handoffPlan := stagingDirectory.join (osStr updateHandoffFile)
    startupMarker := stagingDirectory.join (osStr updateStartupMarkerFile) }

/-! ## Staging -/

/-- A byte of a digest in lower-case hexadecimal digits. -/
def isLowerHexdigit (byte : UInt8) : Bool :=
  isAsciiHexdigit byte && !(0x41 ≤ byte && byte ≤ 0x5A)

/-- The check of a digest that `validate_update_staging_plan` and `decode_sha256_hex` share. -/
def isSha256Hex (hex : String) : Prop :=
  (textBytes hex.toList).length = sha256HexLength ∧
    (textBytes hex.toList).all isLowerHexdigit = true

instance (hex : String) : Decidable (isSha256Hex hex) :=
  inferInstanceAs (Decidable (_ ∧ _))

/-- A reserved path of `validate_update_staging_plan` stands in the staging directory. -/
def checkReservedPath (directory actual : WinPath) (fileName label : String) : IoResult Unit :=
  let expected := directory.join (osStr fileName)
  ensure (actual = expected) (.invalidInput (label ++ " path " ++ actual.debug ++
    " does not match the expected path " ++ expected.debug))

/-- `validate_update_staging_plan`. -/
def validateUpdateStagingPlan (plan : UpdateInstallPlan) : IoResult Unit := do
  ensure plan.stagingDirectory.isAbsolute
    (.invalidInput "update staging directory must be absolute")
  ensure (plan.selectedAsset.size ≠ 0)
    (.invalidInput "selected update asset has an invalid zero-byte size")
  ensure (isSha256Hex plan.selectedAsset.sha256Hex) (.invalidInput
    "selected update asset SHA-256 must contain exactly 64 lowercase hexadecimal characters")
  validateAssetDownloadUrl plan.selectedAsset.downloadUrl
  ensure (isSingleFileName plan.selectedAsset.name)
    (.invalidInput "selected update asset name must be a single file name")
  let expected := plan.stagingDirectory.join (osStr plan.selectedAsset.name)
  ensure (plan.stagedExecutable = expected) (.invalidInput ("staged executable path " ++
    plan.stagedExecutable.debug ++ " does not match the selected asset path " ++ expected.debug))
  checkReservedPath plan.stagingDirectory plan.backupExecutable updateBackupFile
    "backup executable"
  checkReservedPath plan.stagingDirectory plan.handoffPlan updateHandoffFile "handoff plan"
  checkReservedPath plan.stagingDirectory plan.startupMarker updateStartupMarkerFile
    "startup marker"

/-! ## Handing over -/

/-- `decode_hex_nibble`. -/
def decodeLowerNibble (byte : UInt8) : Option UInt8 :=
  if 0x30 ≤ byte ∧ byte ≤ 0x39 then some (byte - 0x30)
  else if 0x61 ≤ byte ∧ byte ≤ 0x66 then some (byte - 0x61 + 10)
  else none

/-- The loop of `decode_sha256_hex`. -/
def decodeDigestBytes : List UInt8 → IoResult Bytes
  | high :: low :: rest => do
      let invalid := IoError.invalidData "update handoff SHA-256 contains an invalid character"
      let high ← okOrElse (decodeLowerNibble high) invalid
      let low ← okOrElse (decodeLowerNibble low) invalid
      let decoded ← decodeDigestBytes rest
      return (high <<< 4 ||| low) :: decoded
  | _ => .ok []

/-- `decode_sha256_hex`. -/
def decodeSha256Hex (hex : String) : IoResult Bytes := do
  ensure (isSha256Hex hex) (.invalidData
    "update handoff SHA-256 must contain exactly 64 lowercase hexadecimal characters")
  decodeDigestBytes (textBytes hex.toList)

/-- A hexadecimal digit is an ASCII byte. -/
theorem toNat_of_isAsciiHexdigit {byte : UInt8} (h : isAsciiHexdigit byte = true) :
    byte.toNat < 128 := by
  simp only [isAsciiHexdigit, Bool.or_eq_true, Bool.and_eq_true, decide_eq_true_eq,
    UInt8.le_iff_toNat_le] at h
  have h1 : (0x39 : UInt8).toNat = 57 := rfl
  have h2 : (0x46 : UInt8).toNat = 70 := rfl
  have h3 : (0x66 : UInt8).toNat = 102 := rfl
  omega

theorem ascii_of_hexdigits {c : Char}
    (h : ∀ byte ∈ String.utf8EncodeChar c, isAsciiHexdigit byte = true) : c.toNat < 128 := by
  by_contra hlarge
  have hval : ¬ c.val.toNat ≤ 0x7f := by
    show ¬ c.toNat ≤ 127
    omega
  have hlast : UInt8.ofNat (c.val.toNat % 64 + 128) ∈ String.utf8EncodeChar c := by
    unfold String.utf8EncodeChar
    simp only [hval, if_false]
    split
    · simp
    · split <;> simp
  have hbyte := toNat_of_isAsciiHexdigit (h _ hlast)
  rw [UInt8.toNat_ofNat'] at hbyte
  omega

theorem utf8EncodeChar_ascii {c : Char} (hc : c.toNat < 128) :
    String.utf8EncodeChar c = [UInt8.ofNat c.toNat] := by
  unfold String.utf8EncodeChar
  exact if_pos (by show c.toNat ≤ 127; omega)

/-- A hexadecimal digit in lower case is a lower-case digit. -/
theorem isLowerHexdigit_toLower {c : Char} (hc : c.toNat < 128)
    (hdigit : isAsciiHexdigit (UInt8.ofNat c.toNat) = true) :
    ∃ byte, String.utf8EncodeChar c.toLower = [byte] ∧ isLowerHexdigit byte = true := by
  have hall : ∀ n < 128, isAsciiHexdigit (UInt8.ofNat n) = true →
      (Char.ofNat n).toLower.toNat < 128 ∧
        isLowerHexdigit (UInt8.ofNat (Char.ofNat n).toLower.toNat) = true := by
    decide
  have hlower := hall c.toNat hc hdigit
  rw [Char.ofNat_toNat] at hlower
  exact ⟨_, utf8EncodeChar_ascii hlower.1, hlower.2⟩

/-- A text of hexadecimal digits, in lower case. -/
theorem textBytes_toLower {hex : List Char} (h : (textBytes hex).all isAsciiHexdigit = true) :
    (textBytes (hex.map Char.toLower)).length = (textBytes hex).length ∧
      (textBytes (hex.map Char.toLower)).all isLowerHexdigit = true := by
  induction hex with
  | nil => exact ⟨rfl, rfl⟩
  | cons c hex ih =>
    have hsplit : ∀ (d : Char) (rest : List Char),
        textBytes (d :: rest) = String.utf8EncodeChar d ++ textBytes rest := fun _ _ => rfl
    rw [hsplit, List.all_append, Bool.and_eq_true] at h
    have hc := ascii_of_hexdigits (List.all_eq_true.mp h.1)
    rw [utf8EncodeChar_ascii hc] at h
    obtain ⟨byte, hbyte, hlower⟩ := isLowerHexdigit_toLower hc (by simpa using h.1)
    obtain ⟨hlength, hrest⟩ := ih h.2
    rw [List.map_cons, hsplit, hsplit, hbyte, utf8EncodeChar_ascii hc, List.length_append,
      List.length_append, hlength, List.all_append, hrest]
    simp [hlower]

theorem isSha256Hex_of_parse {digest hex : String} (h : parseSha256Digest digest = .ok hex) :
    isSha256Hex hex := by
  unfold parseSha256Digest at h
  obtain ⟨text, htext, h⟩ := bind_eq_ok.mp h
  obtain ⟨_, hcheck, h⟩ := bind_eq_ok.mp h
  cases h
  have hdigits := ensure_eq_ok.mp hcheck
  have hlower := textBytes_toLower hdigits.2
  unfold isSha256Hex
  rw [String.toList_ofList]
  exact ⟨hlower.1.trans hdigits.1, hlower.2⟩

/-- The check leaves nothing for the decoding of a digest to refuse. -/
theorem decodeDigestBytes_ok {bytes : Bytes} (h : bytes.all isLowerHexdigit = true) :
    ∃ decoded, decodeDigestBytes bytes = .ok decoded := by
  have hnibble : ∀ byte : UInt8, isLowerHexdigit byte = true →
      ∃ nibble, decodeLowerNibble byte = some nibble := by
    intro byte hbyte
    unfold decodeLowerNibble
    split
    · exact ⟨_, rfl⟩
    · next hdecimal =>
        split
        · exact ⟨_, rfl⟩
        · next hletter =>
            exfalso
            simp only [isLowerHexdigit, isAsciiHexdigit, Bool.and_eq_true, Bool.or_eq_true,
              decide_eq_true_eq, Bool.not_eq_true', Bool.and_eq_false_iff, decide_eq_false_iff_not,
              UInt8.le_iff_toNat_le] at hbyte hdecimal hletter
            have h1 : (0x46 : UInt8).toNat = 70 := rfl
            have h2 : (0x5A : UInt8).toNat = 90 := rfl
            have h3 : (0x41 : UInt8).toNat = 65 := rfl
            omega
  induction bytes using decodeDigestBytes.induct with
  | case1 high low rest ih =>
    simp only [List.all_cons, Bool.and_eq_true] at h
    obtain ⟨first, hfirst⟩ := hnibble high h.1
    obtain ⟨second, hsecond⟩ := hnibble low h.2.1
    obtain ⟨decoded, hdecoded⟩ := ih h.2.2
    refine ⟨(first <<< 4 ||| second) :: decoded, ?_⟩
    rw [decodeDigestBytes, hfirst, hsecond, hdecoded]
    rfl
  | case2 bytes hshort =>
    refine ⟨[], ?_⟩
    rw [decodeDigestBytes]
    exact hshort

theorem decodeSha256Hex_eq_ok {hex : String} :
    (∃ digest, decodeSha256Hex hex = .ok digest) ↔ isSha256Hex hex := by
  unfold decodeSha256Hex
  constructor
  · intro ⟨digest, h⟩
    obtain ⟨_, hcheck, _⟩ := bind_eq_ok.mp h
    exact ensure_eq_ok.mp hcheck
  · intro h
    obtain ⟨digest, hdigest⟩ := decodeDigestBytes_ok h.2
    refine ⟨digest, ?_⟩
    exact bind_eq_ok.mpr ⟨(), ensure_eq_ok.mpr h, hdigest⟩
/-- The paths of a handoff plan and their labels. -/
def UpdateHandoffPlan.paths (plan : UpdateHandoffPlan) : List (WinPath × String) :=
  [(plan.currentExecutable, "current executable"), (plan.installPath, "install path"),
    (plan.stagingDirectory, "staging directory"), (plan.stagedExecutable, "staged executable"),
    (plan.backupExecutable, "backup executable"), (plan.handoffPlan, "handoff plan"),
    (plan.startupMarker, "startup marker")]

/-- A loop that checks every item of a list. -/
def checkAll {α : Type} (check : α → IoResult Unit) : List α → IoResult Unit
  | [] => .ok ()
  | item :: rest => do
      check item
      checkAll check rest

theorem checkAll_eq_ok {α : Type} {check : α → IoResult Unit} {items : List α} :
    checkAll check items = .ok () ↔ ∀ item ∈ items, check item = .ok () := by
  induction items with
  | nil => simp [checkAll]
  | cons item rest ih =>
    rw [checkAll, bind_eq_ok, List.forall_mem_cons, ← ih]
    constructor
    · intro ⟨(), hitem, hrest⟩
      exact ⟨hitem, hrest⟩
    · intro h
      exact ⟨(), h.1, h.2⟩

/-- A path of a handoff plan stands where the staging directory has it. -/
def checkHandoffPath (directory actual : WinPath) (fileName label : String) : IoResult Unit :=
  let expected := directory.join (osStr fileName)
  ensure (actual = expected) (.invalidData ("update handoff " ++ label ++ " path " ++
    actual.debug ++ " does not match " ++ expected.debug))

/-- The naming rule of `validate_update_handoff_plan`. -/
def checkHandoffNaming (plan : UpdateHandoffPlan) (stagedFileName : List UInt16) :
    IoResult Unit :=
  match plan.naming with
  | .publishedAssetName => do
      ensure (plan.currentExecutable.parent = plan.installPath.parent)
        (.invalidData "published-name update must install beside the current executable")
      ensure (plan.installPath.fileName = some stagedFileName) (.invalidData
        "published-name update install filename must match the staged release filename")
  | .preserveCurrentName =>
      ensure (plan.installPath = plan.currentExecutable)
        (.invalidData "custom-name update must preserve the current executable path")

/-- `validate_update_handoff_plan`. -/
def validateUpdateHandoffPlan (plan : UpdateHandoffPlan) : IoResult Unit := do
  ensure (plan.parentProcessId ≠ 0)
    (.invalidData "update handoff parent process ID must not be zero")
  ensure (plan.expectedSize ≠ 0) (.invalidData "update handoff expected size must not be zero")
  let _ ← decodeSha256Hex plan.expectedSha256Hex
  checkAll (fun (path, label) => ensure path.isAbsolute (.invalidData
    ("update handoff " ++ label ++ " path must be absolute: " ++ path.debug))) plan.paths
  ensure (plan.stagedExecutable.parent = some plan.stagingDirectory) (.invalidData
    "update handoff staged executable is not directly inside its staging directory")
  let stagedFileName ← okOrElse plan.stagedExecutable.fileName
    (.invalidData "update handoff staged executable has no file name")
  ensure (isOfficialReleaseFileName stagedFileName plan.artifactKind)
    (.invalidData ("update handoff staged executable " ++ debugText (displayPath stagedFileName) ++
      " is not an official " ++ plan.artifactKind.label ++ " release filename"))
  checkHandoffPath plan.stagingDirectory plan.backupExecutable updateBackupFile "backup"
  checkHandoffPath plan.stagingDirectory plan.handoffPlan updateHandoffFile "plan"
  checkHandoffPath plan.stagingDirectory plan.startupMarker updateStartupMarkerFile
    "startup marker"
  checkHandoffNaming plan stagedFileName
  ensure (¬ (plan.stagedExecutable = plan.currentExecutable ∨
      plan.stagedExecutable = plan.installPath ∨
      plan.stagedExecutable = plan.backupExecutable ∨
      plan.stagedExecutable = plan.handoffPlan ∨
      plan.stagedExecutable = plan.startupMarker))
    (.invalidData "update handoff staged executable aliases another reserved path")

/-- `build_update_handoff_plan`. -/
def buildUpdateHandoffPlan (plan : UpdateInstallPlan) (verified : VerifiedStagedUpdate)
    (parentProcessId : UInt32) : IoResult UpdateHandoffPlan := do
  validateUpdateStagingPlan plan
  ensure (parentProcessId ≠ 0)
    (.invalidInput "update handoff parent process ID must not be zero")
  ensure (verified.executable = plan.stagedExecutable) (.invalidInput
    ("verified staged executable " ++ verified.executable.debug ++
      " does not match the planned path " ++ plan.stagedExecutable.debug))
  ensure (verified.size = plan.selectedAsset.size) (.invalidInput
    ("verified update size " ++ toString verified.size ++ " does not match the planned size " ++
      toString plan.selectedAsset.size))
  ensure (verified.sha256Hex = plan.selectedAsset.sha256Hex)
    (.invalidInput "verified update SHA-256 does not match the selected release asset")
  let handoff : UpdateHandoffPlan := {
    parentProcessId
    artifactKind := plan.artifactKind
    naming := plan.naming
    currentExecutable := plan.currentExecutable
    installPath := plan.installPath
    stagingDirectory := plan.stagingDirectory
    stagedExecutable := plan.stagedExecutable
    backupExecutable := plan.backupExecutable
    handoffPlan := plan.handoffPlan
    startupMarker := plan.startupMarker
    expectedSize := verified.size
    expectedSha256Hex := verified.sha256Hex }
  validateUpdateHandoffPlan handoff
  return handoff

/-! ## Candidates -/

/-- `update_install_candidate_path`. -/
def updateInstallCandidatePath (handoff : UpdateHandoffPlan) : IoResult WinPath := do
  let installParent ← okOrElse handoff.installPath.parent
    (.invalidInput "update install path has no parent directory")
  let installFileName ← okOrElse handoff.installPath.fileName
    (.invalidInput "update install path has no file name")
  return installParent.join (installFileName ++ osStr updateInstallCandidateSuffix)

/-- `update_rollback_candidate_path`. -/
def updateRollbackCandidatePath (handoff : UpdateHandoffPlan) : IoResult WinPath := do
  let installParent ← okOrElse handoff.installPath.parent
    (.invalidInput "custom-name install path has no parent directory")
  let installFileName ← okOrElse handoff.installPath.fileName
    (.invalidInput "custom-name install path has no file name")
  return installParent.join (installFileName ++ osStr updateRollbackCandidateSuffix)

/-- `update_backup_partial_path`. -/
def updateBackupPartialPath (stagingDirectory : WinPath) : WinPath :=
  stagingDirectory.join (osStr updateBackupPartialFile)

/-- `validate_update_installation_paths`. -/
def validateUpdateInstallationPaths (handoff : UpdateHandoffPlan)
    (backupPartial installCandidate : WinPath) : IoResult Unit := do
  ensure backupPartial.isAbsolute (.invalidInput "partial update backup path must be absolute")
  ensure installCandidate.isAbsolute
    (.invalidInput "update install-candidate path must be absolute")
  ensure (backupPartial.parent = some handoff.stagingDirectory)
    (.invalidInput "partial update backup must be directly inside the staging directory")
  ensure (installCandidate.parent = handoff.installPath.parent)
    (.invalidInput "update install candidate must be beside the final install path")
  checkAll (fun (reserved, label) => ensure (installCandidate ≠ reserved)
      (.invalidInput ("update install candidate aliases the " ++ label)))
    [(handoff.currentExecutable, "current executable"),
      (handoff.installPath, "final install path"), (handoff.stagedExecutable, "staged executable"),
      (handoff.backupExecutable, "published backup"), (handoff.handoffPlan, "handoff plan"),
      (handoff.startupMarker, "startup marker")]
  checkAll (fun (reserved, label) => ensure (backupPartial ≠ reserved)
      (.invalidInput ("partial update backup aliases the " ++ label)))
    [(handoff.stagedExecutable, "staged executable"),
      (handoff.backupExecutable, "published backup"), (handoff.handoffPlan, "handoff plan"),
      (handoff.startupMarker, "startup marker")]
  ensure (backupPartial ≠ installCandidate)
    (.invalidInput "partial update backup aliases the install candidate")

/-- `validate_custom_replacement_paths`. -/
def validateCustomReplacementPaths (handoff : UpdateHandoffPlan)
    (installCandidate rollbackCandidate : WinPath) : IoResult Unit := do
  ensure (handoff.naming = .preserveCurrentName)
    (.invalidInput "custom-name replacement requires PreserveCurrentName naming")
  ensure (handoff.installPath = handoff.currentExecutable) (.invalidInput
    ("custom-name install path " ++ handoff.installPath.debug ++
      " does not match the current executable " ++ handoff.currentExecutable.debug))
  ensure (rollbackCandidate.parent = handoff.installPath.parent)
    (.invalidInput "custom-name rollback candidate must be beside the installed executable")
  checkAll (fun (reserved, label) => ensure (rollbackCandidate ≠ reserved)
      (.invalidInput ("custom-name rollback candidate aliases the " ++ label)))
    [(handoff.currentExecutable, "current executable"),
      (handoff.stagedExecutable, "staged helper"), (handoff.backupExecutable, "published backup"),
      (handoff.handoffPlan, "handoff plan"), (handoff.startupMarker, "startup marker"),
      (installCandidate, "install candidate")]

end NetworkCopy
