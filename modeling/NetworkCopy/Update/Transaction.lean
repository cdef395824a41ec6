import NetworkCopy.FileSystem
import NetworkCopy.Lib.Crash
import NetworkCopy.Update.Plan

/-!
# Installing an update

The helper process copies the running program to a backup and the staged program to a candidate
beside the install path, and then publishes the candidate.  A custom name is replaced in place and
can be rolled back from the backup; an official name is published side by side.

Each call of the operating system is one action of a program over the files of the volume, and
may fail.  A rename is one action.  `UpdateEnv` holds what is not decided here: the upper case of
the volume and the digest.
-/

namespace NetworkCopy

open Crash

/-- The files of the volume, by what `WinPath.key` makes of their paths. -/
abbrev Volume := WinPath → Option Bytes

/-- The upper case of the volume, and `encode_lower_hex` of the SHA-256 of some bytes. -/
structure UpdateEnv where
  upcase : UInt16 → UInt16
  sha256Hex : Bytes → String

/-- Programs over the files. -/
abbrev FileProg (α : Type) := Prog Volume IoError α

/-- `VerifiedFileCopy`. -/
structure VerifiedFileCopy where
  size : Nat
  sha256Hex : String
  deriving DecidableEq, Repr

/-- `PreparedUpdateInstallation`. -/
structure PreparedUpdateInstallation where
  backupExecutable : WinPath
  installCandidate : WinPath
  backupSize : Nat
  backupSha256Hex : String
  candidateSize : Nat
  candidateSha256Hex : String
  deriving DecidableEq, Repr

/-- `UpdateInstallationPublication`. -/
inductive UpdateInstallationPublication where
  | publishedSideBySide (installedExecutable : WinPath) (created : Bool)
  | replacedInPlace (installedExecutable : WinPath)
  deriving DecidableEq, Repr

/-- The same error with a text in front of its own. -/
def IoError.context (error : IoError) (text : String) : IoError :=
  ⟨error.kind, text ++ ": " ++ error.message, none⟩

namespace UpdateEnv

variable (env : UpdateEnv)

/-- What a path names. -/
def fileAt (files : Volume) (path : WinPath) : Option Bytes := files (path.key env.upcase)

/-- The volume with another file, or none, at a path. -/
def setFile (files : Volume) (path : WinPath) (content : Option Bytes) : Volume :=
  Function.update files (path.key env.upcase) content

/-! ## Calls -/

/-- `fs::metadata(path)`, for whether there is a file. -/
def fileExists (path : WinPath) : FileProg Bool :=
  .query (fun files => .ok (env.fileAt files path).isSome)

/-- `File::open` and the reads of the whole file. -/
def readFile (path : WinPath) : FileProg Bytes :=
  .query (fun files => okOrElse (env.fileAt files path) (osError .notFound))

/-- `remove_file_if_exists`. -/
def removeFileIfExists (path : WinPath) : FileProg Unit :=
  .act (fun files => .ok (env.setFile files path none)) (fun _ => .ret ())
    (fun error => .fail (error.context
      ("stale update artifact " ++ path.debug ++ " could not be removed")))

/-- `OpenOptions::new().create_new(true).write(true).open(path)`. -/
def createNewFile (path : WinPath) : FileProg Unit :=
  .modify (fun files =>
    if (env.fileAt files path).isSome then .error (osError .alreadyExists)
    else .ok (env.setFile files path (some [])))

/-- `write_all` of one more block, after which the file has this content. -/
def writeContent (path : WinPath) (content : Bytes) : FileProg Unit :=
  .modify (fun files => .ok (env.setFile files path (some content)))

/-- The files after a rename of a file with this content. -/
def renamed (files : Volume) (source destination : WinPath) (content : Bytes) : Volume :=
  env.setFile (env.setFile files source none) destination (some content)

/-- `windows_file_replace::replace`. -/
def replace (source destination : WinPath) : FileProg Unit :=
  .act (fun files => do
      let content ← okOrElse (env.fileAt files source) (osError .notFound)
      return env.renamed files source destination content)
    (fun _ => .ret ())
    (fun error => .fail (error.context
      ("failed to replace " ++ destination.display ++ " with " ++ source.display)))

/-- `windows_file_replace::move_new`. -/
def moveNew (source destination : WinPath) : FileProg Unit :=
  .act (fun files => do
      let content ← okOrElse (env.fileAt files source) (osError .notFound)
      ensure (source.key env.upcase = destination.key env.upcase ∨
        env.fileAt files destination = none) (osError .alreadyExists)
      return env.renamed files source destination content)
    (fun _ => .ret ())
    (fun error => .fail (error.context
      ("failed to publish new file " ++ destination.display ++ " from " ++ source.display)))

/-- Run a cleanup after an error and fail with it.  When the cleanup fails too, its error is told
after the first one. -/
def failAfter {α : Type} (cleanup : FileProg Unit) (note : String) (error : IoError) :
    FileProg α := do
  cleanup.orElse (fun cleanupError => .fail ⟨error.kind,
    error.message ++ "; " ++ note ++ " also could not be removed: " ++ cleanupError.message, none⟩)
  .fail error

/-! ## Digests and copies -/

/-- What `inspect_file_digest` finds in a file. -/
def inspected (content : Bytes) : VerifiedFileCopy := ⟨content.length, env.sha256Hex content⟩

/-- `inspect_file_digest`. -/
def inspectFileDigest (path : WinPath) (label : String) : FileProg VerifiedFileCopy :=
  .query (fun files =>
    match env.fileAt files path with
    | some content => .ok (env.inspected content)
    | none => .error ((osError .notFound).context
        (label ++ " " ++ path.debug ++ " could not be opened")))

/-- `verify_prepared_installation_file`. -/
def verifyPreparedInstallationFile (path : WinPath) (label : String) (expectedSize : Nat)
    (expectedSha256Hex : String) : FileProg Unit := do
  let found ← env.inspectFileDigest path label
  .lift (ensure (found.size = expectedSize) (.invalidData (label ++ " " ++ path.debug ++
    " contains " ++ toString found.size ++ " bytes, expected " ++ toString expectedSize)))
  .lift (ensure (found.sha256Hex = expectedSha256Hex) (.invalidData (label ++ " " ++ path.debug ++
    " has SHA-256 " ++ found.sha256Hex ++ ", expected " ++ expectedSha256Hex)))

/-- `UPDATE_DOWNLOAD_BUFFER_SIZE`. -/
def updateDownloadBufferSize : Nat := 64 * 1024

/-- How much of a file has been written after each turn of the copy loop. -/
def copyLengths (length : Nat) : List Nat :=
  (List.range (length / updateDownloadBufferSize + 1)).map
    (fun turn => min ((turn + 1) * updateDownloadBufferSize) length)

/-- `copy_verified_file_inner`. -/
def copyVerifiedFileInner (source destination : WinPath) (expected : Option (Nat × String)) :
    FileProg VerifiedFileCopy := do
  let content ← env.readFile source
  .lift (ensure (content ≠ [])
    (.invalidData ("update source file is empty: " ++ source.debug)))
  .lift (ensure (∀ wanted ∈ expected, content.length = wanted.1) (.invalidData
    ("update source file " ++ source.debug ++ " contains " ++ toString content.length ++
      " bytes, expected " ++ toString ((expected.map Prod.fst).getD 0))))
  env.createNewFile destination
  .each (fun length => env.writeContent destination (content.take length))
    (copyLengths content.length)
  let copied := env.inspected content
  .lift (ensure (∀ wanted ∈ expected, copied.sha256Hex = wanted.2) (.invalidData
    ("copied update file SHA-256 mismatch: expected " ++ (expected.map Prod.snd).getD "" ++
      ", received " ++ copied.sha256Hex)))
  let found ← env.inspectFileDigest destination "copied update file"
  .lift (ensure (found = copied) (.invalidData ("copied update file " ++ destination.debug ++
    " did not match the bytes written to it")))
  return copied

/-- `copy_verified_file`. -/
def copyVerifiedFile (source destination : WinPath) (expected : Option (Nat × String)) :
    FileProg VerifiedFileCopy :=
  (env.copyVerifiedFileInner source destination expected).orElse
    (failAfter (env.removeFileIfExists destination)
      ("incomplete copied file " ++ destination.debug))

/-! ## Preparing -/

/-- `prepare_update_installation_files`. -/
def prepareUpdateInstallationFiles (handoff : UpdateHandoffPlan) :
    FileProg PreparedUpdateInstallation := do
  .lift (validateUpdateHandoffPlan handoff)
  let backupPartial := updateBackupPartialPath handoff.stagingDirectory
  let installCandidate ← .lift (updateInstallCandidatePath handoff)
  .lift (validateUpdateInstallationPaths handoff backupPartial installCandidate)
  env.removeFileIfExists backupPartial
  env.removeFileIfExists installCandidate
  let backupCopy ← env.copyVerifiedFile handoff.currentExecutable backupPartial none
  (env.replace backupPartial handoff.backupExecutable).orElse
    (failAfter (env.removeFileIfExists backupPartial)
      ("incomplete backup " ++ backupPartial.debug))
  let publishedBackup ←
    env.inspectFileDigest handoff.backupExecutable "published update backup"
  if publishedBackup ≠ backupCopy then
    failAfter (env.removeFileIfExists handoff.backupExecutable) "invalid backup"
      (.invalidData ("published update backup " ++ handoff.backupExecutable.debug ++
        " did not match its verified partial copy"))
  else do
    let candidateCopy ← env.copyVerifiedFile handoff.stagedExecutable installCandidate
      (some (handoff.expectedSize.toNat, handoff.expectedSha256Hex))
    return {
      backupExecutable := handoff.backupExecutable
      installCandidate
      backupSize := backupCopy.size
      backupSha256Hex := backupCopy.sha256Hex
      candidateSize := candidateCopy.size
      candidateSha256Hex := candidateCopy.sha256Hex }

/-! ## Publishing -/

/-- `rollback_custom_named_update`. -/
def rollbackCustomNamedUpdate (handoff : UpdateHandoffPlan)
    (installation : PreparedUpdateInstallation) : FileProg Unit := do
  let rollbackCandidate ← .lift (updateRollbackCandidatePath handoff)
  .lift (validateCustomReplacementPaths handoff installation.installCandidate rollbackCandidate)
  env.verifyPreparedInstallationFile installation.backupExecutable "custom-name rollback backup"
    installation.backupSize installation.backupSha256Hex
  env.removeFileIfExists rollbackCandidate
  let _ ← env.copyVerifiedFile installation.backupExecutable rollbackCandidate
    (some (installation.backupSize, installation.backupSha256Hex))
  env.replace rollbackCandidate handoff.installPath
  env.verifyPreparedInstallationFile handoff.installPath "restored custom-name executable"
    installation.backupSize installation.backupSha256Hex

/-- What `publish_custom_named_update` does when the installed file is not the update. -/
def restoreAfter (handoff : UpdateHandoffPlan) (installation : PreparedUpdateInstallation)
    (error : IoError) : FileProg Unit := do
  (env.rollbackCustomNamedUpdate handoff installation).orElse (fun rollbackError =>
    .fail ⟨error.kind, error.message ++ "; automatic restoration of the previous executable " ++
      "also failed: " ++ rollbackError.message, none⟩)
  .fail ⟨error.kind, error.message ++ "; the previous custom-named executable was restored " ++
    "from its verified backup", none⟩

/-- `publish_custom_named_update`. -/
def publishCustomNamedUpdate (handoff : UpdateHandoffPlan)
    (installation : PreparedUpdateInstallation) : FileProg UpdateInstallationPublication := do
  let rollbackCandidate ← .lift (updateRollbackCandidatePath handoff)
  .lift (validateCustomReplacementPaths handoff installation.installCandidate rollbackCandidate)
  env.verifyPreparedInstallationFile handoff.currentExecutable
    "custom-name executable before replacement" installation.backupSize
    installation.backupSha256Hex
  env.replace installation.installCandidate handoff.installPath
  (env.verifyPreparedInstallationFile handoff.installPath
    "installed custom-name update executable" handoff.expectedSize.toNat
    handoff.expectedSha256Hex).orElse (env.restoreAfter handoff installation)
  return .replacedInPlace handoff.installPath

/-- `publish_officially_named_update`. -/
def publishOfficiallyNamedUpdate (handoff : UpdateHandoffPlan)
    (installation : PreparedUpdateInstallation) : FileProg UpdateInstallationPublication := do
  .lift (ensure (handoff.installPath ≠ handoff.currentExecutable) (.invalidInput
    "official-name publication cannot replace the current executable in place"))
  let present ← env.fileExists handoff.installPath
  if present then do
    (env.verifyPreparedInstallationFile handoff.installPath
      "existing official update executable" handoff.expectedSize.toNat
      handoff.expectedSha256Hex).orElse (fun error => .fail ⟨.alreadyExists,
        "official update destination " ++ handoff.installPath.debug ++
          " already exists and does not match the verified update: " ++ error.message, none⟩)
    env.removeFileIfExists installation.installCandidate
    return .publishedSideBySide handoff.installPath false
  else do
    env.moveNew installation.installCandidate handoff.installPath
    (env.verifyPreparedInstallationFile handoff.installPath
      "published official update executable" handoff.expectedSize.toNat
      handoff.expectedSha256Hex).orElse
        (failAfter (env.removeFileIfExists handoff.installPath)
          ("invalid published executable " ++ handoff.installPath.debug))
    return .publishedSideBySide handoff.installPath true

/-- `publish_prepared_update_installation`. -/
def publishPreparedUpdateInstallation (handoff : UpdateHandoffPlan)
    (installation : PreparedUpdateInstallation) : FileProg UpdateInstallationPublication := do
  .lift (validateUpdateHandoffPlan handoff)
  .lift (ensure (installation.backupExecutable = handoff.backupExecutable) (.invalidInput
    ("prepared backup path " ++ installation.backupExecutable.debug ++
      " does not match the handoff backup path " ++ handoff.backupExecutable.debug)))
  let expectedCandidate ← .lift (updateInstallCandidatePath handoff)
  .lift (ensure (installation.installCandidate = expectedCandidate) (.invalidInput
    ("prepared install candidate " ++ installation.installCandidate.debug ++
      " does not match the expected path " ++ expectedCandidate.debug)))
  env.verifyPreparedInstallationFile installation.backupExecutable "prepared update backup"
    installation.backupSize installation.backupSha256Hex
  .lift (ensure (installation.candidateSize = handoff.expectedSize.toNat ∧
      installation.candidateSha256Hex = handoff.expectedSha256Hex) (.invalidData
    "prepared install-candidate report does not match the handoff size and SHA-256"))
  env.verifyPreparedInstallationFile installation.installCandidate
    "prepared update install candidate" handoff.expectedSize.toNat handoff.expectedSha256Hex
  match handoff.naming with
  | .preserveCurrentName => env.publishCustomNamedUpdate handoff installation
  | .publishedAssetName => env.publishOfficiallyNamedUpdate handoff installation

end UpdateEnv

end NetworkCopy
