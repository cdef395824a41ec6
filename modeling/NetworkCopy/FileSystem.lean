import NetworkCopy.ContentHash
import NetworkCopy.Manifest
import NetworkCopy.Lib.ByteRange

/-!
# Files

A file tree maps paths below a root to what stands there.  The operations are the
calls of `std::fs` and of the Windows API that the program makes; they fail when the
name they need is missing or taken, or when a file would exceed the greatest file
size.  A path names one file: names that the volume would fold together are not
distinguished here from names that it keeps apart.

The time that a write stamps on a file is an argument, and the text of an operating
system error is not modelled.
-/

namespace NetworkCopy

open ByteRange

/-- A regular file and the metadata that the program reads and restores. -/
structure FileNode where
  content : FileContent
  lastWriteTime : Nat
  fileAttributes : UInt32
  deriving DecidableEq

/-- What a path names. -/
inductive Node where
  | file (node : FileNode)
  | directory
  deriving DecidableEq

/-- The files below a root directory. -/
abbrev FileTree := RelativePath → Option Node

/-- `FILE_ATTRIBUTE_REPARSE_POINT`. -/
def fileAttributeReparsePoint : UInt32 := 0x400

/-- `FILE_ATTRIBUTE_ARCHIVE`, which the system gives to a new file. -/
def fileAttributeArchive : UInt32 := 0x20

/-- `FILE_ATTRIBUTE_NORMAL`. -/
def fileAttributeNormal : UInt32 := 0x80

/-- `RESTORABLE_FILE_ATTRIBUTES`: read-only, hidden, system, archive and not content
indexed. -/
def restorableFileAttributeMask : UInt32 := 0x1 ||| 0x2 ||| 0x4 ||| 0x20 ||| 0x2000

/-- `file_metadata::restorable_file_attributes`. -/
def restorableFileAttributes (sourceAttributes : UInt32) : UInt32 :=
  let attributes := sourceAttributes &&& restorableFileAttributeMask
  if attributes = 0 then fileAttributeNormal else attributes

/-- The reparse point bit of a file. -/
def FileNode.isReparsePoint (node : FileNode) : Bool :=
  node.fileAttributes &&& fileAttributeReparsePoint != 0

/-- The entry that `scan_directory` records for a file.  A reparse point is skipped, and a
write time is a `u64`. -/
def scanFile (relativePath : RelativePath) (node : FileNode) : Option ManifestEntry :=
  if htime : node.lastWriteTime < u64Limit then
    if node.isReparsePoint then none
    else some {
      relativePath
      fileSize := node.content.1.length
      lastWriteTime := node.lastWriteTime
      fileAttributes := node.fileAttributes
      fileClass := classifyFile node.content.1.length
      fileSize_lt := node.content.2.trans fileSizeLimit_lt
      lastWriteTime_lt := htime }
  else none

/-- `temporary_path`. -/
def temporaryPath (finalPath : RelativePath) (fileId : Nat) : RelativePath :=
  finalPath ++ utf16 (".ncs-part-" ++ toString fileId)

/-- A name with a suffix is another name. -/
theorem append_utf16_ne (path : RelativePath) {text : String} (h : utf16 text ≠ []) :
    path ++ utf16 text ≠ path := by
  intro hsame
  exact h (List.self_eq_append_right.mp hsame.symm)

theorem temporaryPath_ne (finalPath : RelativePath) (fileId : Nat) :
    temporaryPath finalPath fileId ≠ finalPath := by
  apply append_utf16_ne
  simp [utf16]

/-- An error of the operating system. -/
def osError (kind : ErrorKind) : IoError := ⟨kind, "", none⟩

namespace FileTree

/-- The tree with another node, or none, at a path. -/
def set (files : FileTree) (path : RelativePath) (node : Option Node) : FileTree :=
  Function.update files path node

@[simp] theorem set_same (files : FileTree) (path : RelativePath) (node : Option Node) :
    files.set path node path = node := Function.update_self ..

theorem set_ne (files : FileTree) {path other : RelativePath} (node : Option Node)
    (h : other ≠ path) : files.set path node other = files other :=
  Function.update_of_ne h ..

/-- The file at a path, as `File::open` and a metadata query see it. -/
def openFile (files : FileTree) (path : RelativePath) : IoResult FileNode :=
  match files path with
  | some (.file node) => .ok node
  | some .directory => .error (osError .other)
  | none => .error (osError .notFound)

variable {path : RelativePath}

theorem openFile_eq_ok {files : FileTree} {node : FileNode} :
    files.openFile path = .ok node ↔ files path = some (.file node) := by
  unfold openFile
  split <;> simp_all

/-- `Path::try_exists`. -/
def tryExists (files : FileTree) (path : RelativePath) : Bool := (files path).isSome

/-- Give the file at a path a new content. -/
def store (files : FileTree) (path : RelativePath) (node : FileNode) (content : Bytes)
    (now : Nat) : IoResult FileTree :=
  if h : content.length < fileSizeLimit then
    .ok (files.set path (some (.file
      { node with content := ⟨content, h⟩, lastWriteTime := now })))
  else .error (osError .other)

/-- `OpenOptions::create_new(true).open(path)`. -/
def createNew (files : FileTree) (path : RelativePath) (now : Nat) : IoResult FileTree :=
  match files path with
  | none => .ok (files.set path (some (.file
      { content := ⟨[], by norm_num [fileSizeLimit]⟩, lastWriteTime := now
        fileAttributes := fileAttributeArchive })))
  | some _ => .error (osError .alreadyExists)

/-- `File::set_len`. -/
def setLen (files : FileTree) (path : RelativePath) (length now : Nat) :
    IoResult FileTree := do
  let node ← files.openFile path
  files.store path node (resize 0 node.content.1 length) now

/-- `write_all_at`, and `write_all` at the current position. -/
def writeAt (files : FileTree) (path : RelativePath) (offset : Nat) (bytes : Bytes)
    (now : Nat) : IoResult FileTree := do
  let node ← files.openFile path
  files.store path node (overwrite 0 node.content.1 offset bytes) now

/-- `windows_file_replace::replace`. -/
def replace (files : FileTree) (source destination : RelativePath) :
    IoResult FileTree := do
  let node ← files.openFile source
  ensure (files destination ≠ some .directory) (osError .other)
  return (files.set source none).set destination (some (.file node))

/-- `fs::remove_file`. -/
def removeFile (files : FileTree) (path : RelativePath) : IoResult FileTree := do
  let _ ← files.openFile path
  return files.set path none

/-- `file_metadata::restore_file`. -/
def restoreFile (files : FileTree) (path : RelativePath) (lastWriteTime : Nat)
    (sourceAttributes : UInt32) : IoResult FileTree := do
  let node ← files.openFile path
  return files.set path (some (.file
    { node with lastWriteTime
                fileAttributes := restorableFileAttributes sourceAttributes }))

/-! ### What the operations do -/

variable {files files' : FileTree} {content : Bytes} {source destination : RelativePath}
variable {paths : List RelativePath}

/-- The content of the file at a path. -/
def contentAt (files : FileTree) (path : RelativePath) : Option Bytes :=
  match files path with
  | some (.file node) => some node.content.1
  | _ => none

theorem contentAt_eq_some {files : FileTree} :
    files.contentAt path = some content ↔
      ∃ node, files path = some (.file node) ∧ node.content.1 = content := by
  unfold contentAt
  split <;> simp_all

theorem contentAt_of_openFile {files : FileTree} {node : FileNode}
    (h : files.openFile path = .ok node) : files.contentAt path = some node.content.1 :=
  contentAt_eq_some.mpr ⟨node, openFile_eq_ok.mp h, rfl⟩

/-- Two trees differ at most at the given paths. -/
def SameExcept (paths : List RelativePath) (files files' : FileTree) : Prop :=
  ∀ path, path ∉ paths → files' path = files path

theorem SameExcept.refl (paths : List RelativePath) (files : FileTree) :
    SameExcept paths files files := fun _ _ => rfl

theorem SameExcept.trans {files files' files'' : FileTree} (h : SameExcept paths files files')
    (h' : SameExcept paths files' files'') :
    SameExcept paths files files'' := by
  intro path hpath
  rw [h' path hpath, h path hpath]

theorem SameExcept.mono {paths paths' : List RelativePath} (h : SameExcept paths files files')
    (hsub : paths ⊆ paths') :
    SameExcept paths' files files' :=
  fun path hpath => h path (fun hmem => hpath (hsub hmem))

theorem SameExcept.set (h : SameExcept paths files files') (node : Option Node)
    (hpath : path ∈ paths) :
    SameExcept paths files (files'.set path node) := by
  intro other hother
  have hne : other ≠ path := by
    rintro rfl
    exact hother hpath
  rw [set_ne files' node hne, h other hother]

/-- A path with nothing there before and after is not a difference. -/
theorem SameExcept.drop (h : SameExcept (path :: paths) files files')
    (hbefore : files path = none) (hafter : files' path = none) :
    SameExcept paths files files' := by
  intro other hother
  by_cases hsame : other = path
  · rw [hsame, hbefore, hafter]
  · exact h other (by simp [hsame, hother])

/-- A file that was stored has the new content; nothing else changes. -/
theorem store_eq_ok {node : FileNode} {now : Nat}
    (h : files.store path node content now = .ok files') :
    files'.contentAt path = some content ∧ SameExcept [path] files files' := by
  unfold store at h
  split at h
  · cases h
    constructor
    · simp [contentAt]
    · exact (SameExcept.refl [path] files).set _ (by simp)
  · cases h

theorem createNew_eq_ok {now : Nat} (h : files.createNew path now = .ok files') :
    files path = none ∧ files'.contentAt path = some [] ∧
      SameExcept [path] files files' := by
  unfold createNew at h
  split at h
  · rename_i hnone
    cases h
    refine ⟨hnone, ?_, (SameExcept.refl [path] files).set _ (by simp)⟩
    simp [contentAt]
  · cases h

/-- A free name can be created. -/
theorem createNew_of_none {files : FileTree} (h : files path = none) (now : Nat) :
    ∃ files', files.createNew path now = .ok files' := by
  unfold createNew
  rw [h]
  exact ⟨_, rfl⟩

theorem setLen_eq_ok {length now : Nat} (hcontent : files.contentAt path = some content)
    (h : files.setLen path length now = .ok files') :
    files'.contentAt path = some (resize 0 content length) ∧
      SameExcept [path] files files' := by
  obtain ⟨node, hopen, hstore⟩ := bind_eq_ok.mp h
  have hnode := contentAt_of_openFile hopen
  rw [hcontent] at hnode
  cases hnode
  exact store_eq_ok hstore

/-- A file can be given any length below the greatest size. -/
theorem setLen_of_contentAt {files : FileTree} {length : Nat}
    (hcontent : files.contentAt path = some content) (now : Nat)
    (hsize : length < fileSizeLimit) : ∃ files', files.setLen path length now = .ok files' := by
  obtain ⟨node, hnode, rfl⟩ := contentAt_eq_some.mp hcontent
  unfold setLen store
  rw [openFile_eq_ok.mpr hnode, ok_bind, dif_pos (by rwa [resize_length])]
  exact ⟨_, rfl⟩

theorem writeAt_eq_ok {offset now : Nat} {bytes content : Bytes}
    (hcontent : files.contentAt path = some content)
    (h : files.writeAt path offset bytes now = .ok files') :
    files'.contentAt path = some (overwrite 0 content offset bytes) ∧
      SameExcept [path] files files' := by
  obtain ⟨node, hopen, hstore⟩ := bind_eq_ok.mp h
  have hnode := contentAt_of_openFile hopen
  rw [hcontent] at hnode
  cases hnode
  exact store_eq_ok hstore

/-- A write to a file succeeds while the file stays below the greatest size. -/
theorem writeAt_of_contentAt {files : FileTree} {offset : Nat} {bytes content : Bytes}
    (hcontent : files.contentAt path = some content) (now : Nat)
    (hsize : (overwrite 0 content offset bytes).length < fileSizeLimit) :
    ∃ files', files.writeAt path offset bytes now = .ok files' := by
  obtain ⟨node, hnode, rfl⟩ := contentAt_eq_some.mp hcontent
  unfold writeAt store
  rw [openFile_eq_ok.mpr hnode, ok_bind, dif_pos hsize]
  exact ⟨_, rfl⟩

theorem replace_eq_ok (hcontent : files.contentAt source = some content)
    (h : files.replace source destination = .ok files') :
    files'.contentAt destination = some content ∧
      SameExcept [source, destination] files files' := by
  unfold replace at h
  obtain ⟨node, hopen, h⟩ := bind_eq_ok.mp h
  obtain ⟨_, h⟩ := bind_rest h
  rw [pure_eq_ok] at h
  cases h
  have hnode := contentAt_of_openFile hopen
  rw [hcontent] at hnode
  cases hnode
  refine ⟨by simp [contentAt], ?_⟩
  exact ((SameExcept.refl _ files).set _ (by simp)).set _ (by simp)

/-- A file can be renamed to any name that is not a directory. -/
theorem replace_of_contentAt {files : FileTree}
    (hcontent : files.contentAt source = some content)
    (hdestination : files destination ≠ some .directory) :
    ∃ files', files.replace source destination = .ok files' := by
  obtain ⟨node, hnode, _⟩ := contentAt_eq_some.mp hcontent
  unfold replace ensure
  rw [openFile_eq_ok.mpr hnode, ok_bind, if_pos hdestination, ok_bind]
  exact ⟨_, rfl⟩

/-- A renamed file leaves its old name free. -/
theorem replace_frees (hne : source ≠ destination)
    (h : files.replace source destination = .ok files') :
    files' source = none := by
  unfold replace at h
  obtain ⟨_, h⟩ := bind_rest h
  obtain ⟨_, h⟩ := bind_rest h
  rw [pure_eq_ok] at h
  cases h
  rw [set_ne _ _ hne, set_same]

theorem restoreFile_eq_ok {lastWriteTime : Nat} {sourceAttributes : UInt32}
    (hcontent : files.contentAt path = some content)
    (h : files.restoreFile path lastWriteTime sourceAttributes = .ok files') :
    files'.contentAt path = some content ∧ SameExcept [path] files files' := by
  unfold restoreFile at h
  obtain ⟨node, hopen, h⟩ := bind_eq_ok.mp h
  rw [pure_eq_ok] at h
  cases h
  have hnode := contentAt_of_openFile hopen
  rw [hcontent] at hnode
  cases hnode
  exact ⟨by simp [contentAt], (SameExcept.refl _ files).set _ (by simp)⟩

end FileTree

end NetworkCopy
