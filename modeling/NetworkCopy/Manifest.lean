import NetworkCopy.IoResult

/-!
# Manifest entries

`manifest_scan.rs` describes a source tree as a list of entries.  The position
of an entry in that list is the *file ID* that every later message uses.

A path is the list of its UTF-16 units (`OsStr::encode_wide`).  Sizes and
write times are `u64` and the attribute word is a `u32`; the entry carries the
bounds of its numeric fields, so no later statement has to assume them.
-/

namespace NetworkCopy

/-- The UTF-16 units of a path relative to the source or destination root. -/
abbrev RelativePath := List UInt16

/-- The UTF-16 units of an ASCII text. -/
def utf16 (text : String) : RelativePath :=
  text.toList.map (fun c => UInt16.ofNat c.toNat)

/-- `path.display()`: surrogate pairs are joined and unpaired surrogates replaced. -/
def displayUnits : List UInt16 → List Char
  | [] => []
  | [unit] =>
      if 0xD800 ≤ unit ∧ unit < 0xE000 then ['\uFFFD'] else [Char.ofNat unit.toNat]
  | high :: low :: rest =>
      if 0xD800 ≤ high ∧ high < 0xDC00 ∧ 0xDC00 ≤ low ∧ low < 0xE000 then
        Char.ofNat (0x10000 + (high.toNat - 0xD800) * 0x400 + (low.toNat - 0xDC00)) ::
          displayUnits rest
      else if 0xD800 ≤ high ∧ high < 0xE000 then '\uFFFD' :: displayUnits (low :: rest)
      else Char.ofNat high.toNat :: displayUnits (low :: rest)

/-- The text of a path in a message. -/
def displayPath (path : RelativePath) : String := String.ofList (displayUnits path)

/-- `manifest_scan::MAX_WORKERS`. -/
def maxWorkers : Nat := 64

/-- `manifest_scan::validate_worker_count`. -/
def validateWorkerCount (workerCount : Nat) : IoResult Unit :=
  ensure (1 ≤ workerCount ∧ workerCount ≤ maxWorkers)
    (.invalidInput s!"worker count must be between 1 and {maxWorkers}")

/-- `manifest_scan::FileClass`. -/
inductive FileClass where
  | tiny
  | medium
  | large
  deriving DecidableEq, Repr

/-- `TINY_FILE_MAX_BYTES`. -/
@[irreducible] def tinyFileMaxBytes : Nat := 256 * 1024

/-- `LARGE_FILE_MIN_BYTES`. -/
@[irreducible] def largeFileMinBytes : Nat := 64 * 1024 * 1024

/-- `manifest_scan::classify_file`. -/
def classifyFile (fileSize : Nat) : FileClass :=
  if fileSize ≤ tinyFileMaxBytes then .tiny
  else if largeFileMinBytes ≤ fileSize then .large
  else .medium

/-- `manifest_scan::ManifestEntry`.  The field the source calls `class` is
`fileClass` here. -/
structure ManifestEntry where
  relativePath : RelativePath
  fileSize : Nat
  lastWriteTime : Nat
  fileAttributes : UInt32
  fileClass : FileClass
  fileSize_lt : fileSize < u64Limit
  lastWriteTime_lt : lastWriteTime < u64Limit
  deriving DecidableEq

theorem zero_lt_u64Limit : 0 < u64Limit := by norm_num [u64Limit]

theorem one_lt_u64Limit : 1 < u64Limit := by norm_num [u64Limit]

theorem five_lt_u64Limit : 5 < u64Limit := by norm_num [u64Limit]

theorem medium_lt_u64Limit : 300000 < u64Limit := by norm_num [u64Limit]

/-- The manifest of one session. -/
abbrev Manifest := List ManifestEntry

namespace Manifest

/-- Every entry has the class of its size, as `scan_directory` records it. -/
def Classified (manifest : Manifest) : Prop :=
  ∀ entry ∈ manifest, entry.fileClass = classifyFile entry.fileSize

/-- The class of a file ID, `none` for an ID outside the manifest. -/
def classOf (manifest : Manifest) (fileId : Nat) : Option FileClass :=
  (manifest[fileId]?).map ManifestEntry.fileClass

/-- The size of a file ID, zero for an ID outside the manifest. -/
def sizeOf (manifest : Manifest) (fileId : Nat) : Nat :=
  ((manifest[fileId]?).map ManifestEntry.fileSize).getD 0

/-- `summary.total_file_bytes`: the sum of all file sizes. -/
def totalBytes (manifest : Manifest) : Nat :=
  (manifest.map ManifestEntry.fileSize).sum

/-- The file IDs of one class, in manifest order. -/
def idsOfClass (manifest : Manifest) (fileClass : FileClass) : List Nat :=
  (List.range manifest.length).filter
    (fun fileId => manifest.classOf fileId = some fileClass)

end Manifest

end NetworkCopy
