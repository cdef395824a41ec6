import NetworkCopy.Lane.Wire
import NetworkCopy.LaneReport
import NetworkCopy.ManifestTree

/-!
# The manifest on the wire

`send_manifest` and `receive_manifest_entries` of `control_plane.rs`.  The message
announces a summary, the counts, the byte total and a fingerprint over all entries, and
then lists the directories and the files.  The receiver computes the summary again while
it reads, validates the tree, and compares.

`agree_manifest` passes a manifest from one side to the other.  `parses_manifest` goes
the other way: whatever the receiver accepts is the message that the sender writes for
the entries it returns.

The counting reader and writer count the bytes of a message in memory, so their counters
do not overflow.
-/

namespace NetworkCopy

open ByteOrder Duplex Parses

/-- `MESSAGE_MANIFEST`. -/
def messageManifest : UInt8 := 0x10

/-- `MAX_PATH_UTF16_UNITS`. -/
@[irreducible] def maxPathUtf16Units : Nat := 1024 * 1024

/-- `FNV_OFFSET_BASIS`. -/
@[irreducible] def fnvOffsetBasis : Nat := 0xcbf29ce484222325

/-- `FNV_PRIME`. -/
@[irreducible] def fnvPrime : Nat := 0x100000001b3

/-- `MANIFEST_KIND_DIRECTORY`. -/
def manifestKindDirectory : UInt8 := 1

/-- `MANIFEST_KIND_FILE`. -/
def manifestKindFile : UInt8 := 2

/-- `ManifestSummary`. -/
structure ManifestSummary where
  entries : Nat
  directories : Nat
  totalFileBytes : Nat
  fingerprint : Nat
  deriving DecidableEq

namespace ManifestSummary

/-- The summary before the first entry. -/
def empty : ManifestSummary := ⟨0, 0, 0, fnvOffsetBasis⟩

/-- The `{:?}` text of a summary. -/
def debug (summary : ManifestSummary) : String :=
  "ManifestSummary \x7b entries: " ++ toString summary.entries ++ ", directories: " ++
    toString summary.directories ++ ", total_file_bytes: " ++
    toString summary.totalFileBytes ++ ", fingerprint: " ++ toString summary.fingerprint ++
    " \x7d"

end ManifestSummary

/-! ## The fingerprint -/

/-- `hash_bytes`. -/
def hashBytes (hash : Nat) (bytes : Bytes) : Nat :=
  bytes.foldl (fun hash byte => (hash ^^^ byte.toNat) * fnvPrime % u64Limit) hash

/-- The units of a path, each as two bytes. -/
def unitBytes (path : RelativePath) : Bytes := path.flatMap (fun unit => beBytes 2 unit.toNat)

/-- `class_to_wire`. -/
def classToWire : FileClass → UInt8
  | .tiny => 1
  | .medium => 2
  | .large => 3

/-- `class_from_wire`. -/
def classFromWire (value : UInt8) : IoResult FileClass :=
  if value = 1 then .ok .tiny
  else if value = 2 then .ok .medium
  else if value = 3 then .ok .large
  else
    let unknown := value.toNat
    .error (.invalidData s!"received unknown file class {unknown}")

/-- `hash_directory_entry`. -/
def hashDirectoryEntry (hash : Nat) (entry : DirectoryEntry) : Nat :=
  hashBytes hash (manifestKindDirectory :: unitBytes entry.relativePath)

/-- `hash_manifest_entry`. -/
def hashManifestEntry (hash : Nat) (entry : ManifestEntry) : Nat :=
  hashBytes hash (manifestKindFile :: (unitBytes entry.relativePath ++
    beBytes 8 entry.fileSize ++ beBytes 8 entry.lastWriteTime ++
    beBytes 4 entry.fileAttributes.toNat ++ [classToWire entry.fileClass]))

/-- The texts with which the sender and the receiver report an overflow. -/
structure SummaryErrors where
  directories : String
  entries : String
  bytes : String

/-- The texts of `summarize_manifest`. -/
def summarizeErrors : SummaryErrors where
  directories := "manifest directory count overflowed"
  entries := "manifest entry count overflowed"
  bytes := "manifest file byte count overflowed"

/-- The texts of `receive_manifest_entries`. -/
def receivedErrors : SummaryErrors where
  directories := "received directory count overflowed"
  entries := "received manifest entry count overflowed"
  bytes := "received manifest byte count overflowed"

/-- One turn of the loop over the directories. -/
def addDirectory (errors : SummaryErrors) (summary : ManifestSummary) (entry : DirectoryEntry) :
    IoResult ManifestSummary := do
  let directories ← addCounter summary.directories 1 errors.directories
  return { summary with directories, fingerprint := hashDirectoryEntry summary.fingerprint entry }

/-- One turn of the loop over the files. -/
def addEntry (errors : SummaryErrors) (summary : ManifestSummary) (entry : ManifestEntry) :
    IoResult ManifestSummary := do
  let entries ← addCounter summary.entries 1 errors.entries
  let totalFileBytes ← addCounter summary.totalFileBytes entry.fileSize errors.bytes
  return { summary with entries, totalFileBytes
                        fingerprint := hashManifestEntry summary.fingerprint entry }

/-- `summarize_manifest`. -/
def summarizeManifest (manifest : Manifest) (directories : List DirectoryEntry) :
    IoResult ManifestSummary := do
  validateTreeEntries manifest directories
  let summary ← directories.foldlM (addDirectory summarizeErrors) .empty
  manifest.foldlM (addEntry summarizeErrors) summary

/-! ## Paths -/

/-- The loop that writes the units of a path with `write_u16`. -/
def writeUnits : List UInt16 → Party Unit
  | [] => .ret ()
  | unit :: rest => do
      Proc.write (beBytes 2 unit.toNat)
      writeUnits rest

/-- The loop that reads units with `read_u16`. -/
def readUnits : Nat → Party (List UInt16)
  | 0 => .ret []
  | count + 1 => do
      let bytes ← Proc.read 2
      let rest ← readUnits count
      return UInt16.ofNat (beValue bytes) :: rest

/-- `write_relative_path`. -/
def writeRelativePath (path : RelativePath) : Party Unit := do
  attempt .refused (validateRelativePath path)
  let text := displayPath path
  attempt .refused (ensure (path ≠ [] ∧ path.length ≤ maxPathUtf16Units)
    (.invalidInput s!"manifest path has invalid UTF-16 length: {text}"))
  let count ← attempt .refused
    (u32TryFrom path.length (.invalidInput "manifest path is too long"))
  writeU32 count
  writeUnits path

/-- `read_relative_path`. -/
def readRelativePath : Party RelativePath := do
  let pathUnitCount ← readU32
  attempt .protocol (ensure (pathUnitCount ≠ 0 ∧ pathUnitCount ≤ maxPathUtf16Units)
    (.invalidData s!"received invalid UTF-16 path length {pathUnitCount}"))
  let relativePath ← readUnits pathUnitCount
  attempt .protocol (validateRelativePath relativePath)
  return relativePath

/-! ## Entries -/

/-- `read_u64` with the bound of its type. -/
def readBoundedU64 : Party { value : Nat // value < u64Limit } := do
  let bytes ← Proc.read 8
  return ⟨beValue (bytes.takeD 8 0), by
    have h := beValue_lt (bytes.takeD 8 0)
    rw [List.takeD_length] at h
    rw [u64Limit_eq]
    exact h⟩

/-- `write_directory_entry`. -/
def writeDirectoryEntry (entry : DirectoryEntry) : Party Unit :=
  writeRelativePath entry.relativePath

/-- `read_directory_entry`. -/
def readDirectoryEntry : Party DirectoryEntry := do
  let relativePath ← readRelativePath
  return { relativePath }

/-- `write_manifest_entry`. -/
def writeManifestEntry (entry : ManifestEntry) : Party Unit := do
  writeRelativePath entry.relativePath
  writeU64 entry.fileSize
  writeU64 entry.lastWriteTime
  writeU32 entry.fileAttributes.toNat
  writeU8 (classToWire entry.fileClass)

/-- `read_manifest_entry`. -/
def readManifestEntry : Party ManifestEntry := do
  let relativePath ← readRelativePath
  let fileSize ← readBoundedU64
  let lastWriteTime ← readBoundedU64
  let fileAttributes ← readU32
  let class_ ← readU8
  let fileClass ← attempt .protocol (classFromWire class_)
  return { relativePath, fileSize := fileSize.1, lastWriteTime := lastWriteTime.1
           fileAttributes := UInt32.ofNat fileAttributes, fileClass
           fileSize_lt := fileSize.2, lastWriteTime_lt := lastWriteTime.2 }

/-! ## The message -/

/-- The loop over the directories in `send_manifest`. -/
def writeDirectories : List DirectoryEntry → Party Unit
  | [] => .ret ()
  | entry :: rest => do
      writeDirectoryEntry entry
      writeDirectories rest

/-- The loop over the files. -/
def writeEntries : Manifest → Party Unit
  | [] => .ret ()
  | entry :: rest => do
      writeManifestEntry entry
      writeEntries rest

/-- The bytes of `send_manifest` behind the computation of the summary. -/
def writeManifest (summary : ManifestSummary) (manifest : Manifest)
    (directories : List DirectoryEntry) : Party Unit := do
  writeU8 messageManifest
  writeU64 summary.entries
  writeU64 summary.directories
  writeU64 summary.totalFileBytes
  writeU64 summary.fingerprint
  writeDirectories directories
  writeEntries manifest

/-- `send_manifest`: the number of bytes written. -/
def sendManifest (manifest : Manifest) (directories : List DirectoryEntry) : Party Nat := do
  let expectedSummary ← attempt .refused (summarizeManifest manifest directories)
  let written ← counted (writeManifest expectedSummary manifest directories) 0 0
  return written.2.1

/-- The loop over the announced directories. -/
def readDirectories : Nat → ManifestSummary → Party (List DirectoryEntry × ManifestSummary)
  | 0, summary => .ret ([], summary)
  | count + 1, summary => do
      let entry ← readDirectoryEntry
      let summary ← attempt .protocol (addDirectory receivedErrors summary entry)
      let rest ← readDirectories count summary
      return (entry :: rest.1, rest.2)

/-- The loop over the announced files. -/
def readEntries : Nat → ManifestSummary → Party (Manifest × ManifestSummary)
  | 0, summary => .ret ([], summary)
  | count + 1, summary => do
      let entry ← readManifestEntry
      let summary ← attempt .protocol (addEntry receivedErrors summary entry)
      let rest ← readEntries count summary
      return (entry :: rest.1, rest.2)

/-- What `receive_manifest_entries` reads, without the count of the bytes. -/
def readManifest : Party (Manifest × List DirectoryEntry × ManifestSummary) := do
  let messageType ← readU8
  attempt .protocol (ensure (messageType = messageManifest)
    (.invalidData ("expected manifest message, received type 0x" ++
      hexUpper 2 messageType.toNat)))
  let entries ← readU64
  let directoryCount ← readU64
  let totalFileBytes ← readU64
  let fingerprint ← readU64
  let claimedSummary : ManifestSummary :=
    { entries, directories := directoryCount, totalFileBytes, fingerprint }
  let directories ← readDirectories claimedSummary.directories .empty
  let manifest ← readEntries claimedSummary.entries directories.2
  let actualSummary := manifest.2
  attempt .protocol (validateTreeEntries manifest.1 directories.1)
  attempt .protocol (ensure (actualSummary = claimedSummary)
    (.invalidData ("manifest summary mismatch: sender announced " ++ claimedSummary.debug ++
      ", receiver calculated " ++ actualSummary.debug)))
  return (manifest.1, directories.1, actualSummary)

/-- `receive_manifest_entries`: the files, the directories, the summary and the number of
bytes read. -/
def receiveManifestEntries : Party (Manifest × List DirectoryEntry × ManifestSummary × Nat) := do
  let received ← counted readManifest 0 0
  return (received.1.1, received.1.2.1, received.1.2.2, received.2.2)

/-! ## Summaries -/

variable {summary summary' : ManifestSummary} {directories : List DirectoryEntry}
  {errors : SummaryErrors}
variable {manifest : Manifest} {entry : DirectoryEntry}

/-- The numbers of a summary fit their fields. -/
structure ManifestSummary.InRange (summary : ManifestSummary) : Prop where
  entries : summary.entries < u64Limit
  directories : summary.directories < u64Limit
  totalFileBytes : summary.totalFileBytes < u64Limit
  fingerprint : summary.fingerprint < u64Limit

theorem ManifestSummary.inRange_empty : ManifestSummary.empty.InRange := by
  constructor <;> norm_num [ManifestSummary.empty, fnvOffsetBasis, u64Limit]

theorem hashBytes_lt {hash : Nat} (hhash : hash < u64Limit) (bytes : Bytes) :
    hashBytes hash bytes < u64Limit := by
  induction bytes generalizing hash with
  | nil => exact hhash
  | cons byte rest ih =>
    apply ih
    exact Nat.mod_lt _ (by norm_num [u64Limit])

theorem addDirectory_eq_ok (h : addDirectory errors summary entry = .ok summary') :
    summary.directories + 1 < u64Limit ∧
      summary' = { summary with
        directories := summary.directories + 1
        fingerprint := hashDirectoryEntry summary.fingerprint entry } := by
  obtain ⟨directories, hcount, h⟩ := bind_eq_ok.mp h
  obtain ⟨hlt, rfl⟩ := addCounter_eq_ok.mp hcount
  cases h
  exact ⟨hlt, rfl⟩

theorem addEntry_eq_ok {entry : ManifestEntry}
    (h : addEntry errors summary entry = .ok summary') :
    summary.entries + 1 < u64Limit ∧ summary.totalFileBytes + entry.fileSize < u64Limit ∧
      summary' = { summary with
        entries := summary.entries + 1
        totalFileBytes := summary.totalFileBytes + entry.fileSize
        fingerprint := hashManifestEntry summary.fingerprint entry } := by
  obtain ⟨entries, hcount, h⟩ := bind_eq_ok.mp h
  obtain ⟨bytes, htotal, h⟩ := bind_eq_ok.mp h
  obtain ⟨hlt, rfl⟩ := addCounter_eq_ok.mp hcount
  obtain ⟨hbytes, rfl⟩ := addCounter_eq_ok.mp htotal
  cases h
  exact ⟨hlt, hbytes, rfl⟩

/-- The sender and the receiver count alike. -/
theorem addDirectory_text {errors errors' : SummaryErrors}
    (h : addDirectory errors summary entry = .ok summary') :
    addDirectory errors' summary entry = .ok summary' := by
  obtain ⟨hlt, rfl⟩ := addDirectory_eq_ok h
  rw [addDirectory, addCounter_of_lt hlt]
  rfl

theorem addEntry_text {errors errors' : SummaryErrors} {entry : ManifestEntry}
    (h : addEntry errors summary entry = .ok summary') :
    addEntry errors' summary entry = .ok summary' := by
  obtain ⟨hlt, hbytes, rfl⟩ := addEntry_eq_ok h
  rw [addEntry, addCounter_of_lt hlt, ok_bind, addCounter_of_lt hbytes]
  rfl

/-- What the loop over the directories does to a summary. -/
theorem foldlM_addDirectory_eq_ok :
    ∀ {summary summary' : ManifestSummary}, summary.InRange →
      directories.foldlM (addDirectory errors) summary = .ok summary' →
      summary'.InRange ∧ summary'.directories = summary.directories + directories.length ∧
        summary'.entries = summary.entries ∧
        summary'.totalFileBytes = summary.totalFileBytes := by
  induction directories with
  | nil =>
    intro summary summary' hrange h
    cases h
    exact ⟨hrange, rfl, rfl, rfl⟩
  | cons entry rest ih =>
    intro summary summary' hrange h
    rw [List.foldlM_cons] at h
    obtain ⟨next, hnext, h⟩ := bind_eq_ok.mp h
    obtain ⟨hlt, rfl⟩ := addDirectory_eq_ok hnext
    have hnextRange : ManifestSummary.InRange
        { summary with
          directories := summary.directories + 1
          fingerprint := hashDirectoryEntry summary.fingerprint entry } :=
      ⟨hrange.entries, hlt, hrange.totalFileBytes, hashBytes_lt hrange.fingerprint _⟩
    obtain ⟨hrange', hcount, hkept⟩ := ih hnextRange h
    refine ⟨hrange', ?_, hkept⟩
    rw [hcount, List.length_cons, Nat.add_assoc, Nat.add_comm 1]

/-- What the loop over the files does to a summary. -/
theorem foldlM_addEntry_eq_ok :
    ∀ {summary summary' : ManifestSummary}, summary.InRange →
      manifest.foldlM (addEntry errors) summary = .ok summary' →
      summary'.InRange ∧ summary'.entries = summary.entries + manifest.length ∧
        summary'.directories = summary.directories ∧
        summary'.totalFileBytes = summary.totalFileBytes + Manifest.totalBytes manifest := by
  induction manifest with
  | nil =>
    intro summary summary' hrange h
    cases h
    exact ⟨hrange, rfl, rfl, rfl⟩
  | cons entry rest ih =>
    intro summary summary' hrange h
    rw [List.foldlM_cons] at h
    obtain ⟨next, hnext, h⟩ := bind_eq_ok.mp h
    obtain ⟨hlt, hbytes, rfl⟩ := addEntry_eq_ok hnext
    have hnextRange : ManifestSummary.InRange
        { summary with
          entries := summary.entries + 1
          totalFileBytes := summary.totalFileBytes + entry.fileSize
          fingerprint := hashManifestEntry summary.fingerprint entry } :=
      ⟨hlt, hrange.directories, hbytes, hashBytes_lt hrange.fingerprint _⟩
    obtain ⟨hrange', hcount, hdirectories, htotal⟩ := ih hnextRange h
    refine ⟨hrange', ?_, hdirectories, ?_⟩
    · rw [hcount, List.length_cons, Nat.add_assoc, Nat.add_comm 1]
    · rw [htotal, Manifest.totalBytes, Manifest.totalBytes, List.map_cons, List.sum_cons,
        Nat.add_assoc]

/-- A summary has the counts and the byte total of its entries. -/
theorem summarizeManifest_eq_ok {summary : ManifestSummary}
    (h : summarizeManifest manifest directories = .ok summary) :
    summary.InRange ∧ summary.entries = manifest.length ∧
      summary.directories = directories.length ∧
      summary.totalFileBytes = manifest.totalBytes := by
  obtain ⟨_, h⟩ := bind_rest h
  obtain ⟨middle, hdirectories, hentries⟩ := bind_eq_ok.mp h
  obtain ⟨hrange, hdirectoryCount, hnoEntries, hnoBytes⟩ :=
    foldlM_addDirectory_eq_ok ManifestSummary.inRange_empty hdirectories
  obtain ⟨hrange', hentryCount, hkept, htotal⟩ := foldlM_addEntry_eq_ok hrange hentries
  refine ⟨hrange', ?_, ?_, ?_⟩
  · rw [hentryCount, hnoEntries, ManifestSummary.empty, Nat.zero_add]
  · rw [hkept, hdirectoryCount, ManifestSummary.empty, Nat.zero_add]
  · rw [htotal, hnoBytes, ManifestSummary.empty, Nat.zero_add]

/-! ## From the sender to the receiver -/

section

variable {L R : Fault → Prop}

theorem agree_units (path : List UInt16) :
    Agree L R (writeUnits path) (readUnits path.length) (fun _ units => units = path) := by
  induction path with
  | nil => exact Agree.ret rfl
  | cons unit rest ih =>
    rw [writeUnits, List.length_cons, readUnits]
    apply agree_bytes (by simp)
    have hunit : UInt16.ofNat (beValue (beBytes 2 unit.toNat)) = unit := by
      have hlt := unit.toNat_lt
      rw [beValue_beBytes 2 unit.toNat (by omega)]
      simp
    rw [hunit]
    apply ih.bindRight
    rintro _ units rfl
    exact Agree.ret rfl

/-- A path that the sender does not refuse. -/
theorem agree_relativePath (path : RelativePath) :
    Agree Fault.IsLocal R (writeRelativePath path) readRelativePath
      (fun _ received => received = path) := by
  unfold writeRelativePath readRelativePath
  refine agree_attempt_left (fun e _ => trivial) ?_
  intro _ hvalid
  refine agree_attempt_left (fun e _ => trivial) ?_
  intro _ hlength
  rw [ensure_eq_ok] at hlength
  refine agree_attempt_left (fun e _ => trivial) ?_
  intro count hcount
  obtain ⟨hlt, rfl⟩ := u32TryFrom_eq_ok.mp hcount
  apply agree_u32 hlt
  apply agree_ensure_right
  · exact ⟨fun hzero => hlength.1 (List.length_eq_zero_iff.mp hzero), hlength.2⟩
  · apply (agree_units path).bindRight
    rintro _ units rfl
    rw [hvalid, attempt_ok, Proc.ret_bind]
    exact Agree.ret rfl

theorem agree_directoryEntry (entry : DirectoryEntry) :
    Agree Fault.IsLocal R (writeDirectoryEntry entry) readDirectoryEntry
      (fun _ received => received = entry) := by
  apply (agree_relativePath entry.relativePath).bindRight
  rintro _ _ rfl
  exact Agree.ret rfl

theorem classFromWire_classToWire (fileClass : FileClass) :
    classFromWire (classToWire fileClass) = .ok fileClass := by
  cases fileClass <;> rfl

/-- A number of the type `u64` with its bound. -/
theorem agree_boundedU64 {α β : Type} {Q : α → β → Prop} {value : Nat}
    (hvalue : value < u64Limit) {f : Unit → Party α}
    {g : { value : Nat // value < u64Limit } → Party β}
    (h : Agree L R (f ()) (g ⟨value, hvalue⟩) Q) :
    Agree L R (writeU64 value >>= f) (readBoundedU64 >>= g) Q := by
  apply agree_bytes (by simp)
  have htake : (beBytes 8 value).takeD 8 0 = beBytes 8 value := by
    rw [List.takeD_eq_take 0 (by simp), List.take_of_length_le (by simp)]
  have hread : beValue ((beBytes 8 value).takeD 8 0) = value := by
    rw [htake, beValue_beBytes 8 value (u64Limit_eq ▸ hvalue)]
  have hsame : (⟨beValue ((beBytes 8 value).takeD 8 0), by rw [hread]; exact hvalue⟩ :
      { value : Nat // value < u64Limit }) = ⟨value, hvalue⟩ := Subtype.ext hread
  rw [hsame]
  exact h

theorem agree_manifestEntry (entry : ManifestEntry) :
    Agree Fault.IsLocal R (writeManifestEntry entry) readManifestEntry
      (fun _ received => received = entry) := by
  unfold writeManifestEntry readManifestEntry
  apply (agree_relativePath entry.relativePath).bind
  rintro _ _ rfl
  apply agree_boundedU64 entry.fileSize_lt
  apply agree_boundedU64 entry.lastWriteTime_lt
  apply agree_u32 (by have := entry.fileAttributes.toNat_lt; omega)
  rw [← Proc.bind_ret (writeU8 (classToWire entry.fileClass))]
  apply agree_u8
  rw [classFromWire_classToWire, attempt_ok, Proc.ret_bind]
  apply Agree.ret
  simp

theorem agree_directories {errors : SummaryErrors} {directories : List DirectoryEntry} :
    ∀ {summary summary' : ManifestSummary},
      directories.foldlM (addDirectory errors) summary = .ok summary' →
      Agree Fault.IsLocal R (writeDirectories directories)
        (readDirectories directories.length summary)
        (fun _ received => received = (directories, summary')) := by
  induction directories with
  | nil =>
    intro summary summary' h
    cases h
    exact Agree.ret rfl
  | cons entry rest ih =>
    intro summary summary' h
    rw [List.foldlM_cons] at h
    obtain ⟨next, hnext, hrest⟩ := bind_eq_ok.mp h
    rw [writeDirectories, List.length_cons, readDirectories]
    apply (agree_directoryEntry entry).bind
    rintro _ _ rfl
    rw [addDirectory_text hnext, attempt_ok, Proc.ret_bind]
    apply (ih hrest).bindRight
    rintro _ _ rfl
    exact Agree.ret rfl

theorem agree_entries {errors : SummaryErrors} {manifest : Manifest} :
    ∀ {summary summary' : ManifestSummary},
      manifest.foldlM (addEntry errors) summary = .ok summary' →
      Agree Fault.IsLocal R (writeEntries manifest) (readEntries manifest.length summary)
        (fun _ received => received = (manifest, summary')) := by
  induction manifest with
  | nil =>
    intro summary summary' h
    cases h
    exact Agree.ret rfl
  | cons entry rest ih =>
    intro summary summary' h
    rw [List.foldlM_cons] at h
    obtain ⟨next, hnext, hrest⟩ := bind_eq_ok.mp h
    rw [writeEntries, List.length_cons, readEntries]
    apply (agree_manifestEntry entry).bind
    rintro _ _ rfl
    rw [addEntry_text hnext, attempt_ok, Proc.ret_bind]
    apply (ih hrest).bindRight
    rintro _ _ rfl
    exact Agree.ret rfl

/-- The message of a manifest that the sender could summarize. -/
theorem agree_manifest {manifest : Manifest} {directories : List DirectoryEntry}
    {summary : ManifestSummary} (h : summarizeManifest manifest directories = .ok summary) :
    Agree Fault.IsLocal R (writeManifest summary manifest directories) readManifest
      (fun _ received => received = (manifest, directories, summary)) := by
  obtain ⟨hrange, hentryCount, hdirectoryCount, _⟩ := summarizeManifest_eq_ok h
  obtain ⟨_, hvalid, h⟩ := bind_eq_ok.mp h
  obtain ⟨middle, hdirectories, hentries⟩ := bind_eq_ok.mp h
  unfold writeManifest readManifest
  apply agree_u8
  apply agree_ensure_right rfl
  apply agree_u64 hrange.entries
  apply agree_u64 hrange.directories
  apply agree_u64 hrange.totalFileBytes
  apply agree_u64 hrange.fingerprint
  dsimp only
  rw [hdirectoryCount, hentryCount]
  apply (agree_directories hdirectories).bind
  rintro _ _ rfl
  apply (agree_entries hentries).bindRight
  rintro _ _ rfl
  rw [hvalid, attempt_ok, Proc.ret_bind]
  apply agree_ensure_right
  · rw [← hdirectoryCount, ← hentryCount]
  · exact Agree.ret rfl

/-- `send_manifest` against `receive_manifest_entries`. -/
theorem agree_sendManifest (manifest : Manifest) (directories : List DirectoryEntry) :
    Agree Fault.IsLocal R (sendManifest manifest directories) receiveManifestEntries
      (fun written received => ∃ summary,
        summarizeManifest manifest directories = .ok summary ∧
        received = (manifest, directories, summary, written)) := by
  unfold sendManifest receiveManifestEntries
  refine agree_attempt_left (fun e _ => trivial) ?_
  intro summary hsummary
  apply (agree_manifest hsummary).counted.bind
  rintro ⟨_, sent, received⟩ ⟨_, sent', received'⟩ ⟨rfl, hcount, _⟩
  apply Agree.ret
  exact ⟨summary, hsummary, by rw [hcount]⟩

end

/-! ## From the receiver to the sender -/

/-- The bytes of a path. -/
def pathBytes (path : RelativePath) : Bytes := beBytes 4 path.length ++ unitBytes path

/-- The bytes of a file entry. -/
def entryBytes (entry : ManifestEntry) : Bytes :=
  pathBytes entry.relativePath ++ beBytes 8 entry.fileSize ++ beBytes 8 entry.lastWriteTime ++
    beBytes 4 entry.fileAttributes.toNat ++ [classToWire entry.fileClass]

/-- The part of the message that announces the summary. -/
def summaryBytes (summary : ManifestSummary) : Bytes :=
  messageManifest :: (beBytes 8 summary.entries ++ beBytes 8 summary.directories ++
    beBytes 8 summary.totalFileBytes ++ beBytes 8 summary.fingerprint)

theorem parses_units {count : Nat} : ∀ {w : Bytes} {units : List UInt16},
    Parses (readUnits count) w units → units.length = count ∧ w = unitBytes units := by
  induction count with
  | zero =>
    intro w units h
    obtain ⟨rfl, rfl⟩ := h.ret_inv
    exact ⟨rfl, rfl⟩
  | succ count ih =>
    intro w units h
    rw [readUnits] at h
    obtain ⟨bytes, rest, rfl, hlength, hnext⟩ := recv_inv h
    have hrest : Parses (readUnits count >>= fun units =>
        (.ret (UInt16.ofNat (beValue bytes) :: units) : Party (List UInt16))) rest units :=
      hnext
    obtain ⟨unitsBytes, last, tail, rfl, htail, hlast⟩ := bind_inv hrest
    obtain ⟨rfl, rfl⟩ := hlast.ret_inv
    obtain ⟨htailLength, rfl⟩ := ih htail
    refine ⟨by rw [List.length_cons, htailLength], ?_⟩
    have hlt := beValue_lt bytes
    rw [hlength] at hlt
    have hunit : (UInt16.ofNat (beValue bytes)).toNat = beValue bytes := by
      rw [UInt16.toNat_ofNat']
      omega
    have hbytes := beBytes_beValue bytes
    rw [hlength] at hbytes
    have hcons : unitBytes (UInt16.ofNat (beValue bytes) :: tail) = bytes ++ unitBytes tail := by
      rw [unitBytes, List.flatMap_cons, hunit, hbytes, unitBytes]
    rw [List.append_nil, hcons]

/-- A path that was read is a valid one. -/
theorem parses_relativePath {w : Bytes} {path : RelativePath} (h : Parses readRelativePath w path) :
    validateRelativePath path = .ok () ∧ path.length ≤ maxPathUtf16Units ∧
      w = pathBytes path := by
  unfold readRelativePath at h
  obtain ⟨countBytes, rest, count, rfl, hcount, h⟩ := bind_inv h
  obtain ⟨_, hlength, h⟩ := parses_attempt h
  obtain ⟨unitBytes', rest', units, rfl, hunits, h⟩ := bind_inv h
  obtain ⟨_, hvalid, h⟩ := parses_attempt h
  obtain ⟨rfl, rfl⟩ := ret_inv h
  obtain ⟨rfl, _⟩ := parses_u32 hcount
  obtain ⟨rfl, rfl⟩ := parses_units hunits
  rw [ensure_eq_ok] at hlength
  exact ⟨hvalid, hlength.2, by rw [List.append_nil, pathBytes]⟩

theorem parses_directoryEntry {w : Bytes} (h : Parses readDirectoryEntry w entry) :
    validateRelativePath entry.relativePath = .ok () ∧ w = pathBytes entry.relativePath := by
  obtain ⟨first, rest, path, rfl, hpath, h⟩ := bind_inv h
  obtain ⟨rfl, rfl⟩ := ret_inv h
  obtain ⟨hvalid, _, rfl⟩ := parses_relativePath hpath
  exact ⟨hvalid, by rw [List.append_nil]⟩

theorem parses_boundedU64 {w : Bytes} {value : { value : Nat // value < u64Limit }}
    (h : Parses readBoundedU64 w value) : w = beBytes 8 value.1 := by
  obtain ⟨bytes, rest, rfl, hlength, h⟩ := recv_inv h
  obtain ⟨rfl, rfl⟩ := ret_inv h
  have htake : bytes.takeD 8 0 = bytes := by
    rw [List.takeD_eq_take 0 hlength.ge, List.take_of_length_le hlength.le]
  have hbytes := beBytes_beValue bytes
  rw [hlength] at hbytes
  show bytes ++ [] = beBytes 8 (beValue (bytes.takeD 8 0))
  rw [List.append_nil, htake, hbytes]

theorem classToWire_of_classFromWire {value : UInt8} {fileClass : FileClass}
    (h : classFromWire value = .ok fileClass) : classToWire fileClass = value := by
  unfold classFromWire at h
  split_ifs at h with htiny hmedium hlarge
  · cases h
    exact htiny.symm
  · cases h
    exact hmedium.symm
  · cases h
    exact hlarge.symm

theorem parses_manifestEntry {w : Bytes} {entry : ManifestEntry}
    (h : Parses readManifestEntry w entry) :
    validateRelativePath entry.relativePath = .ok () ∧ w = entryBytes entry := by
  unfold readManifestEntry at h
  obtain ⟨pathPart, rest, path, rfl, hpath, h⟩ := bind_inv h
  obtain ⟨sizePart, rest, size, rfl, hsize, h⟩ := bind_inv h
  obtain ⟨timePart, rest, time, rfl, htime, h⟩ := bind_inv h
  obtain ⟨attributePart, rest, attributes, rfl, hattributes, h⟩ := bind_inv h
  obtain ⟨classPart, rest, class_, rfl, hclass, h⟩ := bind_inv h
  obtain ⟨fileClass, hfileClass, h⟩ := parses_attempt h
  obtain ⟨rfl, rfl⟩ := ret_inv h
  obtain ⟨hvalid, _, rfl⟩ := parses_relativePath hpath
  obtain ⟨rfl, hlt⟩ := parses_u32 hattributes
  have hword : (UInt32.ofNat attributes).toNat = attributes := by
    rw [UInt32.toNat_ofNat']
    omega
  rw [parses_boundedU64 hsize, parses_boundedU64 htime, parses_u8 hclass]
  refine ⟨hvalid, ?_⟩
  simp [entryBytes, hword, classToWire_of_classFromWire hfileClass]

/-- The loop over the announced directories. -/
theorem parses_directories {count : Nat} :
    ∀ {w : Bytes} {summary summary' : ManifestSummary} {directories : List DirectoryEntry},
      Parses (readDirectories count summary) w (directories, summary') →
      directories.length = count ∧
        (∀ entry ∈ directories, validateRelativePath entry.relativePath = .ok ()) ∧
        directories.foldlM (addDirectory summarizeErrors) summary = .ok summary' ∧
        w = directories.flatMap (fun entry => pathBytes entry.relativePath) := by
  induction count with
  | zero =>
    intro w summary summary' directories h
    obtain ⟨rfl, hsame⟩ := ret_inv h
    cases hsame
    simp
  | succ count ih =>
    intro w summary summary' directories h
    rw [readDirectories] at h
    obtain ⟨entryPart, rest, entry, rfl, hentry, h⟩ := bind_inv h
    obtain ⟨next, hnext, h⟩ := parses_attempt h
    obtain ⟨restPart, rest', ⟨tail, last⟩, rfl, htail, h⟩ := bind_inv h
    obtain ⟨rfl, hsame⟩ := ret_inv h
    cases hsame
    obtain ⟨hvalid, rfl⟩ := parses_directoryEntry hentry
    obtain ⟨hlength, hall, hfold, rfl⟩ := ih htail
    refine ⟨by simp [hlength], by simpa using ⟨hvalid, hall⟩, ?_, by simp⟩
    rw [List.foldlM_cons, addDirectory_text hnext, ok_bind]
    exact hfold

/-- The loop over the announced files. -/
theorem parses_entries {count : Nat} :
    ∀ {w : Bytes} {summary summary' : ManifestSummary} {manifest : Manifest},
      Parses (readEntries count summary) w (manifest, summary') →
      manifest.length = count ∧
        (∀ entry ∈ manifest, validateRelativePath entry.relativePath = .ok ()) ∧
        manifest.foldlM (addEntry summarizeErrors) summary = .ok summary' ∧
        w = manifest.flatMap entryBytes := by
  induction count with
  | zero =>
    intro w summary summary' manifest h
    obtain ⟨rfl, hsame⟩ := ret_inv h
    cases hsame
    simp
  | succ count ih =>
    intro w summary summary' manifest h
    rw [readEntries] at h
    obtain ⟨entryPart, rest, entry, rfl, hentry, h⟩ := bind_inv h
    obtain ⟨next, hnext, h⟩ := parses_attempt h
    obtain ⟨restPart, rest', ⟨tail, last⟩, rfl, htail, h⟩ := bind_inv h
    obtain ⟨rfl, hsame⟩ := ret_inv h
    cases hsame
    obtain ⟨hvalid, rfl⟩ := parses_manifestEntry hentry
    obtain ⟨hlength, hall, hfold, rfl⟩ := ih htail
    refine ⟨by simp [hlength], by simpa using ⟨hvalid, hall⟩, ?_, by simp⟩
    rw [List.foldlM_cons, addEntry_text hnext, ok_bind]
    exact hfold

/-- What is known about a message that was accepted. -/
structure Accepted (w : Bytes) (manifest : Manifest) (directories : List DirectoryEntry)
    (summary : ManifestSummary) : Prop where
  filePaths : ∀ entry ∈ manifest, validateRelativePath entry.relativePath = .ok ()
  directoryPaths : ∀ entry ∈ directories, validateRelativePath entry.relativePath = .ok ()
  tree : validateTreeEntries manifest directories = .ok ()
  summarized : summarizeManifest manifest directories = .ok summary
  counts : summary.entries = manifest.length ∧ summary.directories = directories.length
  bytes : summary.totalFileBytes = manifest.totalBytes
  announced : w = summaryBytes summary ++
    directories.flatMap (fun entry => pathBytes entry.relativePath) ++
    manifest.flatMap entryBytes

theorem parses_manifest {w : Bytes} {summary : ManifestSummary}
    (h : Parses readManifest w (manifest, directories, summary)) :
    Accepted w manifest directories summary := by
  unfold readManifest at h
  obtain ⟨typePart, rest, messageType, rfl, htype, h⟩ := bind_inv h
  obtain ⟨_, hmessage, h⟩ := parses_attempt h
  obtain ⟨entryPart, rest, entries, rfl, hentries, h⟩ := bind_inv h
  obtain ⟨directoryPart, rest, directoryCount, rfl, hdirectories, h⟩ := bind_inv h
  obtain ⟨bytePart, rest, totalFileBytes, rfl, hbytes, h⟩ := bind_inv h
  obtain ⟨hashPart, rest, fingerprint, rfl, hfingerprint, h⟩ := bind_inv h
  dsimp only at h
  obtain ⟨listPart, rest, ⟨listed, middle⟩, rfl, hlisted, h⟩ := bind_inv h
  obtain ⟨filePart, rest, ⟨files, actual⟩, rfl, hfiles, h⟩ := bind_inv h
  obtain ⟨_, hvalid, h⟩ := parses_attempt h
  obtain ⟨_, hsame, h⟩ := parses_attempt h
  obtain ⟨rfl, hresult⟩ := ret_inv h
  cases hresult
  rw [ensure_eq_ok] at hmessage hsame
  obtain ⟨hlistCount, hlistValid, hlistFold, rfl⟩ := parses_directories hlisted
  obtain ⟨hfileCount, hfileValid, hfileFold, rfl⟩ := parses_entries hfiles
  rw [parses_u8 htype, (parses_u64 hentries).1, (parses_u64 hdirectories).1,
    (parses_u64 hbytes).1, (parses_u64 hfingerprint).1, hmessage]
  subst hsame
  have hsummary : summarizeManifest files listed =
      .ok { entries, directories := directoryCount, totalFileBytes, fingerprint } := by
    unfold summarizeManifest
    rw [hvalid, ok_bind, hlistFold, ok_bind, hfileFold]
  obtain ⟨_, _, _, htotal⟩ := summarizeManifest_eq_ok hsummary
  refine ⟨hfileValid, hlistValid, hvalid, hsummary, ⟨hfileCount.symm, hlistCount.symm⟩, htotal, ?_⟩
  simp [summaryBytes]

/-- `receive_manifest_entries` counts the bytes of a message that it accepts. -/
theorem parses_receiveManifestEntries {w : Bytes} {summary : ManifestSummary} {read : Nat}
    (h : Parses receiveManifestEntries w (manifest, directories, summary, read)) :
    Accepted w manifest directories summary ∧ read = w.length := by
  unfold receiveManifestEntries at h
  obtain ⟨first, rest, ⟨⟨files, listed, actual⟩, sent, received⟩, rfl, hread, h⟩ :=
    bind_inv h
  obtain ⟨rfl, hsame⟩ := ret_inv h
  cases hsame
  obtain ⟨hparses, hcount⟩ := hread.counted_inv
  rw [List.append_nil]
  exact ⟨parses_manifest hparses, by rw [hcount, Nat.zero_add]⟩

/-- A manifest that was sent is received as it is, from exactly the bytes that were
written, and a message is accepted only when its paths and its tree are valid and its
announcement is the summary of its entries. -/
theorem manifest_wire :
    (∀ (manifest : Manifest) (directories : List DirectoryEntry) (w : Bytes) (written : Nat),
      Emits (sendManifest manifest directories) w (.ok written) →
      ∃ summary, summarizeManifest manifest directories = .ok summary ∧ written = w.length ∧
        Parses receiveManifestEntries w (manifest, directories, summary, w.length)) ∧
    ∀ (w : Bytes) (manifest : Manifest) (directories : List DirectoryEntry)
      (summary : ManifestSummary) (read : Nat),
      Parses receiveManifestEntries w (manifest, directories, summary, read) →
      Accepted w manifest directories summary ∧ read = w.length := by
  refine ⟨?_, fun _ _ _ _ _ => parses_receiveManifestEntries⟩
  intro manifest directories w written h
  obtain ⟨received, hparses, summary, hsummary, rfl⟩ :=
    (agree_sendManifest manifest directories).parses h
  have hcount := (parses_receiveManifestEntries hparses).2
  refine ⟨summary, hsummary, hcount, ?_⟩
  rw [← hcount]
  exact hparses

/-- A small file in a directory. -/
def readme : ManifestEntry where
  relativePath := utf16 "docs\\readme"
  fileSize := 5
  lastWriteTime := 1
  fileAttributes := 0x20
  fileClass := .tiny
  fileSize_lt := five_lt_u64Limit
  lastWriteTime_lt := one_lt_u64Limit

theorem manifest_wire_readme :
    ∃ w summary, Emits (sendManifest [readme] [⟨utf16 "docs"⟩]) w (.ok w.length) ∧
      Parses receiveManifestEntries w ([readme], [⟨utf16 "docs"⟩], summary, w.length) := by
  have hsome : (emission (sendManifest [readme] [⟨utf16 "docs"⟩])).isSome = true := by
    decide +kernel
  obtain ⟨⟨w, written⟩, hsent⟩ := Option.isSome_iff_exists.mp hsome
  have hemits := emits_of_emission hsent
  obtain ⟨summary, _, rfl, hparses⟩ := manifest_wire.1 _ _ w written hemits
  exact ⟨w, summary, hemits, hparses⟩

end NetworkCopy
