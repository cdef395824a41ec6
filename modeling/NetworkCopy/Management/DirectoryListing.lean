import NetworkCopy.Management.ControlServer

/-!
# Listing a directory

`enumerate` announces a limit of 50000 entries with names of up to 1024 bytes, and a management
frame carries at most one mebibyte.  `encode_response` adds up what a listing requires and refuses
one that does not fit a frame: whether a directory can be reported depends on the bytes of its
names, not on the two limits.
-/

namespace NetworkCopy

/-! ## What the file system answers -/

/-- The metadata of an entry: `modified` is the whole seconds since the epoch, where the time is
known and not before it. -/
structure EntryMetadata where
  isDir : Bool
  isFile : Bool
  len : UInt64
  modified : Option UInt64
  deriving DecidableEq

/-- An item of `read_dir`; the name is what `to_string_lossy` makes of it. -/
structure DirEntry where
  name : String
  metadata : IoResult EntryMetadata

/-- What the file system answers about a path. -/
structure DirectoryView where
  isAbsolute : Bool
  isDir : IoResult Bool
  readDir : IoResult (List (IoResult DirEntry))

/-! ## The listing -/

/-- `ManagementEntryKind::sort_rank`. -/
def ManagementEntryKind.sortRank : ManagementEntryKind → Nat
  | .directory => 0
  | .file => 1
  | .other => 2

/-- The entry of an item with its metadata. -/
def listedEntry (name : String) (metadata : EntryMetadata) : ManagementDirectoryEntry :=
  let kind := if metadata.isDir then .directory else if metadata.isFile then .file else .other
  { name, kind
    size := if kind = .file then metadata.len else 0
    modifiedUnixSeconds := metadata.modified }

/-- The loop of `enumerate`. -/
def listEntries : List (IoResult DirEntry) → List ManagementDirectoryEntry →
    IoResult (List ManagementDirectoryEntry)
  | [], entries => .ok entries
  | item :: rest, entries => do
      let entry ← item
      validateWireText entry.name maxEntryNameBytes "directory entry name" false
      let metadata ← entry.metadata
      let entries := entries ++ [listedEntry entry.name metadata]
      ensure (entries.length ≤ maxDirectoryEntries)
        (.invalidData s!"directory contains more than {maxDirectoryEntries} entries")
      listEntries rest entries

/-- The order of a listing; `lowercase` is `str::to_lowercase`. -/
def listingLe (lowercase : String → String) (left right : ManagementDirectoryEntry) : Bool :=
  ((compare left.kind.sortRank right.kind.sortRank).then
    ((compare (lowercase left.name) (lowercase right.name)).then
      (compare left.name right.name))).isLE

/-- `management_directory::enumerate`. -/
def enumerateDirectory (lowercase : String → String) (view : DirectoryView) (path : String) :
    IoResult (List ManagementDirectoryEntry) := do
  validateWireText path maxRemotePathBytes "remote directory path" false
  ensure (view.isAbsolute = true) (.invalidInput "remote directory path must be absolute")
  let isDir ← view.isDir
  ensure (isDir = true)
    (.invalidInput "remote directory path does not identify a directory")
  let items ← view.readDir
  let entries ← listEntries items []
  return entries.mergeSort (listingLe lowercase)

/-! ## What a listing contains -/

variable {entries : List ManagementDirectoryEntry}

theorem listEntries_fits {items : List (IoResult DirEntry)}
    {listed entries : List ManagementDirectoryEntry} (hlisted : DirectoryFits listed)
    (h : listEntries items listed = .ok entries) : DirectoryFits entries := by
  induction items generalizing listed with
  | nil =>
    cases h
    exact hlisted
  | cons item rest ih =>
    rw [listEntries] at h
    obtain ⟨entry, _, h⟩ := bind_eq_ok.mp h
    obtain ⟨_, hname, h⟩ := bind_eq_ok.mp h
    obtain ⟨metadata, _, h⟩ := bind_eq_ok.mp h
    obtain ⟨_, hcount, h⟩ := bind_eq_ok.mp h
    refine ih ⟨ensure_eq_ok.mp hcount, ?_⟩ h
    intro other hmem
    rcases List.mem_append.mp hmem with hmem | hmem
    · exact hlisted.names other hmem
    · rw [List.mem_singleton.mp hmem]
      exact validateWireText_eq_ok.mp hname

/-- What can be listed is within the limits of the format. -/
theorem enumerateDirectory_fits {lowercase : String → String} {view : DirectoryView}
    {path : String} (h : enumerateDirectory lowercase view path = .ok entries) :
    DirectoryFits entries := by
  unfold enumerateDirectory at h
  obtain ⟨_, h⟩ := bind_rest h
  obtain ⟨_, h⟩ := bind_rest h
  obtain ⟨_, h⟩ := bind_rest h
  obtain ⟨_, h⟩ := bind_rest h
  obtain ⟨items, _, h⟩ := bind_eq_ok.mp h
  obtain ⟨listed, hlisted, h⟩ := bind_eq_ok.mp h
  cases h
  have hfits := listEntries_fits ⟨Nat.zero_le _, by simp⟩ hlisted
  refine ⟨by rw [List.length_mergeSort]; exact hfits.count, ?_⟩
  intro entry hmem
  exact hfits.names entry (List.mem_mergeSort.mp hmem)

/-- The names of a listing need between one and 1024 bytes each. -/
theorem directoryPayloadLength_bounds (h : ∀ entry ∈ entries, EntryNameFits entry) :
    8 + 21 * entries.length ≤ directoryPayloadLength entries ∧
      directoryPayloadLength entries ≤ 8 + 1044 * entries.length := by
  unfold directoryPayloadLength
  simp only [directoryResponseHeaderBytes, directoryEntryHeaderBytes]
  induction entries with
  | nil => simp
  | cons entry rest ih =>
    obtain ⟨hlow, hhigh⟩ := ih (fun other hmem => h other (List.mem_cons_of_mem _ hmem))
    obtain ⟨hname, hsize⟩ := h entry (List.mem_cons_self ..)
    simp only [maxEntryNameBytes] at hsize
    have hpos : 0 < entry.name.utf8ByteSize := by
      rw [Nat.pos_iff_ne_zero]
      intro hzero
      rcases hname with hname | hname
      · cases hname
      · exact hname (String.utf8ByteSize_eq_zero_iff.mp hzero)
    rw [List.map_cons, List.sum_cons, List.length_cons]
    omega

/-! ## Reporting a listing -/

/-- A listing that does not fit a frame is refused with the bytes that it requires. -/
theorem encodeDirectoryResponse_eq_error (hfits : DirectoryFits entries)
    (hlarge : maxManagementPayloadBytes < directoryPayloadLength entries) :
    encodeDirectoryResponse entries = .error (.invalidInput
      (s!"directory response requires {directoryPayloadLength entries} bytes, exceeding the " ++
        s!"{maxManagementPayloadBytes} byte management limit")) := by
  have hlimit := hfits.count
  simp only [maxDirectoryEntries] at hlimit
  obtain ⟨us, hus⟩ : ∃ us, (entries.mapM fun entry => validateWireText entry.name
      maxEntryNameBytes "directory entry name" false) = .ok us :=
    (mapM_validate fun _ _ => validateWireText_eq_ok).mpr hfits.names
  have hrepresented : entries.length < 2 ^ 32 := by omega
  have hrefused : ¬ directoryPayloadLength entries ≤ maxManagementPayloadBytes := by omega
  unfold encodeDirectoryResponse
  simp only [ensure, if_pos hfits.count, ok_bind, if_pos hrepresented, hus, if_neg hrefused,
    error_bind]

/-- A listing can be reported exactly when its names leave it within the size of a frame, and is
refused otherwise.  That holds for every directory of up to 1004 entries, and for none of more
than 49932. -/
theorem listing_reportable (lowercase : String → String) (view : DirectoryView) (path : String)
    (entries : List ManagementDirectoryEntry)
    (h : enumerateDirectory lowercase view path = .ok entries) :
    (directoryPayloadLength entries ≤ maxManagementPayloadBytes →
      ∃ payload, encodeDirectoryResponse entries = .ok payload ∧
        ∀ requestId, ∃ frame bytes,
          ManagementFrame.new requestId .listDirectoryResponse payload = .ok frame ∧
          writeFrame frame = .ok bytes) ∧
    (maxManagementPayloadBytes < directoryPayloadLength entries →
      encodeDirectoryResponse entries = .error (.invalidInput
        (s!"directory response requires {directoryPayloadLength entries} bytes, exceeding the " ++
          s!"{maxManagementPayloadBytes} byte management limit"))) ∧
    (entries.length ≤ 1004 → directoryPayloadLength entries ≤ maxManagementPayloadBytes) ∧
    (49932 < entries.length → maxManagementPayloadBytes < directoryPayloadLength entries) := by
  have hfits := enumerateDirectory_fits h
  have hmax := maxManagementPayloadBytes_eq
  obtain ⟨hlow, hhigh⟩ := directoryPayloadLength_bounds hfits.names
  refine ⟨?_, encodeDirectoryResponse_eq_error hfits, by omega, by omega⟩
  intro hlength
  have hencode := encodeDirectoryResponse_eq_ok.mpr ⟨hfits, hlength, rfl⟩
  refine ⟨_, hencode, ?_⟩
  intro requestId
  have hframe : (directoryLayout entries).length ≤ maxManagementPayloadBytes :=
    encodeDirectory_fitsFrame hencode
  refine ⟨⟨requestId, .listDirectoryResponse, _⟩, _, ?_, writeFrame_eq_ok.mpr ⟨hframe, rfl⟩⟩
  unfold ManagementFrame.new validatePayloadLength
  exact bind_eq_ok.mpr ⟨(), ensure_eq_ok.mpr hframe, rfl⟩

/-! ## Two directories -/

/-- The directory of some items, whose metadata can be read. -/
def plainView (items : List (String × EntryMetadata)) : DirectoryView where
  isAbsolute := true
  isDir := .ok true
  readDir := .ok (items.map (fun item => .ok { name := item.1, metadata := .ok item.2 }))

/-- The loop collects every item that passes its checks. -/
theorem listEntries_eq_ok {items : List (String × EntryMetadata)}
    (listed : List ManagementDirectoryEntry)
    (hnames : ∀ item ∈ items, TextFits item.1 maxEntryNameBytes false)
    (hcount : listed.length + items.length ≤ maxDirectoryEntries) :
    listEntries (items.map (fun item => .ok { name := item.1, metadata := .ok item.2 })) listed =
      .ok (listed ++ items.map (fun item => listedEntry item.1 item.2)) := by
  induction items generalizing listed with
  | nil => simp [listEntries]
  | cons item rest ih =>
    have hname : validateWireText item.1 maxEntryNameBytes "directory entry name" false =
        .ok () :=
      validateWireText_eq_ok.mpr (hnames item (List.mem_cons_self ..))
    rw [List.length_cons] at hcount
    have hlength : (listed ++ [listedEntry item.1 item.2]).length ≤ maxDirectoryEntries := by
      rw [List.length_append, List.length_singleton]
      omega
    have hrest := ih (listed ++ [listedEntry item.1 item.2])
      (fun other hmem => hnames other (List.mem_cons_of_mem _ hmem))
      (by rw [List.length_append, List.length_singleton]; omega)
    rw [List.map_cons, listEntries, ok_bind]
    simp only [hname, ok_bind, ensure, if_pos hlength, hrest, List.append_assoc,
      List.singleton_append, List.map_cons]

theorem enumerateDirectory_plainView (lowercase : String → String)
    (items : List (String × EntryMetadata))
    (hnames : ∀ item ∈ items, TextFits item.1 maxEntryNameBytes false)
    (hcount : items.length ≤ maxDirectoryEntries) :
    enumerateDirectory lowercase (plainView items) "C:\\" =
      .ok ((items.map (fun item => listedEntry item.1 item.2)).mergeSort
        (listingLe lowercase)) := by
  have hlisted := listEntries_eq_ok [] hnames (by simpa using hcount)
  have hpath : validateWireText "C:\\" maxRemotePathBytes "remote directory path" false =
      .ok () :=
    validateWireText_eq_ok.mpr ⟨.inr (by decide), by simp [maxRemotePathBytes]; decide⟩
  unfold enumerateDirectory
  rw [hpath, ok_bind]
  simp only [plainView, ensure, if_true, ok_bind, hlisted, List.nil_append, pure_eq_ok]

theorem listing_reportable_notes :
    ∃ payload, encodeDirectoryResponse [⟨"notes.txt", .file, 3, some 7⟩] = .ok payload ∧
      ∀ requestId, ∃ frame bytes,
        ManagementFrame.new requestId .listDirectoryResponse payload = .ok frame ∧
        writeFrame frame = .ok bytes := by
  have h := enumerateDirectory_plainView id [("notes.txt", ⟨false, true, 3, some 7⟩)]
    (by
      intro item hitem
      rw [List.mem_singleton.mp hitem]
      exact ⟨.inr (by decide), by decide⟩)
    (by simp [maxDirectoryEntries])
  rw [List.map_singleton, List.mergeSort_singleton] at h
  exact (listing_reportable _ _ _ _ h).1 (by simp [maxManagementPayloadBytes]; decide)

/-- A file name of 241 characters. -/
def wideName (number : Nat) : String :=
  String.ofList (List.replicate 240 'a' ++ [Char.ofNat (0x4E00 + number)])

/-- Empty files with such names. -/
def wideItems (count : Nat) : List (String × EntryMetadata) :=
  (List.range count).map (fun number =>
    (wideName number, { isDir := false, isFile := true, len := 0, modified := none }))

theorem utf8ByteSize_wideName {number : Nat} (h : number < 4200) :
    (wideName number).utf8ByteSize = 243 := by
  have hvalid : (0x4E00 + number).isValidChar := .inl (by omega)
  have hlast : (Char.ofNat (0x4E00 + number)).utf8Size = 3 := by
    rw [Char.utf8Size_eq_three_iff, Char.ofNat, dif_pos hvalid]
    constructor
    · rw [UInt32.lt_iff_toNat_lt]
      show 0x7ff < 0x4E00 + number
      omega
    · rw [UInt32.le_iff_toNat_le]
      show 0x4E00 + number ≤ 0xffff
      omega
  have hrest : (textBytes (List.replicate 240 'a')).length = 240 := by
    rw [textBytes_length, List.length_replicate]
    intro c hc
    rw [List.eq_of_mem_replicate hc]
    decide
  rw [wideName, utf8ByteSize_ofList, textBytes, List.flatMap_append, List.length_append,
    ← textBytes, hrest, List.flatMap_singleton, String.length_utf8EncodeChar, hlast]

/-- What their directory is listed as, before the sort. -/
def wideEntries (count : Nat) : List ManagementDirectoryEntry :=
  (wideItems count).map (fun item => listedEntry item.1 item.2)

theorem directoryPayloadLength_wideEntries {count : Nat} (h : count ≤ 4200) :
    directoryPayloadLength (wideEntries count) = 8 + 263 * count := by
  have hsizes : (wideEntries count).map
      (fun entry => directoryEntryHeaderBytes + entry.name.utf8ByteSize) =
        List.replicate count 263 := by
    rw [wideEntries, wideItems, List.map_map, List.map_map, List.eq_replicate_iff]
    refine ⟨by rw [List.length_map, List.length_range], ?_⟩
    intro size hsize
    obtain ⟨number, hnumber, rfl⟩ := List.mem_map.mp hsize
    have hless := List.mem_range.mp hnumber
    show directoryEntryHeaderBytes + (wideName number).utf8ByteSize = 263
    rw [utf8ByteSize_wideName (by omega), directoryEntryHeaderBytes]
  rw [directoryPayloadLength, hsizes, List.sum_replicate, directoryResponseHeaderBytes,
    smul_eq_mul, Nat.mul_comm]

theorem enumerateDirectory_wideItems {count : Nat} (h : count ≤ 4200)
    (lowercase : String → String) :
    enumerateDirectory lowercase (plainView (wideItems count)) "C:\\" =
      .ok ((wideEntries count).mergeSort (listingLe lowercase)) := by
  refine enumerateDirectory_plainView lowercase (wideItems count) ?_ ?_
  · intro item hitem
    obtain ⟨number, hnumber, rfl⟩ := List.mem_map.mp hitem
    have hless := List.mem_range.mp hnumber
    have hsize := utf8ByteSize_wideName (show number < 4200 by omega)
    refine ⟨.inr ?_, ?_⟩
    · intro hempty
      have hempty : wideName number = "" := hempty
      rw [hempty] at hsize
      cases hsize
    · dsimp only
      rw [hsize]
      decide
  · rw [wideItems, List.length_map, List.length_range, maxDirectoryEntries]
    omega

theorem wideItems_not_reported :
    ¬ ∀ (lowercase : String → String) (view : DirectoryView) (path : String)
      (entries : List ManagementDirectoryEntry),
      enumerateDirectory lowercase view path = .ok entries →
      ∃ payload, encodeDirectoryResponse entries = .ok payload := by
  intro hclaim
  -- The number stays a variable, so that no list of that length is evaluated.
  obtain ⟨count, hcount, hlarge⟩ : ∃ count ≤ 4200, 1048576 < 8 + 263 * count :=
    ⟨4200, by omega, by omega⟩
  obtain ⟨payload, hpayload⟩ := hclaim id (plainView (wideItems count)) "C:\\" _
    (enumerateDirectory_wideItems hcount id)
  have hlength := (encodeDirectoryResponse_eq_ok.mp hpayload).2.1
  have hsame : directoryPayloadLength ((wideEntries count).mergeSort (listingLe id)) =
      directoryPayloadLength (wideEntries count) := by
    unfold directoryPayloadLength
    rw [((List.mergeSort_perm _ _).map _).sum_eq]
  rw [hsame, directoryPayloadLength_wideEntries hcount, maxManagementPayloadBytes] at hlength
  omega

end NetworkCopy
