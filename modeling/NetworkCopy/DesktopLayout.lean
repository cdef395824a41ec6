import NetworkCopy.Management.SnapshotRoundTrip

/-!
# Source directory names and desktop layouts

What a sender says of its source beside the files: the name of the source directory
(`destination_layout.rs`) and, for a desktop, where its icons lie (`desktop_layout.rs`).  A layout is
encoded into one block of bytes with a limit.  `encodeDesktopLayout_eq_ok` and
`decodeDesktopLayout_eq_ok` say that encoder and decoder go by the same bytes, `layout`, and the same
condition, `Fits`.
-/

namespace NetworkCopy

open ByteOrder ByteReader

/-! ## Names -/

/-- `MAX_WINDOWS_COMPONENT_UTF16_UNITS`. -/
def maxWindowsComponentUtf16Units : Nat := 255

/-- `value.encode_utf16().count()`. -/
def utf16Count (value : String) : Nat :=
  (value.toList.map (fun c => if c.toNat < 0x10000 then 1 else 2)).sum

/-- A character that a Windows file name must not contain. -/
def invalidFilenameCharacter (c : Char) : Bool :=
  c.toNat ≤ 0x1f || ['<', '>', ':', '"', '/', '\\', '|', '?', '*'].contains c

/-- The text before the first dot, in capitals. -/
def deviceStem (value : String) : List Char :=
  (value.toList.takeWhile (fun c => decide (c ≠ '.'))).map Char.toUpper

/-- `COM1` to `COM9` and `LPT1` to `LPT9`. -/
def numberedDevice (stem : List Char) : Bool :=
  decide ((String.ofList stem).utf8ByteSize = 4) &&
    (decide (stem.take 3 = ['C', 'O', 'M']) || decide (stem.take 3 = ['L', 'P', 'T'])) &&
    (stem.drop 3).all (fun c => decide ('1' ≤ c ∧ c ≤ '9'))

/-- A name that Windows reserves. -/
def reservedByWindows (value : String) : Bool :=
  let stem := deviceStem value
  ["CON", "PRN", "AUX", "NUL"].contains (String.ofList stem) || numberedDevice stem

section

variable {Address : Type} (texts : TextSupport Address)

/-- `validate_windows_path_component`. -/
def validateWindowsPathComponent (value description : String) : IoResult Unit := do
  ensure (value ≠ "") (.invalidInput s!"{description} must not be empty")
  ensure (value ≠ "." ∧ value ≠ "..")
    (.invalidInput s!"{description} must not be dot or dot-dot")
  ensure (value.toList.getLast? ≠ some ' ' ∧ value.toList.getLast? ≠ some '.')
    (.invalidInput s!"{description} must not end with a space or dot")
  ensure (utf16Count value ≤ maxWindowsComponentUtf16Units)
    (.invalidInput s!"{description} exceeds {maxWindowsComponentUtf16Units} UTF-16 units")
  ensure (value.toList.any invalidFilenameCharacter = false) (.invalidInput
    s!"{description} contains a character that is invalid in a Windows filename")
  let shown := texts.debug value.toList
  ensure (reservedByWindows value = false)
    (.invalidInput s!"{description} {shown} is reserved by Windows")

/-- What `validate_windows_path_component` accepts. -/
structure IsWindowsPathComponent (value : String) : Prop where
  nonempty : value ≠ ""
  notDots : value ≠ "." ∧ value ≠ ".."
  lastCharacter : value.toList.getLast? ≠ some ' ' ∧ value.toList.getLast? ≠ some '.'
  units : utf16Count value ≤ maxWindowsComponentUtf16Units
  characters : value.toList.any invalidFilenameCharacter = false
  notReserved : reservedByWindows value = false

theorem validateWindowsPathComponent_eq_ok {value description : String} {u : Unit} :
    validateWindowsPathComponent texts value description = .ok u ↔
      IsWindowsPathComponent value := by
  unfold validateWindowsPathComponent
  simp only [bind_eq_ok, ensure_eq_ok, exists_const]
  constructor
  · intro ⟨hnonempty, hdots, hlast, hunits, hcharacters, hreserved⟩
    exact ⟨hnonempty, hdots, hlast, hunits, hcharacters, hreserved⟩
  · intro ⟨hnonempty, hdots, hlast, hunits, hcharacters, hreserved⟩
    exact ⟨hnonempty, hdots, hlast, hunits, hcharacters, hreserved⟩

/-- `SourceDirectoryName`. -/
structure SourceDirectoryName where
  value : String
  valid : IsWindowsPathComponent value

/-- `SourceDirectoryName::parse`. -/
def SourceDirectoryName.parse (value : String) : IoResult SourceDirectoryName :=
  match h : validateWindowsPathComponent texts value "source directory name" with
  | .ok () => .ok ⟨value, (validateWindowsPathComponent_eq_ok texts).mp h⟩
  | .error error => .error error

theorem SourceDirectoryName.parse_eq_ok {value : String} {name : SourceDirectoryName} :
    SourceDirectoryName.parse texts value = .ok name ↔ name.value = value := by
  unfold parse
  constructor
  · intro h
    split at h
    · cases h
      rfl
    · cases h
  · intro h
    have hvalid :=
      (@validateWindowsPathComponent_eq_ok _ texts _ "source directory name" ()).mpr (h ▸ name.valid)
    split
    · congr
      exact h.symm
    · rename_i error herror
      rw [hvalid] at herror
      cases herror

end

/-! ## Desktop layouts -/

/-- `DESKTOP_LAYOUT_FORMAT_VERSION`. -/
def desktopLayoutFormatVersion : UInt16 := 1

/-- `MAX_DESKTOP_LAYOUT_BYTES`. -/
@[irreducible] def maxDesktopLayoutBytes : Nat := 1024 * 1024

/-- `MAX_DESKTOP_LAYOUT_ITEMS`. -/
def maxDesktopLayoutItems : Nat := 4096

/-- `MAX_DESKTOP_LAYOUT_MONITORS`. -/
def maxDesktopLayoutMonitors : Nat := 32

/-- `DESKTOP_LAYOUT_MAGIC`, `NCDL`. -/
def desktopLayoutMagic : List UInt8 := [0x4E, 0x43, 0x44, 0x4C]

/-- `MAX_DESKTOP_COORDINATE_ABS`. -/
def maxDesktopCoordinateAbs : Int := 1000000

/-- `MIN_DESKTOP_DPI`. -/
def minDesktopDpi : Nat := 48

/-- `MAX_DESKTOP_DPI`. -/
def maxDesktopDpi : Nat := 1920

/-- `MIN_DESKTOP_ICON_SIZE`. -/
def minDesktopIconSize : Nat := 8

/-- `MAX_DESKTOP_ICON_SIZE`. -/
def maxDesktopIconSize : Nat := 1024

/-- `DesktopPoint`. -/
structure DesktopPoint where
  x : Int32
  y : Int32
  deriving DecidableEq

/-- `DesktopRect`. -/
structure DesktopRect where
  left : Int32
  top : Int32
  right : Int32
  bottom : Int32
  deriving DecidableEq

/-- `DesktopMonitor`. -/
structure DesktopMonitor where
  bounds : DesktopRect
  workArea : DesktopRect
  dpiX : UInt32
  dpiY : UInt32
  primary : Bool
  deriving DecidableEq

/-- `DesktopItemKind`. -/
inductive DesktopItemKind where
  | file
  | directory
  deriving DecidableEq

/-- `DesktopLayoutItem`. -/
structure DesktopLayoutItem where
  name : String
  kind : DesktopItemKind
  position : DesktopPoint
  deriving DecidableEq

/-- `DesktopLayoutSnapshot`. -/
structure DesktopLayoutSnapshot where
  version : UInt16
  iconSize : UInt32
  autoArrange : Bool
  monitors : List DesktopMonitor
  items : List DesktopLayoutItem
  deriving DecidableEq

/-! ### Checks -/

/-- `validate_coordinate`. -/
def validateCoordinate (value : Int32) (description : String) : IoResult Unit :=
  ensure (-maxDesktopCoordinateAbs ≤ value.toInt ∧ value.toInt ≤ maxDesktopCoordinateAbs)
    (.invalidInput (s!"{description} coordinate {value} exceeds the supported " ++
      s!"+/-{maxDesktopCoordinateAbs} range"))

/-- `validate_dpi`. -/
def validateDpi (value : UInt32) (description : String) : IoResult Unit :=
  ensure (minDesktopDpi ≤ value.toNat ∧ value.toNat ≤ maxDesktopDpi)
    (.invalidInput (s!"{description} value {value} is outside the supported range " ++
      s!"{minDesktopDpi}..={maxDesktopDpi}"))

/-- `DesktopPoint::validate`. -/
def DesktopPoint.validate (point : DesktopPoint) (description : String) : IoResult Unit := do
  validateCoordinate point.x description
  validateCoordinate point.y description

/-- `DesktopRect::validate`. -/
def DesktopRect.validate (rect : DesktopRect) (description : String) : IoResult Unit := do
  validateCoordinate rect.left description
  validateCoordinate rect.top description
  validateCoordinate rect.right description
  validateCoordinate rect.bottom description
  ensure (rect.left < rect.right) (.invalidInput s!"{description} has a non-positive width")
  ensure (rect.top < rect.bottom) (.invalidInput s!"{description} has a non-positive height")

/-- `DesktopRect::contains`. -/
def DesktopRect.contains (rect other : DesktopRect) : Bool :=
  decide (rect.left ≤ other.left ∧ rect.top ≤ other.top ∧ other.right ≤ rect.right ∧
    other.bottom ≤ rect.bottom)

/-- `DesktopMonitor::validate`. -/
def DesktopMonitor.validate (monitor : DesktopMonitor) : IoResult Unit := do
  monitor.bounds.validate "desktop monitor bounds"
  monitor.workArea.validate "desktop monitor work area"
  ensure (monitor.bounds.contains monitor.workArea) (.invalidInput
    "desktop monitor work area must remain inside the monitor bounds")
  validateDpi monitor.dpiX "desktop monitor horizontal DPI"
  validateDpi monitor.dpiY "desktop monitor vertical DPI"

/-- `DesktopItemKind::code`. -/
def DesktopItemKind.code : DesktopItemKind → UInt8
  | .file => 0
  | .directory => 1

/-- `DesktopItemKind::from_code`. -/
def DesktopItemKind.fromCode (code : Nat) : IoResult DesktopItemKind :=
  if code = 0 then .ok .file
  else if code = 1 then .ok .directory
  else .error (.invalidData s!"desktop layout item used unknown kind {code}")

section

variable {Address : Type} (texts : TextSupport Address)

/-- `DesktopLayoutItem::validate`. -/
def DesktopLayoutItem.validate (item : DesktopLayoutItem) : IoResult Unit := do
  validateWindowsPathComponent texts item.name "desktop item name"
  item.position.validate "desktop item position"

/-- The loop over the items, with the names seen so far. -/
def validateItems : List String → List DesktopLayoutItem → IoResult Unit
  | _, [] => .ok ()
  | names, item :: rest => do
      item.validate texts
      let shown := texts.debug item.name.toList
      ensure (item.name ∉ names)
        (.invalidInput s!"desktop layout contains duplicate item name {shown}")
      validateItems (item.name :: names) rest

/-- `DesktopLayoutSnapshot::validate`. -/
def DesktopLayoutSnapshot.validate (snapshot : DesktopLayoutSnapshot) : IoResult Unit := do
  let version := snapshot.version
  ensure (version = desktopLayoutFormatVersion)
    (.invalidInput s!"desktop layout uses unsupported format version {version}")
  let iconSize := snapshot.iconSize
  ensure (minDesktopIconSize ≤ iconSize.toNat ∧ iconSize.toNat ≤ maxDesktopIconSize)
    (.invalidInput (s!"desktop icon size {iconSize} is outside the supported range " ++
      s!"{minDesktopIconSize}..={maxDesktopIconSize}"))
  let monitorCount := snapshot.monitors.length
  ensure (snapshot.monitors ≠ [])
    (.invalidInput "desktop layout must contain at least one monitor")
  ensure (monitorCount ≤ maxDesktopLayoutMonitors)
    (.invalidInput (s!"desktop layout contains {monitorCount} monitors, exceeding the " ++
      s!"{maxDesktopLayoutMonitors} monitor limit"))
  let primaryMonitorCount := (snapshot.monitors.filter DesktopMonitor.primary).length
  ensure (primaryMonitorCount = 1)
    (.invalidInput (s!"desktop layout must contain exactly one primary monitor, found " ++
      s!"{primaryMonitorCount}"))
  snapshot.monitors.forM DesktopMonitor.validate
  let itemCount := snapshot.items.length
  ensure (itemCount ≤ maxDesktopLayoutItems)
    (.invalidInput (s!"desktop layout contains {itemCount} items, exceeding the " ++
      s!"{maxDesktopLayoutItems} item limit"))
  validateItems texts [] snapshot.items

end

/-! ### Encoding -/

/-- `append_bytes`. -/
def appendBytes (output bytes : List UInt8) : IoResult (List UInt8) := do
  let newLength ← okOrElse (checkedAdd output.length bytes.length)
    (.invalidInput "desktop layout encoded size overflowed")
  ensure (newLength ≤ maxDesktopLayoutBytes)
    (.invalidInput s!"desktop layout exceeds the {maxDesktopLayoutBytes} byte limit")
  return output ++ bytes

/-- Fields one after the other. -/
def appendFields (output : List UInt8) (fields : List (List UInt8)) : IoResult (List UInt8) :=
  fields.foldlM appendBytes output

/-- `value.to_le_bytes()` of an `i32`. -/
def i32Bytes (value : Int32) : List UInt8 := leBytes 4 value.toUInt32.toNat

/-- `u8::from(value)` as a field. -/
def boolBytes (value : Bool) : List UInt8 := [if value then 1 else 0]

/-- The fields of `append_rect`. -/
def DesktopRect.fields (rect : DesktopRect) : List (List UInt8) :=
  [i32Bytes rect.left, i32Bytes rect.top, i32Bytes rect.right, i32Bytes rect.bottom]

/-- The fields of a monitor. -/
def DesktopMonitor.fields (monitor : DesktopMonitor) : List (List UInt8) :=
  monitor.bounds.fields ++ monitor.workArea.fields ++
    [leBytes 4 monitor.dpiX.toNat, leBytes 4 monitor.dpiY.toNat, boolBytes monitor.primary]

/-- The fields of an item before its name. -/
def DesktopLayoutItem.headFields (item : DesktopLayoutItem) : List (List UInt8) :=
  [[item.kind.code], i32Bytes item.position.x, i32Bytes item.position.y]

/-- The name of an item. -/
def DesktopLayoutItem.nameFields (item : DesktopLayoutItem) : List (List UInt8) :=
  [leBytes 2 item.name.utf8ByteSize, stringBytes item.name]

/-- The fields before the monitors. -/
def DesktopLayoutSnapshot.headFields (snapshot : DesktopLayoutSnapshot) : List (List UInt8) :=
  [desktopLayoutMagic, leBytes 2 snapshot.version.toNat, leBytes 4 snapshot.iconSize.toNat,
    boolBytes snapshot.autoArrange, leBytes 2 snapshot.monitors.length,
    leBytes 4 snapshot.items.length]

section

variable {Address : Type} (texts : TextSupport Address)

/-- The turn of the loop over the items. -/
def appendItem (output : List UInt8) (item : DesktopLayoutItem) : IoResult (List UInt8) := do
  let output ← appendFields output item.headFields
  let shown := texts.debug item.name.toList
  ensure (item.name.utf8ByteSize < 2 ^ 16)
    (.invalidInput s!"desktop item name {shown} is too large for the layout format")
  appendFields output item.nameFields

/-- `encode_desktop_layout`. -/
def encodeDesktopLayout (snapshot : DesktopLayoutSnapshot) : IoResult (List UInt8) := do
  snapshot.validate texts
  ensure (snapshot.monitors.length < 2 ^ 16)
    (.invalidInput "desktop monitor count does not fit the layout format")
  ensure (snapshot.items.length < 2 ^ 32)
    (.invalidInput "desktop item count does not fit the layout format")
  let output ← appendFields [] snapshot.headFields
  let output ← snapshot.monitors.foldlM
    (fun output monitor => appendFields output monitor.fields) output
  snapshot.items.foldlM (appendItem texts) output

/-! ### Decoding -/

/-- The error of `Decoder::read_bytes`. -/
def layoutEnded : IoError := ⟨.unexpectedEof, "desktop layout ended unexpectedly", none⟩

/-- `Decoder::read_i32`. -/
def readI32 : ByteReader IoError Int32 := do
  let value ← uint 4 layoutEnded
  return (UInt32.ofNat value).toInt32

/-- `decode_bool`. -/
def decodeBool (value : Nat) (description : String) : IoResult Bool :=
  if value = 0 then .ok false
  else if value = 1 then .ok true
  else .error (.invalidData s!"{description} used invalid boolean value {value}")

/-- A byte that `decode_bool` decodes. -/
def readBool (description : String) : ByteReader IoError Bool := do
  let value ← uint 1 layoutEnded
  decodeBool value description

/-- `Decoder::read_rect`. -/
def readRect : ByteReader IoError DesktopRect := do
  let left ← readI32
  let top ← readI32
  let right ← readI32
  let bottom ← readI32
  return ⟨left, top, right, bottom⟩

/-- The turn of the loop over the monitors. -/
def readMonitor : ByteReader IoError DesktopMonitor := do
  let bounds ← readRect
  let workArea ← readRect
  let dpiX ← uint 4 layoutEnded
  let dpiY ← uint 4 layoutEnded
  let primary ← readBool "desktop monitor primary flag"
  return ⟨bounds, workArea, UInt32.ofNat dpiX, UInt32.ofNat dpiY, primary⟩

/-- The turn of the loop over the items. -/
def readItem : ByteReader IoError DesktopLayoutItem := do
  let code ← uint 1 layoutEnded
  let kind ← DesktopItemKind.fromCode code
  let x ← readI32
  let y ← readI32
  let nameLength ← uint 2 layoutEnded
  let nameBytes ← take nameLength layoutEnded
  let reason := texts.utf8Error nameBytes
  let name ← (okOrElse (String.fromUTF8? nameBytes.toByteArray)
    (.invalidData s!"desktop item name is not valid UTF-8: {reason}") : IoResult String)
  return ⟨name, kind, ⟨x, y⟩⟩

/-- `decode_desktop_layout` after the check of the length. -/
def readDesktopLayout : ByteReader IoError DesktopLayoutSnapshot := do
  let magic ← take desktopLayoutMagic.length layoutEnded
  ByteReader.check (magic = desktopLayoutMagic)
    (.invalidData "desktop layout has an invalid magic header")
  let version ← uint 2 layoutEnded
  ByteReader.check (version = desktopLayoutFormatVersion.toNat)
    (.invalidData s!"desktop layout uses unsupported format version {version}")
  let iconSize ← uint 4 layoutEnded
  let autoArrange ← readBool "desktop Auto Arrange"
  let monitorCount ← uint 2 layoutEnded
  ByteReader.check (monitorCount ≠ 0) (.invalidData "desktop layout contains no monitors")
  ByteReader.check (monitorCount ≤ maxDesktopLayoutMonitors)
    (.invalidData (s!"desktop layout contains {monitorCount} monitors, exceeding the " ++
      s!"{maxDesktopLayoutMonitors} monitor limit"))
  let itemCount ← uint 4 layoutEnded
  ByteReader.check (itemCount ≤ maxDesktopLayoutItems)
    (.invalidData (s!"desktop layout contains {itemCount} items, exceeding the " ++
      s!"{maxDesktopLayoutItems} item limit"))
  let monitors ← many monitorCount readMonitor
  let items ← many itemCount (readItem texts)
  exactly 0 (fun remaining =>
    .invalidData s!"desktop layout contains {remaining} trailing bytes")
  let snapshot := ⟨UInt16.ofNat version, UInt32.ofNat iconSize, autoArrange, monitors, items⟩
  let _ ← invalidData (snapshot.validate texts)
  return snapshot

/-- `decode_desktop_layout`. -/
def decodeDesktopLayout (bytes : List UInt8) : IoResult DesktopLayoutSnapshot := do
  let length := bytes.length
  ensure (length ≤ maxDesktopLayoutBytes)
    (.invalidData (s!"desktop layout contains {length} bytes, exceeding the " ++
      s!"{maxDesktopLayoutBytes} byte limit"))
  (readDesktopLayout texts).run' bytes

end

/-! ### The bytes of a layout -/

/-- The bytes of a monitor. -/
def DesktopMonitor.layout (monitor : DesktopMonitor) : List UInt8 := monitor.fields.flatten

/-- The bytes of an item. -/
def DesktopLayoutItem.layout (item : DesktopLayoutItem) : List UInt8 :=
  item.headFields.flatten ++ item.nameFields.flatten

/-- The bytes of a snapshot. -/
def DesktopLayoutSnapshot.layout (snapshot : DesktopLayoutSnapshot) : List UInt8 :=
  snapshot.headFields.flatten ++ snapshot.monitors.flatMap DesktopMonitor.layout ++
    snapshot.items.flatMap DesktopLayoutItem.layout

/-- A step appends the layout of its item exactly when the item fits and the result is not too
long. -/
def Appends {α : Type} (step : List UInt8 → α → IoResult (List UInt8)) (Fits : α → Prop)
    (layout : α → List UInt8) : Prop :=
  ∀ output result x, output.length ≤ maxDesktopLayoutBytes →
    (step output x = .ok result ↔
      Fits x ∧ (output ++ layout x).length ≤ maxDesktopLayoutBytes ∧
        result = output ++ layout x)

/-- Items are appended one after the other. -/
theorem Appends.foldlM {α : Type} {step : List UInt8 → α → IoResult (List UInt8)}
    {Fits : α → Prop} {layout : α → List UInt8} (h : Appends step Fits layout) :
    Appends (fun output (xs : List α) => xs.foldlM step output) (fun xs => ∀ x ∈ xs, Fits x)
      (fun xs => xs.flatMap layout) := by
  intro output result xs
  show output.length ≤ maxDesktopLayoutBytes → (xs.foldlM step output = .ok result ↔
    (∀ x ∈ xs, Fits x) ∧ (output ++ xs.flatMap layout).length ≤ maxDesktopLayoutBytes ∧
      result = output ++ xs.flatMap layout)
  induction xs generalizing output with
  | nil =>
    intro houtput
    rw [List.flatMap_nil, List.append_nil]
    show Except.ok output = .ok result ↔ _
    rw [Except.ok.injEq]
    constructor
    · intro hsame
      refine ⟨?_, houtput, hsame.symm⟩
      intro x hx
      cases hx
    · intro ⟨_, _, hsame⟩
      exact hsame.symm
  | cons x rest ih =>
    intro houtput
    have hunfold : (x :: rest).foldlM step output =
        step output x >>= fun next => rest.foldlM step next := rfl
    rw [hunfold, bind_eq_ok, List.flatMap_cons, ← List.append_assoc]
    constructor
    · intro ⟨next, hnext, hrest⟩
      obtain ⟨hx, hlimit, hsame⟩ := (h output next x houtput).mp hnext
      rw [hsame] at hrest
      obtain ⟨hfits, htotal, hresult⟩ := (ih _ hlimit).mp hrest
      exact ⟨List.forall_mem_cons.mpr ⟨hx, hfits⟩, htotal, hresult⟩
    · intro ⟨hfits, htotal, hresult⟩
      obtain ⟨hx, hrest⟩ := List.forall_mem_cons.mp hfits
      have hlimit : (output ++ layout x).length ≤ maxDesktopLayoutBytes := by
        rw [List.length_append] at htotal
        omega
      exact ⟨_, (h output _ x houtput).mpr ⟨hx, hlimit, rfl⟩,
        (ih _ hlimit).mpr ⟨hrest, htotal, hresult⟩⟩

theorem appends_bytes : Appends appendBytes (fun _ => True) id := by
  intro output result bytes houtput
  unfold appendBytes
  simp only [bind_eq_ok, okOrElse_eq_ok, checkedAdd_eq_some, ensure_eq_ok, exists_const,
    pure_eq_ok, Except.ok.injEq, id, true_and, List.length_append]
  constructor
  · intro ⟨length, ⟨_, hlength⟩, hlimit, hresult⟩
    rw [← hlength] at hlimit
    exact ⟨hlimit, hresult.symm⟩
  · intro ⟨hlimit, hresult⟩
    refine ⟨_, ⟨lt_of_le_of_lt hlimit ?_, rfl⟩, hlimit, hresult.symm⟩
    unfold maxDesktopLayoutBytes u64Limit
    norm_num

theorem appends_fields : Appends appendFields (fun _ => True) List.flatten := by
  intro output result fields houtput
  have hfold := appends_bytes.foldlM output result fields houtput
  simp only [List.flatMap_id] at hfold
  exact hfold.trans (and_congr_left (fun _ => by simp))

/-- The length of a name fits its field. -/
def DesktopLayoutItem.NameFits (item : DesktopLayoutItem) : Prop :=
  item.name.utf8ByteSize < 2 ^ 16

section

variable {Address : Type} (texts : TextSupport Address)
variable {snapshot : DesktopLayoutSnapshot}

theorem appends_item :
    Appends (appendItem texts) DesktopLayoutItem.NameFits DesktopLayoutItem.layout := by
  intro output result item houtput
  unfold appendItem DesktopLayoutItem.layout
  simp only [bind_eq_ok, ensure_eq_ok, exists_const]
  rw [← List.append_assoc]
  constructor
  · intro ⟨next, hnext, hname, hrest⟩
    obtain ⟨_, hlimit, hsame⟩ := (appends_fields output next _ houtput).mp hnext
    rw [hsame] at hrest
    exact ⟨hname, ((appends_fields _ result _ hlimit).mp hrest).2⟩
  · intro ⟨hname, htotal, hresult⟩
    have hlimit : (output ++ item.headFields.flatten).length ≤ maxDesktopLayoutBytes := by
      rw [List.length_append] at htotal
      omega
    exact ⟨_, (appends_fields output _ _ houtput).mpr ⟨trivial, hlimit, rfl⟩, hname,
      (appends_fields _ result _ hlimit).mpr ⟨trivial, htotal, hresult⟩⟩

/-- The snapshots that the format can carry. -/
structure DesktopLayoutSnapshot.Fits (snapshot : DesktopLayoutSnapshot) : Prop where
  valid : snapshot.validate texts = .ok ()
  names : ∀ item ∈ snapshot.items, item.NameFits
  limit : snapshot.layout.length ≤ maxDesktopLayoutBytes

/-- What the checks say about the version and the counts. -/
theorem DesktopLayoutSnapshot.counts (h : snapshot.validate texts = .ok ()) :
    snapshot.version = desktopLayoutFormatVersion ∧ snapshot.monitors.length ≠ 0 ∧
      snapshot.monitors.length ≤ maxDesktopLayoutMonitors ∧
      snapshot.items.length ≤ maxDesktopLayoutItems := by
  unfold validate at h
  simp only [bind_eq_ok, ensure_eq_ok, exists_const] at h
  obtain ⟨hversion, _, hmonitors, hcount, _, _, _, hitems, _⟩ := h
  refine ⟨hversion, ?_, hcount, hitems⟩
  intro hzero
  exact hmonitors (List.eq_nil_of_length_eq_zero hzero)

/-- The encoder accepts the snapshots that fit and writes their layout. -/
theorem encodeDesktopLayout_eq_ok {bytes : List UInt8} :
    encodeDesktopLayout texts snapshot = .ok bytes ↔
      snapshot.Fits texts ∧ bytes = snapshot.layout := by
  unfold encodeDesktopLayout DesktopLayoutSnapshot.layout
  have hmonitors : Appends
      (fun output monitor => appendFields output (DesktopMonitor.fields monitor))
      (fun _ => True) DesktopMonitor.layout :=
    fun output result monitor houtput => appends_fields output result monitor.fields houtput
  have hempty : ([] : List UInt8).length ≤ maxDesktopLayoutBytes := Nat.zero_le _
  simp only [bind_eq_ok, ensure_eq_ok, exists_const]
  constructor
  · intro ⟨_, hvalid, _, _, head, hhead, withMonitors, hwithMonitors, hitems⟩
    obtain ⟨_, hheadLimit, hheadSame⟩ := (appends_fields [] head _ hempty).mp hhead
    rw [← hheadSame] at hheadLimit
    obtain ⟨_, hmonitorsLimit, hmonitorsSame⟩ :=
      (hmonitors.foldlM head withMonitors _ hheadLimit).mp hwithMonitors
    rw [← hmonitorsSame] at hmonitorsLimit
    obtain ⟨hnames, hlimit, hsame⟩ :=
      ((appends_item texts).foldlM withMonitors bytes _ hmonitorsLimit).mp hitems
    rw [hmonitorsSame, hheadSame, List.nil_append] at hlimit hsame
    exact ⟨⟨hvalid, hnames, hlimit⟩, hsame⟩
  · intro ⟨⟨hvalid, hnames, hlimit⟩, hsame⟩
    unfold DesktopLayoutSnapshot.layout at hlimit
    obtain ⟨_, _, hmonitorCount, hitemCount⟩ := snapshot.counts texts hvalid
    unfold maxDesktopLayoutMonitors at hmonitorCount
    unfold maxDesktopLayoutItems at hitemCount
    have hwithLimit : (snapshot.headFields.flatten ++
        snapshot.monitors.flatMap DesktopMonitor.layout).length ≤ maxDesktopLayoutBytes := by
      rw [List.length_append] at hlimit
      omega
    have hheadLimit : snapshot.headFields.flatten.length ≤ maxDesktopLayoutBytes := by
      rw [List.length_append] at hwithLimit
      omega
    refine ⟨(), hvalid, by omega, by omega, snapshot.headFields.flatten,
      (appends_fields [] _ _ hempty).mpr ⟨trivial, hheadLimit, rfl⟩, _,
      (hmonitors.foldlM _ _ _ hheadLimit).mpr ⟨fun _ _ => trivial, hwithLimit, rfl⟩,
      ((appends_item texts).foldlM _ bytes _ hwithLimit).mpr ⟨hnames, hlimit, hsame⟩⟩

/-! ### What the decoder accepts -/

variable {bytes rest : List UInt8} {β : Type} {b : β}

/-- A signed field. -/
theorem run_readI32_bind {f : Int32 → ByteReader IoError β} :
    (readI32 >>= f).run bytes = .ok (b, rest) ↔
      ∃ value more, bytes = i32Bytes value ++ more ∧ (f value).run more = .ok (b, rest) := by
  unfold readI32 i32Bytes
  rw [bind_assoc]
  simp only [run_uint_bind, pure_bind]
  constructor
  · intro ⟨value, more, hlt, hbytes, hnext⟩
    refine ⟨_, more, ?_, hnext⟩
    have hvalue : (UInt32.ofNat value).toNat = value :=
      UInt32.toNat_ofNat_of_lt (by simp only [UInt32.size]; omega)
    rw [UInt32.toUInt32_toInt32, hvalue]
    exact hbytes
  · intro ⟨value, more, hbytes, hnext⟩
    refine ⟨value.toUInt32.toNat, more, value.toUInt32.toNat_lt, hbytes, ?_⟩
    rw [UInt32.ofNat_toNat, Int32.toInt32_toUInt32]
    exact hnext

/-- A flag. -/
theorem run_readBool_bind {description : String} {f : Bool → ByteReader IoError β} :
    (readBool description >>= f).run bytes = .ok (b, rest) ↔
      ∃ value more, bytes = boolBytes value ++ more ∧ (f value).run more = .ok (b, rest) := by
  unfold readBool
  rw [bind_assoc]
  simp only [run_uint_bind, run_lift_bind]
  constructor
  · intro ⟨code, more, hlt, hbytes, value, hvalue, hnext⟩
    refine ⟨value, more, ?_, hnext⟩
    rw [hbytes]
    congr 1
    unfold decodeBool at hvalue
    split at hvalue
    · rename_i hzero
      cases hvalue
      rw [hzero]
      rfl
    · split at hvalue
      · rename_i hone
        cases hvalue
        rw [hone]
        rfl
      · cases hvalue
  · intro ⟨value, more, hbytes, hnext⟩
    cases value with
    | false => exact ⟨0, more, by norm_num, hbytes, false, rfl, hnext⟩
    | true => exact ⟨1, more, by norm_num, hbytes, true, rfl, hnext⟩

/-- An unsigned field of four bytes. -/
theorem run_u32_bind {f : Nat → ByteReader IoError β} :
    (uint 4 layoutEnded >>= f).run bytes = .ok (b, rest) ↔
      ∃ (value : UInt32) (more : List UInt8), bytes = leBytes 4 value.toNat ++ more ∧
        (f value.toNat).run more = .ok (b, rest) := by
  rw [run_uint_bind]
  constructor
  · intro ⟨value, more, hlt, hbytes, hnext⟩
    have hvalue : (UInt32.ofNat value).toNat = value :=
      UInt32.toNat_ofNat_of_lt (by simp only [UInt32.size]; omega)
    exact ⟨UInt32.ofNat value, more, by rw [hvalue]; exact hbytes, by rw [hvalue]; exact hnext⟩
  · intro ⟨value, more, hbytes, hnext⟩
    exact ⟨value.toNat, more, value.toNat_lt, hbytes, hnext⟩

theorem run_readRect_bind {f : DesktopRect → ByteReader IoError β} :
    (readRect >>= f).run bytes = .ok (b, rest) ↔
      ∃ (rect : DesktopRect) (more : List UInt8), bytes = rect.fields.flatten ++ more ∧
        (f rect).run more = .ok (b, rest) := by
  unfold readRect
  simp only [bind_assoc, run_readI32_bind, pure_bind]
  constructor
  · intro ⟨left, _, hbytes, top, _, hmore, right, _, hmore2, bottom, more, hmore3, hnext⟩
    refine ⟨⟨left, top, right, bottom⟩, more, ?_, hnext⟩
    rw [hbytes, hmore, hmore2, hmore3]
    simp [DesktopRect.fields]
  · intro ⟨rect, more, hbytes, hnext⟩
    refine ⟨rect.left, _, ?_, rect.top, _, rfl, rect.right, _, rfl, rect.bottom, more, rfl, hnext⟩
    rw [hbytes]
    simp [DesktopRect.fields]

theorem readMonitor_eq_ok (bytes rest : List UInt8) (monitor : DesktopMonitor) :
    readMonitor.run bytes = .ok (monitor, rest) ↔ True ∧ bytes = monitor.layout ++ rest := by
  unfold readMonitor
  simp only [run_readRect_bind, run_u32_bind, run_readBool_bind, run_pure_eq_ok]
  constructor
  · intro ⟨bounds, _, hbytes, workArea, _, hmore, dpiX, _, hmore2, dpiY, _, hmore3, primary, _,
      hmore4, hmonitor, hrest⟩
    refine ⟨trivial, ?_⟩
    rw [hmonitor, hrest, hbytes, hmore, hmore2, hmore3, hmore4]
    simp [DesktopMonitor.layout, DesktopMonitor.fields]
  · intro ⟨_, hbytes⟩
    refine ⟨monitor.bounds, _, ?_, monitor.workArea, _, rfl, monitor.dpiX, _, rfl, monitor.dpiY, _,
      rfl, monitor.primary, _, rfl, ?_, rfl⟩
    · rw [hbytes]
      simp [DesktopMonitor.layout, DesktopMonitor.fields]
    · simp

theorem fromCode_eq_ok {code : Nat} {kind : DesktopItemKind} :
    DesktopItemKind.fromCode code = .ok kind ↔ code = kind.code.toNat := by
  unfold DesktopItemKind.fromCode
  split
  · rename_i hzero
    rw [hzero]
    cases kind <;> simp [DesktopItemKind.code]
  · split
    · rename_i hone
      rw [hone]
      cases kind <;> simp [DesktopItemKind.code]
    · rename_i hzero hone
      cases kind <;> simp [DesktopItemKind.code, hzero, hone]

theorem leBytes_code (kind : DesktopItemKind) : leBytes 1 kind.code.toNat = [kind.code] := by
  cases kind <;> rfl

theorem readItem_eq_ok (bytes rest : List UInt8) (item : DesktopLayoutItem) :
    (readItem texts).run bytes = .ok (item, rest) ↔
      item.NameFits ∧ bytes = item.layout ++ rest := by
  unfold readItem
  simp only [run_readI32_bind, run_uint_bind, run_lift_bind, run_take_bind, run_pure_eq_ok,
    okOrElse_eq_ok, fromUTF8_eq_some, fromCode_eq_ok]
  constructor
  · intro ⟨_, _, _, hbytes, kind, hcode, x, _, hmore, y, _, hmore2, length, _, hlt, hmore3,
      nameBytes, _, hlength, hmore4, name, hname, hitem, hrest⟩
    rw [hname, stringBytes_length] at hlength
    constructor
    · unfold DesktopLayoutItem.NameFits
      rw [hitem]
      show name.utf8ByteSize < _
      omega
    · rw [hitem, hrest, hbytes, hmore, hmore2, hmore3, hmore4, hcode, hname, ← hlength,
        leBytes_code]
      simp [DesktopLayoutItem.layout, DesktopLayoutItem.headFields, DesktopLayoutItem.nameFields]
  · intro ⟨hfits, hbytes⟩
    unfold DesktopLayoutItem.NameFits at hfits
    refine ⟨item.kind.code.toNat, _, ?_, ?_, item.kind, rfl, item.position.x, _, rfl,
      item.position.y, _, rfl, item.name.utf8ByteSize, _, by omega, rfl, stringBytes item.name, _,
      stringBytes_length _, rfl, item.name, rfl, rfl, rfl⟩
    · cases item.kind <;> decide
    · rw [hbytes, leBytes_code]
      simp [DesktopLayoutItem.layout, DesktopLayoutItem.headFields, DesktopLayoutItem.nameFields]

theorem readDesktopLayout_eq_ok (bytes rest : List UInt8) (snapshot : DesktopLayoutSnapshot) :
    (readDesktopLayout texts).run bytes = .ok (snapshot, rest) ↔
      rest = [] ∧ snapshot.validate texts = .ok () ∧
        (∀ item ∈ snapshot.items, item.NameFits) ∧ bytes = snapshot.layout := by
  unfold readDesktopLayout
  simp only [run_take_bind, run_check_bind, run_uint_bind, run_readBool_bind,
    run_many_bind readMonitor_eq_ok, run_many_bind (readItem_eq_ok texts), run_exactly_bind,
    run_lift_bind, run_pure_eq_ok, invalidData_eq_ok]
  constructor
  · rintro ⟨_, _, _, hbytes, hmagic, version, _, hversionLt, hmore, hversion, iconSize, _,
      hiconSizeLt, hmore2, autoArrange, _, hmore3, monitorCount, _, _, hmore4, _, _, itemCount, _,
      _, hmore5, _, monitors, _, hmonitorCount, _, hmore6, items, _, hitemCount, hnames, hmore7,
      hleft, _, hvalid, hsnapshot, hrest⟩
    have hnil := List.eq_nil_of_length_eq_zero hleft
    rw [hnil] at hrest hmore7
    have hiconSize : (UInt32.ofNat iconSize).toNat = iconSize :=
      UInt32.toNat_ofNat_of_lt (by simp only [UInt32.size]; omega)
    have hversionNat : (UInt16.ofNat version).toNat = version :=
      UInt16.toNat_ofNat_of_lt (by simp only [UInt16.size]; omega)
    rw [hsnapshot]
    refine ⟨hrest, hvalid, hnames, ?_⟩
    rw [hbytes, hmagic, hmore, hmore2, hmore3, hmore4, hmore5, hmore6, hmore7, ← hmonitorCount,
      ← hitemCount]
    simp [DesktopLayoutSnapshot.layout, DesktopLayoutSnapshot.headFields, hversionNat, hiconSize]
  · rintro ⟨hrest, hvalid, hnames, hbytes⟩
    obtain ⟨hversion, hmonitors, hmonitorCount, hitemCount⟩ := snapshot.counts texts hvalid
    have hmonitorsLt := hmonitorCount
    unfold maxDesktopLayoutMonitors at hmonitorsLt
    have hitemsLt := hitemCount
    unfold maxDesktopLayoutItems at hitemsLt
    have hversionLt : snapshot.version.toNat < 256 ^ 2 := snapshot.version.toNat_lt
    refine ⟨desktopLayoutMagic, _, rfl, ?_, rfl, snapshot.version.toNat, _, hversionLt, rfl,
      by rw [hversion], snapshot.iconSize.toNat, _, snapshot.iconSize.toNat_lt, rfl,
      snapshot.autoArrange, _, rfl, snapshot.monitors.length, _, by omega, rfl, hmonitors,
      hmonitorCount, snapshot.items.length, _, by omega, rfl, hitemCount, snapshot.monitors, _, rfl,
      fun _ _ => trivial, rfl, snapshot.items, [], rfl, hnames, rfl, rfl, (), ?_, ?_, hrest⟩
    · rw [hbytes]
      simp [DesktopLayoutSnapshot.layout, DesktopLayoutSnapshot.headFields]
    · simpa using hvalid
    · simp

/-- The decoder accepts the layouts of the snapshots that fit, and nothing else. -/
theorem decodeDesktopLayout_eq_ok :
    decodeDesktopLayout texts bytes = .ok snapshot ↔
      snapshot.Fits texts ∧ bytes = snapshot.layout := by
  unfold decodeDesktopLayout
  simp only [bind_eq_ok, ensure_eq_ok, exists_const, run'_eq_ok, readDesktopLayout_eq_ok]
  constructor
  · intro ⟨hlimit, _, _, hvalid, hnames, hbytes⟩
    rw [hbytes] at hlimit
    exact ⟨⟨hvalid, hnames, hlimit⟩, hbytes⟩
  · intro ⟨⟨hvalid, hnames, hlimit⟩, hbytes⟩
    rw [← hbytes] at hlimit
    exact ⟨hlimit, [], rfl, hvalid, hnames, hbytes⟩

end

end NetworkCopy
