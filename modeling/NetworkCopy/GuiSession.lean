import NetworkCopy.Management.Reconnect
import NetworkCopy.Management.PersistenceRoundTrip

/-!
# The resume record of the window

The record of a transfer is a text of `key=value` lines.  A path is written as the hexadecimal
digits of its UTF-16 units, so that any path comes back.
-/

namespace NetworkCopy

open LineText

/-! ## Requests -/

/-- `DestinationLayout`. -/
inductive DestinationLayout where
  | exact
  | sourceNameUnderRoot
  deriving DecidableEq

/-- `DestinationLayout::code`. -/
def DestinationLayout.code : DestinationLayout → Nat
  | .exact => 0
  | .sourceNameUnderRoot => 1

/-- `DestinationLayout::from_code`. -/
def DestinationLayout.fromCode : Nat → IoResult DestinationLayout
  | 0 => .ok .exact
  | 1 => .ok .sourceNameUnderRoot
  | unknown => .error (.invalidData s!"unknown destination layout code {unknown}")

/-- `GuiConnectionMode`. -/
inductive GuiConnectionMode where
  | direct
  | address (address : SocketAddr)
  deriving DecidableEq

/-- `GuiTransferRequest`, with the units of its paths.  `usize` has 64 bits. -/
inductive GuiTransferRequest where
  | send (connection : GuiConnectionMode) (sourceRoot : List UInt16)
      (workerCount calibrationMib : UInt64) (forcedDataStreamCount : Option UInt64)
      (preserveDesktopLayout : Bool)
  | receive (connection : GuiConnectionMode) (destinationRoot : List UInt16)
      (destinationLayout : DestinationLayout) (updateExisting : Bool)
  deriving DecidableEq

/-- `SessionKind`. -/
inductive SessionKind where
  | send
  | receive
  deriving DecidableEq

/-- `session_kind`. -/
def sessionKind : GuiTransferRequest → SessionKind
  | .send _ _ _ _ _ _ => .send
  | .receive _ _ _ _ => .receive

/-! ## Encoding -/

/-- `SESSION_MAGIC`. -/
def sessionMagic : String := "NETWORKCOPY_GUI_SESSION_V1"

/-- A line of the record. -/
def sessionField (key : String) (value : List Char) : List Char := key.toList ++ '=' :: value

/-- `{}` of a `bool`. -/
def boolText (value : Bool) : List Char := (if value then "true" else "false").toList

/-- `encode_path`. -/
def encodePath (units : List UInt16) : List Char :=
  units.flatMap (fun unit => (hexUpper 4 unit.toNat).toList)

/-- The fields of a record in the order of its lines. -/
structure SessionFields where
  direction : String
  connection : GuiConnectionMode
  path : List UInt16
  workerCount : Nat
  calibrationMib : Nat
  updateExisting : Bool
  destinationLayout : DestinationLayout
  preserveDesktopLayout : Bool
  forcedDataStreamCount : Option UInt64

/-- The fields of a request; a field that its direction lacks has a default. -/
def SessionFields.of : GuiTransferRequest → SessionFields
  | .send connection sourceRoot workerCount calibrationMib forcedDataStreamCount
      preserveDesktopLayout =>
      ⟨"send", connection, sourceRoot, workerCount.toNat, calibrationMib.toNat, false, .exact,
        preserveDesktopLayout, forcedDataStreamCount⟩
  | .receive connection destinationRoot destinationLayout updateExisting =>
      ⟨"receive", connection, destinationRoot, 0, 0, updateExisting, destinationLayout, false,
        none⟩

section

variable (texts : TextSupport SocketAddr)

/-- The name of a connection mode and its address. -/
def connectionTexts : GuiConnectionMode → String × String
  | .direct => ("direct", "")
  | .address address => ("address", texts.display address)

/-- The lines of a record. -/
def SessionFields.lines (fields : SessionFields) : List (List Char) :=
  [sessionMagic.toList,
    sessionField "direction" fields.direction.toList,
    sessionField "connection" (connectionTexts texts fields.connection).1.toList,
    sessionField "address" (connectionTexts texts fields.connection).2.toList,
    sessionField "path_utf16" (encodePath fields.path),
    sessionField "worker_count" (Nat.toDigits 10 fields.workerCount),
    sessionField "calibration_mib" (Nat.toDigits 10 fields.calibrationMib),
    sessionField "forced_data_stream_count"
      ((fields.forcedDataStreamCount.map (fun value => Nat.toDigits 10 value.toNat)).getD []),
    sessionField "update_existing" (boolText fields.updateExisting),
    sessionField "destination_layout" (Nat.toDigits 10 fields.destinationLayout.code),
    sessionField "preserve_desktop_layout" (boolText fields.preserveDesktopLayout)]

/-- `encode_request`. -/
def encodeRequest (request : GuiTransferRequest) : IoResult (List Char) :=
  .ok (unlines ((SessionFields.of request).lines texts))

/-! ## Decoding -/

/-- The fields of a record, by their keys. -/
abbrev FieldMap := List (String × List Char)

/-- The loop of `decode_request` over the lines. -/
def readFields : List (List Char) → FieldMap → IoResult FieldMap
  | [], fields => .ok fields
  | line :: rest, fields =>
      if line = [] then readFields rest fields
      else do
        let (key, value) ← okOrElse (splitOnce '=' line)
          (.invalidData "GUI session field is missing '='")
        ensure ((fields.lookup (String.ofList key)).isNone)
          (.invalidData "GUI session contains a duplicate field")
        readFields rest (fields ++ [(String.ofList key, value)])

/-- `required_field`. -/
def requiredField (fields : FieldMap) (key : String) : IoResult (List Char) :=
  okOrElse (fields.lookup key) (.invalidData s!"GUI session is missing field '{key}'")

/-- A number in a field, with the error of `parse`. -/
def parseSessionNumber (limit : Nat) (key : String) (value : List Char) : IoResult Nat :=
  match parseUnsigned 10 limit value with
  | .ok number => .ok number
  | .error error =>
      let reason := parseIntMessage error
      .error (.invalidData s!"invalid GUI session field '{key}': {reason}")

/-- `parse_field`. -/
def parseField (limit : Nat) (fields : FieldMap) (key : String) : IoResult Nat := do
  let value ← requiredField fields key
  parseSessionNumber limit key value

/-- A flag that old records lack. -/
def optionalFlag (fields : FieldMap) (key : String) : IoResult Bool :=
  match fields.lookup key with
  | some value =>
      if value = "true".toList then .ok true
      else if value = "false".toList then .ok false
      else .error (.invalidData
        s!"invalid GUI session field '{key}': provided string was not `true` or `false`")
  | none => .ok false

/-- The units of the hexadecimal text of a path. -/
def pathUnits : List UInt8 → IoResult (List UInt16)
  | first :: second :: third :: fourth :: rest => do
      let chunk := [first, second, third, fourth]
      let notUtf8 := texts.utf8Error chunk
      let text ← okOrElse (String.fromUTF8? chunk.toByteArray)
        (.invalidData s!"saved UTF-16 path is not hexadecimal: {notUtf8}")
      let unit ← match parseUnsigned 16 (2 ^ 16) text.toList with
        | .ok unit => .ok (UInt16.ofNat unit)
        | .error error =>
            let reason := parseIntMessage error
            .error (.invalidData s!"saved UTF-16 path is not hexadecimal: {reason}")
      let units ← pathUnits rest
      return unit :: units
  | _ => .ok []

/-- `decode_path`. -/
def decodePath (encoded : List Char) : IoResult (List UInt16) := do
  let bytes := textBytes encoded
  ensure (bytes.length % 4 = 0) (.invalidData "saved UTF-16 path has an invalid length")
  pathUnits texts bytes

/-- The connection of a record. -/
def decodeConnection (fields : FieldMap) : IoResult GuiConnectionMode := do
  let connection ← requiredField fields "connection"
  if connection = "direct".toList then return .direct
  else if connection = "address".toList then do
    let value ← requiredField fields "address"
    match texts.fromStr (String.ofList value) with
    | .ok address => return .address address
    | .error error => .error (.invalidData s!"invalid saved socket address: {error}")
  else .error (.invalidData "unknown GUI session connection mode")

/-- The destination layout of a record. -/
def decodeDestinationLayout (fields : FieldMap) : IoResult DestinationLayout :=
  match fields.lookup "destination_layout" with
  | some value => do
      let code ← parseSessionNumber 256 "destination_layout" value
      match DestinationLayout.fromCode code with
      | .ok layout => .ok layout
      | .error error =>
          let reason := error.message
          .error (.invalidData s!"invalid saved destination layout: {reason}")
  | none => .ok .exact

/-- The forced stream count of a record. -/
def decodeForcedStreamCount (fields : FieldMap) : IoResult (Option UInt64) :=
  match fields.lookup "forced_data_stream_count" with
  | none => .ok none
  | some [] => .ok none
  | some value => do
      let count ← parseSessionNumber (2 ^ 64) "forced_data_stream_count" value
      ensure (count ≠ 0) (.invalidData "saved transfer stream count must not be zero")
      return some (UInt64.ofNat count)

/-- The fields of a record as a request. -/
def decodeFields (fields : FieldMap) : IoResult GuiTransferRequest := do
  let direction ← requiredField fields "direction"
  let connection ← decodeConnection texts fields
  let encodedPath ← requiredField fields "path_utf16"
  let path ← decodePath texts encodedPath
  let updateExisting ← optionalFlag fields "update_existing"
  let destinationLayout ← decodeDestinationLayout fields
  let preserveDesktopLayout ← optionalFlag fields "preserve_desktop_layout"
  let forcedDataStreamCount ← decodeForcedStreamCount fields
  if direction = "send".toList then do
    let workerCount ← parseField (2 ^ 64) fields "worker_count"
    let calibrationMib ← parseField (2 ^ 64) fields "calibration_mib"
    ensure (workerCount ≠ 0) (.invalidData "saved scanner worker count must not be zero")
    ensure (calibrationMib ≠ 0) (.invalidData "saved calibration size must not be zero")
    return .send connection path (UInt64.ofNat workerCount) (UInt64.ofNat calibrationMib)
      forcedDataStreamCount preserveDesktopLayout
  else if direction = "receive".toList then
    return .receive connection path destinationLayout updateExisting
  else .error (.invalidData "unknown GUI session direction")

/-- `decode_request`. -/
def decodeRequest (contents : List Char) : IoResult GuiTransferRequest :=
  match lines contents with
  | [] => .error (.invalidData "unsupported GUI session record")
  | magic :: rest => do
      ensure (magic = sessionMagic.toList) (.invalidData "unsupported GUI session record")
      let fields ← readFields rest []
      decodeFields texts fields

end

/-! ## Paths -/

section

variable {texts : TextSupport SocketAddr}

theorem stringBytes_eq_textBytes (value : String) : stringBytes value = textBytes value.toList := by
  symm
  apply fromUTF8_eq_some.mp
  show String.fromUTF8? (String.ofList value.toList).toByteArray = _
  rw [String.ofList_toList]
  unfold String.fromUTF8?
  rw [dif_pos value.isValidUTF8]
  rfl

theorem toList_hexUpper {width value : Nat} : (hexUpper width value).toList =
    List.replicate (width - (Nat.toDigits 16 value).length) '0' ++
      (Nat.toDigits 16 value).map Char.toUpper := by
  simp [hexUpper, List.leftpad]

theorem mem_hexUpper {width value : Nat} {c : Char} (hc : c ∈ (hexUpper width value).toList) :
    c.toNat < 128 ∧ c ≠ '+' ∧ c ≠ '\n' ∧ c ≠ '\r' := by
  have hdigit : ∃ digit < 16, c = digit.digitChar.toUpper := by
    rw [toList_hexUpper, List.mem_append, List.mem_replicate, List.mem_map] at hc
    rcases hc with ⟨-, rfl⟩ | ⟨other, hother, rfl⟩
    · exact ⟨0, by omega, rfl⟩
    · obtain ⟨digit, hlt, rfl⟩ := exists_digit_of_mem_toDigits (by omega) hother
      exact ⟨digit, hlt, rfl⟩
  obtain ⟨digit, hlt, rfl⟩ := hdigit
  interval_cases digit <;> decide

theorem length_hexUpper_unit (unit : UInt16) : (hexUpper 4 unit.toNat).toList.length = 4 := by
  have hlength : (Nat.toDigits 16 unit.toNat).length ≤ 4 :=
    Nat.toDigits_length 16 unit.toNat 4 (by omega) unit.toNat_lt
  rw [toList_hexUpper]
  simp only [List.length_append, List.length_replicate, List.length_map]
  omega

theorem parseUnsigned_hexUpper (unit : UInt16) :
    parseUnsigned 16 (2 ^ 16) (hexUpper 4 unit.toNat).toList = .ok unit.toNat := by
  have hlength := length_hexUpper_unit unit
  refine parseUnsigned_of_digit ?_ ?_ ?_
  · intro hnil
    rw [hnil] at hlength
    cases hlength
  · intro hhead
    exact (mem_hexUpper (List.mem_of_head? hhead)).2.1 rfl
  · rw [toList_hexUpper, parseDigits_replicate (by omega) (by omega)]
    exact parseDigits_toDigits (by omega) (by decide) unit.toNat_lt

/-- The digits of a unit are four bytes of text. -/
theorem textBytes_hexUpper (unit : UInt16) : ∃ first second third fourth : UInt8,
    textBytes (hexUpper 4 unit.toNat).toList = [first, second, third, fourth] := by
  have hlength : (textBytes (hexUpper 4 unit.toNat).toList).length = 4 := by
    rw [textBytes_length fun c hc => (mem_hexUpper hc).1, length_hexUpper_unit]
  match hbytes : textBytes (hexUpper 4 unit.toNat).toList, hlength with
  | [first, second, third, fourth], _ => exact ⟨first, second, third, fourth, rfl⟩

theorem pathUnits_encodePath (texts : TextSupport SocketAddr) (units : List UInt16) :
    (textBytes (encodePath units)).length % 4 = 0 ∧
      pathUnits texts (textBytes (encodePath units)) = .ok units := by
  induction units with
  | nil => exact ⟨rfl, rfl⟩
  | cons unit rest ih =>
    obtain ⟨first, second, third, fourth, hbytes⟩ := textBytes_hexUpper unit
    have hstring : stringBytes (hexUpper 4 unit.toNat) = [first, second, third, fourth] := by
      rw [stringBytes_eq_textBytes, hbytes]
    have hchars : textBytes (encodePath (unit :: rest)) =
        first :: second :: third :: fourth :: textBytes (encodePath rest) := by
      rw [encodePath, List.flatMap_cons, ← encodePath, textBytes, List.flatMap_append,
        ← textBytes, ← textBytes, hbytes]
      rfl
    rw [hchars]
    constructor
    · simp only [List.length_cons]
      omega
    · rw [pathUnits, fromUTF8_eq_some.mpr hstring.symm]
      simp only [okOrElse_some, ok_bind, parseUnsigned_hexUpper, ih.2, UInt16.ofNat_toNat]
      rfl

theorem decodePath_encodePath (units : List UInt16) :
    decodePath texts (encodePath units) = .ok units := by
  obtain ⟨hlength, hunits⟩ := pathUnits_encodePath texts units
  unfold decodePath
  dsimp only
  rw [ensure, if_pos hlength]
  exact hunits

theorem plain_encodePath (units : List UInt16) : Plain (encodePath units) := by
  intro c hc
  obtain ⟨unit, _, hc⟩ := List.mem_flatMap.mp hc
  exact (mem_hexUpper hc).2.2

/-! ## Fields -/

variable {fields : FieldMap}

/-- The entries of a record. -/
def SessionFields.entries (fields : SessionFields) (texts : TextSupport SocketAddr) : FieldMap :=
  [("direction", fields.direction.toList),
    ("connection", (connectionTexts texts fields.connection).1.toList),
    ("address", (connectionTexts texts fields.connection).2.toList),
    ("path_utf16", encodePath fields.path),
    ("worker_count", Nat.toDigits 10 fields.workerCount),
    ("calibration_mib", Nat.toDigits 10 fields.calibrationMib),
    ("forced_data_stream_count",
      (fields.forcedDataStreamCount.map (fun value => Nat.toDigits 10 value.toNat)).getD []),
    ("update_existing", boolText fields.updateExisting),
    ("destination_layout", Nat.toDigits 10 fields.destinationLayout.code),
    ("preserve_desktop_layout", boolText fields.preserveDesktopLayout)]

theorem lookup_append_of_not_mem {key : String} (h : key ∉ fields.map Prod.fst) :
    fields.lookup key = none := by
  induction fields with
  | nil => rfl
  | cons entry rest ih =>
    obtain ⟨first, value⟩ := entry
    rw [List.map_cons, List.mem_cons, not_or] at h
    rw [List.lookup_cons, beq_eq_false_iff_ne.mpr h.1]
    exact ih h.2

/-- Lines with distinct keys are read as their entries. -/
theorem readFields_entries {entries fields : FieldMap}
    (hkeys : ∀ entry ∈ entries, '=' ∉ entry.1.toList)
    (hnodup : ((fields ++ entries).map Prod.fst).Nodup) :
    readFields (entries.map (fun entry => sessionField entry.1 entry.2)) fields =
      .ok (fields ++ entries) := by
  induction entries generalizing fields with
  | nil => rw [List.map_nil, readFields, List.append_nil]
  | cons entry rest ih =>
    obtain ⟨hkey, hrest⟩ := List.forall_mem_cons.mp hkeys
    have hne : sessionField entry.1 entry.2 ≠ [] := by
      simp [sessionField]
    have hfresh : entry.1 ∉ fields.map Prod.fst := by
      intro hmem
      rw [List.map_append, List.nodup_append] at hnodup
      exact hnodup.2.2 _ hmem _ (List.mem_map_of_mem List.mem_cons_self) rfl
    rw [List.map_cons, readFields, if_neg hne, sessionField, splitOnce_append hkey]
    simp only [okOrElse_some, ok_bind, String.ofList_toList, lookup_append_of_not_mem hfresh,
      Option.isNone_none, ensure, if_true]
    rw [ih hrest (by rw [List.append_assoc]; exact hnodup), List.append_assoc]
    rfl

/-! ## Round trip -/

variable {request : GuiTransferRequest}

/-- The counts of a request are not zero. -/
def GuiTransferRequest.Nonzero : GuiTransferRequest → Prop
  | .send _ _ workerCount calibrationMib forcedDataStreamCount _ =>
      workerCount ≠ 0 ∧ calibrationMib ≠ 0 ∧ forcedDataStreamCount ≠ some 0
  | .receive _ _ _ _ => True

/-- The connection of a request. -/
def GuiTransferRequest.connection : GuiTransferRequest → GuiConnectionMode
  | .send connection _ _ _ _ _ => connection
  | .receive connection _ _ _ => connection

/-- The address of a connection prints on one line and parses back. -/
def GuiConnectionMode.PrintsBack (texts : TextSupport SocketAddr) (connection : GuiConnectionMode) :
    Prop :=
  ∀ address, connection = .address address →
    texts.fromStr (texts.display address) = .ok address ∧ Plain (texts.display address).toList

theorem lookup_entries (texts : TextSupport SocketAddr) (fields : SessionFields) :
    (fields.entries texts).lookup "direction" = some fields.direction.toList ∧
      (fields.entries texts).lookup "connection" =
        some (connectionTexts texts fields.connection).1.toList ∧
      (fields.entries texts).lookup "address" =
        some (connectionTexts texts fields.connection).2.toList ∧
      (fields.entries texts).lookup "path_utf16" = some (encodePath fields.path) ∧
      (fields.entries texts).lookup "worker_count" = some (Nat.toDigits 10 fields.workerCount) ∧
      (fields.entries texts).lookup "calibration_mib" =
        some (Nat.toDigits 10 fields.calibrationMib) ∧
      (fields.entries texts).lookup "forced_data_stream_count" =
        some ((fields.forcedDataStreamCount.map
          (fun value => Nat.toDigits 10 value.toNat)).getD []) ∧
      (fields.entries texts).lookup "update_existing" = some (boolText fields.updateExisting) ∧
      (fields.entries texts).lookup "destination_layout" =
        some (Nat.toDigits 10 fields.destinationLayout.code) ∧
      (fields.entries texts).lookup "preserve_desktop_layout" =
        some (boolText fields.preserveDesktopLayout) := by
  unfold SessionFields.entries
  simp only [List.lookup_cons]
  simp

theorem parseSessionNumber_toDigits {limit number : Nat} (key : String) (h : number < limit) :
    parseSessionNumber limit key (Nat.toDigits 10 number) = .ok number := by
  rw [parseSessionNumber, parseUnsigned_toDigits h]

theorem optionalFlag_boolText {key : String} {value : Bool}
    (h : fields.lookup key = some (boolText value)) : optionalFlag fields key = .ok value := by
  rw [optionalFlag, h]
  cases value <;> simp [boolText]

theorem decodeDestinationLayout_code {layout : DestinationLayout}
    (h : fields.lookup "destination_layout" = some (Nat.toDigits 10 layout.code)) :
    decodeDestinationLayout fields = .ok layout := by
  have hcode : layout.code < 256 := by
    cases layout <;> decide
  rw [decodeDestinationLayout, h]
  dsimp only
  rw [parseSessionNumber_toDigits _ hcode, ok_bind]
  cases layout <;> rfl

theorem decodeForcedStreamCount_toDigits {forced : Option UInt64} (hne : forced ≠ some 0)
    (h : fields.lookup "forced_data_stream_count" =
      some ((forced.map (fun value => Nat.toDigits 10 value.toNat)).getD [])) :
    decodeForcedStreamCount fields = .ok forced := by
  rw [decodeForcedStreamCount, h]
  cases forced with
  | none => rfl
  | some count =>
    have hcount : count.toNat ≠ 0 := fun hzero =>
      hne (congrArg some (UInt64.toNat_inj.mp hzero))
    have hdigits := Nat.toDigits_ne_nil (n := count.toNat) (b := 10)
    rw [Option.map_some, Option.getD_some]
    cases htext : Nat.toDigits 10 count.toNat with
    | nil => exact absurd htext hdigits
    | cons first rest =>
      dsimp only
      rw [← htext, parseSessionNumber_toDigits _ count.toNat_lt, ok_bind, ensure,
        if_pos hcount, ok_bind, UInt64.ofNat_toNat]
      rfl

theorem decodeConnection_entries {fields : SessionFields}
    (hprints : fields.connection.PrintsBack texts) :
    decodeConnection texts (fields.entries texts) = .ok fields.connection := by
  obtain ⟨_, hconnection, haddress, _⟩ := lookup_entries texts fields
  unfold decodeConnection requiredField
  rw [hconnection, haddress, okOrElse_some, ok_bind]
  cases hmode : fields.connection with
  | direct =>
    show (if "direct".toList = "direct".toList then _ else _) = _
    rw [if_pos rfl]
    rfl
  | address address =>
    have hparse := (hprints address hmode).1
    have hne : ¬"address".toList = "direct".toList := by
      simp
    show (if "address".toList = "direct".toList then _ else
      if "address".toList = "address".toList then _ else _) = _
    rw [if_neg hne, if_pos rfl, okOrElse_some, ok_bind, connectionTexts, String.ofList_toList,
      hparse]
    rfl

theorem decodeFields_entries (hnonzero : request.Nonzero)
    (hprints : request.connection.PrintsBack texts) :
    decodeFields texts ((SessionFields.of request).entries texts) = .ok request := by
  have hsame : (SessionFields.of request).connection = request.connection := by
    cases request <;> rfl
  have hforcedNe : (SessionFields.of request).forcedDataStreamCount ≠ some 0 := by
    cases request with
    | send => exact hnonzero.2.2
    | receive => exact fun h => by cases h
  obtain ⟨hdirection, _, _, hpath, hworkers, hcalibration, hforced, hupdate, hlayout, hpreserve⟩ :=
    lookup_entries texts (SessionFields.of request)
  unfold decodeFields
  rw [decodeConnection_entries (by rw [hsame]; exact hprints), optionalFlag_boolText hupdate,
    optionalFlag_boolText hpreserve, decodeDestinationLayout_code hlayout,
    decodeForcedStreamCount_toDigits hforcedNe hforced]
  simp only [requiredField, parseField, hdirection, hpath, hworkers, hcalibration, okOrElse_some,
    ok_bind, decodePath_encodePath]
  cases request with
  | send connection path workers calibration forced preserve =>
    obtain ⟨hworkersNe, hcalibrationNe, _⟩ := hnonzero
    have hworkersPos : workers.toNat ≠ 0 := fun hzero => hworkersNe (UInt64.toNat_inj.mp hzero)
    have hcalibrationPos : calibration.toNat ≠ 0 :=
      fun hzero => hcalibrationNe (UInt64.toNat_inj.mp hzero)
    show (if "send".toList = "send".toList then _ else _) = _
    rw [if_pos rfl]
    dsimp only [SessionFields.of]
    rw [parseSessionNumber_toDigits _ workers.toNat_lt, ok_bind,
      parseSessionNumber_toDigits _ calibration.toNat_lt, ok_bind, ensure, if_pos hworkersPos,
      ok_bind, ensure, if_pos hcalibrationPos, ok_bind, UInt64.ofNat_toNat, UInt64.ofNat_toNat]
    rfl
  | receive connection path layout update =>
    have hne : ¬"receive".toList = "send".toList := by
      simp
    show (if "receive".toList = "send".toList then _ else
      if "receive".toList = "receive".toList then _ else _) = _
    rw [if_neg hne, if_pos rfl]
    rfl

theorem plain_sessionField {key : String} {value : List Char} (hkey : Plain key.toList)
    (hvalue : Plain value) : Plain (sessionField key value) := by
  refine hkey.append ?_
  intro c hc
  rcases List.mem_cons.mp hc with rfl | hc
  · decide
  · exact hvalue c hc

theorem plain_boolText (value : Bool) : Plain (boolText value) := by
  cases value <;> simp [boolText, Plain]

theorem plain_lines (hprints : request.connection.PrintsBack texts) :
    ∀ line ∈ (SessionFields.of request).lines texts, Plain line := by
  have hdirection : Plain (SessionFields.of request).direction.toList := by
    cases request <;> simp [SessionFields.of, Plain]
  have hconnection : (SessionFields.of request).connection = request.connection := by
    cases request <;> rfl
  have hname : Plain (connectionTexts texts (SessionFields.of request).connection).1.toList := by
    cases (SessionFields.of request).connection <;> simp [connectionTexts, Plain]
  have haddress : Plain (connectionTexts texts (SessionFields.of request).connection).2.toList := by
    rw [hconnection]
    cases hmode : request.connection with
    | direct => simp [connectionTexts, Plain]
    | address address => exact (hprints address hmode).2
  have hforced : Plain (((SessionFields.of request).forcedDataStreamCount.map
      (fun value => Nat.toDigits 10 value.toNat)).getD []) := by
    cases (SessionFields.of request).forcedDataStreamCount with
    | none => exact fun c hc => by simp at hc
    | some value => exact plain_toDigits _
  simp only [SessionFields.lines, List.forall_mem_cons]
  refine ⟨by simp [Plain, sessionMagic], plain_sessionField (by simp [Plain]) hdirection,
    plain_sessionField (by simp [Plain]) hname, plain_sessionField (by simp [Plain]) haddress,
    plain_sessionField (by simp [Plain]) (plain_encodePath _),
    plain_sessionField (by simp [Plain]) (plain_toDigits _),
    plain_sessionField (by simp [Plain]) (plain_toDigits _),
    plain_sessionField (by simp [Plain]) hforced,
    plain_sessionField (by simp [Plain]) (plain_boolText _),
    plain_sessionField (by simp [Plain]) (plain_toDigits _),
    plain_sessionField (by simp [Plain]) (plain_boolText _), by simp⟩

/-- Every request with nonzero counts comes back from its record. -/
theorem decodeRequest_encodeRequest (hnonzero : request.Nonzero)
    (hprints : request.connection.PrintsBack texts) :
    (encodeRequest texts request).bind (decodeRequest texts) = .ok request := by
  show decodeRequest texts (unlines ((SessionFields.of request).lines texts)) = _
  have hentries : readFields (((SessionFields.of request).entries texts).map
      (fun entry => sessionField entry.1 entry.2)) [] =
      .ok ([] ++ (SessionFields.of request).entries texts) :=
    readFields_entries (by simp [SessionFields.entries]) (by simp [SessionFields.entries])
  rw [decodeRequest, lines_unlines (plain_lines hprints), SessionFields.lines]
  dsimp only
  rw [ensure, if_pos rfl, ok_bind]
  rw [List.nil_append] at hentries
  have hbind := bind_eq_ok.mpr ⟨_, hentries, decodeFields_entries hnonzero hprints⟩
  exact hbind

end

end NetworkCopy
