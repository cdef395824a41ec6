import NetworkCopy.Update.Restart

/-!
# The handoff file

The plan that the helper process acts on travels in a file.  A `PathBuf` keeps the UTF-16 units that
it was made of, also those that are no well-formed text, and compares by its components; so the file
is modelled over the units, and the plan of `Update/Plan` is what `Path::components` sees of them.

`decodeUpdateHandoffPlan_eq` connects the decoder to the one that the clean-up uses.
-/

namespace NetworkCopy

open ByteOrder ByteReader

/-! ## Records -/

/-- `UpdateHandoffPlan`, with the units of its paths. -/
structure HandoffRecord where
  parentProcessId : UInt32
  artifactKind : ReleaseArtifactKind
  naming : UpdateInstallNaming
  currentExecutable : List UInt16
  installPath : List UInt16
  stagingDirectory : List UInt16
  stagedExecutable : List UInt16
  backupExecutable : List UInt16
  handoffPlan : List UInt16
  startupMarker : List UInt16
  expectedSize : UInt64
  expectedSha256Hex : String
  deriving DecidableEq

/-- The plan that the paths of a record make; `pathOf` is `Path::components`. -/
def HandoffRecord.plan (pathOf : List UInt16 → WinPath) (record : HandoffRecord) :
    UpdateHandoffPlan where
  parentProcessId := record.parentProcessId
  artifactKind := record.artifactKind
  naming := record.naming
  currentExecutable := pathOf record.currentExecutable
  installPath := pathOf record.installPath
  stagingDirectory := pathOf record.stagingDirectory
  stagedExecutable := pathOf record.stagedExecutable
  backupExecutable := pathOf record.backupExecutable
  handoffPlan := pathOf record.handoffPlan
  startupMarker := pathOf record.startupMarker
  expectedSize := record.expectedSize
  expectedSha256Hex := record.expectedSha256Hex

/-- The paths, in the order of the file. -/
def HandoffRecord.paths (record : HandoffRecord) : List (List UInt16) :=
  [record.currentExecutable, record.installPath, record.stagingDirectory, record.stagedExecutable,
    record.backupExecutable, record.handoffPlan, record.startupMarker]

/-! ## Encoding -/

/-- `encode_artifact_kind`. -/
def encodeArtifactKind : ReleaseArtifactKind → UInt8
  | .manager => 1
  | .agent => 2
  | .cli => 3
  | .guiHungarian => 4
  | .guiEnglish => 5

/-- `encode_install_naming`. -/
def encodeInstallNaming : UpdateInstallNaming → UInt8
  | .publishedAssetName => 1
  | .preserveCurrentName => 2

/-- The units of a path in the file. -/
def handoffUnitBytes (units : List UInt16) : Bytes :=
  units.flatMap (fun unit => leBytes 2 unit.toNat)

section

variable (pathOf : List UInt16 → WinPath)

/-- `write_update_handoff_path`. -/
def writeUpdateHandoffPath (encoded : Bytes) (path : List UInt16) : IoResult Bytes := do
  ensure (pathOf path).isAbsolute
    (.invalidInput ("update handoff path must be absolute: " ++ (pathOf path).debug))
  ensure (path ≠ []) (.invalidInput "update handoff path must not be empty")
  ensure (path.length ≤ updateHandoffMaxPathUnits)
    (.invalidInput ("update handoff path contains " ++ toString path.length ++
      " UTF-16 units, exceeding the " ++ toString updateHandoffMaxPathUnits ++ "-unit limit"))
  ensure (0 ∉ path) (.invalidInput "update handoff path contains a null UTF-16 unit")
  ensure (path.length < 2 ^ 32)
    (.invalidInput "update handoff path length cannot be represented as u32")
  return encoded ++ leBytes 4 path.length ++ handoffUnitBytes path

/-- The fields before the paths. -/
def HandoffRecord.head (record : HandoffRecord) (digest : Bytes) : Bytes :=
  updateHandoffMagic ++ leBytes 2 updateHandoffVersion ++ leBytes 2 0 ++
    leBytes 4 record.parentProcessId.toNat ++ [encodeArtifactKind record.artifactKind] ++
    [encodeInstallNaming record.naming] ++ leBytes 2 0 ++
    leBytes 8 record.expectedSize.toNat ++ digest

/-- `encode_update_handoff_plan`. -/
def encodeUpdateHandoffPlan (record : HandoffRecord) : IoResult Bytes := do
  validateUpdateHandoffPlan (record.plan pathOf)
  let digest ← decodeSha256Hex record.expectedSha256Hex
  let encoded ← record.paths.foldlM (writeUpdateHandoffPath pathOf) (record.head digest)
  ensure (encoded.length ≤ updateHandoffMaxBytes)
    (.invalidData ("encoded update handoff plan exceeds the " ++ toString updateHandoffMaxBytes ++
      "-byte limit"))
  return encoded

/-! ## Decoding -/

/-- `UpdateHandoffReader::read_path`, with the units. -/
def readHandoffUnits (label : String) : RecordReader (List UInt16) := do
  let unitCount ← readHandoffUint 4 (label ++ " UTF-16 unit count")
  ByteReader.check (unitCount ≠ 0) (invalidHandoff ("update handoff " ++ label ++ " path is empty"))
  ByteReader.check (unitCount ≤ updateHandoffMaxPathUnits)
    (invalidHandoff ("update handoff " ++ label ++ " path contains " ++ toString unitCount ++
      " UTF-16 units, exceeding the " ++ toString updateHandoffMaxPathUnits ++ "-unit limit"))
  let units ← many unitCount (readHandoffUint 2 (label ++ " UTF-16 contents"))
  ByteReader.check (0 ∉ units)
    (invalidHandoff ("update handoff " ++ label ++ " path contains a null UTF-16 unit"))
  return units.map UInt16.ofNat

/-- The fields of `decode_update_handoff_plan`. -/
def readHandoffRecord : RecordReader HandoffRecord := do
  let magic ← readHandoffArray 4 "handoff magic"
  ByteReader.check (magic = updateHandoffMagic) (invalidHandoff "update handoff magic is invalid")
  let version ← readHandoffUint 2 "handoff version"
  ByteReader.check (version = updateHandoffVersion)
    (invalidHandoff s!"unsupported update handoff version {version}; expected 1")
  let headerReserved ← readHandoffUint 2 "header reserved value"
  ByteReader.check (headerReserved = 0)
    (invalidHandoff "update handoff header reserved value is not zero")
  let parentProcessId ← readHandoffUint 4 "parent process ID"
  let kindCode ← readHandoffUint 1 "artifact kind"
  let artifactKind ← decodeArtifactKind kindCode
  let namingCode ← readHandoffUint 1 "install naming"
  let naming ← decodeInstallNaming namingCode
  let namingReserved ← readHandoffUint 2 "naming reserved value"
  ByteReader.check (namingReserved = 0)
    (invalidHandoff "update handoff naming reserved value is not zero")
  let expectedSize ← readHandoffUint 8 "expected executable size"
  let digest ← readHandoffArray updateHandoffDigestBytes "SHA-256 digest"
  let currentExecutable ← readHandoffUnits "current executable"
  let installPath ← readHandoffUnits "install path"
  let stagingDirectory ← readHandoffUnits "staging directory"
  let stagedExecutable ← readHandoffUnits "staged executable"
  let backupExecutable ← readHandoffUnits "backup executable"
  let handoffPlan ← readHandoffUnits "handoff plan"
  let startupMarker ← readHandoffUnits "startup marker"
  return {
    parentProcessId := UInt32.ofNat parentProcessId
    artifactKind
    naming
    currentExecutable
    installPath
    stagingDirectory
    stagedExecutable
    backupExecutable
    handoffPlan
    startupMarker
    expectedSize := UInt64.ofNat expectedSize
    expectedSha256Hex := encodeLowerHex digest }

/-- `decode_update_handoff_plan`, with the units of the paths. -/
def decodeHandoffRecord (encoded : Bytes) : IoResult HandoffRecord := do
  ensure (encoded.length ≤ updateHandoffMaxBytes) (.invalidData
    ("encoded update handoff plan exceeds the " ++ toString updateHandoffMaxBytes ++
      "-byte limit"))
  let (record, rest) ← readHandoffRecord.run encoded
  ensure (rest = []) (invalidHandoff
    ("update handoff contains " ++ toString rest.length ++ " trailing byte(s)"))
  validateUpdateHandoffPlan (record.plan pathOf)
  return record

/-- The clean-up decodes the same file. -/
theorem decodeUpdateHandoffPlan_eq (encoded : Bytes) :
    decodeUpdateHandoffPlan pathOf encoded =
      (decodeHandoffRecord pathOf encoded).map (HandoffRecord.plan pathOf) := by
  have hfields : readHandoffFields pathOf = HandoffRecord.plan pathOf <$> readHandoffRecord := by
    unfold readHandoffFields readHandoffRecord readHandoffPath readHandoffUnits
    simp only [map_bind, bind_assoc, pure_bind, map_pure]
    rfl
  unfold decodeUpdateHandoffPlan decodeHandoffRecord
  rw [hfields]
  cases ensure (encoded.length ≤ updateHandoffMaxBytes) (.invalidData
      ("encoded update handoff plan exceeds the " ++ toString updateHandoffMaxBytes ++
        "-byte limit")) with
  | error error => rfl
  | ok u =>
    rw [ok_bind, ok_bind, StateT.run_map]
    cases readHandoffRecord.run encoded with
    | error error => rfl
    | ok read =>
      obtain ⟨record, rest⟩ := read
      show (Except.ok (record.plan pathOf, rest) >>= _) = _
      rw [ok_bind, ok_bind]
      dsimp only
      generalize ensure (rest = []) _ = checked
      generalize validateUpdateHandoffPlan (record.plan pathOf) = validated
      cases checked with
      | error error => rfl
      | ok u =>
        cases validated with
        | error error => rfl
        | ok v => rfl

end

/-! ## Digests -/

/-- The digit of a number below 16, as a byte of text. -/
def nibbleDigit (nibble : UInt8) : UInt8 := if nibble < 10 then 0x30 + nibble else 0x57 + nibble

/-- The digits of the numbers below 16. -/
theorem nibbleDigit_spec {nibble : UInt8} (h : nibble.toNat < 16) :
    textBytes [Nat.digitChar nibble.toNat] = [nibbleDigit nibble] ∧
      isLowerHexdigit (nibbleDigit nibble) = true ∧
      decodeLowerNibble (nibbleDigit nibble) = some nibble := by
  have hall : ∀ n < 16, textBytes [Nat.digitChar n] = [nibbleDigit (UInt8.ofNat n)] ∧
      isLowerHexdigit (nibbleDigit (UInt8.ofNat n)) = true ∧
      decodeLowerNibble (nibbleDigit (UInt8.ofNat n)) = some (UInt8.ofNat n) := by
    decide +kernel
  have hnibble := hall nibble.toNat h
  rwa [UInt8.ofNat_toNat] at hnibble

/-- The two numbers of a byte. -/
theorem toNat_nibbles (byte : UInt8) :
    (byte >>> 4).toNat = byte.toNat / 16 ∧ (byte &&& 0x0F).toNat = byte.toNat % 16 := by
  constructor
  · rw [UInt8.toNat_shiftRight]
    exact Nat.shiftRight_eq_div_pow byte.toNat 4
  · rw [UInt8.toNat_and]
    exact Nat.and_two_pow_sub_one_eq_mod byte.toNat 4

theorem nibbles_join {high low : UInt8} (hhigh : high.toNat < 16) (hlow : low.toNat < 16) :
    (high <<< 4 ||| low).toNat = high.toNat * 16 + low.toNat := by
  rw [UInt8.toNat_or, UInt8.toNat_shiftLeft]
  have hshift : high.toNat <<< (UInt8.toNat 4 % 8) % 2 ^ 8 = 2 ^ 4 * high.toNat := by
    rw [Nat.shiftLeft_eq]
    show high.toNat * 16 % 256 = 16 * high.toNat
    omega
  rw [hshift, ← Nat.two_pow_add_eq_or_of_lt hlow]
  omega

theorem nibbleDigit_of_decodeLowerNibble {byte nibble : UInt8}
    (h : decodeLowerNibble byte = some nibble) :
    nibble.toNat < 16 ∧ nibbleDigit nibble = byte := by
  unfold decodeLowerNibble at h
  split at h
  · rename_i hdigit
    obtain ⟨hfirst, hlast⟩ := hdigit
    simp only [UInt8.le_iff_toNat_le, UInt8.reduceToNat] at hfirst hlast
    have hvalue : nibble.toNat = byte.toNat - 48 := by
      cases h
      exact UInt8.toNat_sub_of_le _ _ (UInt8.le_iff_toNat_le.mpr hfirst)
    have hsmall : nibble < 10 := UInt8.lt_iff_toNat_lt.mpr (by simp only [UInt8.reduceToNat]; omega)
    refine ⟨by omega, ?_⟩
    rw [nibbleDigit, if_pos hsmall, ← UInt8.toNat_inj, UInt8.toNat_add, hvalue]
    simp only [UInt8.reduceToNat]
    omega
  · split at h
    · rename_i hletter
      obtain ⟨hfirst, hlast⟩ := hletter
      simp only [UInt8.le_iff_toNat_le, UInt8.reduceToNat] at hfirst hlast
      have hvalue : nibble.toNat = byte.toNat - 87 := by
        cases h
        rw [UInt8.toNat_add,
          UInt8.toNat_sub_of_le byte 0x61 (UInt8.le_iff_toNat_le.mpr hfirst)]
        simp only [UInt8.reduceToNat]
        omega
      have hlarge : ¬nibble < 10 := by
        simp only [UInt8.lt_iff_toNat_lt, UInt8.reduceToNat]
        omega
      refine ⟨by omega, ?_⟩
      rw [nibbleDigit, if_neg hlarge, ← UInt8.toNat_inj, UInt8.toNat_add, hvalue]
      simp only [UInt8.reduceToNat]
      omega
    · cases h

theorem textBytes_hexPair (byte : UInt8) :
    textBytes [Nat.digitChar (byte.toNat / 16), Nat.digitChar (byte.toNat % 16)] =
      [nibbleDigit (byte >>> 4), nibbleDigit (byte &&& 0x0F)] := by
  obtain ⟨hhigh, hlow⟩ := toNat_nibbles byte
  have hbyte := byte.toNat_lt
  rw [← hhigh, ← hlow]
  show textBytes ([Nat.digitChar (byte >>> 4).toNat] ++ [Nat.digitChar (byte &&& 0x0F).toNat]) = _
  rw [textBytes, List.flatMap_append, ← textBytes, ← textBytes,
    (nibbleDigit_spec (by omega)).1, (nibbleDigit_spec (by omega)).1]
  rfl

theorem decodeLowerNibble_nibbleDigit (byte : UInt8) :
    isLowerHexdigit (nibbleDigit (byte >>> 4)) = true ∧
      isLowerHexdigit (nibbleDigit (byte &&& 0x0F)) = true ∧
      decodeLowerNibble (nibbleDigit (byte >>> 4)) = some (byte >>> 4) ∧
      decodeLowerNibble (nibbleDigit (byte &&& 0x0F)) = some (byte &&& 0x0F) ∧
      (byte >>> 4) <<< 4 ||| (byte &&& 0x0F) = byte := by
  obtain ⟨hhigh, hlow⟩ := toNat_nibbles byte
  have hbyte := byte.toNat_lt
  have hhigh' : (byte >>> 4).toNat < 16 := by omega
  have hlow' : (byte &&& 0x0F).toNat < 16 := by omega
  refine ⟨(nibbleDigit_spec hhigh').2.1, (nibbleDigit_spec hlow').2.1,
    (nibbleDigit_spec hhigh').2.2, (nibbleDigit_spec hlow').2.2, ?_⟩
  rw [← UInt8.toNat_inj, nibbles_join hhigh' hlow', hhigh, hlow]
  omega

/-- A byte that two digits make has these digits. -/
theorem nibbleDigit_of_decode {high low h l : UInt8} (hhigh : decodeLowerNibble high = some h)
    (hlow : decodeLowerNibble low = some l) :
    nibbleDigit ((h <<< 4 ||| l) >>> 4) = high ∧
      nibbleDigit ((h <<< 4 ||| l) &&& 0x0F) = low := by
  obtain ⟨hh, hhigh⟩ := nibbleDigit_of_decodeLowerNibble hhigh
  obtain ⟨hl, hlow⟩ := nibbleDigit_of_decodeLowerNibble hlow
  obtain ⟨hfirst, hsecond⟩ := toNat_nibbles (h <<< 4 ||| l)
  rw [nibbles_join hh hl] at hfirst hsecond
  have hsame : (h <<< 4 ||| l) >>> 4 = h := by
    rw [← UInt8.toNat_inj, hfirst]
    omega
  have hsame' : (h <<< 4 ||| l) &&& 0x0F = l := by
    rw [← UInt8.toNat_inj, hsecond]
    omega
  rw [hsame, hsame']
  exact ⟨hhigh, hlow⟩

/-- The text of a digest. -/
def hexBytes (digest : Bytes) : Bytes :=
  digest.flatMap (fun byte : UInt8 => [nibbleDigit (byte >>> 4), nibbleDigit (byte &&& 0x0F)])

theorem textBytes_encodeLowerHex (digest : Bytes) :
    textBytes (encodeLowerHex digest).toList = hexBytes digest := by
  rw [encodeLowerHex, String.toList_ofList]
  induction digest with
  | nil => rfl
  | cons byte rest ih =>
    rw [List.flatMap_cons, textBytes, List.flatMap_append, ← textBytes, ← textBytes, ih,
      textBytes_hexPair, hexBytes, hexBytes, List.flatMap_cons]

theorem decodeDigestBytes_hexBytes (digest : Bytes) :
    (hexBytes digest).all isLowerHexdigit = true ∧
      decodeDigestBytes (hexBytes digest) = .ok digest := by
  induction digest with
  | nil => exact ⟨rfl, rfl⟩
  | cons byte rest ih =>
    obtain ⟨hhigh, hlow, hdecodeHigh, hdecodeLow, hbyte⟩ := decodeLowerNibble_nibbleDigit byte
    have hcons : hexBytes (byte :: rest) =
        nibbleDigit (byte >>> 4) :: nibbleDigit (byte &&& 0x0F) :: hexBytes rest := rfl
    rw [hcons]
    constructor
    · rw [List.all_cons, List.all_cons, hhigh, hlow, ih.1]
      rfl
    · rw [decodeDigestBytes, hdecodeHigh, hdecodeLow, ih.2]
      show Except.ok (_ :: rest) = _
      rw [hbyte]

/-- Digits that are decoded are the digits of the digest. -/
theorem hexBytes_of_decode {bytes digest : Bytes} (heven : bytes.length % 2 = 0)
    (h : decodeDigestBytes bytes = .ok digest) : hexBytes digest = bytes := by
  induction bytes using decodeDigestBytes.induct generalizing digest with
  | case1 high low rest ih =>
    rw [decodeDigestBytes] at h
    simp only [bind_eq_ok, okOrElse_eq_ok, pure_eq_ok] at h
    obtain ⟨a, ha, b, hb, decoded, hdecoded, hdigest⟩ := h
    obtain ⟨hhigh, hlow⟩ := nibbleDigit_of_decode ha hb
    have hrest := ih (by simp only [List.length_cons] at heven; omega) hdecoded
    cases hdigest
    rw [hexBytes, List.flatMap_cons, ← hexBytes, hrest, hhigh, hlow]
    rfl
  | case2 bytes hshort =>
    cases bytes with
    | nil =>
      cases h
      rfl
    | cons high rest =>
      cases rest with
      | nil => simp at heven
      | cons low rest => exact absurd rfl (hshort high low rest)

theorem textBytes_injective {left right : List Char} (h : textBytes left = textBytes right) :
    left = right := by
  have hstring : ∀ text : List Char,
      String.fromUTF8? (textBytes text).toByteArray = some (String.ofList text) := by
    intro text
    show String.fromUTF8? (String.ofList text).toByteArray = _
    unfold String.fromUTF8?
    rw [dif_pos (String.ofList text).isValidUTF8]
    rfl
  have hsame : some (String.ofList left) = some (String.ofList right) := by
    rw [← hstring left, h, hstring right]
  have hlist := congrArg String.toList (Option.some.inj hsame)
  rwa [String.toList_ofList, String.toList_ofList] at hlist

/-- A digest and its text determine each other. -/
theorem decodeSha256Hex_iff {hex : String} {digest : Bytes} :
    decodeSha256Hex hex = .ok digest ↔
      digest.length = updateHandoffDigestBytes ∧ encodeLowerHex digest = hex := by
  unfold decodeSha256Hex
  simp only [bind_eq_ok, ensure_eq_ok, exists_const]
  have hlength : ∀ digest : Bytes, (hexBytes digest).length = 2 * digest.length := by
    intro digest
    rw [hexBytes, List.length_flatMap]
    simp [Nat.mul_comm]
  constructor
  · rintro ⟨hhex, hdecoded⟩
    have hbytes := hexBytes_of_decode (by rw [hhex.1]; rfl) hdecoded
    have hcount := hlength digest
    rw [hbytes, hhex.1] at hcount
    refine ⟨?_, ?_⟩
    · simp only [sha256HexLength] at hcount
      simp only [updateHandoffDigestBytes]
      omega
    · apply String.toList_inj.mp
      apply textBytes_injective
      rw [textBytes_encodeLowerHex, hbytes]
  · rintro ⟨hdigest, hhex⟩
    subst hhex
    obtain ⟨hall, hdecoded⟩ := decodeDigestBytes_hexBytes digest
    rw [isSha256Hex, textBytes_encodeLowerHex, hlength, hdigest]
    exact ⟨⟨rfl, hall⟩, hdecoded⟩

/-! ## The bytes of a record -/

/-- What the format carries of a path. -/
structure UnitsFit (units : List UInt16) : Prop where
  nonempty : units ≠ []
  length : units.length ≤ updateHandoffMaxPathUnits
  noNull : 0 ∉ units

/-- A path in the file. -/
def handoffPathBytes (units : List UInt16) : Bytes :=
  leBytes 4 units.length ++ handoffUnitBytes units

/-- The bytes of a record with its digest. -/
def HandoffRecord.bytes (record : HandoffRecord) (digest : Bytes) : Bytes :=
  record.head digest ++ record.paths.flatMap handoffPathBytes

section

variable {pathOf : List UInt16 → WinPath}

theorem writeUpdateHandoffPath_eq_ok {encoded result : Bytes} {path : List UInt16} :
    writeUpdateHandoffPath pathOf encoded path = .ok result ↔
      (pathOf path).isAbsolute = true ∧ UnitsFit path ∧
        result = encoded ++ handoffPathBytes path := by
  unfold writeUpdateHandoffPath handoffPathBytes
  simp only [bind_eq_ok, ensure_eq_ok, pure_eq_ok, Except.ok.injEq, exists_const,
    List.append_assoc]
  constructor
  · rintro ⟨habsolute, hnonempty, hlength, hnull, _, hresult⟩
    exact ⟨habsolute, ⟨hnonempty, hlength, hnull⟩, hresult.symm⟩
  · rintro ⟨habsolute, hfits, hresult⟩
    have hlength := hfits.length
    simp only [updateHandoffMaxPathUnits] at hlength
    exact ⟨habsolute, hfits.nonempty, hfits.length, hfits.noNull, by omega, hresult.symm⟩

theorem writePaths_eq_ok {paths : List (List UInt16)} {encoded result : Bytes} :
    paths.foldlM (writeUpdateHandoffPath pathOf) encoded = .ok result ↔
      (∀ path ∈ paths, (pathOf path).isAbsolute = true ∧ UnitsFit path) ∧
        result = encoded ++ paths.flatMap handoffPathBytes := by
  induction paths generalizing encoded with
  | nil =>
    rw [List.foldlM_nil, pure_eq_ok, List.flatMap_nil, List.append_nil, Except.ok.injEq]
    exact ⟨fun h => ⟨by simp, h.symm⟩, fun h => h.2.symm⟩
  | cons path rest ih =>
    simp only [List.foldlM_cons, bind_eq_ok, writeUpdateHandoffPath_eq_ok, ih]
    constructor
    · intro ⟨_, ⟨habsolute, hfits, hnext⟩, hrest, hresult⟩
      subst hnext
      refine ⟨List.forall_mem_cons.mpr ⟨⟨habsolute, hfits⟩, hrest⟩, ?_⟩
      rw [hresult, List.flatMap_cons, List.append_assoc]
    · intro ⟨hpaths, hresult⟩
      obtain ⟨⟨habsolute, hfits⟩, hrest⟩ := List.forall_mem_cons.mp hpaths
      refine ⟨_, ⟨habsolute, hfits, rfl⟩, hrest, ?_⟩
      rw [hresult, List.flatMap_cons, List.append_assoc]

end

section

variable {bytes rest : List UInt8} {β : Type} {b : β}

theorem run_readHandoffUint_bind {width : Nat} {label : String} {f : Nat → RecordReader β} :
    (readHandoffUint width label >>= f).run bytes = .ok (b, rest) ↔
      ∃ value more, value < 256 ^ width ∧ bytes = leBytes width value ++ more ∧
        (f value).run more = .ok (b, rest) := run_uint_bind

theorem readHandoffUint_eq_ok {width : Nat} {label : String} (bytes rest : List UInt8)
    (value : Nat) :
    (readHandoffUint width label).run bytes = .ok (value, rest) ↔
      value < 256 ^ width ∧ bytes = leBytes width value ++ rest := by
  rw [← bind_pure (readHandoffUint width label)]
  simp only [run_readHandoffUint_bind, run_pure_eq_ok]
  constructor
  · intro ⟨found, more, hlt, hbytes, hvalue, hrest⟩
    subst hvalue hrest
    exact ⟨hlt, hbytes⟩
  · intro ⟨hlt, hbytes⟩
    exact ⟨value, rest, hlt, hbytes, rfl, rfl⟩

/-- Numbers below the limit are the units that they stand for. -/
theorem toNat_ofNat_units {value : Nat} (h : value < 256 ^ 2) :
    (UInt16.ofNat value).toNat = value :=
  UInt16.toNat_ofNat_of_lt (by simp only [UInt16.size]; omega)

theorem handoffUnitBytes_ofNat {values : List Nat} (h : ∀ value ∈ values, value < 256 ^ 2) :
    handoffUnitBytes (values.map UInt16.ofNat) = values.flatMap (leBytes 2) := by
  induction values with
  | nil => rfl
  | cons value rest ih =>
    obtain ⟨hvalue, hrest⟩ := List.forall_mem_cons.mp h
    rw [List.map_cons, handoffUnitBytes, List.flatMap_cons, ← handoffUnitBytes, ih hrest,
      toNat_ofNat_units hvalue, List.flatMap_cons]

theorem run_readHandoffUnits_bind {label : String} {f : List UInt16 → RecordReader β} :
    (readHandoffUnits label >>= f).run bytes = .ok (b, rest) ↔
      ∃ units more, UnitsFit units ∧ bytes = handoffPathBytes units ++ more ∧
        (f units).run more = .ok (b, rest) := by
  unfold readHandoffUnits
  simp only [bind_assoc, run_readHandoffUint_bind, run_check_bind,
    run_many_bind readHandoffUint_eq_ok, pure_bind]
  constructor
  · intro ⟨count, _, _, hbytes, hnonempty, hlimit, values, more, hcount, hvalues, hmore, hnull,
      hnext⟩
    refine ⟨values.map UInt16.ofNat, more, ?_, ?_, hnext⟩
    · constructor
      · intro hnil
        rw [List.map_eq_nil_iff] at hnil
        subst hnil
        exact hnonempty hcount.symm
      · rw [List.length_map, hcount]
        exact hlimit
      · intro hmem
        obtain ⟨value, hvalue, hzero⟩ := List.mem_map.mp hmem
        have hsame := toNat_ofNat_units (hvalues value hvalue)
        rw [hzero] at hsame
        have hvalueZero : value = 0 := hsame.symm
        exact hnull (hvalueZero ▸ hvalue)
    · rw [hbytes, hmore, handoffPathBytes, List.length_map, hcount, handoffUnitBytes_ofNat hvalues,
        List.append_assoc]
  · intro ⟨units, more, hfits, hbytes, hnext⟩
    have hlength := hfits.length
    have hlength' := hlength
    simp only [updateHandoffMaxPathUnits] at hlength'
    have hvalues : ∀ value ∈ units.map UInt16.toNat, value < 256 ^ 2 := by
      intro value hvalue
      obtain ⟨unit, _, rfl⟩ := List.mem_map.mp hvalue
      exact unit.toNat_lt
    have hunits : (units.map UInt16.toNat).map UInt16.ofNat = units := by
      rw [List.map_map]
      refine (List.map_congr_left ?_).trans (List.map_id units)
      intro unit _
      exact UInt16.ofNat_toNat
    refine ⟨units.length, handoffUnitBytes units ++ more, by omega, by rw [hbytes, handoffPathBytes,
      List.append_assoc], ?_, hlength, units.map UInt16.toNat, more, List.length_map _, hvalues,
      ?_, ?_, by rw [hunits]; exact hnext⟩
    · intro hzero
      exact hfits.nonempty (List.eq_nil_of_length_eq_zero hzero)
    · rw [← handoffUnitBytes_ofNat hvalues, hunits]
    · intro hmem
      obtain ⟨unit, hunit, hzero⟩ := List.mem_map.mp hmem
      have hnull : unit = 0 := UInt16.toNat_inj.mp hzero
      exact hfits.noNull (hnull ▸ hunit)

theorem decodeArtifactKind_eq_ok {code : Nat} {kind : ReleaseArtifactKind} :
    decodeArtifactKind code = .ok kind ↔ code = (encodeArtifactKind kind).toNat := by
  unfold decodeArtifactKind
  split <;> cases kind <;> simp_all [encodeArtifactKind]

theorem decodeInstallNaming_eq_ok {code : Nat} {naming : UpdateInstallNaming} :
    decodeInstallNaming code = .ok naming ↔ code = (encodeInstallNaming naming).toNat := by
  unfold decodeInstallNaming
  split <;> cases naming <;> simp_all [encodeInstallNaming]

theorem HandoffRecord.bytes_append (record : HandoffRecord) (digest rest : Bytes) :
    record.bytes digest ++ rest = updateHandoffMagic ++ (leBytes 2 updateHandoffVersion ++
      (leBytes 2 0 ++ (leBytes 4 record.parentProcessId.toNat ++
        (leBytes 1 (encodeArtifactKind record.artifactKind).toNat ++
          (leBytes 1 (encodeInstallNaming record.naming).toNat ++ (leBytes 2 0 ++
            (leBytes 8 record.expectedSize.toNat ++ (digest ++
              (handoffPathBytes record.currentExecutable ++ (handoffPathBytes record.installPath ++
                (handoffPathBytes record.stagingDirectory ++
                  (handoffPathBytes record.stagedExecutable ++
                    (handoffPathBytes record.backupExecutable ++
                      (handoffPathBytes record.handoffPlan ++
                        (handoffPathBytes record.startupMarker ++ rest))))))))))))))) := by
  have hcode : ∀ code : UInt8, leBytes 1 code.toNat = [code] := by
    intro code
    rw [leBytes, leBytes, UInt8.ofNat_toNat]
  rw [hcode, hcode, HandoffRecord.bytes, HandoffRecord.head, HandoffRecord.paths]
  simp only [List.flatMap_cons, List.flatMap_nil, List.append_nil, List.append_assoc]

theorem readHandoffRecord_eq_ok {record : HandoffRecord} :
    readHandoffRecord.run bytes = .ok (record, rest) ↔
      ∃ digest : Bytes, digest.length = updateHandoffDigestBytes ∧
        encodeLowerHex digest = record.expectedSha256Hex ∧
        (∀ path ∈ record.paths, UnitsFit path) ∧ bytes = record.bytes digest ++ rest := by
  unfold readHandoffRecord
  simp only [readHandoffArray, run_take_bind, run_readHandoffUint_bind, run_check_bind,
    run_lift_bind, run_readHandoffUnits_bind, run_pure_eq_ok, decodeArtifactKind_eq_ok,
    decodeInstallNaming_eq_ok, HandoffRecord.bytes_append, HandoffRecord.paths,
    List.forall_mem_cons]
  constructor
  · intro ⟨magic, _, _, hbytes, hmagic, version, _, _, hmore, hversion, reserved, _, _, hmore2,
      hreserved, processId, _, hprocessLt, hmore3, kindCode, _, _, hmore4, kind, hkind, namingCode,
      _, _, hmore5, naming, hnaming, reserved', _, _, hmore6, hreserved', size, _, hsizeLt, hmore7,
      digest, _, hdigest, hmore8, current, _, hcurrent, hmore9, install, _, hinstall, hmore10,
      staging, _, hstaging, hmore11, staged, _, hstaged, hmore12, backup, _, hbackup, hmore13,
      handoff, _, hhandoff, hmore14, marker, more, hmarker, hmore15, hrecord, hrest⟩
    have hprocess : (UInt32.ofNat processId).toNat = processId :=
      UInt32.toNat_ofNat_of_lt (by simp only [UInt32.size]; omega)
    have hsize : (UInt64.ofNat size).toNat = size :=
      UInt64.toNat_ofNat_of_lt (by simp only [UInt64.size]; omega)
    subst hrest hrecord
    refine ⟨digest, hdigest, rfl, ⟨hcurrent, hinstall, hstaging, hstaged, hbackup, hhandoff,
      hmarker, by simp⟩, ?_⟩
    rw [hprocess, hsize, hbytes, hmore, hmore2, hmore3, hmore4, hmore5, hmore6, hmore7, hmore8,
      hmore9, hmore10, hmore11, hmore12, hmore13, hmore14, hmore15, hmagic, hversion, hreserved,
      hreserved', hkind, hnaming]
  · intro ⟨digest, hdigest, hhex, ⟨hcurrent, hinstall, hstaging, hstaged, hbackup, hhandoff,
      hmarker, _⟩, hbytes⟩
    have hcode : ∀ code : UInt8, code.toNat < 256 ^ 1 := fun code => code.toNat_lt
    refine ⟨_, _, rfl, hbytes, rfl, _, _, by decide, rfl, rfl, _, _, by decide, rfl, rfl, _, _,
      record.parentProcessId.toNat_lt, rfl, _, _, hcode _, rfl, _, rfl, _, _, hcode _, rfl, _, rfl,
      _, _, by decide, rfl, rfl, _, _, record.expectedSize.toNat_lt, rfl, digest, _, hdigest, rfl,
      _, _, hcurrent, rfl, _, _, hinstall, rfl, _, _, hstaging, rfl, _, _, hstaged, rfl, _, _,
      hbackup, rfl, _, _, hhandoff, rfl, _, _, hmarker, rfl, ?_, rfl⟩
    rw [UInt32.ofNat_toNat, UInt64.ofNat_toNat, hhex]

end

section

variable {pathOf : List UInt16 → WinPath}
variable {record : HandoffRecord}

/-- What the format carries of a record, and the bytes that it has for it. -/
structure HandoffRecord.Encodes (record : HandoffRecord) (encoded : Bytes) : Prop where
  paths : ∀ path ∈ record.paths, UnitsFit path
  bytes : ∃ digest : Bytes, digest.length = updateHandoffDigestBytes ∧
    encodeLowerHex digest = record.expectedSha256Hex ∧ encoded = record.bytes digest
  length : encoded.length ≤ updateHandoffMaxBytes

/-- The paths of a plan are those of its record. -/
theorem HandoffRecord.plan_absolute
    (h : ∀ entry ∈ (record.plan pathOf).paths, entry.1.isAbsolute = true) :
    ∀ path ∈ record.paths, (pathOf path).isAbsolute = true := by
  simp only [UpdateHandoffPlan.paths, HandoffRecord.plan, List.forall_mem_cons] at h
  simp only [HandoffRecord.paths, List.forall_mem_cons]
  obtain ⟨hcurrent, hinstall, hstaging, hstaged, hbackup, hhandoff, hmarker, _⟩ := h
  exact ⟨hcurrent, hinstall, hstaging, hstaged, hbackup, hhandoff, hmarker, by simp⟩

theorem encodeUpdateHandoffPlan_eq_ok {encoded : Bytes} :
    encodeUpdateHandoffPlan pathOf record = .ok encoded ↔
      (record.plan pathOf).Accepted ∧ record.Encodes encoded := by
  unfold encodeUpdateHandoffPlan
  simp only [bind_eq_ok, writePaths_eq_ok, ensure_eq_ok, pure_eq_ok, Except.ok.injEq, exists_const]
  constructor
  · rintro ⟨⟨⟩, haccepted, digest, hdigest, result, ⟨hpaths, hresult⟩, hlength, hencoded⟩
    subst hencoded
    obtain ⟨hcount, hhex⟩ := decodeSha256Hex_iff.mp hdigest
    exact ⟨validateUpdateHandoffPlan_eq_ok.mp haccepted, fun path hpath => (hpaths path hpath).2,
      ⟨digest, hcount, hhex, hresult⟩, hlength⟩
  · rintro ⟨haccepted, hencodes⟩
    obtain ⟨digest, hcount, hhex, hbytes⟩ := hencodes.bytes
    have habsolute := HandoffRecord.plan_absolute haccepted.absolute
    exact ⟨(), validateUpdateHandoffPlan_eq_ok.mpr haccepted, digest,
      decodeSha256Hex_iff.mpr ⟨hcount, hhex⟩, encoded,
      ⟨fun path hpath => ⟨habsolute path hpath, hencodes.paths path hpath⟩, hbytes⟩,
      hencodes.length, rfl⟩

theorem decodeHandoffRecord_eq_ok {encoded : Bytes} :
    decodeHandoffRecord pathOf encoded = .ok record ↔
      (record.plan pathOf).Accepted ∧ record.Encodes encoded := by
  unfold decodeHandoffRecord
  simp only [bind_eq_ok, ensure_eq_ok, pure_eq_ok, Except.ok.injEq, exists_const, Prod.exists,
    readHandoffRecord_eq_ok]
  constructor
  · rintro ⟨hlength, read, rest, ⟨digest, hcount, hhex, hpaths, hbytes⟩, hrest, ⟨⟩, haccepted,
      hrecord⟩
    subst hrecord hrest
    rw [List.append_nil] at hbytes
    exact ⟨validateUpdateHandoffPlan_eq_ok.mp haccepted, hpaths, ⟨digest, hcount, hhex, hbytes⟩,
      hlength⟩
  · rintro ⟨haccepted, hencodes⟩
    obtain ⟨digest, hcount, hhex, hbytes⟩ := hencodes.bytes
    exact ⟨hencodes.length, record, [], ⟨digest, hcount, hhex, hencodes.paths,
      by rw [hbytes, List.append_nil]⟩, rfl, (), validateUpdateHandoffPlan_eq_ok.mpr haccepted, rfl⟩

end

/-! ## Round trip -/

/-- The limits that the encoder has for the fields of a record. -/
structure HandoffRecord.WithinLimits (record : HandoffRecord) (pathOf : List UInt16 → WinPath) :
    Prop where
  processId : record.parentProcessId ≠ 0
  size : record.expectedSize ≠ 0
  digest : isSha256Hex record.expectedSha256Hex
  absolute : ∀ path ∈ record.paths, (pathOf path).isAbsolute = true
  paths : ∀ path ∈ record.paths, UnitsFit path

/-- The file of a handoff carries the plan that was encoded and no other, and the installer's
decoder accepts no bytes but those of the encoder. -/
theorem handoffFile_roundTrip (pathOf : List UInt16 → WinPath) (record : HandoffRecord)
    (encoded : Bytes) :
    (encodeUpdateHandoffPlan pathOf record = .ok encoded ↔
        decodeHandoffRecord pathOf encoded = .ok record) ∧
      (encodeUpdateHandoffPlan pathOf record = .ok encoded →
        decodeUpdateHandoffPlan pathOf encoded = .ok (record.plan pathOf)) ∧
      (∀ plan, decodeUpdateHandoffPlan pathOf encoded = .ok plan →
        ∃ decoded : HandoffRecord, decoded.plan pathOf = plan ∧
          encodeUpdateHandoffPlan pathOf decoded = .ok encoded ∧ decoded.WithinLimits pathOf ∧
          encoded.length ≤ updateHandoffMaxBytes) := by
  have hsame : ∀ record : HandoffRecord, encodeUpdateHandoffPlan pathOf record = .ok encoded ↔
      decodeHandoffRecord pathOf encoded = .ok record := by
    intro record
    rw [encodeUpdateHandoffPlan_eq_ok, decodeHandoffRecord_eq_ok]
  refine ⟨hsame record, ?_, ?_⟩
  · intro h
    rw [decodeUpdateHandoffPlan_eq, (hsame record).mp h]
    rfl
  · intro plan h
    rw [decodeUpdateHandoffPlan_eq] at h
    cases hdecoded : decodeHandoffRecord pathOf encoded with
    | error error =>
        rw [hdecoded] at h
        cases h
    | ok decoded =>
        rw [hdecoded] at h
        cases h
        obtain ⟨haccepted, hencodes⟩ := decodeHandoffRecord_eq_ok.mp hdecoded
        exact ⟨decoded, rfl, (hsame decoded).mpr hdecoded,
          ⟨haccepted.processId_ne, haccepted.size_ne, haccepted.digest,
            HandoffRecord.plan_absolute haccepted.absolute, hencodes.paths⟩, hencodes.length⟩

/-- The update of an agent whose name has an unpaired surrogate. -/
def surrogateHandoff : HandoffRecord where
  parentProcessId := 1
  artifactKind := .agent
  naming := .preserveCurrentName
  currentExecutable := osStr "C:\\Tools\\" ++ [0xD800]
  installPath := osStr "C:\\Tools\\" ++ [0xD800]
  stagingDirectory := osStr "C:\\Data"
  stagedExecutable := osStr "C:\\Data\\NetworkCopy-Speed-Agent-Windows-x64.exe"
  backupExecutable := osStr ("C:\\Data\\" ++ updateBackupFile)
  handoffPlan := osStr ("C:\\Data\\" ++ updateHandoffFile)
  startupMarker := osStr ("C:\\Data\\" ++ updateStartupMarkerFile)
  expectedSize := 1
  expectedSha256Hex := "ca978112ca1bbdcafac231b39a23dc4da786eff8147c4e72b9807785afee48bb"

theorem surrogateHandoff_encodes : ∃ encoded : Bytes,
    (surrogateHandoff.plan sampleRecoveryEnv.pathOf).Accepted ∧
      surrogateHandoff.Encodes encoded := by
  have haccepted : validateUpdateHandoffPlan (surrogateHandoff.plan sampleRecoveryEnv.pathOf) =
      .ok () := by
    with_unfolding_all rfl
  have haccepted := validateUpdateHandoffPlan_eq_ok.mp haccepted
  obtain ⟨digest, hdigest⟩ := decodeSha256Hex_eq_ok.mpr haccepted.digest
  obtain ⟨hcount, hhex⟩ := decodeSha256Hex_iff.mp hdigest
  refine ⟨surrogateHandoff.bytes digest, haccepted, ?_, ⟨digest, hcount, hhex, rfl⟩, ?_⟩
  · have hpaths : surrogateHandoff.paths.all (fun units => units ≠ [] ∧
        units.length ≤ updateHandoffMaxPathUnits ∧ 0 ∉ units) = true := by
      decide +kernel
    intro path hpath
    obtain ⟨hnonempty, hlength, hnull⟩ := of_decide_eq_true (List.all_eq_true.mp hpaths path hpath)
    exact ⟨hnonempty, hlength, hnull⟩
  · simp only [HandoffRecord.bytes, HandoffRecord.head, List.length_append, hcount]
    decide +kernel

theorem handoffFile_roundTrip_surrogate : ∃ encoded : Bytes,
    encodeUpdateHandoffPlan sampleRecoveryEnv.pathOf surrogateHandoff = .ok encoded ∧
      decodeUpdateHandoffPlan sampleRecoveryEnv.pathOf encoded =
        .ok (surrogateHandoff.plan sampleRecoveryEnv.pathOf) := by
  obtain ⟨encoded, hencodes⟩ := surrogateHandoff_encodes
  have hencoded := encodeUpdateHandoffPlan_eq_ok.mpr hencodes
  exact ⟨encoded, hencoded,
    (handoffFile_roundTrip sampleRecoveryEnv.pathOf surrogateHandoff encoded).2.1 hencoded⟩

end NetworkCopy
