import NetworkCopy.Management.Persistence
import NetworkCopy.Update.Paths

/-!
# Releases and their assets

A release has a tag, which names its version, and assets.  The updater takes the asset of one
program: under the versioned name when there is one, under the unversioned name otherwise.  A file
name is an official one when it is one of the two up to the case of its letters, with any version.
The name of a selected asset is official for the program it was selected for.
-/

namespace NetworkCopy

open LineText

/-- `ReleaseArtifactKind`. -/
inductive ReleaseArtifactKind where
  | manager
  | agent
  | cli
  | guiHungarian
  | guiEnglish
  deriving DecidableEq, Repr

/-- `ReleaseArtifactKind::label`. -/
def ReleaseArtifactKind.label : ReleaseArtifactKind → String
  | .manager => "Manager"
  | .agent => "Agent"
  | .cli => "CLI"
  | .guiHungarian => "GUI-HU"
  | .guiEnglish => "GUI-EN"

/-- `ReleaseArtifactKind::storage_key`. -/
def ReleaseArtifactKind.storageKey : ReleaseArtifactKind → String
  | .manager => "manager"
  | .agent => "agent"
  | .cli => "cli"
  | .guiHungarian => "gui-hu"
  | .guiEnglish => "gui-en"

/-- `StableVersion`. -/
structure StableVersion where
  major : UInt64
  minor : UInt64
  patch : UInt64
  deriving DecidableEq, Repr

/-- `format!("{}.{}.{}", major, minor, patch)`. -/
def StableVersion.text (version : StableVersion) : List Char :=
  Nat.toDigits 10 version.major.toNat ++ '.' :: (Nat.toDigits 10 version.minor.toNat ++
    '.' :: Nat.toDigits 10 version.patch.toNat)

/-- `ReleaseAssetInfo`. -/
structure ReleaseAssetInfo where
  id : UInt64
  name : String
  state : String
  size : UInt64
  digest : Option String
  downloadUrl : String
  deriving DecidableEq, Repr

/-- `SelectedReleaseAsset`. -/
structure SelectedReleaseAsset where
  id : UInt64
  name : String
  size : UInt64
  sha256Hex : String
  downloadUrl : String
  deriving DecidableEq, Repr

/-- The fields of `ReleaseInfo` that the updater reads. -/
structure ReleaseInfo where
  tagName : String
  assets : List ReleaseAssetInfo
  deriving DecidableEq, Repr

/-- `RELEASE_DOWNLOAD_PREFIX`. -/
def releaseDownloadPrefix : String :=
  "https://github.com/Nemeth-Tamas/networkcopy-speed/releases/download/"

/-- `SHA256_DIGEST_PREFIX`. -/
def sha256DigestPrefix : String := "sha256:"

/-- `SHA256_HEX_LENGTH`. -/
def sha256HexLength : Nat := 64

/-! ## Versions -/

variable (version : StableVersion)

/-- `parse_version_component`. -/
def parseVersionComponent (component : Option (List Char)) (name original : String) :
    IoResult UInt64 := do
  let shown := debugText original
  let component ← okOrElse component
    (.invalidData s!"version {shown} is missing its {name} component")
  ensure (component ≠ []) (.invalidData s!"version {shown} has an empty {name} component")
  match parseUnsigned 10 u64Limit component with
  | .ok value => .ok (UInt64.ofNat value)
  | .error error =>
      let reason := parseIntMessage error
      .error (.invalidData s!"version {shown} has an invalid {name} component: {reason}")

/-- `parse_stable_version`. -/
def parseStableVersion (value : String) : IoResult StableVersion := do
  let trimmed := trim value.toList
  let value := match trimmed with
    | 'v' :: rest => rest
    | _ => trimmed
  let core := value.takeWhile (fun c => c ≠ '-' && c ≠ '+')
  let parts := core.splitOn '.'
  let original := String.ofList value
  let major ← parseVersionComponent parts[0]? "major" original
  let minor ← parseVersionComponent parts[1]? "minor" original
  let patch ← parseVersionComponent parts[2]? "patch" original
  ensure (parts[3]? = none)
    (.invalidData ("version " ++ debugText original ++ " has more than three numeric components"))
  return { major, minor, patch }

/-- The check of one component in `is_strict_release_version`. -/
def validComponent (component : List Char) : Bool :=
  component ≠ [] && component.all Char.isDigit && (parseUnsigned 10 u64Limit component).isOk

/-- `is_strict_release_version`. -/
def isStrictReleaseVersion (value : List Char) : Bool :=
  match value.splitOn '.' with
  | [major, minor, patch] => validComponent major && validComponent minor && validComponent patch
  | _ => false

theorem isDigit_toDigits (n : Nat) : (Nat.toDigits 10 n).all Char.isDigit = true := by
  rw [List.all_eq_true]
  intro c hc
  exact Nat.isDigit_of_mem_toDigits (by omega) (by omega) hc

/-- The digits of a `u64` are a valid component. -/
theorem validComponent_toDigits (n : UInt64) :
    validComponent (Nat.toDigits 10 n.toNat) = true := by
  have hlimit : n.toNat < u64Limit := by
    have hlt := n.toNat_lt
    simp only [u64Limit]
    omega
  unfold validComponent
  rw [isDigit_toDigits, parseUnsigned_toDigits hlimit]
  simp only [Bool.and_true, Except.isOk, Except.toBool, decide_eq_true_eq]
  exact Nat.toDigits_ne_nil

theorem dot_not_mem_toDigits (n : Nat) : '.' ∉ Nat.toDigits 10 n := by
  intro hmem
  have hdigit := Nat.isDigit_of_mem_toDigits (by omega) (by omega) hmem
  exact absurd hdigit (by decide)

/-- The text of a version has its three components. -/
theorem splitOn_text :
    version.text.splitOn '.' = [Nat.toDigits 10 version.major.toNat,
      Nat.toDigits 10 version.minor.toNat, Nat.toDigits 10 version.patch.toNat] := by
  have hjoin : version.text = ['.'].intercalate [Nat.toDigits 10 version.major.toNat,
      Nat.toDigits 10 version.minor.toNat, Nat.toDigits 10 version.patch.toNat] := by
    simp [StableVersion.text, List.intercalate, List.intersperse]
  rw [hjoin]
  apply List.splitOn_intercalate
  · intro part hpart
    simp only [List.mem_cons, List.not_mem_nil, or_false] at hpart
    rcases hpart with rfl | rfl | rfl <;> exact dot_not_mem_toDigits _
  · exact List.cons_ne_nil _ _

theorem isStrictReleaseVersion_text :
    isStrictReleaseVersion version.text = true := by
  unfold isStrictReleaseVersion
  rw [splitOn_text]
  simp only [validComponent_toDigits, Bool.and_self]

/-! ## Names -/

variable {kind : ReleaseArtifactKind}
variable {name : String}

/-- What an official name starts with. -/
def officialStart : List Char := "NetworkCopy-Speed-".toList

/-- What an official name ends with. -/
def officialEnd : List Char := "-Windows-x64.exe".toList

/-- `ReleaseArtifactKind::expected_asset_names`: the versioned name. -/
def ReleaseArtifactKind.versionedName (kind : ReleaseArtifactKind) (version : StableVersion) :
    String :=
  String.ofList (officialStart ++
    'v' :: (version.text ++ '-' :: (kind.label.toList ++ officialEnd)))

/-- `ReleaseArtifactKind::expected_asset_names`: the unversioned name. -/
def ReleaseArtifactKind.unversionedName (kind : ReleaseArtifactKind) : String :=
  String.ofList (officialStart ++ (kind.label.toList ++ officialEnd))

/-- `ReleaseArtifactKind::expected_asset_names`. -/
def ReleaseArtifactKind.expectedAssetNames (kind : ReleaseArtifactKind)
    (version : StableVersion) : List String :=
  [kind.versionedName version, kind.unversionedName]

/-- `str::strip_prefix`, the name without the text it starts with. -/
def stripStart (start text : List Char) : Option (List Char) :=
  if start.isPrefixOf text then some (text.drop start.length) else none

/-- `str::strip_suffix`. -/
def stripEnd (ending text : List Char) : Option (List Char) :=
  if ending.isSuffixOf text then some (text.take (text.length - ending.length)) else none

theorem stripStart_append (start rest : List Char) :
    stripStart start (start ++ rest) = some rest := by
  unfold stripStart
  rw [if_pos (List.isPrefixOf_iff_prefix.mpr (List.prefix_append start rest)), List.drop_left]

theorem stripEnd_append (rest ending : List Char) :
    stripEnd ending (rest ++ ending) = some rest := by
  unfold stripEnd
  rw [if_pos (List.isSuffixOf_iff_suffix.mpr (List.suffix_append rest ending)),
    List.length_append, Nat.add_sub_cancel, List.take_left]

/-- `is_official_release_file_name`. -/
def isOfficialReleaseFileName (fileName : List UInt16) (kind : ReleaseArtifactKind) : Bool :=
  match toStr fileName with
  | none => false
  | some text =>
      if eqIgnoreAsciiCase text kind.unversionedName then true
      else
        let lowercase := text.toList.map Char.toLower
        let ending := '-' :: (kind.label.toList.map Char.toLower ++ "-windows-x64.exe".toList)
        match (stripStart "networkcopy-speed-v".toList lowercase).bind (stripEnd ending) with
        | none => false
        | some version => isStrictReleaseVersion version

theorem asciiText_toDigits (n : Nat) : AsciiText (Nat.toDigits 10 n) := by
  intro c hc
  have hdigit := Nat.isDigit_of_mem_toDigits (by omega) (by omega) hc
  simp only [Char.isDigit, Bool.and_eq_true, decide_eq_true_eq, UInt32.le_iff_toNat_le] at hdigit
  have hle : c.toNat ≤ 57 := hdigit.2
  omega

theorem AsciiText.cons {c : Char} {text : List Char} (hc : c.toNat < 128)
    (htext : AsciiText text) : AsciiText (c :: text) := by
  intro d hd
  cases List.mem_cons.mp hd with
  | inl h => exact h ▸ hc
  | inr h => exact htext d h

theorem asciiText_text : AsciiText version.text :=
  (asciiText_toDigits _).append (AsciiText.cons (by simp)
    ((asciiText_toDigits _).append (AsciiText.cons (by simp) (asciiText_toDigits _))))

theorem asciiText_label (kind : ReleaseArtifactKind) : AsciiText kind.label.toList := by
  cases kind <;> simp [AsciiText, ReleaseArtifactKind.label]

theorem asciiText_officialStart : AsciiText officialStart := by
  unfold AsciiText officialStart
  simp

theorem asciiText_officialEnd : AsciiText officialEnd := by
  unfold AsciiText officialEnd
  simp

theorem asciiText_versionedName (kind : ReleaseArtifactKind) (version : StableVersion) :
    AsciiText (kind.versionedName version).toList := by
  rw [ReleaseArtifactKind.versionedName, String.toList_ofList]
  have hback := (asciiText_label kind).append asciiText_officialEnd
  exact asciiText_officialStart.append (AsciiText.cons (by simp)
    ((asciiText_text version).append (AsciiText.cons (by simp) hback)))

theorem asciiText_unversionedName (kind : ReleaseArtifactKind) :
    AsciiText kind.unversionedName.toList := by
  rw [ReleaseArtifactKind.unversionedName, String.toList_ofList]
  exact asciiText_officialStart.append ((asciiText_label kind).append asciiText_officialEnd)

/-- Digits have no case. -/
theorem toLower_text :
    version.text.map Char.toLower = version.text := by
  have hdigits : ∀ n : Nat, (Nat.toDigits 10 n).map Char.toLower = Nat.toDigits 10 n := by
    intro n
    conv_rhs => rw [← List.map_id (Nat.toDigits 10 n)]
    apply List.map_congr_left
    intro c hc
    have hdigit := Nat.isDigit_of_mem_toDigits (by omega) (by omega) hc
    simp only [Char.isDigit, Bool.and_eq_true, decide_eq_true_eq, UInt32.le_iff_toNat_le] at hdigit
    have hle : c.val.toNat ≤ 57 := hdigit.2
    unfold Char.toLower
    rw [dif_neg]
    · rfl
    · intro hupper
      have hge : 65 ≤ c.val.toNat := UInt32.le_iff_toNat_le.mp hupper.1
      omega
  simp only [StableVersion.text, List.map_append, List.map_cons, hdigits]
  rfl

/-- The two names that a release is searched for are official. -/
theorem isOfficialReleaseFileName_expected {version : StableVersion}
    (hname : name ∈ kind.expectedAssetNames version) :
    isOfficialReleaseFileName (osStr name) kind = true := by
  simp only [ReleaseArtifactKind.expectedAssetNames, List.mem_cons, List.not_mem_nil,
    or_false] at hname
  unfold isOfficialReleaseFileName
  cases hname with
  | inl hversioned =>
    have hlower : (kind.versionedName version).toList.map Char.toLower =
        "networkcopy-speed-v".toList ++ (version.text ++
          '-' :: (kind.label.toList.map Char.toLower ++ "-windows-x64.exe".toList)) := by
      rw [ReleaseArtifactKind.versionedName, String.toList_ofList, List.map_append,
        List.map_cons, List.map_append, toLower_text, List.map_cons, List.map_append,
        List.append_cons]
      rfl
    rw [hversioned, toStr_osStr (asciiText_versionedName kind version)]
    simp only [hlower, stripStart_append, Option.bind_some, stripEnd_append,
      isStrictReleaseVersion_text, ite_self]
  | inr hunversioned =>
    rw [hunversioned, toStr_osStr (asciiText_unversionedName kind)]
    simp [eqIgnoreAsciiCase]

/-- The characters of an expected name. -/
theorem toList_expected {version : StableVersion}
    (hname : name ∈ kind.expectedAssetNames version) :
    ∃ middle, name.toList = officialStart ++ (middle ++ officialEnd) ∧
      AsciiText name.toList ∧ ∀ c ∈ middle, c ≠ '/' ∧ c ≠ '\\' := by
  have hlabel : ∀ c ∈ kind.label.toList, c ≠ '/' ∧ c ≠ '\\' := by
    cases kind <;> simp [ReleaseArtifactKind.label]
  have hdigits : ∀ n : Nat, ∀ c ∈ Nat.toDigits 10 n, c ≠ '/' ∧ c ≠ '\\' := by
    intro n c hc
    have hdigit := Nat.isDigit_of_mem_toDigits (by omega) (by omega) hc
    constructor <;> (intro hsame; rw [hsame] at hdigit; exact absurd hdigit (by decide))
  have hversion : ∀ c ∈ version.text, c ≠ '/' ∧ c ≠ '\\' := by
    intro c hc
    simp only [StableVersion.text, List.mem_append, List.mem_cons] at hc
    rcases hc with hc | rfl | hc | rfl | hc
    · exact hdigits _ c hc
    · decide
    · exact hdigits _ c hc
    · decide
    · exact hdigits _ c hc
  simp only [ReleaseArtifactKind.expectedAssetNames, List.mem_cons, List.not_mem_nil,
    or_false] at hname
  cases hname with
  | inl hversioned =>
    refine ⟨'v' :: (version.text ++ '-' :: kind.label.toList), ?_, ?_, ?_⟩
    · rw [hversioned, ReleaseArtifactKind.versionedName, String.toList_ofList]
      simp
    · rw [hversioned]
      exact asciiText_versionedName kind version
    · intro c hc
      simp only [List.mem_cons, List.mem_append] at hc
      rcases hc with rfl | hc | rfl | hc
      · decide
      · exact hversion c hc
      · decide
      · exact hlabel c hc
  | inr hunversioned =>
    refine ⟨kind.label.toList, ?_, ?_, hlabel⟩
    · rw [hunversioned, ReleaseArtifactKind.unversionedName, String.toList_ofList]
    · rw [hunversioned]
      exact asciiText_unversionedName kind

/-- An expected name is a single file name. -/
theorem isSingleFileName_expected {version : StableVersion}
    (hname : name ∈ kind.expectedAssetNames version) :
    isSingleFileName name = true := by
  obtain ⟨middle, htext, _, hmiddle⟩ := toList_expected hname
  have hstart : officialStart = 'N' :: 'e' :: "tworkCopy-Speed-".toList := by rfl
  have hstartAll : officialStart.all (fun c => c ≠ '/' && c ≠ '\\') = true := by rfl
  have hendAll : officialEnd.all (fun c => c ≠ '/' && c ≠ '\\') = true := by rfl
  have hmiddleAll : middle.all (fun c => c ≠ '/' && c ≠ '\\') = true := by
    rw [List.all_eq_true]
    intro c hc
    simp [hmiddle c hc]
  unfold isSingleFileName
  rw [htext]
  simp only [List.all_append, hstartAll, hendAll, hmiddleAll]
  rw [hstart]
  simp

/-- An expected name is longer than the names that the updater reserves. -/
theorem length_osStr_expected {version : StableVersion}
    (hname : name ∈ kind.expectedAssetNames version) :
    34 ≤ (osStr name).length := by
  obtain ⟨middle, htext, hascii, _⟩ := toList_expected hname
  have hstart : officialStart.length = 18 := by rfl
  have hend : officialEnd.length = 16 := by rfl
  unfold osStr
  rw [flatMap_wideUnits hascii, List.length_map, htext, List.length_append, List.length_append,
    hstart, hend]
  omega

/-! ## Selection -/

/-- `u8::is_ascii_hexdigit`. -/
def isAsciiHexdigit (byte : UInt8) : Bool :=
  (0x30 ≤ byte && byte ≤ 0x39) || (0x41 ≤ byte && byte ≤ 0x46) || (0x61 ≤ byte && byte ≤ 0x66)

/-- `parse_sha256_digest`. -/
def parseSha256Digest (digest : String) : IoResult String := do
  let hex ← okOrElse (stripStart sha256DigestPrefix.toList digest.toList)
    (.invalidData ("release asset digest does not use the " ++ debugText sha256DigestPrefix ++
      " prefix"))
  let bytes := textBytes hex
  ensure (bytes.length = sha256HexLength ∧ bytes.all isAsciiHexdigit)
    (.invalidData "release asset SHA-256 digest must contain exactly 64 hexadecimal characters")
  return String.ofList (hex.map Char.toLower)

/-- `validate_asset_download_url`. -/
def validateAssetDownloadUrl (downloadUrl : String) : IoResult Unit := do
  ensure ('\x00' ∉ downloadUrl.toList)
    (.invalidData "release asset download URL contains a null character")
  ensure (releaseDownloadPrefix.toList.isPrefixOf downloadUrl.toList)
    (.invalidData ("GitHub returned an unexpected release asset URL: " ++ downloadUrl))

/-- The search of `select_release_asset` through the expected names. -/
def findExpectedAsset (release : ReleaseInfo) : List String → IoResult (Option ReleaseAssetInfo)
  | [] => .ok none
  | expectedName :: rest =>
      match release.assets.filter (fun asset => asset.name = expectedName) with
      | [] => findExpectedAsset release rest
      | [asset] => .ok (some asset)
      | _ => .error (.invalidData ("GitHub release " ++ release.tagName ++
          " contains more than one asset named " ++ debugText expectedName))

/-- `select_release_asset`. -/
def selectReleaseAsset (release : ReleaseInfo) (kind : ReleaseArtifactKind) :
    IoResult SelectedReleaseAsset := do
  let version ← parseStableVersion release.tagName
  let selected ← findExpectedAsset release (kind.expectedAssetNames version)
  let asset ← okOrElse selected
    ⟨.notFound, "GitHub release " ++ release.tagName ++ " does not contain the " ++ kind.label ++
      " executable; expected " ++ debugText (kind.versionedName version) ++ " or " ++
      debugText kind.unversionedName, none⟩
  let shown := debugText asset.name
  ensure (asset.id ≠ 0) (.invalidData s!"release asset {shown} has an invalid zero ID")
  ensure (asset.state = "uploaded")
    (.invalidData ("release asset " ++ shown ++ " is in state " ++ debugText asset.state ++
      ", not \"uploaded\""))
  ensure (asset.size ≠ 0) (.invalidData s!"release asset {shown} has an invalid zero-byte size")
  validateAssetDownloadUrl asset.downloadUrl
  let digest ← okOrElse asset.digest
    (.invalidData s!"release asset {shown} does not provide a GitHub SHA-256 digest")
  let sha256Hex ← parseSha256Digest digest
  return {
    id := asset.id
    name := asset.name
    size := asset.size
    sha256Hex
    downloadUrl := asset.downloadUrl }

end NetworkCopy
