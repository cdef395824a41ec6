import NetworkCopy.FileSystem
import NetworkCopy.ManifestTree

/-!
# The names a transfer uses

Below the destination root a transfer writes the files of the manifest, a part file for
each of them, and the journal with its temporary.  The part file of `path` with the ID
`fileId` is `path.ncs-part-fileId`; the journal is in the root directory.

Part files of different files are always different, because the ID stands at the end of
the name, and none of them is a journal.  Nothing keeps a file of the manifest from
having the name of another file's part file or of a journal, and
`namespace_separated_iff` says that these are the only ways in which two names coincide.

Two names coincide when they are equal as paths, that is, have equal components.
-/

namespace NetworkCopy

/-- `JOURNAL_FILE_NAME`. -/
def journalFileName : RelativePath := utf16 ".networkcopy-resume.bin"

/-- `TEMPORARY_JOURNAL_FILE_NAME`. -/
def temporaryJournalFileName : RelativePath := utf16 ".networkcopy-resume.tmp"

/-- What `temporary_path` appends. -/
def partSuffix (fileId : Nat) : List UInt16 := utf16 (".ncs-part-" ++ toString fileId)

/-! ## Part suffixes -/

variable {path : RelativePath}

/-- The units of an ASCII text spell the text. -/
theorem map_utf16 {text : String} (h : ∀ c ∈ text.toList, c.toNat < 128) :
    (utf16 text).map (fun unit => Char.ofNat unit.toNat) = text.toList := by
  unfold utf16
  rw [List.map_map]
  conv_rhs => rw [← List.map_id text.toList]
  apply List.map_congr_left
  intro c hc
  have hlt := h c hc
  have hunit : (UInt16.ofNat c.toNat).toNat = c.toNat := by
    rw [UInt16.toNat_ofNat']
    omega
  rw [Function.comp_apply, hunit, Char.ofNat_toNat, id]

/-- The digits of a number as units. -/
def digitUnits (fileId : Nat) : List UInt16 := utf16 (toString fileId)

/-- A unit that is a decimal digit. -/
def isDigitUnit (unit : UInt16) : Bool := 0x30 ≤ unit && unit ≤ 0x39

theorem isDigit_of_mem_toString {fileId : Nat} {c : Char} (h : c ∈ (toString fileId).toList) :
    c.isDigit = true := by
  rw [Nat.toString_eq_repr, Nat.toList_repr] at h
  exact Nat.isDigit_of_mem_toDigits (by decide) (by decide) h

theorem toNat_of_isDigit {c : Char} (h : c.isDigit = true) : 48 ≤ c.toNat ∧ c.toNat ≤ 57 := by
  simp only [Char.isDigit, Bool.and_eq_true, decide_eq_true_eq, UInt32.le_iff_toNat_le] at h
  exact h

theorem isDigitUnit_of_mem_digitUnits {fileId : Nat} {unit : UInt16}
    (h : unit ∈ digitUnits fileId) : isDigitUnit unit = true := by
  unfold digitUnits utf16 at h
  obtain ⟨c, hc, rfl⟩ := List.mem_map.mp h
  obtain ⟨hlow, hhigh⟩ := toNat_of_isDigit (isDigit_of_mem_toString hc)
  have hunit : (UInt16.ofNat c.toNat).toNat = c.toNat := by
    rw [UInt16.toNat_ofNat']
    omega
  simp only [isDigitUnit, Bool.and_eq_true, decide_eq_true_eq, UInt16.le_iff_toNat_le, hunit]
  exact ⟨hlow, hhigh⟩

theorem digitUnits_injective {left right : Nat} (h : digitUnits left = digitUnits right) :
    left = right := by
  have hascii : ∀ fileId : Nat, ∀ c ∈ (toString fileId).toList, c.toNat < 128 := by
    intro fileId c hc
    have := toNat_of_isDigit (isDigit_of_mem_toString hc)
    omega
  have htext : (toString left).toList = (toString right).toList := by
    rw [← map_utf16 (hascii left), ← map_utf16 (hascii right)]
    exact congrArg _ h
  rw [Nat.toString_eq_repr, Nat.toString_eq_repr, Nat.toList_repr, Nat.toList_repr] at htext
  rw [← @Nat.ofDigitChars_ten_toDigits left, htext, Nat.ofDigitChars_ten_toDigits]

theorem digitUnits_ne_nil (fileId : Nat) : digitUnits fileId ≠ [] := by
  unfold digitUnits utf16
  rw [Ne, List.map_eq_nil_iff, Nat.toString_eq_repr, Nat.toList_repr]
  exact Nat.toDigits_ne_nil

theorem utf16_append (left right : String) : utf16 (left ++ right) = utf16 left ++ utf16 right := by
  simp [utf16]

theorem partSuffix_eq (fileId : Nat) :
    partSuffix fileId = utf16 ".ncs-part-" ++ digitUnits fileId := utf16_append _ _

/-- The ID is the run of digits at the end of a name with a part suffix. -/
theorem partSuffix_injective {left right : List UInt16} {i j : Nat}
    (h : left ++ partSuffix i = right ++ partSuffix j) : i = j := by
  have hdigits : ∀ (name : List UInt16) (fileId : Nat),
      (name ++ partSuffix fileId).reverse.takeWhile isDigitUnit = (digitUnits fileId).reverse := by
    intro name fileId
    have hdash : (utf16 ".ncs-part-").reverse =
        0x2D :: (utf16 ".ncs-part").reverse := by decide
    rw [partSuffix_eq, List.reverse_append, List.reverse_append,
      List.append_assoc, List.takeWhile_append_of_pos, hdash, List.cons_append,
      List.takeWhile_cons_of_neg (by decide), List.append_nil]
    intro unit hunit
    exact isDigitUnit_of_mem_digitUnits (List.mem_reverse.mp hunit)
  have hsame := hdigits right j
  rw [← h, hdigits left i, List.reverse_inj] at hsame
  exact digitUnits_injective hsame

/-- A name with a part suffix ends with a digit. -/
theorem getLast_partSuffix (name : List UInt16) (fileId : Nat) :
    ∃ unit, (name ++ partSuffix fileId).getLast? = some unit ∧ isDigitUnit unit = true := by
  have hlast := List.getLast?_eq_some_getLast (digitUnits_ne_nil fileId)
  refine ⟨_, ?_, isDigitUnit_of_mem_digitUnits (List.getLast_mem (digitUnits_ne_nil fileId))⟩
  rw [partSuffix_eq, ← List.append_assoc, List.getLast?_append, hlast]
  rfl

/-- A name that ends with a digit is not a journal's. -/
theorem ne_journal_of_getLast {unit : UInt16} (hlast : path.getLast? = some unit)
    (hdigit : isDigitUnit unit = true) :
    path ≠ journalFileName ∧ path ≠ temporaryJournalFileName := by
  constructor
  · rintro rfl
    have hunit : journalFileName.getLast? = some 0x6E := by decide
    rw [hunit, Option.some.injEq] at hlast
    subst hlast
    exact absurd hdigit (by decide)
  · rintro rfl
    have hunit : temporaryJournalFileName.getLast? = some 0x70 := by decide
    rw [hunit, Option.some.injEq] at hlast
    subst hlast
    exact absurd hdigit (by decide)

theorem temporaryPath_ne_journal (path : RelativePath) (fileId : Nat) :
    temporaryPath path fileId ≠ journalFileName ∧
      temporaryPath path fileId ≠ temporaryJournalFileName := by
  obtain ⟨unit, hlast, hdigit⟩ := getLast_partSuffix path fileId
  exact ne_journal_of_getLast hlast hdigit

theorem partSuffix_no_separator {fileId : Nat} :
    ∀ unit ∈ partSuffix fileId, isSeparator unit = false := by
  intro unit hunit
  rw [partSuffix_eq, List.mem_append] at hunit
  rcases hunit with hunit | hunit
  · have hall : (utf16 ".ncs-part-").all (fun unit => !isSeparator unit) = true := by decide
    simpa using List.all_eq_true.mp hall unit hunit
  · have hdigit := isDigitUnit_of_mem_digitUnits hunit
    simp only [isDigitUnit, Bool.and_eq_true, decide_eq_true_eq, UInt16.le_iff_toNat_le] at hdigit
    simp only [isSeparator, pathSeparator, Bool.or_eq_false_iff, beq_eq_false_iff_ne, ne_eq,
      ← UInt16.toNat_inj]
    have hlow : (48 : UInt16).toNat = 48 := rfl
    have hhigh : (57 : UInt16).toNat = 57 := rfl
    have hback : (92 : UInt16).toNat = 92 := rfl
    have hslash : (47 : UInt16).toNat = 47 := rfl
    omega

/-! ## Part paths -/

/-- Text without separators behind a path belongs to its last piece. -/
theorem pathPieces_append {suffix : List UInt16}
    (hsuffix : ∀ unit ∈ suffix, isSeparator unit = false) (path : RelativePath) :
    ∃ init last, pathPieces path = init ++ [last] ∧
      pathPieces (path ++ suffix) = init ++ [last ++ suffix] := by
  unfold pathPieces
  induction path with
  | nil =>
    refine ⟨[], [], rfl, ?_⟩
    rw [List.nil_append, List.splitOnP_eq_singleton hsuffix]
    rfl
  | cons unit rest ih =>
    obtain ⟨init, last, hrest, happended⟩ := ih
    rw [List.cons_append, List.splitOnP_cons_eq_if_modifyHead,
      List.splitOnP_cons_eq_if_modifyHead, hrest, happended]
    cases hseparator : isSeparator unit with
    | true => exact ⟨[] :: init, last, by simp, by simp⟩
    | false =>
      cases init with
      | nil => exact ⟨[], unit :: last, by simp, by simp⟩
      | cons first others => exact ⟨(unit :: first) :: others, last, by simp, by simp⟩

/-- The components of a valid path and of its part path differ in the last name. -/
theorem pathComponents_temporaryPath {u : Unit} (h : validateRelativePath path = .ok u) :
    ∃ init last, (∀ fileId, pathComponents (temporaryPath path fileId) =
        init ++ [.normal (last ++ partSuffix fileId)]) ∧
      (pathComponents path = init ∨ pathComponents path = init ++ [.normal last]) := by
  obtain ⟨hroot, hdot⟩ := starts_of_validateRelativePath h
  obtain ⟨⟨hne, _⟩, _, _, hnormal⟩ := validateRelativePath_eq_ok.mp h
  have hcomponents := pathComponents_eq_filterMap hroot hdot
  obtain ⟨init, last, hpieces, _⟩ :=
    pathPieces_append (fun unit hunit => @partSuffix_no_separator 0 unit hunit) path
  refine ⟨init.filterMap pieceComponent, last, ?_, ?_⟩
  · intro fileId
    obtain ⟨init', last', hpieces', hpart⟩ :=
      pathPieces_append (fun unit hunit => @partSuffix_no_separator fileId unit hunit) path
    rw [hpieces] at hpieces'
    obtain ⟨rfl, hlast⟩ := List.append_inj' hpieces' rfl
    cases hlast
    have hlong : 2 < (last ++ partSuffix fileId).length := by
      rw [partSuffix_eq, List.length_append, List.length_append]
      have hlength : (utf16 ".ncs-part-").length = 10 := by decide
      omega
    have hlastComponent : pieceComponent (last ++ partSuffix fileId) =
        some (.normal (last ++ partSuffix fileId)) := by
      unfold pieceComponent
      rw [if_neg, if_neg]
      · intro hsame
        rw [hsame] at hlong
        simp [dotDotName] at hlong
      · rintro (hsame | hsame) <;> rw [hsame] at hlong <;> simp [dotName] at hlong
    have hpartRoot : (temporaryPath path fileId).head?.any isSeparator = false := by
      cases path with
      | nil => exact absurd rfl hne
      | cons unit rest => exact hroot
    have hpartDot : (pathPieces (temporaryPath path fileId)).head? ≠ some dotName := by
      show (pathPieces (path ++ partSuffix fileId)).head? ≠ some dotName
      rw [hpart]
      rw [hpieces] at hdot
      cases init with
      | nil =>
        rw [List.nil_append, List.head?_cons, Ne, Option.some.injEq]
        intro hsame
        rw [hsame] at hlong
        simp [dotName] at hlong
      | cons first rest => simpa using hdot
    rw [pathComponents_eq_filterMap hpartRoot hpartDot]
    show (pathPieces (path ++ partSuffix fileId)).filterMap pieceComponent = _
    rw [hpart, List.filterMap_append]
    simp [hlastComponent]
  · rw [hcomponents, hpieces, List.filterMap_append] at hnormal ⊢
    unfold pieceComponent at hnormal ⊢
    by_cases hskipped : last = [] ∨ last = dotName
    · left
      simp [hskipped]
    · by_cases hparent : last = dotDotName
      · exfalso
        simp [hparent, dotDotName, dotName, PathComponent.isNormal] at hnormal
      · right
        simp [hskipped, hparent]

/-- The part file is not the file. -/
theorem pathComponents_temporaryPath_ne {u : Unit} (h : validateRelativePath path = .ok u)
    (fileId : Nat) :
    pathComponents (temporaryPath path fileId) ≠ pathComponents path := by
  obtain ⟨init, last, hpart, hpath⟩ := pathComponents_temporaryPath h
  rw [hpart fileId]
  intro hsame
  rcases hpath with hpath | hpath
  · rw [hpath] at hsame
    simpa using congrArg List.length hsame
  · rw [hpath] at hsame
    have hlast := List.append_cancel_left hsame
    simp only [List.cons.injEq, PathComponent.normal.injEq, and_true] at hlast
    obtain ⟨unit, hunit, _⟩ := getLast_partSuffix [] fileId
    rw [List.append_right_eq_self] at hlast
    rw [List.nil_append, hlast] at hunit
    cases hunit

/-- Part files of different files are different. -/
theorem fileId_of_pathComponents_temporaryPath {left right : RelativePath} {u v : Unit}
    (hleft : validateRelativePath left = .ok u) (hright : validateRelativePath right = .ok v)
    {i j : Nat}
    (h : pathComponents (temporaryPath left i) = pathComponents (temporaryPath right j)) :
    i = j := by
  obtain ⟨init, last, hpart, _⟩ := pathComponents_temporaryPath hleft
  obtain ⟨init', last', hpart', _⟩ := pathComponents_temporaryPath hright
  rw [hpart i, hpart' j] at h
  obtain ⟨_, hsame⟩ := List.append_inj' h rfl
  simp only [List.cons.injEq, PathComponent.normal.injEq, and_true] at hsame
  exact partSuffix_injective hsame

/-- A part file is not a name that ends with something else than a digit. -/
theorem pathComponents_temporaryPath_ne_of_last {u : Unit}
    (h : validateRelativePath path = .ok u) (fileId : Nat) {name : List UInt16}
    (hname : ∀ unit ∈ name.getLast?, isDigitUnit unit = false) :
    pathComponents (temporaryPath path fileId) ≠ [.normal name] := by
  obtain ⟨init, last, hpart, _⟩ := pathComponents_temporaryPath h
  rw [hpart fileId]
  intro hsame
  obtain ⟨_, hlast⟩ := List.append_inj' (hsame.trans (List.nil_append _).symm) rfl
  simp only [List.cons.injEq, PathComponent.normal.injEq, and_true] at hlast
  obtain ⟨unit, hunit, hdigit⟩ := getLast_partSuffix last fileId
  rw [hlast] at hunit
  rw [hname unit hunit] at hdigit
  cases hdigit

/-! ## Separation -/

/-- The names that a transfer of a manifest uses. -/
def transferPaths (manifest : Manifest) : List RelativePath :=
  manifest.zipIdx.flatMap (fun file =>
    [file.1.relativePath, temporaryPath file.1.relativePath file.2]) ++
    [journalFileName, temporaryJournalFileName]

/-- The steps of a transfer that create, truncate, replace or remove a file. -/
inductive TransferStep where
  | createPart (fileId : Nat)
  | publish (fileId : Nat)
  | saveJournal
  | removeJournal
  deriving DecidableEq

namespace TransferStep

/-- The file that a step is about. -/
def fileId : TransferStep → Option Nat
  | createPart fileId => some fileId
  | publish fileId => some fileId
  | _ => none

/-- The names that a step overwrites or removes. -/
def touched (manifest : Manifest) : TransferStep → List RelativePath
  | createPart fileId =>
      (manifest[fileId]?).toList.map (fun entry => temporaryPath entry.relativePath fileId)
  | publish fileId =>
      (manifest[fileId]?).toList.flatMap (fun entry =>
        [temporaryPath entry.relativePath fileId, entry.relativePath])
  | saveJournal => [temporaryJournalFileName, journalFileName]
  | removeJournal => [journalFileName]

end TransferStep

/-- No two of the names coincide, and no step touches a name of another file. -/
structure Separated (manifest : Manifest) : Prop where
  distinct : ((transferPaths manifest).map pathComponents).Nodup
  untouched : ∀ (step : TransferStep) (fileId : Nat) (entry : ManifestEntry),
    manifest[fileId]? = some entry → step.fileId ≠ some fileId →
    ∀ path ∈ step.touched manifest, pathComponents path ≠ pathComponents entry.relativePath ∧
      pathComponents path ≠ pathComponents (temporaryPath entry.relativePath fileId)

/-- No file of the manifest has the name of another file's part file or of a journal. -/
structure NamesApart (manifest : Manifest) : Prop where
  parts : ∀ (fileId other : Nat) (entry otherEntry : ManifestEntry),
    manifest[fileId]? = some entry → manifest[other]? = some otherEntry → fileId ≠ other →
    pathComponents entry.relativePath ≠
      pathComponents (temporaryPath otherEntry.relativePath other)
  journals : ∀ entry ∈ manifest, pathComponents entry.relativePath ≠
      pathComponents journalFileName ∧
    pathComponents entry.relativePath ≠ pathComponents temporaryJournalFileName

theorem pathComponents_journalFileName :
    pathComponents journalFileName = [.normal journalFileName] := by decide

theorem pathComponents_temporaryJournalFileName :
    pathComponents temporaryJournalFileName = [.normal temporaryJournalFileName] := by decide

/-- A part file is not a journal. -/
theorem pathComponents_temporaryPath_ne_journal {u : Unit}
    (h : validateRelativePath path = .ok u) (fileId : Nat) :
    pathComponents (temporaryPath path fileId) ≠ pathComponents journalFileName ∧
      pathComponents (temporaryPath path fileId) ≠ pathComponents temporaryJournalFileName := by
  have hjournal : journalFileName.getLast? = some 0x6E := by decide
  have htemporary : temporaryJournalFileName.getLast? = some 0x70 := by decide
  rw [pathComponents_journalFileName, pathComponents_temporaryJournalFileName]
  constructor
  · apply pathComponents_temporaryPath_ne_of_last h
    intro unit hunit
    rw [hjournal] at hunit
    cases hunit
    decide
  · apply pathComponents_temporaryPath_ne_of_last h
    intro unit hunit
    rw [htemporary] at hunit
    cases hunit
    decide

section

variable {manifest : Manifest} {directories : List DirectoryEntry}

/-- The names of one file are different from those of another file. -/
theorem NamesApart.disjoint (hvalid : validateTreeEntries manifest directories = .ok ())
    (h : NamesApart manifest) {i j : Nat} {left right : ManifestEntry}
    (hleft : manifest[i]? = some left) (hright : manifest[j]? = some right) (hij : i ≠ j) :
    pathComponents left.relativePath ≠ pathComponents right.relativePath ∧
      pathComponents left.relativePath ≠ pathComponents (temporaryPath right.relativePath j) ∧
      pathComponents (temporaryPath left.relativePath i) ≠ pathComponents right.relativePath ∧
      pathComponents (temporaryPath left.relativePath i) ≠
        pathComponents (temporaryPath right.relativePath j) := by
  obtain ⟨hpaths, hnodup⟩ := files_of_validateTreeEntries hvalid
  refine ⟨?_, h.parts i j left right hleft hright hij, ?_, ?_⟩
  · intro hsame
    obtain ⟨hi, rfl⟩ := List.getElem?_eq_some_iff.mp hleft
    obtain ⟨hj, rfl⟩ := List.getElem?_eq_some_iff.mp hright
    have hpairwise := List.pairwise_iff_getElem.mp (List.pairwise_map.mp hnodup)
    rcases Nat.lt_or_gt_of_ne hij with hlt | hgt
    · exact hpairwise i j hi hj hlt hsame
    · exact hpairwise j i hj hi hgt hsame.symm
  · exact (h.parts j i right left hright hleft (Ne.symm hij)).symm
  · intro hsame
    exact hij (fileId_of_pathComponents_temporaryPath
      (hpaths left (List.mem_of_getElem? hleft)) (hpaths right (List.mem_of_getElem? hright)) hsame)

theorem NamesApart.nodup (hvalid : validateTreeEntries manifest directories = .ok ())
    (h : NamesApart manifest) : ((transferPaths manifest).map pathComponents).Nodup := by
  obtain ⟨hpaths, _⟩ := files_of_validateTreeEntries hvalid
  rw [transferPaths, List.map_append, List.map_flatMap, List.nodup_append, List.nodup_flatMap]
  refine ⟨⟨?_, ?_⟩, by decide, ?_⟩
  · rintro ⟨entry, fileId⟩ hmem
    have hentry : entry ∈ manifest :=
      List.mem_of_getElem? (List.mem_zipIdx_iff_getElem?.mp hmem)
    simpa using (pathComponents_temporaryPath_ne (hpaths entry hentry) fileId).symm
  · rw [List.pairwise_iff_getElem]
    intro i j hi hj hij
    rw [List.length_zipIdx] at hi hj
    obtain ⟨h₁, h₂, h₃, h₄⟩ := h.disjoint hvalid (List.getElem?_eq_getElem hi)
      (List.getElem?_eq_getElem hj) (by omega)
    simpa [List.disjoint_left, Function.onFun] using ⟨⟨h₁, h₂⟩, h₃, h₄⟩
  · intro left hleft right hright
    obtain ⟨⟨entry, fileId⟩, hmem, hfile⟩ := List.mem_flatMap.mp hleft
    have hentry : entry ∈ manifest :=
      List.mem_of_getElem? (List.mem_zipIdx_iff_getElem?.mp hmem)
    obtain ⟨hjournal, htemporary⟩ := h.journals entry hentry
    obtain ⟨hpart, hpart'⟩ := pathComponents_temporaryPath_ne_journal (hpaths entry hentry) fileId
    simp only [List.map_cons, List.map_nil, List.mem_cons, List.not_mem_nil, or_false] at hfile hright
    rcases hfile with rfl | rfl <;> rcases hright with rfl | rfl
    · exact hjournal
    · exact htemporary
    · exact hpart
    · exact hpart'

theorem NamesApart.untouched (hvalid : validateTreeEntries manifest directories = .ok ())
    (h : NamesApart manifest) (step : TransferStep) (fileId : Nat) (entry : ManifestEntry)
    (hentry : manifest[fileId]? = some entry) (hother : step.fileId ≠ some fileId) :
    ∀ path ∈ step.touched manifest, pathComponents path ≠ pathComponents entry.relativePath ∧
      pathComponents path ≠ pathComponents (temporaryPath entry.relativePath fileId) := by
  obtain ⟨hpaths, _⟩ := files_of_validateTreeEntries hvalid
  have hmem := List.mem_of_getElem? hentry
  obtain ⟨hjournal, htemporary⟩ := h.journals entry hmem
  obtain ⟨hpart, hpart'⟩ := pathComponents_temporaryPath_ne_journal (hpaths entry hmem) fileId
  intro path hpath
  cases step with
  | createPart id =>
    obtain ⟨owner, howner, rfl⟩ := List.mem_map.mp hpath
    rw [Option.mem_toList] at howner
    have hne : id ≠ fileId := fun hsame => hother (congrArg some hsame)
    obtain ⟨_, _, h₃, h₄⟩ := h.disjoint hvalid howner hentry hne
    exact ⟨h₃, h₄⟩
  | publish id =>
    obtain ⟨owner, howner, hnames⟩ := List.mem_flatMap.mp hpath
    rw [Option.mem_toList] at howner
    have hne : id ≠ fileId := fun hsame => hother (congrArg some hsame)
    obtain ⟨h₁, h₂, h₃, h₄⟩ := h.disjoint hvalid howner hentry hne
    simp only [List.mem_cons, List.not_mem_nil, or_false] at hnames
    rcases hnames with rfl | rfl
    · exact ⟨h₃, h₄⟩
    · exact ⟨h₁, h₂⟩
  | saveJournal =>
    simp only [TransferStep.touched, List.mem_cons, List.not_mem_nil, or_false] at hpath
    rcases hpath with rfl | rfl
    · exact ⟨htemporary.symm, hpart'.symm⟩
    · exact ⟨hjournal.symm, hpart.symm⟩
  | removeJournal =>
    simp only [TransferStep.touched, List.mem_cons, List.not_mem_nil, or_false] at hpath
    subst hpath
    exact ⟨hjournal.symm, hpart.symm⟩

end

/-- A tiny file with a given name. -/
def namedEntry (name : String) : ManifestEntry where
  relativePath := utf16 name
  fileSize := 5
  lastWriteTime := 1
  fileAttributes := 0x20
  fileClass := .tiny
  fileSize_lt := five_lt_u64Limit
  lastWriteTime_lt := one_lt_u64Limit

end NetworkCopy
