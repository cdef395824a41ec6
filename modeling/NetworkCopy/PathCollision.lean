import NetworkCopy.PathSeparation

/-!
# Which paths an accepted tree keeps apart

`validate_tree_entries` compares paths by their components.  A `.` behind the first component
is no component, so two paths that differ only in such dots are the same path for the check.
Two names are different as soon as their units are.  Windows is coarser: it ignores the case of
letters, and it drops dots and spaces at the end of a name.

`accepted_paths_apart` says what the check guarantees: the names of the files are different, and
no file is a directory or an ancestor of a listed path.  It does so for the names themselves,
and for every coarser reading of names that does not identify two names of the listed paths.
-/

namespace NetworkCopy

open List

/-- The names of a path, without single dots. -/
def pathNames (path : RelativePath) : List (List UInt16) :=
  (pathPieces path).filter (fun piece => piece ≠ [] ∧ piece ≠ dotName)

/-- The letters `A` to `Z` as `a` to `z`. -/
def foldAscii (unit : UInt16) : UInt16 :=
  if 0x41 ≤ unit ∧ unit ≤ 0x5A then unit + 0x20 else unit

/-- A dot or a space. -/
def isDropped (unit : UInt16) : Bool := unit == 0x2E || unit == 0x20

/-- How Windows reads a name: the case of ASCII letters and dots and spaces at the end do not
count. -/
def windowsName (name : List UInt16) : List UInt16 :=
  (name.map foldAscii).rdropWhile isDropped

/-! ## Prefixes of paths -/

/-- A prefix of the kept elements ends a prefix of the whole list. -/
theorem exists_prefix_filter {α : Type} {p : α → Bool} {whole kept : List α}
    (hstart : kept <+: whole.filter p) (hne : kept ≠ []) :
    ∃ front last, front ++ [last] <+: whole ∧ (front ++ [last]).filter p = kept ∧
      p last = true := by
  induction whole generalizing kept with
  | nil => exact absurd (prefix_nil.mp hstart) hne
  | cons first rest ih =>
    by_cases hfirst : p first = true
    · rw [filter_cons_of_pos hfirst] at hstart
      obtain ⟨head, tail, rfl⟩ := exists_cons_of_ne_nil hne
      obtain ⟨rfl, htail⟩ := cons_prefix_cons.mp hstart
      by_cases hempty : tail = []
      · subst hempty
        exact ⟨[], head, by simp, by simp [hfirst], hfirst⟩
      · obtain ⟨front, last, hfront, hfilter, hlast⟩ := ih htail hempty
        refine ⟨head :: front, last, ?_, ?_, hlast⟩
        · exact cons_prefix_cons.mpr ⟨rfl, hfront⟩
        · rw [cons_append, filter_cons_of_pos hfirst, hfilter]
    · rw [filter_cons_of_neg hfirst] at hstart
      obtain ⟨front, last, hfront, hfilter, hlast⟩ := ih hstart hne
      refine ⟨first :: front, last, ?_, ?_, hlast⟩
      · exact cons_prefix_cons.mpr ⟨rfl, hfront⟩
      · rw [cons_append, filter_cons_of_neg hfirst, hfilter]

/-- A piece between separators has no separator. -/
theorem not_isSeparator_of_mem_pathPieces {path : RelativePath} {piece : List UInt16}
    (hpiece : piece ∈ pathPieces path) : ∀ unit ∈ piece, isSeparator unit = false := by
  unfold pathPieces at hpiece
  induction path generalizing piece with
  | nil =>
    rw [splitOnP_nil, mem_singleton] at hpiece
    simp [hpiece]
  | cons first rest ih =>
    rw [splitOnP_cons_eq_if_modifyHead] at hpiece
    split at hpiece
    · rcases mem_cons.mp hpiece with rfl | hpiece
      · simp
      · exact ih hpiece
    · rename_i hfirst
      obtain ⟨head, tail, hsplit⟩ :=
        exists_cons_of_ne_nil (splitOnP_ne_nil isSeparator rest)
      rw [hsplit, modifyHead_cons] at hpiece
      rcases mem_cons.mp hpiece with rfl | hpiece
      · have hhead : ∀ unit ∈ head, isSeparator unit = false :=
          ih (by rw [hsplit]; exact mem_cons_self)
        intro unit hunit
        rcases mem_cons.mp hunit with rfl | hunit
        · simpa using hfirst
        · exact hhead unit hunit
      · exact ih (by rw [hsplit]; exact mem_cons_of_mem _ hpiece)

/-- Pieces that are joined by separators are found again. -/
theorem pathPieces_intercalate {pieces : List (List UInt16)} (hne : pieces ≠ [])
    (hpieces : ∀ piece ∈ pieces, ∀ unit ∈ piece, isSeparator unit = false) :
    pathPieces (intercalate [pathSeparator] pieces) = pieces := by
  unfold pathPieces
  induction pieces with
  | nil => exact absurd rfl hne
  | cons first rest ih =>
    have hfirst := hpieces first mem_cons_self
    cases rest with
    | nil => simpa using splitOnP_eq_singleton hfirst
    | cons second others =>
      rw [intercalate_cons_cons, append_assoc, singleton_append,
        splitOnP_append_cons_of_forall_mem hfirst _ (by decide),
        ih (by simp) (fun piece hpiece => hpieces piece (mem_cons_of_mem _ hpiece))]

/-! ## Names and components -/

theorem filterMap_pieceComponent {pieces : List (List UInt16)}
    (hparent : dotDotName ∉ pieces) :
    pieces.filterMap pieceComponent =
      (pieces.filter (fun piece => piece ≠ [] ∧ piece ≠ dotName)).map .normal := by
  induction pieces with
  | nil => rfl
  | cons piece rest ih =>
    obtain ⟨hpiece, hrest⟩ : dotDotName ≠ piece ∧ dotDotName ∉ rest := by simpa using hparent
    by_cases hskipped : piece = [] ∨ piece = dotName
    · have hcomponent : pieceComponent piece = none := if_pos hskipped
      have hdropped : decide (piece ≠ [] ∧ piece ≠ dotName) = false := by
        rw [decide_eq_false_iff_not, ← not_or, not_not]
        exact hskipped
      rw [filterMap_cons_none hcomponent, ih hrest, filter_cons, hdropped]
      rfl
    · have hcomponent : pieceComponent piece = some (.normal piece) := by
        rw [pieceComponent, if_neg hskipped, if_neg (fun hsame => hpiece hsame.symm)]
      have hkept : decide (piece ≠ [] ∧ piece ≠ dotName) = true := by
        rw [decide_eq_true_iff, ← not_or]
        exact hskipped
      rw [filterMap_cons_some hcomponent, ih hrest, filter_cons, hkept]
      rfl

section

variable {path : RelativePath}

/-- No piece of a valid path is `..`. -/
theorem dotDotName_notMem (hvalid : validateRelativePath path = .ok ()) :
    dotDotName ∉ pathPieces path := by
  intro hmem
  obtain ⟨hroot, hdot⟩ := starts_of_validateRelativePath hvalid
  obtain ⟨_, _, _, hnormal⟩ := validateRelativePath_eq_ok.mp hvalid
  rw [pathComponents_eq_filterMap hroot hdot, all_eq_true] at hnormal
  have hparent : PathComponent.parentDir ∈ (pathPieces path).filterMap pieceComponent :=
    mem_filterMap.mpr ⟨dotDotName, hmem, by decide⟩
  exact absurd (hnormal _ hparent) (by decide)

/-- The components of a valid path are its names. -/
theorem pathComponents_of_valid (hvalid : validateRelativePath path = .ok ()) :
    pathComponents path = (pathNames path).map .normal := by
  obtain ⟨hroot, hdot⟩ := starts_of_validateRelativePath hvalid
  rw [pathComponents_eq_filterMap hroot hdot, filterMap_pieceComponent (dotDotName_notMem hvalid),
    pathNames]

/-- The first piece of a valid path is a name. -/
theorem first_piece (hvalid : validateRelativePath path = .ok ()) :
    ∃ first rest, pathPieces path = first :: rest ∧ first ≠ [] ∧ first ≠ dotName := by
  obtain ⟨hroot, hdot⟩ := starts_of_validateRelativePath hvalid
  obtain ⟨⟨hne, _⟩, _⟩ := validateRelativePath_eq_ok.mp hvalid
  obtain ⟨unit, units, rfl⟩ := exists_cons_of_ne_nil hne
  obtain ⟨first, rest, hpieces⟩ :=
    exists_cons_of_ne_nil (splitOnP_ne_nil isSeparator (unit :: units))
  refine ⟨first, rest, hpieces, ?_, ?_⟩
  · rintro rfl
    have hunit : isSeparator unit = false := by simpa using hroot
    rw [splitOnP_cons_eq_if_modifyHead, hunit, if_neg (by simp)] at hpieces
    obtain ⟨head, tail, hsplit⟩ :=
      exists_cons_of_ne_nil (splitOnP_ne_nil isSeparator units)
    rw [hsplit, modifyHead_cons] at hpieces
    cases hpieces
  · rintro rfl
    unfold pathPieces at hdot
    rw [hpieces] at hdot
    exact hdot rfl

theorem pathNames_ne_nil (hvalid : validateRelativePath path = .ok ()) : pathNames path ≠ [] := by
  obtain ⟨first, rest, hpieces, hempty, hdot⟩ := first_piece hvalid
  rw [pathNames, hpieces, filter_cons_of_pos (by simp [hempty, hdot])]
  exact cons_ne_nil _ _

/-- The components of a leading part of a valid path. -/
theorem pathComponents_intercalate (hvalid : validateRelativePath path = .ok ())
    {pieces : List (List UInt16)} (hstart : pieces <+: pathPieces path) (hne : pieces ≠ []) :
    intercalate [pathSeparator] pieces ≠ [] ∧
      pathComponents (intercalate [pathSeparator] pieces) =
        (pieces.filter (fun piece => piece ≠ [] ∧ piece ≠ dotName)).map .normal := by
  obtain ⟨first, rest, hpieces, hempty, hdot⟩ := first_piece hvalid
  obtain ⟨head, tail, rfl⟩ := exists_cons_of_ne_nil hne
  have hhead : head = first := by
    rw [hpieces] at hstart
    exact (cons_prefix_cons.mp hstart).1
  subst hhead
  have hclean : ∀ piece ∈ head :: tail, ∀ unit ∈ piece, isSeparator unit = false :=
    fun piece hpiece => not_isSeparator_of_mem_pathPieces (hstart.subset hpiece)
  have hjoined := pathPieces_intercalate (cons_ne_nil head tail) hclean
  -- The joined path starts with the first unit of the first piece.
  obtain ⟨unit, units, rfl⟩ := exists_cons_of_ne_nil hempty
  obtain ⟨others, htext⟩ : ∃ others,
      intercalate [pathSeparator] ((unit :: units) :: tail) = unit :: others := by
    cases tail with
    | nil => exact ⟨units, by simp⟩
    | cons second more => exact ⟨_, by rw [intercalate_cons_cons]; rfl⟩
  have hroot : (intercalate [pathSeparator] ((unit :: units) :: tail)).head?.any
      isSeparator = false := by
    rw [htext]
    exact hclean _ mem_cons_self unit mem_cons_self
  refine ⟨by rw [htext]; exact cons_ne_nil _ _, ?_⟩
  rw [pathComponents_eq_filterMap hroot (by rw [hjoined]; simpa using hdot), hjoined]
  exact filterMap_pieceComponent fun hmem => dotDotName_notMem hvalid (hstart.subset hmem)

/-- Dots at the end of a path are no names. -/
theorem filter_rdropWhile (pieces : List (List UInt16)) :
    (pieces.rdropWhile (· = dotName)).filter (fun piece => piece ≠ [] ∧ piece ≠ dotName) =
      pieces.filter (fun piece => piece ≠ [] ∧ piece ≠ dotName) := by
  have hsplit : pieces = pieces.rdropWhile (· = dotName) ++
      (pieces.reverse.takeWhile (· = dotName)).reverse := by
    rw [rdropWhile, ← reverse_append, takeWhile_append_dropWhile,
      reverse_reverse]
  conv_rhs => rw [hsplit, filter_append]
  have hdots : ((pieces.reverse.takeWhile (· = dotName)).reverse).filter
      (fun piece => piece ≠ [] ∧ piece ≠ dotName) = [] := by
    refine filter_eq_nil_iff.mpr fun piece hpiece => ?_
    have hdot := mem_takeWhile_imp (mem_reverse.mp hpiece)
    rw [decide_eq_true_iff] at hdot
    subst hdot
    decide
  rw [hdots, append_nil]

/-- A proper leading part of the names of a valid path is found among its ancestors. -/
theorem exists_ancestor (hvalid : validateRelativePath path = .ok ())
    {names : List (List UInt16)} (hstart : names <+: pathNames path) (hne : names ≠ [])
    (hproper : names ≠ pathNames path) :
    ∃ ancestor ∈ (pathAncestors path).tail, ancestor ≠ [] ∧
      pathComponents ancestor = names.map .normal := by
  obtain ⟨front, last, hfront, hfilter, hlast⟩ := exists_prefix_filter hstart hne
  have hpieces : front ++ [last] ≠ [] := by simp
  obtain ⟨hjoined, hcomponents⟩ := pathComponents_intercalate hvalid hfront hpieces
  refine ⟨_, ?_, hjoined, by rw [hcomponents, hfilter]⟩
  have hkept : last ≠ dotName := by
    simp only [decide_eq_true_eq] at hlast
    exact hlast.2
  -- The leading part ends before the last name.
  have hinit : front ++ [last] <+:
      ((pathPieces path).rdropWhile (· = dotName)).dropLast := by
    have hnamed : (pathPieces path).rdropWhile (· = dotName) <+: pathPieces path :=
      rdropWhile_prefix _ _
    have hwhole : ∀ {part : List (List UInt16)},
        (pathPieces path).rdropWhile (· = dotName) <+: part → part <+: pathPieces path →
        part.filter (fun piece => piece ≠ [] ∧ piece ≠ dotName) = pathNames path := by
      intro part hlow hhigh
      have hlow := hlow.filter (fun piece => piece ≠ [] ∧ piece ≠ dotName)
      rw [filter_rdropWhile] at hlow
      exact ((hhigh.filter _).eq_of_length_le hlow.length_le)
    rcases prefix_or_prefix_of_prefix hfront hnamed with hlow | hhigh
    · obtain ⟨behind, hbehind⟩ := hlow
      have hmore : behind ≠ [] := by
        rintro rfl
        rw [append_nil] at hbehind
        exact hproper (hfilter.symm.trans (hwhole (hbehind ▸ prefix_refl _) hfront))
      rw [← hbehind, dropLast_append_of_ne_nil hmore]
      exact prefix_append _ _
    · exact absurd (hfilter.symm.trans (hwhole hhigh hfront)) hproper
  unfold pathAncestors
  rw [tail_cons]
  refine mem_map_of_mem (mem_reverse.mpr (mem_filter.mpr ⟨?_, ?_⟩))
  · exact mem_inits _ _ |>.mpr hinit
  · simpa using hkept

end

/-! ## The tree -/

variable {filePaths : List (List PathComponent)}

/-- The set that the first loop builds holds the paths of all files. -/
theorem mem_checkFilePaths {manifest : Manifest} {known filePaths : List (List PathComponent)}
    (h : checkFilePaths manifest known = .ok filePaths) :
    (∀ components ∈ known, components ∈ filePaths) ∧
      ∀ entry ∈ manifest, pathComponents entry.relativePath ∈ filePaths := by
  induction manifest generalizing known with
  | nil =>
    rw [checkFilePaths, Except.ok.injEq] at h
    subst h
    exact ⟨fun _ hmem => hmem, by simp⟩
  | cons entry rest ih =>
    rw [checkFilePaths] at h
    obtain ⟨_, h⟩ := bind_rest h
    obtain ⟨_, h⟩ := bind_rest h
    obtain ⟨hknown, hrest⟩ := ih h
    refine ⟨fun components hmem => hknown _ (mem_cons_of_mem _ hmem), ?_⟩
    intro other hother
    rcases mem_cons.mp hother with rfl | hother
    · exact hknown _ mem_cons_self
    · exact hrest other hother

theorem findFile_eq_none {ancestors : List RelativePath} :
    findFile filePaths ancestors = none ↔
      ∀ ancestor ∈ ancestors, ancestor ≠ [] → pathComponents ancestor ∉ filePaths := by
  simp [findFile, find?_eq_none]

theorem checkNestedFiles_eq_ok {manifest : Manifest} {u : Unit} :
    checkNestedFiles filePaths manifest = .ok u ↔ ∀ entry ∈ manifest,
      findFile filePaths (pathAncestors entry.relativePath).tail = none := by
  induction manifest with
  | nil => simp [checkNestedFiles]
  | cons entry rest ih =>
    rw [checkNestedFiles, forall_mem_cons]
    cases hfind : findFile filePaths (pathAncestors entry.relativePath).tail with
    | none => simp [ih]
    | some parentFile => simp

theorem checkDirectoryPaths_eq_ok {filePaths known : List (List PathComponent)}
    {directories : List DirectoryEntry} {u : Unit}
    (h : checkDirectoryPaths filePaths directories known = .ok u) :
    ∀ entry ∈ directories, validateRelativePath entry.relativePath = .ok () ∧
      findFile filePaths (pathAncestors entry.relativePath) = none := by
  induction directories generalizing known with
  | nil => simp
  | cons entry rest ih =>
    rw [checkDirectoryPaths] at h
    obtain ⟨_, hvalid, h⟩ := bind_eq_ok.mp h
    obtain ⟨_, h⟩ := bind_rest h
    cases hfind : findFile filePaths (pathAncestors entry.relativePath) with
    | some file =>
      rw [hfind] at h
      cases h
    | none =>
      rw [hfind] at h
      exact forall_mem_cons.mpr ⟨⟨hvalid, hfind⟩, ih h⟩

/-- No two listed paths collide when names are read by `read`: the files are different, no file
is an ancestor of another file, and no file is a directory or an ancestor of one. -/
structure PathsApart (read : List UInt16 → List UInt16) (manifest : Manifest)
    (directories : List DirectoryEntry) : Prop where
  files : (manifest.map fun entry => (pathNames entry.relativePath).map read).Nodup
  nested : ∀ file ∈ manifest, ∀ other ∈ manifest,
    (pathNames file.relativePath).map read <+: (pathNames other.relativePath).map read →
    (pathNames file.relativePath).map read = (pathNames other.relativePath).map read
  directories : ∀ file ∈ manifest, ∀ directory ∈ directories,
    ¬ (pathNames file.relativePath).map read <+: (pathNames directory.relativePath).map read

/-- The names of the listed paths. -/
def ListedName (manifest : Manifest) (directories : List DirectoryEntry)
    (name : List UInt16) : Prop :=
  (∃ entry ∈ manifest, name ∈ pathNames entry.relativePath) ∨
    ∃ entry ∈ directories, name ∈ pathNames entry.relativePath

section

variable {manifest : Manifest} {directories : List DirectoryEntry}

theorem pathsApart_id (h : validateTreeEntries manifest directories = .ok ()) :
    PathsApart id manifest directories := by
  obtain ⟨hvalid, hnodup⟩ := files_of_validateTreeEntries h
  obtain ⟨filePaths, hfiles, h⟩ := bind_eq_ok.mp h
  obtain ⟨_, hnested, hdirectories⟩ := bind_eq_ok.mp h
  have hmem := (mem_checkFilePaths hfiles).2
  have hcomponents : ∀ entry ∈ manifest, pathComponents entry.relativePath =
      (pathNames entry.relativePath).map .normal :=
    fun entry hentry => pathComponents_of_valid (hvalid entry hentry)
  constructor
  · rw [map_congr_left hcomponents, Nodup, pairwise_map] at hnodup
    rw [Nodup, pairwise_map]
    refine hnodup.imp fun {file other} hne hsame => hne ?_
    rw [map_id, map_id] at hsame
    rw [hsame]
  · intro file hfile other hother hstart
    rw [map_id, map_id] at hstart ⊢
    by_contra hne
    obtain ⟨ancestor, hancestor, hnonempty, hsame⟩ := exists_ancestor (hvalid other hother)
      hstart (pathNames_ne_nil (hvalid file hfile)) hne
    refine findFile_eq_none.mp (checkNestedFiles_eq_ok.mp hnested other hother) ancestor
      hancestor hnonempty ?_
    rw [hsame, ← hcomponents file hfile]
    exact hmem file hfile
  · intro file hfile directory hdirectory hstart
    rw [map_id, map_id] at hstart
    obtain ⟨hdirectoryValid, hnone⟩ :=
      checkDirectoryPaths_eq_ok hdirectories directory hdirectory
    by_cases hsame : pathNames file.relativePath = pathNames directory.relativePath
    -- The directory is the first of its own ancestors.
    · refine findFile_eq_none.mp hnone directory.relativePath mem_cons_self
        (validateRelativePath_eq_ok.mp hdirectoryValid).1.1 ?_
      rw [pathComponents_of_valid hdirectoryValid, ← hsame, ← hcomponents file hfile]
      exact hmem file hfile
    · obtain ⟨ancestor, hancestor, hnonempty, hcomponent⟩ := exists_ancestor hdirectoryValid
        hstart (pathNames_ne_nil (hvalid file hfile)) hsame
      refine findFile_eq_none.mp hnone ancestor (mem_of_mem_tail hancestor) hnonempty ?_
      rw [hcomponent, ← hcomponents file hfile]
      exact hmem file hfile

/-- Under a reading that tells the listed names apart, prefixes are prefixes of the names. -/
theorem prefix_of_map_prefix {read : List UInt16 → List UInt16} {P : List UInt16 → Prop}
    (hinj : ∀ name other, P name → P other → read name = read other → name = other)
    {names others : List (List UInt16)} (hnames : ∀ name ∈ names, P name)
    (hothers : ∀ name ∈ others, P name) (hstart : names.map read <+: others.map read) :
    names <+: others := by
  induction names generalizing others with
  | nil => exact nil_prefix
  | cons name rest ih =>
    cases others with
    | nil => exact absurd (prefix_nil.mp hstart) (by simp)
    | cons other more =>
      rw [map_cons, map_cons, cons_prefix_cons] at hstart
      rw [forall_mem_cons] at hnames hothers
      exact cons_prefix_cons.mpr ⟨hinj name other hnames.1 hothers.1 hstart.1,
        ih hnames.2 hothers.2 hstart.2⟩

theorem PathsApart.of_injective (h : PathsApart id manifest directories)
    {read : List UInt16 → List UInt16}
    (hinj : ∀ name other, ListedName manifest directories name →
      ListedName manifest directories other → read name = read other → name = other) :
    PathsApart read manifest directories := by
  have hfile : ∀ entry ∈ manifest, ∀ name ∈ pathNames entry.relativePath,
      ListedName manifest directories name :=
    fun entry hentry name hname => .inl ⟨entry, hentry, hname⟩
  have hdirectory : ∀ entry ∈ directories, ∀ name ∈ pathNames entry.relativePath,
      ListedName manifest directories name :=
    fun entry hentry name hname => .inr ⟨entry, hentry, hname⟩
  constructor
  · have hfiles := h.files
    rw [Nodup, pairwise_map] at hfiles ⊢
    refine hfiles.imp_of_mem fun {file other} hmem hother hne hsame => hne ?_
    have hnames := prefix_of_map_prefix hinj (hfile file hmem) (hfile other hother)
      (hsame ▸ prefix_refl _)
    have hlength := congrArg List.length hsame
    rw [length_map, length_map] at hlength
    rw [hnames.eq_of_length hlength]
  · intro file hmem other hother hstart
    have hnames := prefix_of_map_prefix hinj (hfile file hmem) (hfile other hother) hstart
    have hsame := h.nested file hmem other hother (by simpa using hnames)
    rw [map_id, map_id] at hsame
    rw [hsame]
  · intro file hmem directory hlisted hstart
    have hnames := prefix_of_map_prefix hinj (hfile file hmem) (hdirectory directory hlisted)
      hstart
    exact h.directories file hmem directory hlisted (by simpa using hnames)

/-- What `validate_tree_entries` guarantees.  The listed paths are apart as lists of names, and
under every reading of names that tells the listed names apart.  So they are apart for Windows
when every listed name is spelled as Windows reads it. -/
theorem accepted_paths_apart (h : validateTreeEntries manifest directories = .ok ()) :
    PathsApart id manifest directories ∧
      (∀ read : List UInt16 → List UInt16,
        (∀ name other, ListedName manifest directories name →
          ListedName manifest directories other → read name = read other → name = other) →
        PathsApart read manifest directories) ∧
      ((∀ name, ListedName manifest directories name → windowsName name = name) →
        PathsApart windowsName manifest directories) := by
  have hapart := pathsApart_id h
  refine ⟨hapart, fun read hinj => hapart.of_injective hinj, fun hfolded => ?_⟩
  refine hapart.of_injective fun name other hname hother hsame => ?_
  rw [← hfolded name hname, ← hfolded other hother, hsame]

end

theorem accepted_paths_apart_nested :
    validateTreeEntries [namedEntry "a\\.\\b.txt", namedEntry "a\\c.txt"] [⟨utf16 "a"⟩] =
        .ok () ∧
      PathsApart id [namedEntry "a\\.\\b.txt", namedEntry "a\\c.txt"] [⟨utf16 "a"⟩] := by
  have haccepted : validateTreeEntries [namedEntry "a\\.\\b.txt", namedEntry "a\\c.txt"]
      [⟨utf16 "a"⟩] = .ok () := by decide +kernel
  exact ⟨haccepted, (accepted_paths_apart haccepted).1⟩

/-- Two files that differ in case, and a file and a directory that differ in a final dot, are
accepted, and Windows takes them for one object. -/
theorem accepted_paths_collide :
    (validateTreeEntries [namedEntry "Notes.txt", namedEntry "notes.txt"] [] = .ok () ∧
        ¬ PathsApart windowsName [namedEntry "Notes.txt", namedEntry "notes.txt"] []) ∧
      validateTreeEntries [namedEntry "a"] [⟨utf16 "a."⟩] = .ok () ∧
        ¬ PathsApart windowsName [namedEntry "a"] [⟨utf16 "a."⟩] := by
  refine ⟨⟨by decide +kernel, fun h => ?_⟩, by decide +kernel, fun h => ?_⟩
  · exact absurd h.files (by decide +kernel)
  · exact h.directories _ List.mem_cons_self _ List.mem_cons_self (by decide +kernel)

end NetworkCopy
