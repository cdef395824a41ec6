import NetworkCopy.PathCollision

/-!
# Which paths are accepted

`validate_relative_path` scans the units of a path and looks at its components.  Together these are
almost the grammar of names between backslashes.  `Path::components` skips single dots behind the
first name, so such a dot passes; when it is the last name, the file is the directory in front of it
and its part file is inside that directory.
-/

namespace NetworkCopy

/-! ## Separators -/

section

variable {α : Type} [DecidableEq α] {separator : α}

theorem splitOn_cons (separator unit : α) (rest : List α) :
    (unit :: rest).splitOn separator =
      if unit = separator then [] :: rest.splitOn separator
      else (rest.splitOn separator).modifyHead (unit :: ·) := by
  unfold List.splitOn
  rw [List.splitOnP_cons_eq_if_modifyHead]
  by_cases hsame : unit = separator
  · simp [hsame]
  · simp [hsame]

/-- The pieces behind the first one are not empty. -/
def TailFilled (separator : α) (path : List α) : Prop :=
  ∀ piece ∈ (path.splitOn separator).tail, piece ≠ []

theorem tailFilled_cons_separator {rest : List α} :
    TailFilled separator (separator :: rest) ↔ ∀ piece ∈ rest.splitOn separator, piece ≠ [] := by
  unfold TailFilled
  rw [splitOn_cons, if_pos rfl, List.tail_cons]

theorem tailFilled_cons {unit : α} {rest : List α} (h : unit ≠ separator) :
    TailFilled separator (unit :: rest) ↔ TailFilled separator rest := by
  unfold TailFilled
  rw [splitOn_cons, if_neg h]
  cases rest.splitOn separator with
  | nil => rfl
  | cons => rfl

/-- All pieces are filled when the path does not begin with a separator. -/
theorem filled_cons {unit : α} {rest : List α} :
    (∀ piece ∈ (unit :: rest).splitOn separator, piece ≠ []) ↔
      unit ≠ separator ∧ TailFilled separator rest := by
  rw [splitOn_cons]
  by_cases hsame : unit = separator
  · rw [if_pos hsame]
    simp [hsame]
  · rw [if_neg hsame]
    unfold TailFilled
    obtain ⟨head, tail, hsplit⟩ :=
      List.exists_cons_of_ne_nil (List.splitOnP_ne_nil (· == separator) rest)
    change rest.splitOn separator = head :: tail at hsplit
    rw [hsplit, List.modifyHead_cons, List.tail_cons]
    simp [hsame]

end

/-- No piece behind the first is empty exactly when no separator is doubled or last. -/
theorem tailFilled_iff (path : RelativePath) :
    TailFilled pathSeparator path ↔
      path.getLast? ≠ some pathSeparator ∧ hasDoubledSeparator path = false := by
  induction path with
  | nil => simp [TailFilled, hasDoubledSeparator]
  | cons unit rest ih =>
    by_cases hunit : unit = pathSeparator
    · rw [hunit, tailFilled_cons_separator]
      cases rest with
      | nil => simp
      | cons next others =>
        rw [filled_cons, List.getLast?_cons_cons]
        by_cases hnext : next = pathSeparator
        · simp [hnext, hasDoubledSeparator]
        · rw [tailFilled_cons hnext] at ih
          rw [ih]
          simp [hnext, hasDoubledSeparator]
    · rw [tailFilled_cons hunit, ih]
      cases rest with
      | nil => simp [hasDoubledSeparator, hunit]
      | cons next others =>
        rw [List.getLast?_cons_cons]
        simp [hasDoubledSeparator, hunit]

/-- Without slashes the pieces are those between backslashes. -/
theorem pathPieces_eq_splitOn {path : RelativePath} (h : (0x2F : UInt16) ∉ path) :
    pathPieces path = path.splitOn pathSeparator := by
  induction path with
  | nil => rfl
  | cons unit rest ih =>
    rw [List.mem_cons, not_or] at h
    unfold pathPieces at ih ⊢
    rw [List.splitOnP_cons_eq_if_modifyHead, splitOn_cons, ih h.2]
    have hseparator : isSeparator unit = true ↔ unit = pathSeparator := by
      unfold isSeparator
      simp [Ne.symm h.1]
    by_cases hunit : unit = pathSeparator
    · rw [if_pos hunit, if_pos (hseparator.mpr hunit)]
    · rw [if_neg hunit, if_neg (fun hsep => hunit (hseparator.mp hsep))]

/-! ## The accepted paths -/

variable {path : RelativePath}

theorem slash_notMem (h : path.any isInvalidUnit = false) : (0x2F : UInt16) ∉ path := by
  intro hslash
  rw [List.any_eq_false] at h
  exact absurd (by decide : isInvalidUnit 0x2F = true) (h 0x2F hslash)

/-- A path that begins with a name and has no invalid unit is not absolute. -/
theorem isAbsolute_eq_false (hunits : path.any isInvalidUnit = false)
    (hroot : path.head?.any isSeparator = false) : isAbsolute path = false := by
  unfold isAbsolute
  split
  · rename_i first second rest
    have hfirst : isSeparator first = false := hroot
    have hcolon : second ≠ 0x3A := by
      intro hsame
      rw [List.any_eq_false] at hunits
      exact hunits second (by simp) (by rw [hsame]; decide)
    simp [hfirst, hcolon]
  · rfl

/-- Accepted are the paths of filled names without `..` of which the first is not a dot. -/
theorem validateRelativePath_iff (path : RelativePath) :
    validateRelativePath path = .ok () ↔
      path.any isInvalidUnit = false ∧ (∀ name ∈ path.splitOn pathSeparator, name ≠ []) ∧
        (path.splitOn pathSeparator).head? ≠ some dotName ∧
        dotDotName ∉ path.splitOn pathSeparator := by
  constructor
  · intro hvalid
    obtain ⟨⟨hne, _⟩, hunits, hseparators, _⟩ := validateRelativePath_eq_ok.mp hvalid
    obtain ⟨hroot, hdot⟩ := starts_of_validateRelativePath hvalid
    have hparent := dotDotName_notMem hvalid
    rw [pathPieces_eq_splitOn (slash_notMem hunits)] at hdot hparent
    refine ⟨hunits, ?_, hdot, hparent⟩
    cases path with
    | nil => exact absurd rfl hne
    | cons unit rest =>
      have hunit : unit ≠ pathSeparator := by
        intro hsame
        rw [hsame] at hroot
        cases hroot
      rw [filled_cons]
      exact ⟨hunit, (tailFilled_cons hunit).mp ((tailFilled_iff _).mpr hseparators)⟩
  · intro ⟨hunits, hfilled, hdot, hparent⟩
    have hpieces := pathPieces_eq_splitOn (slash_notMem hunits)
    cases path with
    | nil => exact absurd rfl (hfilled [] (by decide))
    | cons unit rest =>
      obtain ⟨hunit, htail⟩ := filled_cons.mp hfilled
      have hroot : (unit :: rest).head?.any isSeparator = false := by
        have hslash : unit ≠ 0x2F := fun hsame =>
          slash_notMem hunits (by rw [hsame]; exact List.mem_cons_self)
        simp [isSeparator, hunit, hslash]
      rw [validateRelativePath_eq_ok]
      refine ⟨⟨List.cons_ne_nil _ _, isAbsolute_eq_false hunits hroot⟩, hunits,
        (tailFilled_iff _).mp ((tailFilled_cons hunit).mpr htail), ?_⟩
      rw [pathComponents_eq_filterMap hroot (by rw [hpieces]; exact hdot),
        filterMap_pieceComponent (by rw [hpieces]; exact hparent), List.all_map, List.all_eq_true]
      intro name _
      rfl

/-- The grammar of a relative path: filled names between backslashes, none of them a single or a
double dot, without an invalid character. -/
structure IsNamePath (path : RelativePath) : Prop where
  units : ∀ unit ∈ path, isInvalidUnit unit = false
  pieces : path.splitOn pathSeparator ≠ []
  filled : ∀ name ∈ path.splitOn pathSeparator, name ≠ []
  names : ∀ name ∈ path.splitOn pathSeparator, name ≠ dotName ∧ name ≠ dotDotName

/-- Components that go strictly below the directory to which they are joined. -/
def StrictlyBelow (components : List PathComponent) : Prop :=
  components ≠ [] ∧ ∀ component ∈ components, component.isNormal = true

/-- The file and its part file are strictly below the root, in one directory. -/
def StaysBeside (path : RelativePath) : Prop :=
  ∀ fileId, StrictlyBelow (pathComponents path) ∧
    StrictlyBelow (pathComponents (temporaryPath path fileId)) ∧
    (pathComponents (temporaryPath path fileId)).dropLast = (pathComponents path).dropLast

/-- A path of names and, behind the first one, at least one single dot. -/
structure SkipsDot (path : RelativePath) : Prop where
  units : ∀ unit ∈ path, isInvalidUnit unit = false
  filled : ∀ name ∈ path.splitOn pathSeparator, name ≠ []
  parent : dotDotName ∉ path.splitOn pathSeparator
  first : (path.splitOn pathSeparator).head? ≠ some dotName
  dot : dotName ∈ path.splitOn pathSeparator

/-- The pieces of a path of names are its components, those of its part path too. -/
theorem IsNamePath.components (h : IsNamePath path) (suffix : List UInt16)
    (hsuffix : ∀ unit ∈ suffix, isSeparator unit = false)
    (hlong : suffix = [] ∨ 2 < suffix.length) :
    ∃ init last, pathPieces path = init ++ [last] ∧
      pathComponents (path ++ suffix) = (init ++ [last ++ suffix]).map .normal := by
  obtain ⟨init, last, hpieces, happended⟩ := pathPieces_append hsuffix path
  have hunits : path.any isInvalidUnit = false := by
    rw [List.any_eq_false]
    intro unit hunit
    simp [h.units unit hunit]
  have hsplit := pathPieces_eq_splitOn (slash_notMem hunits)
  rw [hpieces] at hsplit
  have hname : ∀ name ∈ init ++ [last ++ suffix],
      name ≠ [] ∧ name ≠ dotName ∧ name ≠ dotDotName := by
    intro name hmem
    cases List.mem_append.mp hmem with
    | inl hinit =>
      have hthere : name ∈ path.splitOn pathSeparator := by
        rw [← hsplit]
        exact List.mem_append_left _ hinit
      exact ⟨h.filled name hthere, h.names name hthere⟩
    | inr hlast =>
      rw [List.mem_singleton.mp hlast]
      cases hlong with
      | inl hempty =>
        have hthere : last ∈ path.splitOn pathSeparator := by
          rw [← hsplit]
          simp
        rw [hempty, List.append_nil]
        exact ⟨h.filled last hthere, h.names last hthere⟩
      | inr hlong =>
        have hlength : 2 < (last ++ suffix).length := by
          rw [List.length_append]
          omega
        refine ⟨?_, ?_, ?_⟩
        · intro hsame
          simp [hsame] at hlength
        · intro hsame
          simp [hsame, dotName] at hlength
        · intro hsame
          simp [hsame, dotDotName] at hlength
  refine ⟨init, last, hpieces, ?_⟩
  have hroot : (path ++ suffix).head?.any isSeparator = false := by
    cases hpath : path ++ suffix with
    | nil => rfl
    | cons unit rest =>
      cases hunit : isSeparator unit with
      | false => simpa using hunit
      | true =>
        rw [hpath] at happended
        unfold pathPieces at happended
        rw [List.splitOnP_cons_eq_if_modifyHead, if_pos hunit] at happended
        have hempty : [] ∈ init ++ [last ++ suffix] := by
          rw [← happended]
          exact List.mem_cons_self
        exact absurd rfl (hname [] hempty).1
  have hdot : (pathPieces (path ++ suffix)).head? ≠ some dotName := by
    rw [happended]
    intro hhead
    exact (hname dotName (List.mem_of_mem_head? hhead)).2.1 rfl
  rw [pathComponents_eq_filterMap hroot hdot, happended, filterMap_pieceComponent
    (fun hmem => (hname dotDotName hmem).2.2 rfl), List.filter_eq_self.mpr]
  intro name hmem
  simp [(hname name hmem).1, (hname name hmem).2.1]

theorem strictlyBelow_map_normal {names : List (List UInt16)} (h : names ≠ []) :
    StrictlyBelow (names.map .normal) := by
  constructor
  · simpa using h
  · intro component hcomponent
    obtain ⟨name, _, hname⟩ := List.mem_map.mp hcomponent
    rw [← hname]
    rfl

/-- A path of names and its part path stay side by side below the root. -/
theorem IsNamePath.staysBeside (h : IsNamePath path) : StaysBeside path := by
  intro fileId
  obtain ⟨init, last, hpieces, hpath⟩ := h.components [] (by simp) (.inl rfl)
  have hlong : 2 < (partSuffix fileId).length := by
    rw [partSuffix_eq, List.length_append]
    have hlength : (utf16 ".ncs-part-").length = 10 := by decide
    omega
  obtain ⟨init', last', hpieces', hpart⟩ :=
    h.components (partSuffix fileId) partSuffix_no_separator (.inr hlong)
  rw [hpieces] at hpieces'
  obtain ⟨hinit, _⟩ := List.append_inj' hpieces' rfl
  rw [List.append_nil, List.append_nil] at hpath
  change pathComponents (temporaryPath path fileId) = _ at hpart
  refine ⟨?_, ?_, ?_⟩
  · rw [hpath]
    exact strictlyBelow_map_normal (by simp)
  · rw [hpart]
    exact strictlyBelow_map_normal (by simp)
  · rw [hpath, hpart, List.map_append, List.map_append, List.map_singleton, List.map_singleton,
      List.dropLast_concat, List.dropLast_concat, hinit]

/-- The accepted paths are those of the grammar, with part files beside them, exactly when no dot is
skipped. -/
theorem pathAcceptance_iff (path : RelativePath) :
    ((validateRelativePath path = .ok () ↔ IsNamePath path) ∧
      (validateRelativePath path = .ok () → StaysBeside path)) ↔ ¬ SkipsDot path := by
  have hany : path.any isInvalidUnit = false ↔ ∀ unit ∈ path, isInvalidUnit unit = false := by
    rw [List.any_eq_false]
    simp
  constructor
  · intro ⟨hexact, _⟩ hskips
    have hvalid := (validateRelativePath_iff path).mpr
      ⟨hany.mpr hskips.units, hskips.filled, hskips.first, hskips.parent⟩
    exact ((hexact.mp hvalid).names dotName hskips.dot).1 rfl
  · intro hnone
    have hforward : validateRelativePath path = .ok () → IsNamePath path := by
      intro hvalid
      obtain ⟨hunits, hfilled, hfirst, hparent⟩ := (validateRelativePath_iff path).mp hvalid
      refine ⟨hany.mp hunits, List.splitOnP_ne_nil _ _, hfilled, ?_⟩
      intro name hname
      constructor
      · intro hdot
        exact hnone ⟨hany.mp hunits, hfilled, hparent, hfirst, hdot ▸ hname⟩
      · intro hdots
        exact hparent (hdots ▸ hname)
    refine ⟨⟨hforward, ?_⟩, fun hvalid => (hforward hvalid).staysBeside⟩
    intro hnames
    refine (validateRelativePath_iff path).mpr ⟨hany.mpr hnames.units, hnames.filled, ?_, ?_⟩
    · intro hfirst
      exact (hnames.names dotName (List.mem_of_mem_head? hfirst)).1 rfl
    · intro hparent
      exact (hnames.names dotDotName hparent).2 rfl

/-- `a\.\b` is accepted, and so is `a\.`, whose part file is inside `a`. -/
theorem pathAcceptance_skipsDot :
    (validateRelativePath (utf16 "a\\.\\b") = .ok () ∧ ¬ IsNamePath (utf16 "a\\.\\b")) ∧
      validateRelativePath (utf16 "a\\.") = .ok () ∧ ¬ StaysBeside (utf16 "a\\.") := by
  refine ⟨⟨by rfl, ?_⟩, by rfl, ?_⟩
  · intro h
    exact (h.names dotName (by decide)).1 rfl
  · intro h
    exact absurd (h 0).2.2 (by decide)

end NetworkCopy
