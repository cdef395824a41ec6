import NetworkCopy.Manifest

/-!
# The paths of a manifest

`validate_relative_path` and `validate_tree_entries` of `manifest_scan.rs`.  They look at
a path in two ways.  The units themselves must be free of characters that Windows does
not allow in names and of doubled or trailing separators.  The components, as
`Path::components` finds them, must all be names, and two paths are the same when their
components are: a `.` behind the first component is not a component, so `a\.\b` and
`a\b` are equal paths with different units.

A tree is accepted when no two files have equal paths, no file lies below another file,
and no directory is a file or lies below one.
-/

namespace NetworkCopy

/-- `manifest_scan::DirectoryEntry`. -/
structure DirectoryEntry where
  relativePath : RelativePath
  deriving DecidableEq

/-! ## Windows paths -/

/-- The main separator of a Windows path. -/
def pathSeparator : UInt16 := 0x5C

/-- Both characters that separate components, the backslash and the slash. -/
def isSeparator (unit : UInt16) : Bool := unit == pathSeparator || unit == 0x2F

/-- The name `.`. -/
def dotName : List UInt16 := [0x2E]

/-- The name `..`. -/
def dotDotName : List UInt16 := [0x2E, 0x2E]

/-- A letter that can name a drive. -/
def isDriveLetter (unit : UInt16) : Bool :=
  (0x41 ≤ unit && unit ≤ 0x5A) || (0x61 ≤ unit && unit ≤ 0x7A)

/-- `Path::is_absolute`: the path starts with a drive and a separator, or with one of the
prefixes that two separators introduce.  These are verbatim and device prefixes and a
server with a share. -/
def isAbsolute : RelativePath → Bool
  | first :: second :: rest =>
      if isSeparator first && isSeparator second then
        let server := rest.takeWhile (fun unit => !isSeparator unit)
        let share := ((rest.drop server.length).drop 1).takeWhile
          (fun unit => !isSeparator unit)
        (first == pathSeparator && second == pathSeparator &&
            decide (rest.take 2 = [0x3F, pathSeparator])) ||
          (decide (rest.head? = some 0x2E) && (rest[1]?).any isSeparator) ||
          (!server.isEmpty && !share.isEmpty)
      else isDriveLetter first && second == 0x3A && rest.head?.any isSeparator
  | _ => false

/-- `path::Component` without the prefix. -/
inductive PathComponent where
  | rootDir
  | curDir
  | parentDir
  | normal (name : List UInt16)
  deriving DecidableEq

/-- The component of a piece between separators.  An empty piece and a `.` are skipped. -/
def pieceComponent (piece : List UInt16) : Option PathComponent :=
  if piece = [] ∨ piece = dotName then none
  else if piece = dotDotName then some .parentDir
  else some (.normal piece)

/-- The pieces of a path between its separators. -/
def pathPieces (path : RelativePath) : List (List UInt16) := path.splitOnP isSeparator

/-- `Path::components` of a path without a prefix.  A `.` is a component only in front. -/
def pathComponents (path : RelativePath) : List PathComponent :=
  if path.head?.any isSeparator then
    .rootDir :: (pathPieces path).filterMap pieceComponent
  else
    match pathPieces path with
    | first :: rest =>
        (if first = dotName then [.curDir] else (pieceComponent first).toList) ++
          rest.filterMap pieceComponent
    | [] => []

/-- `Path::ancestors` of a path without a prefix and without leading, doubled or trailing
separators: the path itself, then the paths of its leading components, longest first, and
the empty path. -/
def pathAncestors (path : RelativePath) : List RelativePath :=
  let named := (pathPieces path).rdropWhile (· = dotName)
  path :: ((named.dropLast.inits.filter (fun pieces => pieces.getLast? ≠ some dotName)).reverse.map
    (List.intercalate [pathSeparator]))

/-! ## One path -/

/-- The characters that the check refuses: control characters and `" * / : < > ? |`. -/
def isInvalidUnit (unit : UInt16) : Bool :=
  decide (unit < 32) ||
    [0x22, 0x2A, 0x2F, 0x3A, 0x3C, 0x3E, 0x3F, 0x7C].contains unit

/-- `path_units.windows(2)` with two separators. -/
def hasDoubledSeparator : RelativePath → Bool
  | first :: second :: rest =>
      (first == pathSeparator && second == pathSeparator) || hasDoubledSeparator (second :: rest)
  | _ => false

/-- `matches!(component, Component::Normal(_))`. -/
def PathComponent.isNormal : PathComponent → Bool
  | normal _ => true
  | _ => false

/-- `validate_relative_path`. -/
def validateRelativePath (path : RelativePath) : IoResult Unit := do
  let text := displayPath path
  ensure (path ≠ [] ∧ isAbsolute path = false)
    (.invalidData s!"path is not a safe relative path: {text}")
  ensure (path.any isInvalidUnit = false)
    (.invalidData s!"relative path contains a Windows-invalid character: {text}")
  ensure (path.getLast? ≠ some pathSeparator ∧ hasDoubledSeparator path = false)
    (.invalidData s!"relative path contains malformed separators: {text}")
  ensure ((pathComponents path).all PathComponent.isNormal)
    (.invalidData s!"relative path contains an unsafe component: {text}")

/-! ## A tree -/

/-- The loop of `validate_tree_entries` that validates the paths of the files and collects
them.  A set of paths is a list of component lists, since equal paths have equal
components. -/
def checkFilePaths : Manifest → List (List PathComponent) → IoResult (List (List PathComponent))
  | [], filePaths => .ok filePaths
  | entry :: rest, filePaths => do
      validateRelativePath entry.relativePath
      let text := displayPath entry.relativePath
      ensure (pathComponents entry.relativePath ∉ filePaths)
        (.invalidData s!"duplicate file path in manifest: {text}")
      checkFilePaths rest (pathComponents entry.relativePath :: filePaths)

/-- The first of some ancestors that is a file. -/
def findFile (filePaths : List (List PathComponent)) (ancestors : List RelativePath) :
    Option RelativePath :=
  ancestors.find? (fun ancestor =>
    !ancestor.isEmpty && decide (pathComponents ancestor ∈ filePaths))

/-- The loop that refuses a file below another file. -/
def checkNestedFiles (filePaths : List (List PathComponent)) : Manifest → IoResult Unit
  | [] => .ok ()
  | entry :: rest =>
      match findFile filePaths (pathAncestors entry.relativePath).tail with
      | some parentFile =>
          let text := displayPath entry.relativePath
          let parent := displayPath parentFile
          .error (.invalidData s!"manifest file {text} is nested beneath file {parent}")
      | none => checkNestedFiles filePaths rest

/-- The loop over the directories. -/
def checkDirectoryPaths (filePaths : List (List PathComponent)) :
    List DirectoryEntry → List (List PathComponent) → IoResult Unit
  | [], _ => .ok ()
  | entry :: rest, directoryPaths => do
      validateRelativePath entry.relativePath
      let text := displayPath entry.relativePath
      ensure (pathComponents entry.relativePath ∉ directoryPaths)
        (.invalidData s!"duplicate directory path in manifest: {text}")
      match findFile filePaths (pathAncestors entry.relativePath) with
      | some file =>
          let filePath := displayPath file
          .error (.invalidData s!"manifest directory {text} collides with file {filePath}")
      | none =>
          checkDirectoryPaths filePaths rest (pathComponents entry.relativePath :: directoryPaths)

/-- `validate_tree_entries`. -/
def validateTreeEntries (manifest : Manifest) (directories : List DirectoryEntry) :
    IoResult Unit := do
  let filePaths ← checkFilePaths manifest []
  checkNestedFiles filePaths manifest
  checkDirectoryPaths filePaths directories []

/-! ## What the checks say -/

variable {path : RelativePath}

theorem validateRelativePath_eq_ok {u : Unit} :
    validateRelativePath path = .ok u ↔
      (path ≠ [] ∧ isAbsolute path = false) ∧ path.any isInvalidUnit = false ∧
        (path.getLast? ≠ some pathSeparator ∧ hasDoubledSeparator path = false) ∧
        (pathComponents path).all PathComponent.isNormal = true := by
  unfold validateRelativePath
  simp only [bind_eq_ok, ensure_eq_ok, exists_prop, exists_const]

/-- A path that starts with a name has the components of its pieces. -/
theorem pathComponents_eq_filterMap (hroot : path.head?.any isSeparator = false)
    (hdot : (pathPieces path).head? ≠ some dotName) :
    pathComponents path = (pathPieces path).filterMap pieceComponent := by
  unfold pathComponents
  rw [hroot, if_neg (by simp)]
  cases hpieces : pathPieces path with
  | nil => rfl
  | cons first rest =>
    have hfirst : first ≠ dotName := by
      rintro rfl
      exact hdot (by rw [hpieces, List.head?_cons])
    dsimp only
    rw [if_neg hfirst]
    cases hcomponent : pieceComponent first <;> simp [hcomponent]

/-- A valid path starts with a name. -/
theorem starts_of_validateRelativePath {u : Unit} (h : validateRelativePath path = .ok u) :
    path.head?.any isSeparator = false ∧ (pathPieces path).head? ≠ some dotName := by
  obtain ⟨_, _, _, hnormal⟩ := validateRelativePath_eq_ok.mp h
  unfold pathComponents at hnormal
  by_cases hroot : path.head?.any isSeparator = true
  · rw [if_pos hroot] at hnormal
    simp [PathComponent.isNormal] at hnormal
  · refine ⟨by simpa using hroot, ?_⟩
    rw [if_neg hroot] at hnormal
    intro hdot
    cases hpieces : pathPieces path with
    | nil =>
      rw [hpieces] at hdot
      cases hdot
    | cons first rest =>
      rw [hpieces, List.head?_cons, Option.some.injEq] at hdot
      rw [hpieces] at hnormal
      simp [hdot, PathComponent.isNormal] at hnormal

/-- What the loop over the file paths says. -/
theorem checkFilePaths_eq_ok {manifest : Manifest} :
    ∀ {known filePaths : List (List PathComponent)},
      checkFilePaths manifest known = .ok filePaths →
      (∀ entry ∈ manifest, validateRelativePath entry.relativePath = .ok ()) ∧
        (∀ entry ∈ manifest, pathComponents entry.relativePath ∉ known) ∧
        (manifest.map (fun entry => pathComponents entry.relativePath)).Nodup := by
  induction manifest with
  | nil =>
    intro known filePaths _
    simp
  | cons entry rest ih =>
    intro known filePaths h
    rw [checkFilePaths] at h
    obtain ⟨_, hvalid, h⟩ := bind_eq_ok.mp h
    dsimp only at h
    obtain ⟨_, hnew, h⟩ := bind_eq_ok.mp h
    rw [ensure_eq_ok] at hnew
    obtain ⟨hrestValid, hrestNew, hnodup⟩ := ih h
    refine ⟨by simpa using ⟨hvalid, hrestValid⟩, ?_, ?_⟩
    · intro other hother
      rcases List.mem_cons.mp hother with rfl | hother
      · exact hnew
      · exact fun hknown => hrestNew other hother (List.mem_cons_of_mem _ hknown)
    · rw [List.map_cons, List.nodup_cons]
      refine ⟨?_, hnodup⟩
      intro hmem
      obtain ⟨other, hother, hsame⟩ := List.mem_map.mp hmem
      exact hrestNew other hother (by rw [hsame]; exact List.mem_cons_self)

/-- The files of an accepted tree have valid and different paths. -/
theorem files_of_validateTreeEntries {manifest : Manifest} {directories : List DirectoryEntry}
    {u : Unit} (h : validateTreeEntries manifest directories = .ok u) :
    (∀ entry ∈ manifest, validateRelativePath entry.relativePath = .ok ()) ∧
      (manifest.map (fun entry => pathComponents entry.relativePath)).Nodup := by
  obtain ⟨filePaths, hfiles, _⟩ := bind_eq_ok.mp h
  obtain ⟨hvalid, _, hnodup⟩ := checkFilePaths_eq_ok hfiles
  exact ⟨hvalid, hnodup⟩

end NetworkCopy
