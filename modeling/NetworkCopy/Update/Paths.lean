import NetworkCopy.Manifest

/-!
# Windows paths

A `Path` of the updater is what `Path::components` sees of it: a prefix, a root and the names
after them.  Two paths are equal when these are, as for `Path`, so the letters of a name count.
The volume does not count them: `WinPath.key` is the path with every unit in the upper case that
the volume's own table gives it, and names the file.  Links and short names are outside the model.
-/

namespace NetworkCopy

/-- The UTF-16 units of a character. -/
def wideUnits (c : Char) : List UInt16 :=
  if c.toNat < 0x10000 then [UInt16.ofNat c.toNat]
  else
    [UInt16.ofNat (0xD800 + (c.toNat - 0x10000) / 0x400),
      UInt16.ofNat (0xDC00 + (c.toNat - 0x10000) % 0x400)]

/-- `OsStr::new`: a text as the units of a name. -/
def osStr (text : String) : List UInt16 := text.toList.flatMap wideUnits

/-- `OsStr::to_str`: the text that a name spells, when its units are well formed. -/
def toStr (name : List UInt16) : Option String :=
  let text := displayPath name
  if osStr text = name then some text else none

/-- Every character is ASCII. -/
def AsciiText (text : List Char) : Prop := ∀ c ∈ text, c.toNat < 128

instance (text : List Char) : Decidable (AsciiText text) :=
  inferInstanceAs (Decidable (∀ c ∈ text, c.toNat < 128))

theorem AsciiText.append {left right : List Char} (hleft : AsciiText left)
    (hright : AsciiText right) : AsciiText (left ++ right) := by
  intro c hc
  cases List.mem_append.mp hc with
  | inl h => exact hleft c h
  | inr h => exact hright c h

theorem wideUnits_ascii {c : Char} (hc : c.toNat < 128) :
    wideUnits c = [UInt16.ofNat c.toNat] := by
  unfold wideUnits
  rw [if_pos (by omega)]

/-- The units of an ASCII text, one for each character. -/
theorem flatMap_wideUnits {text : List Char} (h : AsciiText text) :
    text.flatMap wideUnits = text.map (fun c => UInt16.ofNat c.toNat) := by
  induction text with
  | nil => rfl
  | cons c text ih =>
    rw [List.flatMap_cons, wideUnits_ascii (h c List.mem_cons_self),
      ih (fun d hd => h d (List.mem_cons_of_mem c hd))]
    rfl

/-- Units below the surrogates are displayed one by one. -/
theorem displayUnits_ascii {text : List Char} (h : AsciiText text) :
    displayUnits (text.map (fun c => UInt16.ofNat c.toNat)) = text := by
  induction text with
  | nil => rfl
  | cons c text ih =>
    have hc : c.toNat < 128 := h c List.mem_cons_self
    have hrest := ih (fun d hd => h d (List.mem_cons_of_mem c hd))
    have hunit : (UInt16.ofNat c.toNat).toNat = c.toNat := by
      rw [UInt16.toNat_ofNat']
      omega
    have hlow : ¬ (0xD800 : UInt16) ≤ UInt16.ofNat c.toNat := by
      rw [UInt16.le_iff_toNat_le, hunit]
      show ¬ 55296 ≤ c.toNat
      omega
    cases text with
    | nil => simp [displayUnits, hlow, hunit]
    | cons d text =>
      simp only [List.map_cons] at hrest ⊢
      rw [displayUnits, if_neg (fun hpair => hlow hpair.1), if_neg (fun hhigh => hlow hhigh.1),
        hrest, hunit, Char.ofNat_toNat]

/-- An ASCII name spells its text. -/
theorem toStr_osStr {text : String} (h : AsciiText text.toList) :
    toStr (osStr text) = some text := by
  have hdisplay : displayPath (osStr text) = text := by
    unfold displayPath osStr
    rw [flatMap_wideUnits h, displayUnits_ascii h, String.ofList_toList]
  unfold toStr
  rw [hdisplay]
  exact if_pos rfl

/-- `str::eq_ignore_ascii_case`. -/
def eqIgnoreAsciiCase (left right : String) : Bool :=
  left.toList.map Char.toLower == right.toList.map Char.toLower

/-- `format!("{text:?}")` of a text without control characters. -/
def debugText (text : String) : String :=
  String.ofList ('"' :: text.toList.flatMap
    (fun c => if c = '"' ∨ c = '\\' then ['\\', c] else [c]) ++ ['"'])

/-! ## Paths -/

/-- `path::Component` after the prefix and the root. -/
inductive WinComponent where
  | normal (name : List UInt16)
  | curDir
  | parentDir
  deriving DecidableEq, Repr

/-- `PathBuf`.  The letter of a drive is stored in upper case, as `Prefix` compares it. -/
structure WinPath where
  pathPrefix : Option (List UInt16)
  rooted : Bool
  components : List WinComponent
  deriving DecidableEq, Repr

namespace WinPath

/-- `Path::is_absolute`. -/
def isAbsolute (path : WinPath) : Bool := path.pathPrefix.isSome && path.rooted

/-- `Path::parent`. -/
def parent (path : WinPath) : Option WinPath :=
  if path.components = [] then none
  else some { path with components := path.components.dropLast }

/-- `Path::file_name`. -/
def fileName (path : WinPath) : Option (List UInt16) :=
  match path.components.getLast? with
  | some (.normal name) => some name
  | _ => none

/-- `Path::join` with a single file name. -/
def join (path : WinPath) (name : List UInt16) : WinPath :=
  { path with components := path.components ++ [.normal name] }

/-- The text of a component. -/
def componentText : WinComponent → String
  | .normal name => displayPath name
  | .curDir => "."
  | .parentDir => ".."

/-- `path.display()`. -/
def display (path : WinPath) : String :=
  (path.pathPrefix.map displayPath).getD "" ++ (if path.rooted then "\\" else "") ++
    String.intercalate "\\" (path.components.map componentText)

/-- `format!("{path:?}")`. -/
def debug (path : WinPath) : String := debugText path.display

@[simp] theorem isAbsolute_join (path : WinPath) (name : List UInt16) :
    (path.join name).isAbsolute = path.isAbsolute := rfl

@[simp] theorem parent_join (path : WinPath) (name : List UInt16) :
    (path.join name).parent = some path := by
  simp [parent, join]

@[simp] theorem fileName_join (path : WinPath) (name : List UInt16) :
    (path.join name).fileName = some name := by
  simp [fileName, join]

theorem join_inj {path path' : WinPath} {name name' : List UInt16} :
    path.join name = path'.join name' ↔ path = path' ∧ name = name' := by
  constructor
  · intro h
    have hparent : some path = some path' := by rw [← parent_join path name, h, parent_join]
    have hname : some name = some name' := by rw [← fileName_join path name, h, fileName_join]
    exact ⟨Option.some.inj hparent, Option.some.inj hname⟩
  · intro h
    rw [h.1, h.2]

/-- A path with a parent and a file name is the one in the other. -/
theorem eq_join {path directory : WinPath} {name : List UInt16}
    (hparent : path.parent = some directory) (hname : path.fileName = some name) :
    path = directory.join name := by
  unfold parent at hparent
  split at hparent
  · cases hparent
  · cases hparent
    unfold fileName at hname
    split at hname
    · next found hlast =>
        cases hname
        have hsplit := List.dropLast_append_getLast? _ hlast
        unfold join
        simp only
        rw [hsplit]
    · cases hname

/-- The units of a component in the volume's upper case. -/
def componentKey (upcase : UInt16 → UInt16) : WinComponent → WinComponent
  | .normal name => .normal (name.map upcase)
  | .curDir => .curDir
  | .parentDir => .parentDir

/-- The file that a path names. -/
def key (upcase : UInt16 → UInt16) (path : WinPath) : WinPath :=
  { pathPrefix := path.pathPrefix.map (fun units => units.map upcase)
    rooted := path.rooted
    components := path.components.map (componentKey upcase) }

@[simp] theorem key_join (upcase : UInt16 → UInt16) (path : WinPath) (name : List UInt16) :
    (path.join name).key upcase = (path.key upcase).join (name.map upcase) := by
  simp [key, join, componentKey]

/-- Names of different lengths name different files. -/
theorem key_ne_of_length {upcase : UInt16 → UInt16} {path path' : WinPath}
    {name name' : List UInt16} (hname : path.fileName = some name)
    (hname' : path'.fileName = some name') (hlength : name.length ≠ name'.length) :
    path.key upcase ≠ path'.key upcase := by
  intro hsame
  have hlast : ∀ {p : WinPath} {n : List UInt16}, p.fileName = some n →
      (p.key upcase).fileName = some (n.map upcase) := by
    intro p n hp
    unfold fileName at hp
    split at hp
    · next found hget =>
        cases hp
        simp [fileName, key, List.getLast?_map, hget, componentKey]
    · cases hp
  have hkeys : some (name.map upcase) = some (name'.map upcase) := by
    rw [← hlast hname, hsame, hlast hname']
  apply hlength
  have hlengths := congrArg List.length (Option.some.inj hkeys)
  rw [List.length_map, List.length_map] at hlengths
  exact hlengths

end WinPath

/-- `Path::new(name)` has one component, and it is the file name `name`. -/
def isSingleFileName (name : String) : Bool :=
  let text := name.toList
  let drive := match text with
    | letter :: ':' :: _ => letter.isAlpha
    | _ => false
  text ≠ [] && text ≠ ['.'] && text ≠ ['.', '.'] && !drive &&
    text.all (fun c => c ≠ '/' && c ≠ '\\')

end NetworkCopy
