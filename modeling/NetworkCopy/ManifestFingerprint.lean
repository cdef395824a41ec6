import NetworkCopy.ManifestWire
import NetworkCopy.ResumeState

/-!
# What the fingerprint of a manifest hashes

`summarize_manifest` feeds `hash_bytes` with one byte string: for each entry a kind byte, the units
of the path and, for a file, its numbers.  A path has no length in front and no end behind it, so
the string of a tree says where its paths end only as far as no path can run on into the bytes that
follow another one.
-/

namespace NetworkCopy

open ByteOrder

/-! ## The bytes of a tree -/

/-- An entry of a tree. -/
inductive TreeEntry where
  | directory (entry : DirectoryEntry)
  | file (entry : ManifestEntry)
  deriving DecidableEq

namespace TreeEntry

/-- The kind byte. -/
def kind : TreeEntry → UInt8
  | directory _ => manifestKindDirectory
  | file _ => manifestKindFile

/-- The path. -/
def path : TreeEntry → RelativePath
  | directory entry => entry.relativePath
  | file entry => entry.relativePath

/-- What is hashed behind the path. -/
def numbers : TreeEntry → Bytes
  | directory _ => []
  | file entry => beBytes 8 entry.fileSize ++ beBytes 8 entry.lastWriteTime ++
      beBytes 4 entry.fileAttributes.toNat ++ [classToWire entry.fileClass]

/-- The bytes that `hash_directory_entry` and `hash_manifest_entry` hash. -/
def hashed (entry : TreeEntry) : Bytes := entry.kind :: (unitBytes entry.path ++ entry.numbers)

end TreeEntry

/-- The entries in the order in which they are hashed. -/
def treeEntries (manifest : Manifest) (directories : List DirectoryEntry) : List TreeEntry :=
  directories.map .directory ++ manifest.map .file

/-- The bytes that `summarize_manifest` feeds to `hash_bytes`. -/
def hashedBytes (entries : List TreeEntry) : Bytes := entries.flatMap TreeEntry.hashed

theorem hashBytes_append (hash : Nat) (left right : Bytes) :
    hashBytes hash (left ++ right) = hashBytes (hashBytes hash left) right :=
  List.foldl_append ..

theorem hashedBytes_cons (entry : TreeEntry) (entries : List TreeEntry) :
    hashedBytes (entry :: entries) = entry.hashed ++ hashedBytes entries := by
  rw [hashedBytes, List.flatMap_cons, hashedBytes]

theorem hashedBytes_append (left right : List TreeEntry) :
    hashedBytes (left ++ right) = hashedBytes left ++ hashedBytes right :=
  List.flatMap_append

theorem foldlM_addDirectory_fingerprint {errors : SummaryErrors}
    {directories : List DirectoryEntry} : ∀ {summary summary' : ManifestSummary},
      directories.foldlM (addDirectory errors) summary = .ok summary' →
      summary'.fingerprint =
        hashBytes summary.fingerprint (hashedBytes (directories.map .directory)) := by
  induction directories with
  | nil =>
    intro summary summary' h
    cases h
    rfl
  | cons entry rest ih =>
    intro summary summary' h
    rw [List.foldlM_cons] at h
    obtain ⟨middle, hentry, hrest⟩ := bind_eq_ok.mp h
    obtain ⟨_, hmiddle⟩ := addDirectory_eq_ok hentry
    rw [ih hrest, List.map_cons, hashedBytes_cons, hashBytes_append, hmiddle]
    show hashBytes (hashDirectoryEntry _ _) _ = _
    simp [hashDirectoryEntry, TreeEntry.hashed, TreeEntry.kind, TreeEntry.path,
      TreeEntry.numbers]

theorem foldlM_addEntry_fingerprint {errors : SummaryErrors} {manifest : Manifest} :
    ∀ {summary summary' : ManifestSummary},
      manifest.foldlM (addEntry errors) summary = .ok summary' →
      summary'.fingerprint =
        hashBytes summary.fingerprint (hashedBytes (manifest.map .file)) := by
  induction manifest with
  | nil =>
    intro summary summary' h
    cases h
    rfl
  | cons entry rest ih =>
    intro summary summary' h
    rw [List.foldlM_cons] at h
    obtain ⟨middle, hentry, hrest⟩ := bind_eq_ok.mp h
    obtain ⟨_, _, hmiddle⟩ := addEntry_eq_ok hentry
    rw [ih hrest, List.map_cons, hashedBytes_cons, hashBytes_append, hmiddle]
    show hashBytes (hashManifestEntry _ _) _ = _
    simp [hashManifestEntry, TreeEntry.hashed, TreeEntry.kind, TreeEntry.path,
      TreeEntry.numbers]

/-- The fingerprint is the hash of these bytes. -/
theorem summarizeManifest_fingerprint {manifest : Manifest} {directories : List DirectoryEntry}
    {summary : ManifestSummary} (h : summarizeManifest manifest directories = .ok summary) :
    summary.fingerprint =
      hashBytes fnvOffsetBasis (hashedBytes (treeEntries manifest directories)) := by
  obtain ⟨_, h⟩ := bind_rest h
  obtain ⟨middle, hdirectories, hentries⟩ := bind_eq_ok.mp h
  rw [foldlM_addEntry_fingerprint hentries, foldlM_addDirectory_fingerprint hdirectories,
    treeEntries, hashedBytes_append, hashBytes_append]
  rfl

/-! ## Paths that run on -/

/-- Behind some common entries the trees have two entries of one kind, and the path in the second
tree runs on: its further units are what the first tree has behind its path. -/
def PathRunsOn (entries others : List TreeEntry) : Prop :=
  ∃ common entry rest other units rest',
    entries = common ++ entry :: rest ∧ others = common ++ other :: rest' ∧
      other.kind = entry.kind ∧ units ≠ [] ∧ other.path = entry.path ++ units ∧
      entry.numbers ++ hashedBytes rest = unitBytes units ++ (other.numbers ++ hashedBytes rest')

theorem unitBytes_cons (unit : UInt16) (units : List UInt16) :
    unitBytes (unit :: units) = beBytes 2 unit.toNat ++ unitBytes units := by
  rw [unitBytes, List.flatMap_cons, unitBytes]

theorem unitBytes_append (left right : List UInt16) :
    unitBytes (left ++ right) = unitBytes left ++ unitBytes right := List.flatMap_append

/-- Of two paths at the same place one begins with the other. -/
theorem unitBytes_append_eq {left : List UInt16} : ∀ {right : List UInt16} {after after' : Bytes},
    unitBytes left ++ after = unitBytes right ++ after' →
    (∃ units, right = left ++ units ∧ after = unitBytes units ++ after') ∨
      ∃ units, left = right ++ units ∧ after' = unitBytes units ++ after := by
  induction left with
  | nil =>
    intro right after after' h
    exact .inl ⟨right, rfl, h⟩
  | cons unit left ih =>
    intro right after after' h
    cases right with
    | nil => exact .inr ⟨unit :: left, rfl, h.symm⟩
    | cons unit' right =>
      rw [unitBytes_cons, unitBytes_cons, List.append_assoc, List.append_assoc] at h
      obtain ⟨hunits, hrest⟩ := List.append_inj h (by simp)
      have hunit : unit = unit' := by
        have hvalue := congrArg beValue hunits
        rw [beValue_beBytes 2 _ unit.toNat_lt, beValue_beBytes 2 _ unit'.toNat_lt] at hvalue
        exact UInt16.toNat_inj.mp hvalue
      rw [hunit]
      cases ih hrest with
      | inl hlonger =>
        obtain ⟨units, hright, hafter⟩ := hlonger
        exact .inl ⟨units, by rw [hright, List.cons_append], hafter⟩
      | inr hshorter =>
        obtain ⟨units, hleft, hafter⟩ := hshorter
        exact .inr ⟨units, by rw [hleft, List.cons_append], hafter⟩

/-- The numbers of a kind have one length. -/
theorem TreeEntry.numbers_length {entry other : TreeEntry} (h : entry.kind = other.kind) :
    entry.numbers.length = other.numbers.length := by
  cases entry with
  | directory =>
    cases other with
    | directory => rfl
    | file => cases h
  | file =>
    cases other with
    | directory => cases h
    | file => simp [numbers]

/-- An entry has the kind, the path and the numbers that are hashed. -/
theorem TreeEntry.eq_of_hashed {entry other : TreeEntry} (hkind : entry.kind = other.kind)
    (hpath : entry.path = other.path) (hnumbers : entry.numbers = other.numbers) :
    entry = other := by
  cases entry with
  | directory entry =>
    cases other with
    | directory other =>
      cases entry
      cases other
      cases hpath
      rfl
    | file => cases hkind
  | file entry =>
    cases other with
    | directory => cases hkind
    | file other =>
      obtain ⟨hfront, hclass⟩ := List.append_inj' hnumbers rfl
      obtain ⟨hfront, hattributes⟩ := List.append_inj' hfront (by simp)
      obtain ⟨hsize, htime⟩ := List.append_inj' hfront (by simp)
      have hlt : ∀ {value : Nat}, value < u64Limit → value < 256 ^ 8 := by
        intro value hvalue
        rw [← u64Limit_eq]
        exact hvalue
      have hsizes := congrArg beValue hsize
      rw [beValue_beBytes 8 _ (hlt entry.fileSize_lt),
        beValue_beBytes 8 _ (hlt other.fileSize_lt)] at hsizes
      have htimes := congrArg beValue htime
      rw [beValue_beBytes 8 _ (hlt entry.lastWriteTime_lt),
        beValue_beBytes 8 _ (hlt other.lastWriteTime_lt)] at htimes
      have hwords := congrArg beValue hattributes
      rw [beValue_beBytes 4 _ entry.fileAttributes.toNat_lt,
        beValue_beBytes 4 _ other.fileAttributes.toNat_lt] at hwords
      have hclasses : entry.fileClass = other.fileClass := by
        have hwire := List.singleton_inj.mp hclass
        have hfirst := classFromWire_classToWire entry.fileClass
        rw [hwire, classFromWire_classToWire] at hfirst
        exact (Except.ok.inj hfirst).symm
      have hpaths : entry.relativePath = other.relativePath := hpath
      cases entry
      cases other
      simp only at hsizes htimes hwords hclasses hpaths
      have hattributesEq := UInt32.toNat_inj.mp hwords
      subst hsizes htimes hclasses hpaths hattributesEq
      rfl

/-- Different lists with the same bytes differ in a path that runs on. -/
theorem pathRunsOn_of_hashedBytes {entries : List TreeEntry} :
    ∀ {others : List TreeEntry}, entries ≠ others → hashedBytes entries = hashedBytes others →
      PathRunsOn entries others ∨ PathRunsOn others entries := by
  induction entries with
  | nil =>
    intro others hne h
    cases others with
    | nil => exact absurd rfl hne
    | cons other others => cases h
  | cons entry entries ih =>
    intro others hne h
    cases others with
    | nil => cases h
    | cons other others =>
      rw [hashedBytes_cons, hashedBytes_cons] at h
      simp only [TreeEntry.hashed, List.cons_append, List.append_assoc, List.cons.injEq] at h
      obtain ⟨hkind, h⟩ := h
      by_cases hsame : entry = other
      · -- A common entry: the difference is behind it.
        rw [hsame] at h hne ⊢
        have hrest := List.append_cancel_left (List.append_cancel_left h)
        have hother : entries ≠ others := fun heq => hne (by rw [heq])
        have hextend : ∀ {left right : List TreeEntry}, PathRunsOn left right →
            PathRunsOn (other :: left) (other :: right) := by
          intro left right hruns
          obtain ⟨common, first, rest, second, units, rest', hleft, hright, hruns⟩ := hruns
          exact ⟨other :: common, first, rest, second, units, rest',
            by rw [hleft, List.cons_append], by rw [hright, List.cons_append], hruns⟩
        cases ih hother hrest with
        | inl hruns => exact .inl (hextend hruns)
        | inr hruns => exact .inr (hextend hruns)
      · have hunits : ∀ {units : List UInt16} {left right : TreeEntry}
            {after after' : Bytes}, left ≠ right → left.kind = right.kind →
            right.path = left.path ++ units →
            left.numbers ++ after = unitBytes units ++ (right.numbers ++ after') →
            units ≠ [] := by
          intro units left right after after' hne hkind hpath hbytes hnil
          rw [hnil] at hpath hbytes
          rw [List.append_nil] at hpath
          change left.numbers ++ after = right.numbers ++ after' at hbytes
          obtain ⟨hnumbers, _⟩ := List.append_inj hbytes (TreeEntry.numbers_length hkind)
          exact hne (TreeEntry.eq_of_hashed hkind hpath.symm hnumbers)
        cases unitBytes_append_eq h with
        | inl hlonger =>
          obtain ⟨units, hpath, hbytes⟩ := hlonger
          exact .inl ⟨[], entry, entries, other, units, others, rfl, rfl, hkind.symm,
            hunits hsame hkind hpath hbytes, hpath, hbytes⟩
        | inr hshorter =>
          obtain ⟨units, hpath, hbytes⟩ := hshorter
          exact .inr ⟨[], other, others, entry, units, entries, rfl, rfl, hkind,
            hunits (Ne.symm hsame) hkind.symm hpath hbytes, hpath, hbytes⟩

/-- Where a path runs on, two different lists have the same bytes. -/
theorem PathRunsOn.same {entries others : List TreeEntry} (h : PathRunsOn entries others) :
    entries ≠ others ∧ hashedBytes entries = hashedBytes others := by
  obtain ⟨common, entry, rest, other, units, rest', hentries, hothers, hkind, hunits, hpath,
    hbytes⟩ := h
  constructor
  · intro hsame
    rw [hentries, hothers] at hsame
    have hhead := (List.cons.inj (List.append_cancel_left hsame)).1
    rw [← hhead] at hpath
    exact hunits (List.self_eq_append_right.mp hpath)
  · rw [hentries, hothers, hashedBytes_append, hashedBytes_append, hashedBytes_cons,
      hashedBytes_cons]
    congr 1
    unfold TreeEntry.hashed
    rw [hkind, hpath, unitBytes_append, List.cons_append, List.cons_append, List.append_assoc,
      List.append_assoc, List.append_assoc, hbytes]

/-! ## Which trees the bytes separate -/

/-- A tree is its entries. -/
theorem treeEntries_injective {manifest manifest' : Manifest}
    {directories directories' : List DirectoryEntry}
    (h : treeEntries manifest directories = treeEntries manifest' directories') :
    manifest = manifest' ∧ directories = directories' := by
  have hfiles : ∀ (manifest : Manifest) (directories : List DirectoryEntry),
      (treeEntries manifest directories).filterMap
        (fun entry => match entry with | .file entry => some entry | .directory _ => none) =
        manifest := by
    intro manifest directories
    simp [treeEntries, List.filterMap_append, List.filterMap_map]
  have hdirectories : ∀ (manifest : Manifest) (directories : List DirectoryEntry),
      (treeEntries manifest directories).filterMap
        (fun entry => match entry with | .directory entry => some entry | .file _ => none) =
        directories := by
    intro manifest directories
    simp [treeEntries, List.filterMap_append, List.filterMap_map]
  constructor
  · rw [← hfiles manifest directories, h, hfiles]
  · rw [← hdirectories manifest directories, h, hdirectories]

/-- An entry whose path has no unit that looks like a kind byte or a small number, and whose size
is below `2 ^ 53`. -/
structure TreeEntry.Plain (entry : TreeEntry) : Prop where
  units : ∀ unit ∈ entry.path, 32 ≤ unit.toNat ∧ unit.toNat / 256 ≠ 1 ∧ unit.toNat / 256 ≠ 2
  size : ∀ file, entry = .file file → file.fileSize < 2 ^ 53

theorem leBytes_add (first second value : Nat) :
    leBytes (first + second) value = leBytes first value ++ leBytes second (value / 256 ^ first) := by
  induction first generalizing value with
  | zero => simp [leBytes]
  | succ first ih =>
    rw [Nat.add_right_comm, leBytes, leBytes, ih, List.cons_append, Nat.div_div_eq_div_mul,
      Nat.pow_succ, Nat.mul_comm]

/-- Plain trees are separated. -/
theorem not_pathRunsOn_of_plain {entries others : List TreeEntry}
    (hentries : ∀ entry ∈ entries, entry.Plain) (hothers : ∀ entry ∈ others, entry.Plain) :
    ¬ PathRunsOn entries others := by
  intro h
  obtain ⟨common, entry, rest, other, units, rest', hleft, hright, _, hunits, hpath, hbytes⟩ := h
  obtain ⟨unit, tail, hcons⟩ := List.exists_cons_of_ne_nil hunits
  have hother := hothers other (by rw [hright]; simp)
  have hunit := hother.units unit (by rw [hpath, hcons]; simp)
  have hhigh : beBytes 2 unit.toNat = [UInt8.ofNat (unit.toNat / 256), UInt8.ofNat unit.toNat] := rfl
  rw [hcons, unitBytes_cons, hhigh] at hbytes
  cases entry with
  | directory entry =>
    cases rest with
    | nil => cases hbytes
    | cons next rest =>
      have hkind : next.kind = UInt8.ofNat (unit.toNat / 256) := (List.cons.inj hbytes).1
      have hlt := unit.toNat_lt
      have hvalue : (UInt8.ofNat (unit.toNat / 256)).toNat = unit.toNat / 256 := by
        rw [UInt8.toNat_ofNat']
        omega
      cases next with
      | directory =>
        rw [← hkind] at hvalue
        exact hunit.2.1 hvalue.symm
      | file =>
        rw [← hkind] at hvalue
        exact hunit.2.2 hvalue.symm
  | file entry =>
    have hsize := (hentries (.file entry) (by rw [hleft]; simp)).size entry rfl
    have hsplit : beBytes 8 entry.fileSize =
        beBytes 2 (entry.fileSize / 256 ^ 6) ++ beBytes 6 entry.fileSize := by
      unfold beBytes
      rw [← List.reverse_append, ← leBytes_add]
    have hfirst : beBytes 2 (entry.fileSize / 256 ^ 6) = beBytes 2 unit.toNat := by
      unfold TreeEntry.numbers at hbytes
      simp only [hsplit, List.append_assoc, List.cons_append, List.nil_append] at hbytes
      have htwo : ∀ value, beBytes 2 value = [UInt8.ofNat (value / 256), UInt8.ofNat value] :=
        fun _ => rfl
      rw [htwo, List.cons_append, List.cons_append, List.cons.injEq, List.cons.injEq] at hbytes
      rw [htwo, htwo, hbytes.1, hbytes.2.1]
    have hsmall : entry.fileSize / 256 ^ 6 < 32 := by
      rw [Nat.div_lt_iff_lt_mul (by norm_num)]
      exact hsize.trans_eq (by norm_num)
    have hvalue := congrArg beValue hfirst
    rw [beValue_beBytes 2 _ (hsmall.trans (by norm_num)),
      beValue_beBytes 2 _ unit.toNat_lt] at hvalue
    omega

/-- Different trees with plain entries are fed to the hash function as different bytes. -/
theorem hashedBytes_separates_plain (manifest manifest' : Manifest)
    (directories directories' : List DirectoryEntry)
    (hplain : ∀ entry ∈ treeEntries manifest directories, entry.Plain)
    (hplain' : ∀ entry ∈ treeEntries manifest' directories', entry.Plain)
    (hne : (manifest, directories) ≠ (manifest', directories')) :
    hashedBytes (treeEntries manifest directories) ≠
      hashedBytes (treeEntries manifest' directories') := by
  intro hsame
  have hentries : treeEntries manifest directories ≠ treeEntries manifest' directories' := by
    intro heq
    obtain ⟨rfl, rfl⟩ := treeEntries_injective heq
    exact hne rfl
  rcases pathRunsOn_of_hashedBytes hentries hsame with hruns | hruns
  · exact not_pathRunsOn_of_plain hplain hplain' hruns
  · exact not_pathRunsOn_of_plain hplain' hplain hruns

/-- The directories `a` and `b`, or one directory `ab`. -/
theorem hashedBytes_separates_plain_ab :
    hashedBytes (treeEntries [] [⟨[0x61]⟩, ⟨[0x62]⟩]) ≠
      hashedBytes (treeEntries [] [⟨[0x61, 0x62]⟩]) := by
  have hplain : ∀ path, (∀ unit ∈ path, unit = 0x61 ∨ unit = 0x62) →
      (TreeEntry.directory ⟨path⟩).Plain := by
    refine fun path hpath => ⟨fun unit hunit => ?_, fun _ hfile => by cases hfile⟩
    rcases hpath unit hunit with rfl | rfl <;> decide
  apply hashedBytes_separates_plain
  · simp [treeEntries, hplain]
  · simp [treeEntries, hplain]
  · simp

end NetworkCopy
