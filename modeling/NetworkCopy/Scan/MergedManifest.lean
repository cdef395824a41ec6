import NetworkCopy.Scan.Interleavings

/-!
# The manifest of a scan

The results of the workers together have every file and every directory that can be reached, once,
and different entries have different paths.  So the sorted lists do not depend on the number of
workers or on how they were interleaved.
-/

namespace NetworkCopy

open Exploration

/-! ## Paths -/

/-- A path of names that no separator divides. -/
def FlatNames (path : ScanPath) : Prop := path ≠ [] ∧ ∀ name ∈ path, pathSeparator ∉ name

/-- Different paths below the root are spelled differently. -/
theorem relativePathOf_inj {path path' : ScanPath} (hpath : FlatNames path)
    (hpath' : FlatNames path') (h : relativePathOf path = relativePathOf path') : path = path' := by
  unfold relativePathOf at h
  rw [← List.splitOn_intercalate pathSeparator hpath.2 hpath.1, h,
    List.splitOn_intercalate pathSeparator hpath'.2 hpath'.1]

/-- The order of the encoded paths decides between different paths. -/
theorem utf16_le_antisymm {path path' : RelativePath}
    (h : path.map UInt16.toNat ≤ path'.map UInt16.toNat)
    (h' : path'.map UInt16.toNat ≤ path.map UInt16.toNat) : path = path' := by
  have hinjective : Function.Injective UInt16.toNat := fun _ _ hsame => UInt16.toNat_inj.mp hsame
  exact hinjective.list_map (le_antisymm h h')

/-- What a sort makes of the same entries in another order is the same, when their paths differ. -/
theorem PathSort.run_eq {α : Type} {path : α → RelativePath} (sort : PathSort α path)
    {entries entries' : List α} (hperm : entries.Perm entries')
    (hnodup : (entries.map path).Nodup) : sort.run entries = sort.run entries' := by
  refine List.Perm.eq_of_pairwise ?_ (sort.sorted entries) (sort.sorted entries')
    ((sort.perm entries).trans (hperm.trans (sort.perm entries').symm))
  intro entry entry' hentry hentry' hle hle'
  have hmem : entry ∈ entries := (sort.perm entries).mem_iff.mp hentry
  have hmem' : entry' ∈ entries := hperm.mem_iff.mpr ((sort.perm entries').mem_iff.mp hentry')
  exact List.inj_on_of_nodup_map hnodup hmem hmem' (utf16_le_antisymm hle hle')

/-! ## The entries of the tree -/

namespace DirectoryTree

variable {tree : DirectoryTree}

/-- A file that can be reached, as the manifest has it. -/
def HasFile (tree : DirectoryTree) (entry : ManifestEntry) : Prop :=
  ∃ directory fsEntry, tree.Reaches directory ∧ fsEntry ∈ tree.readDir directory ∧
    fsEntry.isRegularFile = true ∧ entry = manifestEntryOf directory fsEntry

/-- A directory below the root that can be reached, as the result has it. -/
def HasDirectory (tree : DirectoryTree) (entry : DirectoryEntry) : Prop :=
  ∃ directory fsEntry, tree.Reaches directory ∧ fsEntry ∈ tree.readDir directory ∧
    fsEntry.isDirectory = true ∧ entry = ⟨relativePathOf (directory ++ [fsEntry.name])⟩

/-- The names on the way to a directory are names of entries. -/
theorem flat_of_reaches {directory : ScanPath} (h : tree.Reaches directory) :
    ∀ name ∈ directory, pathSeparator ∉ name := by
  induction h with
  | root =>
    intro name hname
    cases hname
  | child _ hchild ih =>
    obtain ⟨entry, _, hentry⟩ := List.mem_map.mp (Multiset.mem_coe.mp hchild)
    intro name hname
    rw [← hentry, List.mem_append, List.mem_singleton] at hname
    cases hname with
    | inl hparent => exact ih name hparent
    | inr hname =>
      rw [hname]
      exact entry.name_flat

theorem flatNames_of_mem {directory path : ScanPath} {keep : FsEntry → Bool}
    (hdirectory : tree.Reaches directory) (h : path ∈ tree.pathsOf keep directory) :
    FlatNames path := by
  obtain ⟨entry, _, hentry⟩ := List.mem_map.mp h
  refine ⟨by rw [← hentry]; simp, fun name hname => ?_⟩
  rw [← hentry, List.mem_append, List.mem_singleton] at hname
  cases hname with
  | inl hparent => exact flat_of_reaches hdirectory name hparent
  | inr hname =>
    rw [hname]
    exact entry.name_flat

/-- The relative paths of some entries of different directories differ. -/
theorem nodup_relativePaths (keep : FsEntry → Bool) {finished : Multiset ScanPath}
    (hnodup : finished.Nodup) (hreaches : ∀ directory ∈ finished, tree.Reaches directory) :
    (finished.bind (fun directory =>
      ((tree.pathsOf keep directory).map relativePathOf : Multiset RelativePath))).Nodup := by
  have hpaths : (finished.bind (fun directory =>
      (tree.pathsOf keep directory : Multiset ScanPath))).Nodup :=
    (Multiset.nodup_cons.mp ((tree.isTree_pathsOf keep).nodup_bind hnodup)).2
  have hsame : finished.bind (fun directory =>
      ((tree.pathsOf keep directory).map relativePathOf : Multiset RelativePath)) =
      (finished.bind (fun directory =>
        (tree.pathsOf keep directory : Multiset ScanPath))).map relativePathOf := by
    rw [Multiset.map_bind]
    rfl
  rw [hsame]
  refine hpaths.map_on ?_
  intro path hpath path' hpath' hequal
  obtain ⟨directory, hdirectory, hmem⟩ := Multiset.mem_bind.mp hpath
  obtain ⟨directory', hdirectory', hmem'⟩ := Multiset.mem_bind.mp hpath'
  exact relativePathOf_inj
    (flatNames_of_mem (hreaches directory hdirectory) (Multiset.mem_coe.mp hmem))
    (flatNames_of_mem (hreaches directory' hdirectory') (Multiset.mem_coe.mp hmem')) hequal

end DirectoryTree

/-! ## The results together -/

theorem sum_found (results : List WorkerResult) :
    (results.map WorkerResult.found).sum =
      ((results.flatMap WorkerResult.manifest : Multiset ManifestEntry),
        (results.flatMap WorkerResult.directories : Multiset DirectoryEntry)) := by
  induction results with
  | nil => rfl
  | cons result rest ih =>
    rw [List.map_cons, List.sum_cons, ih, List.flatMap_cons, List.flatMap_cons,
      ← Multiset.coe_add, ← Multiset.coe_add]
    rfl

theorem sum_tree_found (tree : DirectoryTree) (finished : Multiset ScanPath) :
    (finished.map tree.found).sum =
      (finished.bind (fun directory => (tree.filesOf directory : Multiset ManifestEntry)),
        finished.bind (fun directory =>
          (tree.directoryEntriesOf directory : Multiset DirectoryEntry))) := by
  induction finished using Multiset.induction_on with
  | empty => rfl
  | cons directory finished ih =>
    rw [Multiset.map_cons, Multiset.sum_cons, ih, Multiset.cons_bind, Multiset.cons_bind]
    rfl

/-- The lists of a finished scan are those of the tree. -/
structure ListsTree (tree : DirectoryTree) (manifest : List ManifestEntry)
    (directories : List DirectoryEntry) : Prop where
  files_once : (manifest.map ManifestEntry.relativePath).Nodup
  files : ∀ entry, entry ∈ manifest ↔ tree.HasFile entry
  directories_once : (directories.map DirectoryEntry.relativePath).Nodup
  directories : ∀ entry, entry ∈ directories ↔ tree.HasDirectory entry

theorem listsTree_of_found {tree : DirectoryTree} {finished : Multiset ScanPath}
    {results : List WorkerResult} (hnodup : finished.Nodup)
    (hall : ∀ directory, directory ∈ finished ↔ tree.Reaches directory)
    (hfound : (results.map WorkerResult.found).sum = (finished.map tree.found).sum) :
    ListsTree tree (results.flatMap WorkerResult.manifest)
      (results.flatMap WorkerResult.directories) := by
  rw [sum_found, sum_tree_found, Prod.mk.injEq] at hfound
  obtain ⟨hfiles, hdirectories⟩ := hfound
  have hreaches : ∀ directory ∈ finished, tree.Reaches directory :=
    fun directory hdirectory => (hall directory).mp hdirectory
  refine ⟨?_, ?_, ?_, ?_⟩
  · rw [← Multiset.coe_nodup, ← Multiset.map_coe, hfiles, Multiset.map_bind]
    have hsame : ∀ directory, Multiset.map ManifestEntry.relativePath
        (tree.filesOf directory : Multiset ManifestEntry) =
        ((tree.pathsOf FsEntry.isRegularFile directory).map relativePathOf :
          Multiset RelativePath) := by
      intro directory
      unfold DirectoryTree.filesOf DirectoryTree.pathsOf
      rw [Multiset.map_coe, List.map_map, List.map_map]
      rfl
    simp only [hsame]
    exact DirectoryTree.nodup_relativePaths FsEntry.isRegularFile hnodup hreaches
  · intro entry
    rw [← Multiset.mem_coe, hfiles, Multiset.mem_bind]
    constructor
    · intro hentry
      obtain ⟨directory, hdirectory, hmem⟩ := hentry
      obtain ⟨fsEntry, hfs, hsame⟩ := List.mem_map.mp (Multiset.mem_coe.mp hmem)
      obtain ⟨hread, hkeep⟩ := List.mem_filter.mp hfs
      exact ⟨directory, fsEntry, hreaches directory hdirectory, hread, hkeep, hsame.symm⟩
    · intro hentry
      obtain ⟨directory, fsEntry, hdirectory, hread, hkeep, hsame⟩ := hentry
      refine ⟨directory, (hall directory).mpr hdirectory, Multiset.mem_coe.mpr ?_⟩
      rw [hsame]
      exact List.mem_map.mpr ⟨fsEntry, List.mem_filter.mpr ⟨hread, hkeep⟩, rfl⟩
  · rw [← Multiset.coe_nodup, ← Multiset.map_coe, hdirectories, Multiset.map_bind]
    have hsame : ∀ directory, Multiset.map DirectoryEntry.relativePath
        (tree.directoryEntriesOf directory : Multiset DirectoryEntry) =
        ((tree.pathsOf FsEntry.isDirectory directory).map relativePathOf :
          Multiset RelativePath) := by
      intro directory
      unfold DirectoryTree.directoryEntriesOf
      rw [Multiset.map_coe, List.map_map]
      rfl
    simp only [hsame]
    exact DirectoryTree.nodup_relativePaths FsEntry.isDirectory hnodup hreaches
  · intro entry
    rw [← Multiset.mem_coe, hdirectories, Multiset.mem_bind]
    constructor
    · intro hentry
      obtain ⟨directory, hdirectory, hmem⟩ := hentry
      obtain ⟨path, hpath, hsame⟩ := List.mem_map.mp (Multiset.mem_coe.mp hmem)
      obtain ⟨fsEntry, hfs, hname⟩ := List.mem_map.mp hpath
      obtain ⟨hread, hkeep⟩ := List.mem_filter.mp hfs
      exact ⟨directory, fsEntry, hreaches directory hdirectory, hread, hkeep, by
        rw [← hsame, ← hname]⟩
    · intro hentry
      obtain ⟨directory, fsEntry, hdirectory, hread, hkeep, hsame⟩ := hentry
      refine ⟨directory, (hall directory).mpr hdirectory, Multiset.mem_coe.mpr ?_⟩
      rw [hsame]
      exact List.mem_map.mpr ⟨_, List.mem_map.mpr
        ⟨fsEntry, List.mem_filter.mpr ⟨hread, hkeep⟩, rfl⟩, rfl⟩

/-- Lists with the same entries, each of them once, are in some order the same. -/
theorem perm_of_listsTree {tree : DirectoryTree} {manifest manifest' : List ManifestEntry}
    {directories directories' : List DirectoryEntry} (h : ListsTree tree manifest directories)
    (h' : ListsTree tree manifest' directories') :
    manifest.Perm manifest' ∧ directories.Perm directories' := by
  constructor
  · refine (List.perm_ext_iff_of_nodup h.files_once.of_map h'.files_once.of_map).mpr ?_
    intro entry
    rw [h.files, h'.files]
  · refine (List.perm_ext_iff_of_nodup h.directories_once.of_map
      h'.directories_once.of_map).mpr ?_
    intro entry
    rw [h.directories, h'.directories]

/-- Sorting keeps the entries. -/
theorem ListsTree.sorted {tree : DirectoryTree} {sorts : ScanSorts} {results : List WorkerResult}
    (h : ListsTree tree (results.flatMap WorkerResult.manifest)
      (results.flatMap WorkerResult.directories)) :
    ListsTree tree (mergedManifest sorts results) (mergedDirectories sorts results) where
  files_once := ((sorts.manifest.perm _).map _).nodup_iff.mpr h.files_once
  files := fun entry => (sorts.manifest.perm _).mem_iff.trans (h.files entry)
  directories_once := ((sorts.directories.perm _).map _).nodup_iff.mpr h.directories_once
  directories := fun entry => (sorts.directories.perm _).mem_iff.trans (h.directories entry)

/-! ## The scan -/

namespace ScanSystem

/-- What the scan promises for a number of workers and every interleaving of them. -/
structure ScanCorrect (tree : DirectoryTree) (sorts : ScanSorts) (workerCount : Nat) : Prop where
  /-- No directory goes to two workers. -/
  handed_once : ∀ state, Reached tree workerCount state → state.handed.Nodup
  /-- A worker leaves after a cancellation, or when there is nothing left to do. -/
  none_at_end : ∀ state queue, Reached tree workerCount state →
    state.queue.takeDirectory = (.ok .none, queue) → state.queue.cancelled = true ∨
      (state.queue.pending = [] ∧ state.queue.activeWorkers = 0 ∧
        ∀ worker ∈ state.workers, worker.held = 0)
  take_ok : ∀ state, Reached tree workerCount state →
    ∃ outcome, state.queue.takeDirectory.1 = .ok outcome
  /-- The count of active workers does not underflow. -/
  complete_ok : ∀ state directory discovered result, Reached tree workerCount state →
    ScanWorker.scanned directory discovered result ∈ state.workers →
      (state.queue.completeDirectory discovered).1 = .ok ()
  /-- No worker waits for nothing. -/
  not_stuck : ∀ state, Reached tree workerCount state → NoFailure state.workers →
    (∃ worker ∈ state.workers, worker.CanGoOn) ∨
      ∃ results : List WorkerResult, state.workers = results.map .returned
  lists_tree : ∀ state results, Reached tree workerCount state →
    state.workers = results.map .returned →
      ListsTree tree (mergedManifest sorts results) (mergedDirectories sorts results)
  same_lists : ∀ otherCount state state' results results',
    validateWorkerCount otherCount = .ok () → Reached tree workerCount state →
    Reached tree otherCount state' → state.workers = results.map .returned →
    state'.workers = results'.map .returned →
      mergedManifest sorts results = mergedManifest sorts results' ∧
        mergedDirectories sorts results = mergedDirectories sorts results'
  result : ∀ results scan, finishScan sorts workerCount results = .ok scan →
    scan.manifest = mergedManifest sorts results ∧
      scan.directories = mergedDirectories sorts results

theorem listsTree_of_reached {tree : DirectoryTree} {workerCount : Nat} {state : ScanSystem}
    {results : List WorkerResult} (hcount : validateWorkerCount workerCount = .ok ())
    (h : Reached tree workerCount state) (hreturned : state.workers = results.map .returned) :
    ListsTree tree (results.flatMap WorkerResult.manifest)
      (results.flatMap WorkerResult.directories) := by
  obtain ⟨finished, hnodup, hall, hfound⟩ :=
    (invariant_of_reached (ensure_eq_ok.mp hcount) h).finished hreturned
  exact listsTree_of_found hnodup hall hfound

end ScanSystem

/-- A sort of entries by their paths. -/
def mergeSortByPath {α : Type} (path : α → RelativePath) : PathSort α path where
  run := fun entries => entries.mergeSort (fun left right =>
    decide ((path left).map UInt16.toNat ≤ (path right).map UInt16.toNat))
  perm := fun entries => List.mergeSort_perm entries _
  sorted := by
    intro entries
    have htrans : ∀ first second third : α,
        decide ((path first).map UInt16.toNat ≤ (path second).map UInt16.toNat) = true →
        decide ((path second).map UInt16.toNat ≤ (path third).map UInt16.toNat) = true →
        decide ((path first).map UInt16.toNat ≤ (path third).map UInt16.toNat) = true := by
      intro first second third hfirst hsecond
      exact decide_eq_true (le_trans (of_decide_eq_true hfirst) (of_decide_eq_true hsecond))
    have htotal : ∀ first second : α,
        (decide ((path first).map UInt16.toNat ≤ (path second).map UInt16.toNat) ||
          decide ((path second).map UInt16.toNat ≤ (path first).map UInt16.toNat)) = true := by
      intro first second
      rw [Bool.or_eq_true, decide_eq_true_iff, decide_eq_true_iff]
      exact le_total _ _
    exact (List.pairwise_mergeSort htrans htotal entries).imp of_decide_eq_true

/-- An entry of this name. -/
def sampleFsEntry (name : UInt16) (attributes : UInt32) (h : pathSeparator ≠ name) : FsEntry where
  name := [name]
  fileAttributes := attributes
  isFile := attributes &&& fileAttributeDirectory = 0
  len := 1
  lastWriteTime := 0
  name_ne := List.cons_ne_nil _ _
  name_flat := by simpa using h
  len_lt := one_lt_u64Limit
  lastWriteTime_lt := zero_lt_u64Limit

/-- A file, a directory with another file, and a reparse point. -/
def sampleTree : DirectoryTree where
  readDir := fun directory =>
    if directory = [] then
      [sampleFsEntry 0x61 0 (by decide), sampleFsEntry 0x62 fileAttributeDirectory (by decide),
        sampleFsEntry 0x63 (fileAttributeDirectory + fileAttributeReparsePoint) (by decide)]
    else if directory = [[0x62]] then [sampleFsEntry 0x64 0 (by decide)]
    else []
  names_nodup := by
    intro directory
    split
    · decide
    · split <;> simp

end NetworkCopy
