import NetworkCopy.Lib.Exploration
import NetworkCopy.Scan.DirectoryQueue

/-!
# Every interleaving of the scan

The directories that the workers have completed, hold or left on the queue are an exploration of the
tree, and the number of active workers is the number of held directories.  So a worker leaves only
when there is nothing left, and the results of the workers together list the tree.
-/

namespace NetworkCopy

open Exploration ScanWorker

/-! ## What one scan finds -/

namespace DirectoryTree

variable (tree : DirectoryTree)

/-- The files of a directory, as the manifest lists them. -/
def filesOf (directory : ScanPath) : List ManifestEntry :=
  ((tree.readDir directory).filter FsEntry.isRegularFile).map (manifestEntryOf directory)

/-- The paths of some entries of a directory. -/
def pathsOf (keep : FsEntry → Bool) (directory : ScanPath) : List ScanPath :=
  ((tree.readDir directory).filter keep).map (fun entry => directory ++ [entry.name])

/-- The directories in a directory. -/
abbrev subdirectories (directory : ScanPath) : List ScanPath :=
  tree.pathsOf FsEntry.isDirectory directory

/-- The directories in a directory, as the result of the scan lists them. -/
def directoryEntriesOf (directory : ScanPath) : List DirectoryEntry :=
  (tree.subdirectories directory).map (fun path => ⟨relativePathOf path⟩)

/-- The children of a directory. -/
def children (directory : ScanPath) : Multiset ScanPath := tree.subdirectories directory

/-- The directories that can be reached from the root without crossing a reparse point. -/
abbrev Reaches (directory : ScanPath) : Prop := Reachable tree.children [] directory

/-- What a scan of a directory adds to a result. -/
def found (directory : ScanPath) : Multiset ManifestEntry × Multiset DirectoryEntry :=
  (tree.filesOf directory, tree.directoryEntriesOf directory)

/-- Entries have one parent, and differ from the others in it. -/
theorem isTree_pathsOf (keep : FsEntry → Bool) :
    IsTree (fun directory => (tree.pathsOf keep directory : Multiset ScanPath)) [] where
  siblings := by
    intro directory
    have hnames : (((tree.readDir directory).filter keep).map FsEntry.name).Nodup :=
      (tree.names_nodup directory).sublist (List.filter_sublist.map _)
    have hpaths : tree.pathsOf keep directory =
        (((tree.readDir directory).filter keep).map FsEntry.name).map
          (fun name => directory ++ [name]) := by
      unfold pathsOf
      rw [List.map_map]
      rfl
    rw [Multiset.coe_nodup, hpaths]
    refine hnames.map ?_
    intro name name' hsame
    have htails := List.append_cancel_left hsame
    exact List.head_eq_of_cons_eq htails
  parent := by
    intro directory directory' path hpath hpath'
    obtain ⟨entry, _, hentry⟩ := List.mem_map.mp (Multiset.mem_coe.mp hpath)
    obtain ⟨entry', _, hentry'⟩ := List.mem_map.mp (Multiset.mem_coe.mp hpath')
    exact (List.append_inj' (hentry.trans hentry'.symm) rfl).1
  root_not_child := by
    intro directory hroot
    obtain ⟨entry, _, hentry⟩ := List.mem_map.mp (Multiset.mem_coe.mp hroot)
    simp at hentry

theorem isTree : IsTree tree.children [] := tree.isTree_pathsOf FsEntry.isDirectory

end DirectoryTree

theorem relativePathFromRoot_eq_ok {path : ScanPath} {relativePath : RelativePath}
    (h : relativePathFromRoot path = .ok relativePath) : relativePath = relativePathOf path := by
  unfold relativePathFromRoot at h
  obtain ⟨_, h⟩ := bind_rest h
  cases h
  rfl

/-- What one turn of the loop adds. -/
theorem scanEntry_eq_ok {directory : ScanPath} {scan scan' : DirectoryScan} {entry : FsEntry}
    (h : scanEntry directory scan entry = .ok scan') :
    scan'.manifest = scan.manifest ++
        ([entry].filter FsEntry.isRegularFile).map (manifestEntryOf directory) ∧
      scan'.discoveredDirectories = scan.discoveredDirectories ++
        ([entry].filter FsEntry.isDirectory).map (fun entry => directory ++ [entry.name]) ∧
      scan'.directories = scan.directories ++ ([entry].filter FsEntry.isDirectory).map
        (fun entry => ⟨relativePathOf (directory ++ [entry.name])⟩) := by
  unfold scanEntry at h
  by_cases hreparse : entry.fileAttributes &&& fileAttributeReparsePoint ≠ 0
  · rw [if_pos hreparse] at h
    obtain ⟨skipped, _, h⟩ := bind_eq_ok.mp h
    cases h
    simp [FsEntry.isRegularFile, FsEntry.isDirectory, FsEntry.isReparsePoint, hreparse]
  · rw [if_neg hreparse] at h
    simp only at h
    by_cases hdirectory : entry.fileAttributes &&& fileAttributeDirectory ≠ 0
    · rw [if_pos hdirectory] at h
      obtain ⟨relativePath, hpath, h⟩ := bind_eq_ok.mp h
      cases h
      rw [relativePathFromRoot_eq_ok hpath]
      simp [FsEntry.isRegularFile, FsEntry.isDirectory, FsEntry.isReparsePoint, hreparse,
        hdirectory]
    · rw [if_neg hdirectory] at h
      by_cases hfile : entry.isFile = true
      · rw [if_pos hfile] at h
        obtain ⟨relativePath, hpath, h⟩ := bind_eq_ok.mp h
        cases h
        rw [relativePathFromRoot_eq_ok hpath]
        simp [FsEntry.isRegularFile, FsEntry.isDirectory, FsEntry.isReparsePoint, hreparse,
          hdirectory, hfile, manifestEntryOf]
      · rw [if_neg hfile] at h
        cases h
        simp [FsEntry.isRegularFile, FsEntry.isDirectory, FsEntry.isReparsePoint, hreparse,
          hdirectory, hfile]

theorem scanDirectory_eq_ok {tree : DirectoryTree} {directory : ScanPath} {scan : DirectoryScan}
    (h : scanDirectory tree directory = .ok scan) :
    scan.manifest = tree.filesOf directory ∧
      scan.discoveredDirectories = tree.subdirectories directory ∧
      scan.directories = tree.directoryEntriesOf directory := by
  have hloop : ∀ (entries : List FsEntry) (first last : DirectoryScan),
      entries.foldlM (scanEntry directory) first = .ok last →
        last.manifest = first.manifest ++
            (entries.filter FsEntry.isRegularFile).map (manifestEntryOf directory) ∧
          last.discoveredDirectories = first.discoveredDirectories ++
            (entries.filter FsEntry.isDirectory).map (fun entry => directory ++ [entry.name]) ∧
          last.directories = first.directories ++ (entries.filter FsEntry.isDirectory).map
            (fun entry => ⟨relativePathOf (directory ++ [entry.name])⟩) := by
    intro entries
    induction entries with
    | nil =>
      intro first last hlast
      cases hlast
      simp
    | cons entry rest ih =>
      intro first last hlast
      rw [List.foldlM_cons] at hlast
      obtain ⟨next, hnext, hlast⟩ := bind_eq_ok.mp hlast
      obtain ⟨hfiles, hpaths, hentries⟩ := scanEntry_eq_ok hnext
      obtain ⟨hfiles', hpaths', hentries'⟩ := ih next last hlast
      have hsplit : entry :: rest = [entry] ++ rest := rfl
      refine ⟨?_, ?_, ?_⟩
      · rw [hfiles', hfiles, hsplit, List.filter_append, List.map_append, List.append_assoc]
      · rw [hpaths', hpaths, hsplit, List.filter_append, List.map_append, List.append_assoc]
      · rw [hentries', hentries, hsplit, List.filter_append, List.map_append,
          List.append_assoc]
  obtain ⟨hfiles, hpaths, hentries⟩ := hloop _ _ _ h
  refine ⟨hfiles, hpaths, ?_⟩
  unfold DirectoryTree.directoryEntriesOf DirectoryTree.subdirectories DirectoryTree.pathsOf
  rw [List.map_map]
  exact hentries

/-! ## Sums over the workers -/

/-- What a result has found. -/
def WorkerResult.found (result : WorkerResult) :
    Multiset ManifestEntry × Multiset DirectoryEntry :=
  (result.manifest, result.directories)

namespace ScanWorker

/-- The directory that a worker has taken and not completed. -/
def held : ScanWorker → Multiset ScanPath
  | scanning directory _ => {directory}
  | scanned directory _ _ => {directory}
  | cancelling directory _ => {directory}
  | failed (some directory) _ => {directory}
  | _ => 0

/-- The directory that is in the result of a worker and has not been completed. -/
def merged : ScanWorker → Multiset ScanPath
  | scanned directory _ _ => {directory}
  | _ => 0

/-- What a worker has found. -/
def found : ScanWorker → Multiset ManifestEntry × Multiset DirectoryEntry
  | ready result => result.found
  | waiting result => result.found
  | scanning _ result => result.found
  | scanned _ _ result => result.found
  | returned result => result.found
  | _ => 0

variable (worker : ScanWorker)

@[simp] theorem held_notified : worker.notified.held = worker.held := by
  cases worker <;> rfl

@[simp] theorem merged_notified :
    worker.notified.merged = worker.merged := by
  cases worker <;> rfl

@[simp] theorem found_notified : worker.notified.found = worker.found := by
  cases worker <;> rfl

theorem hasFailed_notified {worker : ScanWorker} : worker.notified.HasFailed ↔ worker.HasFailed := by
  cases worker <;> rfl

theorem card_held_le : worker.held.card ≤ 1 := by
  cases worker with
  | failed directory error => cases directory <;> simp [held]
  | _ => simp [held]

end ScanWorker

/-- The sum over some workers. -/
def total {β : Type} [AddCommMonoid β] (f : ScanWorker → β) (workers : List ScanWorker) : β :=
  (workers.map f).sum

section

variable {β : Type} [AddCommMonoid β] {f : ScanWorker → β}

theorem total_split (left right : List ScanWorker) (worker : ScanWorker) :
    total f (left ++ worker :: right) = f worker + (total f left + total f right) := by
  unfold total
  rw [List.map_append, List.map_cons, List.sum_append, List.sum_cons]
  exact add_left_comm _ _ _

theorem total_notified (h : ∀ worker : ScanWorker, f worker.notified = f worker)
    (workers : List ScanWorker) : total f (workers.map .notified) = total f workers := by
  unfold total
  rw [List.map_map]
  exact congrArg List.sum (List.map_congr_left (fun worker _ => h worker))

end

theorem card_total_held_le (workers : List ScanWorker) :
    (total held workers).card ≤ workers.length := by
  induction workers with
  | nil => simp [total]
  | cons worker rest ih =>
    have hsplit : total held (worker :: rest) =
        worker.held + total held rest := by simp [total]
    rw [hsplit, Multiset.card_add, List.length_cons]
    have hone := worker.card_held_le
    omega

/-! ## The invariant -/

namespace ScanSystem

/-- No worker has an error. -/
def NoFailure (workers : List ScanWorker) : Prop := ∀ worker ∈ workers, ¬ worker.HasFailed

/-- The directories that were handed out are finished or held.  Without cancellation they are an
exploration of the tree, and without an error the workers have found what is in the finished ones. -/
def Accounted (tree : DirectoryTree) (queue : DirectoryQueueState) (workers : List ScanWorker)
    (handed : List ScanPath) (finished : Multiset ScanPath) : Prop :=
  (handed : Multiset ScanPath) = finished + total ScanWorker.held workers ∧
  (queue.cancelled = false →
    Explored tree.children [] finished (total ScanWorker.held workers) queue.pending) ∧
  (NoFailure workers → queue.cancelled = false ∧
    total ScanWorker.found workers =
      ((finished + total ScanWorker.merged workers).map tree.found).sum)

/-- What holds in every state of a scan. -/
structure Invariant (tree : DirectoryTree) (state : ScanSystem) : Prop where
  bounded : 1 ≤ state.workers.length ∧ state.workers.length ≤ maxWorkers
  active : state.queue.activeWorkers = (total ScanWorker.held state.workers).card
  discovered : ∀ directory discovered result,
    ScanWorker.scanned directory discovered result ∈ state.workers →
      discovered = tree.subdirectories directory
  waiting : ∀ result, ScanWorker.waiting result ∈ state.workers →
    state.queue.cancelled = false → state.queue.activeWorkers ≠ 0
  returned : ∀ result, ScanWorker.returned result ∈ state.workers →
    state.queue.cancelled = false → state.queue.pending = [] ∧ state.queue.activeWorkers = 0
  handed_nodup : state.handed.Nodup
  accounted : ∃ finished,
    Accounted tree state.queue state.workers state.handed finished

theorem invariant_start (tree : DirectoryTree) {workerCount : Nat}
    (h : 1 ≤ workerCount ∧ workerCount ≤ maxWorkers) :
    Invariant tree (start workerCount) where
  bounded := by
    unfold start
    rw [List.length_replicate]
    exact h
  active := by simp [start, total, held, DirectoryQueueState.new]
  discovered := by
    intro directory discovered result hmem
    cases (List.mem_replicate.mp hmem).2
  waiting := by
    intro result hmem
    cases (List.mem_replicate.mp hmem).2
  returned := by
    intro result hmem
    cases (List.mem_replicate.mp hmem).2
  handed_nodup := List.nodup_nil
  accounted := by
    refine ⟨0, ?_, ?_, ?_⟩
    · simp [start, total, held]
    · intro _
      have hheld : total held (start workerCount).workers = 0 := by
        simp [start, total, held]
      rw [hheld]
      exact Explored.start tree.children []
    · intro _
      refine ⟨rfl, ?_⟩
      have hempty : WorkerResult.empty.found = 0 := rfl
      simp [start, total, found, merged, hempty]

variable {left right : List ScanWorker}
variable {old new : ScanWorker}

/-- A membership in the workers after one of them has changed. -/
theorem mem_of_replaced {old new worker : ScanWorker} (h : worker ∈ left ++ new :: right)
    (hne : worker ≠ new) :
    worker ∈ left ++ old :: right := by
  rw [List.mem_append, List.mem_cons] at h ⊢
  cases h with
  | inl hleft => exact .inl hleft
  | inr hrest =>
    cases hrest with
    | inl hnew => exact absurd hnew hne
    | inr hright => exact .inr (.inr hright)

theorem noFailure_of_replaced (hold : ¬ old.HasFailed) (h : NoFailure (left ++ new :: right)) :
    NoFailure (left ++ old :: right) := by
  intro worker hworker
  by_cases hsame : worker = old
  · rw [hsame]
    exact hold
  · exact h worker (mem_of_replaced hworker hsame)

variable {workers : List ScanWorker}

theorem noFailure_notified :
    NoFailure (workers.map .notified) ↔ NoFailure workers := by
  unfold NoFailure
  rw [List.forall_mem_map]
  exact forall₂_congr (fun worker _ => not_congr hasFailed_notified)

variable {queue : DirectoryQueueState} {handed : List ScanPath}

/-- A worker moves on without a directory changing hands. -/
theorem Invariant.move {tree : DirectoryTree}
    (h : Invariant tree ⟨queue, left ++ old :: right, handed⟩) (hheld : new.held = old.held)
    (hmerged : new.merged = old.merged) (hfound : new.found = old.found)
    (hfailed : old.HasFailed → new.HasFailed) (hscanned : ∀ directory discovered result,
      new = .scanned directory discovered result → discovered = tree.subdirectories directory)
    (hwaiting : ∀ result, new = .waiting result → queue.cancelled = false →
      queue.activeWorkers ≠ 0)
    (hreturned : ∀ result, new = .returned result → queue.cancelled = false →
      queue.pending = [] ∧ queue.activeWorkers = 0) :
    Invariant tree ⟨queue, left ++ new :: right, handed⟩ := by
  have hsame : ∀ {β : Type} [AddCommMonoid β] {f : ScanWorker → β}, f new = f old →
      total f (left ++ new :: right) = total f (left ++ old :: right) := by
    intro β _ f hf
    rw [total_split, total_split, hf]
  refine ⟨?_, ?_, ?_, ?_, ?_, h.handed_nodup, ?_⟩
  · have hbounded := h.bounded
    simp only [List.length_append, List.length_cons] at hbounded ⊢
    exact hbounded
  · rw [hsame hheld]
    exact h.active
  · intro directory discovered result hmem
    by_cases hnew : ScanWorker.scanned directory discovered result = new
    · exact hscanned directory discovered result hnew.symm
    · exact h.discovered directory discovered result (mem_of_replaced hmem hnew)
  · intro result hmem
    by_cases hnew : ScanWorker.waiting result = new
    · exact hwaiting result hnew.symm
    · exact h.waiting result (mem_of_replaced hmem hnew)
  · intro result hmem
    by_cases hnew : ScanWorker.returned result = new
    · exact hreturned result hnew.symm
    · exact h.returned result (mem_of_replaced hmem hnew)
  · obtain ⟨finished, hhanded, hexplored, hresults⟩ := h.accounted
    refine ⟨finished, ?_, ?_, ?_⟩
    · rw [hsame hheld]
      exact hhanded
    · rw [hsame hheld]
      exact hexplored
    · intro hnone
      rw [hsame hfound, hsame hmerged]
      apply hresults
      refine noFailure_of_replaced (fun hold => ?_) hnone
      exact hnone new (List.mem_append_right _ List.mem_cons_self) (hfailed hold)

/-- A notification. -/
theorem Invariant.notify {tree : DirectoryTree} (h : Invariant tree ⟨queue, workers, handed⟩) :
    Invariant tree ⟨queue, workers.map .notified, handed⟩ := by
  obtain ⟨finished, hhanded, hexplored, hresults⟩ := h.accounted
  refine ⟨?_, ?_, ?_, ?_, ?_, h.handed_nodup, finished, ?_, ?_, ?_⟩
  · rw [List.length_map]
    exact h.bounded
  · rw [total_notified held_notified]
    exact h.active
  · intro directory discovered result hmem
    obtain ⟨worker, hworker, hnotified⟩ := List.mem_map.mp hmem
    cases worker with
    | scanned directory' discovered' result' =>
      cases hnotified
      exact h.discovered _ _ _ hworker
    | _ => cases hnotified
  · intro result hmem
    obtain ⟨worker, _, hnotified⟩ := List.mem_map.mp hmem
    cases worker <;> cases hnotified
  · intro result hmem
    obtain ⟨worker, hworker, hnotified⟩ := List.mem_map.mp hmem
    cases worker with
    | returned result' =>
      cases hnotified
      exact h.returned _ hworker
    | _ => cases hnotified
  · rw [total_notified held_notified]
    exact hhanded
  · rw [total_notified held_notified]
    exact hexplored
  · rw [noFailure_notified, total_notified found_notified,
      total_notified merged_notified]
    exact hresults

/-- A cancellation, when a worker has an error. -/
theorem Invariant.cancel {tree : DirectoryTree} (h : Invariant tree ⟨queue, workers, handed⟩)
    (hfailed : ¬ NoFailure workers) :
    Invariant tree ⟨queue.cancel, workers, handed⟩ := by
  obtain ⟨finished, hhanded, _, _⟩ := h.accounted
  refine ⟨h.bounded, h.active, h.discovered, ?_, ?_, h.handed_nodup, finished, hhanded, ?_, ?_⟩
  · intro result _ hcancelled
    cases hcancelled
  · intro result _ hcancelled
    cases hcancelled
  · intro hcancelled
    cases hcancelled
  · intro hnone
    exact absurd hnone hfailed

theorem noFailure_not {worker : ScanWorker} (h : worker.HasFailed) :
    ¬ NoFailure (left ++ worker :: right) :=
  fun hnone => hnone worker (List.mem_append_right _ List.mem_cons_self) h

/-- A worker that fails keeps its directory. -/
theorem Invariant.fail {tree : DirectoryTree}
    (h : Invariant tree ⟨queue, left ++ old :: right, handed⟩) (hheld : new.held = old.held)
    (hfailed : new.HasFailed) : Invariant tree ⟨queue, left ++ new :: right, handed⟩ := by
  obtain ⟨finished, hhanded, hexplored, _⟩ := h.accounted
  have hsame : total held (left ++ new :: right) =
      total held (left ++ old :: right) := by
    rw [total_split, total_split, hheld]
  refine ⟨?_, ?_, ?_, ?_, ?_, h.handed_nodup, finished, ?_, ?_, ?_⟩
  · have hbounded := h.bounded
    simp only [List.length_append, List.length_cons] at hbounded ⊢
    exact hbounded
  · rw [hsame]
    exact h.active
  · intro directory discovered result hmem
    refine h.discovered directory discovered result (mem_of_replaced hmem ?_)
    intro hnew
    rw [← hnew] at hfailed
    exact hfailed
  · intro result hmem
    refine h.waiting result (mem_of_replaced hmem ?_)
    intro hnew
    rw [← hnew] at hfailed
    exact hfailed
  · intro result hmem
    refine h.returned result (mem_of_replaced hmem ?_)
    intro hnew
    rw [← hnew] at hfailed
    exact hfailed
  · rw [hsame]
    exact hhanded
  · rw [hsame]
    exact hexplored
  · intro hnone
    exact absurd hnone (noFailure_not hfailed)

/-! ### Taking, scanning and completing -/

variable {directory : ScanPath} {result : WorkerResult}

/-- A worker that can take a directory, and the count of the active ones does not overflow. -/
theorem Invariant.active_lt {tree : DirectoryTree} {state : ScanSystem}
    (h : Invariant tree state) : state.queue.activeWorkers + 1 < u64Limit := by
  have hcard := card_total_held_le state.workers
  have hbounded := h.bounded
  rw [h.active]
  have hmost := hbounded.2
  unfold maxWorkers at hmost
  unfold u64Limit
  omega

/-- The first directory of the queue goes to a worker. -/
theorem Invariant.takes {tree : DirectoryTree} {rest handed : List ScanPath}
    {activeWorkers : Nat} (h : Invariant tree ⟨⟨directory :: rest, activeWorkers, false⟩,
      left ++ .ready result :: right, handed⟩) :
    Invariant tree ⟨⟨rest, activeWorkers + 1, false⟩,
      left ++ .scanning directory result :: right, handed ++ [directory]⟩ := by
  obtain ⟨finished, hhanded, hexplored, hresults⟩ := h.accounted
  have hold : total held (left ++ .ready result :: right) =
      total held left + total held right := by
    rw [total_split]
    exact zero_add _
  have hnew : total held (left ++ .scanning directory result :: right) =
      directory ::ₘ total held (left ++ .ready result :: right) := by
    rw [total_split, hold]
    exact Multiset.singleton_add _ _
  have hstart : Explored tree.children [] finished
      (total held (left ++ .ready result :: right)) (directory ::ₘ ↑rest) :=
    hexplored rfl
  have htaken := hstart.take
  have hall : ((handed ++ [directory] : List ScanPath) : Multiset ScanPath) =
      finished + total held (left ++ .scanning directory result :: right) := by
    rw [hnew, ← Multiset.coe_add, hhanded, Multiset.coe_singleton, add_assoc,
      add_comm (total held _), Multiset.singleton_add]
  refine ⟨?_, ?_, ?_, ?_, ?_, ?_, finished, hall, ?_, ?_⟩
  · have hbounded := h.bounded
    simp only [List.length_append, List.length_cons] at hbounded ⊢
    exact hbounded
  · have hactive := h.active
    simp only at hactive ⊢
    rw [hnew, Multiset.card_cons, hactive]
  · intro directory' discovered result' hmem
    exact h.discovered _ _ _ (mem_of_replaced hmem (by simp))
  · intro _ _ _
    exact Nat.succ_ne_zero _
  · intro result' hmem
    have hempty := (h.returned result' (mem_of_replaced hmem (by simp)) rfl).1
    cases hempty
  · rw [← Multiset.coe_nodup, hall, hnew]
    exact Multiset.nodup_of_le (Multiset.le_add_right _ _) htaken.nodup
  · intro _
    rw [hnew]
    exact htaken
  · intro hnone
    have hbefore : NoFailure (left ++ .ready result :: right) :=
      noFailure_of_replaced (fun hfailed => hfailed) hnone
    refine ⟨rfl, ?_⟩
    rw [total_split, total_split]
    have hfound := (hresults hbefore).2
    rw [total_split, total_split] at hfound
    exact hfound

/-- A worker adds the scan of its directory to its result. -/
theorem Invariant.scans {tree : DirectoryTree} {result result' : WorkerResult}
    {scan : DirectoryScan}
    (h : Invariant tree ⟨queue, left ++ .scanning directory result :: right, handed⟩)
    (hscan : scanDirectory tree directory = .ok scan)
    (hresult : result.extend scan = .ok result') :
    Invariant tree ⟨queue,
      left ++ .scanned directory scan.discoveredDirectories result' :: right, handed⟩ := by
  obtain ⟨hfiles, hpaths, hentries⟩ := scanDirectory_eq_ok hscan
  have hextended : result'.found = result.found + tree.found directory := by
    unfold WorkerResult.extend at hresult
    obtain ⟨_, hresult⟩ := bind_rest hresult
    obtain ⟨_, hresult⟩ := bind_rest hresult
    cases hresult
    unfold WorkerResult.found DirectoryTree.found
    rw [hfiles, hentries]
    rfl
  obtain ⟨finished, hhanded, hexplored, hresults⟩ := h.accounted
  have hsame : total held
      (left ++ .scanned directory scan.discoveredDirectories result' :: right) =
        total held (left ++ .scanning directory result :: right) := by
    rw [total_split, total_split]
    rfl
  refine ⟨?_, ?_, ?_, ?_, ?_, h.handed_nodup, finished, ?_, ?_, ?_⟩
  · have hbounded := h.bounded
    simp only [List.length_append, List.length_cons] at hbounded ⊢
    exact hbounded
  · rw [hsame]
    exact h.active
  · intro directory' discovered result'' hmem
    by_cases hnew : scanned directory' discovered result'' =
        .scanned directory scan.discoveredDirectories result'
    · cases hnew
      exact hpaths
    · exact h.discovered _ _ _ (mem_of_replaced hmem hnew)
  · intro result'' hmem
    exact h.waiting result'' (mem_of_replaced hmem (by simp))
  · intro result'' hmem
    exact h.returned result'' (mem_of_replaced hmem (by simp))
  · rw [hsame]
    exact hhanded
  · rw [hsame]
    exact hexplored
  · intro hnone
    have hbefore : NoFailure (left ++ .scanning directory result :: right) :=
      noFailure_of_replaced (fun hfailed => hfailed) hnone
    obtain ⟨hlive, hfound⟩ := hresults hbefore
    refine ⟨hlive, ?_⟩
    rw [total_split, total_split] at hfound ⊢
    have hmerged : merged (.scanning directory result) = 0 := rfl
    have hmerged' : merged
        (.scanned directory scan.discoveredDirectories result') = {directory} := rfl
    have hold : found (.scanning directory result) = result.found := rfl
    have hnew : found (.scanned directory scan.discoveredDirectories result') =
        result'.found := rfl
    rw [hmerged, hold, zero_add] at hfound
    rw [hmerged', hnew, hextended, Multiset.map_add, Multiset.sum_add, Multiset.map_add,
      Multiset.sum_add, Multiset.map_singleton, Multiset.sum_singleton]
    rw [Multiset.map_add, Multiset.sum_add] at hfound
    calc result.found + tree.found directory +
          (total found left + total found right)
        = result.found + (total found left + total found right) +
            tree.found directory := add_right_comm _ _ _
      _ = (finished.map tree.found).sum +
            ((total merged left + total merged right).map
              tree.found).sum + tree.found directory := by rw [hfound]
      _ = _ := by rw [add_assoc, add_comm _ (tree.found directory)]

/-- A worker completes its directory. -/
theorem Invariant.completes {tree : DirectoryTree} {handed discovered : List ScanPath}
    (h : Invariant tree ⟨queue, left ++ .scanned directory discovered result :: right, handed⟩) :
    ∃ activeWorkers, queue.activeWorkers = activeWorkers + 1 ∧
      Invariant tree ⟨{ queue with
          activeWorkers
          pending := if queue.cancelled then queue.pending else queue.pending ++ discovered },
        left.map .notified ++ .ready result :: right.map .notified, handed⟩ := by
  obtain ⟨finished, hhanded, hexplored, hresults⟩ := h.accounted
  have hdiscovered : discovered = tree.subdirectories directory :=
    h.discovered directory discovered result (List.mem_append_right _ List.mem_cons_self)
  have hold : total held (left ++ .scanned directory discovered result :: right) =
      directory ::ₘ (total held left + total held right) := by
    rw [total_split]
    exact Multiset.singleton_add _ _
  have hnew : total held
      (left.map .notified ++ .ready result :: right.map .notified) =
        total held left + total held right := by
    rw [total_split, total_notified held_notified,
      total_notified held_notified]
    exact zero_add _
  have hworkers : left.map .notified ++ ready result :: right.map .notified =
      (left ++ .ready result :: right).map .notified := by
    rw [List.map_append, List.map_cons]
    rfl
  have hactive := h.active
  simp only at hactive hhanded hexplored
  rw [hold, Multiset.card_cons] at hactive
  rw [hold] at hhanded hexplored
  refine ⟨_, hactive, ?_, ?_, ?_, ?_, ?_, h.handed_nodup, directory ::ₘ finished, ?_, ?_, ?_⟩
  · have hbounded := h.bounded
    simp only [List.length_append, List.length_cons, List.length_map] at hbounded ⊢
    exact hbounded
  · simp only
    rw [hnew]
  · intro directory' discovered' result' hmem
    rw [hworkers] at hmem
    obtain ⟨worker, hworker, hnotified⟩ := List.mem_map.mp hmem
    cases worker with
    | scanned other found result'' =>
      cases hnotified
      exact h.discovered _ _ _ (mem_of_replaced hworker (by simp))
    | _ => cases hnotified
  · intro result' hmem
    rw [hworkers] at hmem
    obtain ⟨worker, _, hnotified⟩ := List.mem_map.mp hmem
    cases worker <;> cases hnotified
  · intro result' hmem hlive
    rw [hworkers] at hmem
    obtain ⟨worker, hworker, hnotified⟩ := List.mem_map.mp hmem
    cases worker with
    | returned result'' =>
      cases hnotified
      have hidle := (h.returned _ (mem_of_replaced hworker (by simp)) hlive).2
      exact absurd (hactive.symm.trans hidle) (Nat.succ_ne_zero _)
    | _ => cases hnotified
  · rw [hnew, hhanded, Multiset.add_cons, Multiset.cons_add]
  · intro hlive
    simp only at hlive ⊢
    rw [hnew, hlive, if_neg (by decide), hdiscovered, ← Multiset.coe_add]
    exact (hexplored hlive).finish tree.isTree
  · intro hnone
    rw [hworkers, noFailure_notified] at hnone
    have hbefore : NoFailure (left ++ .scanned directory discovered result :: right) :=
      noFailure_of_replaced (fun hfailed => hfailed) hnone
    obtain ⟨hlive, hfound⟩ := hresults hbefore
    refine ⟨hlive, ?_⟩
    rw [total_split, total_notified found_notified,
      total_notified found_notified, total_split,
      total_notified merged_notified, total_notified merged_notified]
    rw [total_split, total_split] at hfound
    have hmerged : finished + (merged (.scanned directory discovered result) +
        (total merged left + total merged right)) =
        directory ::ₘ finished + (merged (.ready result) +
          (total merged left + total merged right)) := by
      show finished + ({directory} + _) = directory ::ₘ finished + (0 + _)
      rw [zero_add, ← add_assoc, add_comm finished, Multiset.singleton_add]
    rw [← hmerged]
    exact hfound

/-! ### Every step -/

theorem Invariant.step {tree : DirectoryTree} {state state' : ScanSystem}
    (h : Invariant tree state) (hstep : Step tree state state') : Invariant tree state' := by
  cases hstep with
  | take queue left right handed result =>
    have hlt := h.active_lt
    obtain ⟨pending, activeWorkers, cancelled⟩ := queue
    cases cancelled with
    | true =>
      simp only [DirectoryQueueState.takeDirectory, if_true, TakeOutcome.taken,
        List.append_nil]
      exact h.move rfl rfl rfl id (fun _ _ _ hnew => by cases hnew)
        (fun _ hnew => by cases hnew) (fun _ _ hlive => by cases hlive)
    | false =>
      cases pending with
      | cons directory rest =>
        have hadd : checkedAdd activeWorkers 1 = some (activeWorkers + 1) :=
          checkedAdd_eq_some.mpr ⟨hlt, rfl⟩
        simp only [DirectoryQueueState.takeDirectory, hadd, if_neg (Bool.false_ne_true)]
        exact h.takes
      | nil =>
        by_cases hidle : activeWorkers = 0
        · simp only [DirectoryQueueState.takeDirectory, if_neg (Bool.false_ne_true),
            if_pos hidle, TakeOutcome.taken, List.append_nil]
          exact h.move rfl rfl rfl id (fun _ _ _ hnew => by cases hnew)
            (fun _ hnew => by cases hnew) (fun _ _ _ => ⟨rfl, hidle⟩)
        · simp only [DirectoryQueueState.takeDirectory, if_neg (Bool.false_ne_true),
            if_neg hidle, TakeOutcome.taken, List.append_nil]
          exact h.move rfl rfl rfl id (fun _ _ _ hnew => by cases hnew)
            (fun _ _ _ => hidle) (fun _ hnew => by cases hnew)
  | wakes queue left right handed result =>
    exact h.move rfl rfl rfl id (fun _ _ _ hnew => by cases hnew)
      (fun _ hnew => by cases hnew) (fun _ hnew => by cases hnew)
  | scans queue left right handed directory result scan hscan =>
    cases hresult : result.extend scan with
    | ok result' => exact h.scans hscan hresult
    | error error => exact h.fail rfl trivial
  | scanFails queue left right handed directory result error =>
    have hfailing : Invariant tree
        ⟨queue, left ++ .cancelling directory error :: right, handed⟩ := h.fail rfl trivial
    exact hfailing.cancel (noFailure_not trivial)
  | notifies queue left right handed directory error =>
    have hworkers : left.map .notified ++ failed (some directory) error ::
        right.map .notified =
          (left ++ .failed (some directory) error :: right).map .notified := by
      rw [List.map_append, List.map_cons]
      rfl
    rw [hworkers]
    have hfailing : Invariant tree
        ⟨queue, left ++ .failed (some directory) error :: right, handed⟩ := h.fail rfl trivial
    exact hfailing.notify
  | completes queue left right handed directory discovered result hok =>
    obtain ⟨activeWorkers, hactive, hafter⟩ := h.completes
    unfold DirectoryQueueState.completeDirectory
    simp only [hactive]
    exact hafter
  | completionFails queue left right handed directory discovered result error herror =>
    exact h.fail rfl trivial
  | joinCancels queue workers handed directory error hfailed =>
    exact h.cancel (fun hnone => hnone _ hfailed trivial)
  | joinNotifies queue workers handed directory error hfailed => exact h.notify

theorem invariant_of_reached {tree : DirectoryTree} {workerCount : Nat} {state : ScanSystem}
    (hcount : 1 ≤ workerCount ∧ workerCount ≤ maxWorkers) (h : Reached tree workerCount state) :
    Invariant tree state := by
  induction h with
  | refl => exact invariant_start tree hcount
  | tail _ hstep ih => exact ih.step hstep

/-! ### What the invariant says -/

variable {tree : DirectoryTree} {state : ScanSystem}

theorem held_eq_zero_of_total (h : total held workers = 0) {worker : ScanWorker}
    (hworker : worker ∈ workers) :
    worker.held = 0 := by
  obtain ⟨left, right, hsplit⟩ := List.append_of_mem hworker
  rw [hsplit, total_split] at h
  exact (add_eq_zero.mp h).1

/-- A worker that gets no directory finds the scan cancelled, or at its end. -/
theorem Invariant.none_at_end (h : Invariant tree state)
    (hnone : state.queue.takeDirectory = (.ok .none, queue)) :
    state.queue.cancelled = true ∨
      (state.queue.pending = [] ∧ state.queue.activeWorkers = 0 ∧
        ∀ worker ∈ state.workers, worker.held = 0) := by
  unfold DirectoryQueueState.takeDirectory at hnone
  by_cases hcancelled : state.queue.cancelled = true
  · exact .inl hcancelled
  · right
    rw [if_neg hcancelled] at hnone
    split at hnone
    · split at hnone
      · cases hnone
      · cases hnone
    · next hpending =>
        by_cases hidle : state.queue.activeWorkers = 0
        · have hheld := h.active.symm.trans hidle
          rw [Multiset.card_eq_zero] at hheld
          exact ⟨hpending, hidle, fun worker hworker => held_eq_zero_of_total hheld hworker⟩
        · rw [if_neg hidle] at hnone
          cases hnone

theorem Invariant.take_ok (h : Invariant tree state) :
    ∃ outcome, state.queue.takeDirectory.1 = .ok outcome := by
  unfold DirectoryQueueState.takeDirectory
  rw [checkedAdd_eq_some.mpr ⟨h.active_lt, rfl⟩]
  split
  · exact ⟨_, rfl⟩
  · split
    · exact ⟨_, rfl⟩
    · split
      · exact ⟨_, rfl⟩
      · exact ⟨_, rfl⟩

theorem Invariant.complete_ok (h : Invariant tree state) {discovered : List ScanPath}
    (hmem : scanned directory discovered result ∈ state.workers) :
    (state.queue.completeDirectory discovered).1 = .ok () := by
  obtain ⟨left, right, hsplit⟩ := List.append_of_mem hmem
  obtain ⟨queue, workers, handed⟩ := state
  cases hsplit
  obtain ⟨activeWorkers, hactive, _⟩ := h.completes
  unfold DirectoryQueueState.completeDirectory
  simp only [hactive]

/-- Without an error some worker can go on, or all have returned. -/
theorem Invariant.not_stuck (h : Invariant tree state) (hnone : NoFailure state.workers) :
    (∃ worker ∈ state.workers, worker.CanGoOn) ∨
      ∃ results : List WorkerResult, state.workers = results.map .returned := by
  by_cases hgo : ∃ worker ∈ state.workers, worker.CanGoOn
  · exact .inl hgo
  · right
    have hstill : ∀ worker ∈ state.workers, ∃ result,
        worker = .returned result ∨ worker = .waiting result := by
      intro worker hworker
      have hcannot : ¬ worker.CanGoOn := fun hcan => hgo ⟨worker, hworker, hcan⟩
      have hfine := hnone worker hworker
      cases worker with
      | waiting result => exact ⟨result, .inr rfl⟩
      | returned result => exact ⟨result, .inl rfl⟩
      | cancelling directory error => exact absurd trivial hfine
      | failed directory error => exact absurd trivial hfine
      | ready result => exact absurd trivial hcannot
      | scanning directory result => exact absurd trivial hcannot
      | scanned directory discovered result => exact absurd trivial hcannot
    -- A waiting worker waits for an active one, and an active one can go on.
    have hidle : state.queue.activeWorkers = 0 := by
      rw [h.active, Multiset.card_eq_zero]
      unfold total
      rw [List.sum_eq_zero]
      intro value hvalue
      obtain ⟨worker, hworker, hheld⟩ := List.mem_map.mp hvalue
      obtain ⟨result, hresult⟩ := hstill worker hworker
      rw [← hheld]
      cases hresult with
      | inl hreturned => rw [hreturned]; rfl
      | inr hwaiting => rw [hwaiting]; rfl
    obtain ⟨finished, _, _, hresults⟩ := h.accounted
    have hlive := (hresults hnone).1
    have hreturned : ∀ worker ∈ state.workers, ∃ result, worker = .returned result := by
      intro worker hworker
      obtain ⟨result, hresult⟩ := hstill worker hworker
      cases hresult with
      | inl hreturned => exact ⟨result, hreturned⟩
      | inr hwaiting =>
        rw [hwaiting] at hworker
        exact absurd hidle (h.waiting result hworker hlive)
    clear hstill hidle hgo hnone hresults
    generalize state.workers = workers at hreturned
    induction workers with
    | nil => exact ⟨[], rfl⟩
    | cons worker rest ih =>
      obtain ⟨result, hresult⟩ := hreturned worker List.mem_cons_self
      obtain ⟨results, hrest⟩ :=
        ih (fun other hother => hreturned other (List.mem_cons_of_mem _ hother))
      exact ⟨result :: results, by rw [hresult, hrest, List.map_cons]⟩

/-- When all workers have returned, every directory that can be reached is finished, once, and the
results have found what is in them. -/
theorem Invariant.finished {results : List WorkerResult} (h : Invariant tree state)
    (hreturned : state.workers = results.map .returned) :
    ∃ finished : Multiset ScanPath, finished.Nodup ∧
      (∀ directory, directory ∈ finished ↔ tree.Reaches directory) ∧
      ((results.map WorkerResult.found).sum) = (finished.map tree.found).sum := by
  have hzero : ∀ {β : Type} [AddCommMonoid β] {f : ScanWorker → β},
      (∀ result, f (.returned result) = 0) → total f state.workers = 0 := by
    intro β _ f hf
    unfold total
    apply List.sum_eq_zero
    intro value hvalue
    rw [hreturned, List.map_map] at hvalue
    obtain ⟨result, _, hresult⟩ := List.mem_map.mp hvalue
    exact hresult.symm.trans (hf result)
  have hnone : NoFailure state.workers := by
    intro worker hworker
    rw [hreturned] at hworker
    obtain ⟨result, _, hresult⟩ := List.mem_map.mp hworker
    rw [← hresult]
    exact fun hfailed => hfailed
  obtain ⟨finished, _, hexplored, hresults⟩ := h.accounted
  obtain ⟨hlive, hfound⟩ := hresults hnone
  obtain ⟨worker, hworker⟩ : ∃ worker, worker ∈ state.workers :=
    List.exists_mem_of_length_pos h.bounded.1
  obtain ⟨result, hmem⟩ : ∃ result, ScanWorker.returned result ∈ state.workers := by
    have hworker' := hworker
    rw [hreturned] at hworker'
    obtain ⟨result, _, hresult⟩ := List.mem_map.mp hworker'
    exact ⟨result, by rw [hresult]; exact hworker⟩
  have hpending := (h.returned result hmem hlive).1
  have hdone := hexplored hlive
  have hheld : total ScanWorker.held state.workers = 0 := hzero (fun _ => rfl)
  have hmerged : total ScanWorker.merged state.workers = 0 := hzero (fun _ => rfl)
  rw [hheld, hpending] at hdone
  obtain ⟨hnodup, hall⟩ := hdone.done
  refine ⟨finished, hnodup, hall, ?_⟩
  rw [hmerged, add_zero] at hfound
  rw [← hfound, hreturned]
  unfold total
  rw [List.map_map]
  rfl

end ScanSystem

end NetworkCopy
