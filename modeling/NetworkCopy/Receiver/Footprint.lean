import NetworkCopy.Receiver.Session

/-!
# What each call touches

A call changes the files at one path, or at two when it renames, and it never changes a
directory.  `Touches` says so for the call, and the lemmas of the first section say what
the call needs and leaves.

Threads share the destination by owning paths.  `Guarantee own saves thread` is what a
thread does to the rest of the state: outside its own paths it neither makes nor removes
anything, and it uses the journal only while it holds the lock.  `Rely own thread` is what
it can count on when the others keep their guarantees.
-/

namespace NetworkCopy

open Crash ResumeJournal

namespace FileTree

/-- What is at a path: nothing, a directory or a file. -/
def kindAt (files : FileTree) (path : RelativePath) : Option Bool :=
  (files path).map (fun node => match node with
    | .file _ => true
    | .directory => false)

/-- There is no file at a path. -/
def NoFile (files : FileTree) (path : RelativePath) : Prop := files.kindAt path ≠ some true

variable {path : RelativePath}

theorem kindAt_eq_none {files : FileTree} :
    files.kindAt path = none ↔ files path = none := by
  simp [kindAt]

theorem kindAt_eq_true {files : FileTree} :
    files.kindAt path = some true ↔ ∃ node, files path = some (.file node) := by
  unfold kindAt
  rcases files path with _ | node | _ <;> simp

theorem kindAt_eq_false {files : FileTree} :
    files.kindAt path = some false ↔ files path = some .directory := by
  unfold kindAt
  rcases files path with _ | node | _ <;> simp

theorem noFile_of_none {files : FileTree} (h : files path = none) :
    files.NoFile path := by
  rw [NoFile, kindAt_eq_none.mpr h]
  simp

/-- Only the given paths change, and no directory is made or removed. -/
structure Touches (paths : List RelativePath) (files files' : FileTree) : Prop where
  frame : ∀ path, path ∉ paths → files' path = files path
  directories : ∀ path, files' path = some .directory ↔ files path = some .directory

theorem Touches.refl (paths : List RelativePath) (files : FileTree) : Touches paths files files :=
  ⟨fun _ _ => rfl, fun _ => Iff.rfl⟩

theorem touches_set {files : FileTree} {node : Option Node} (h : files path ≠ some .directory)
    (hnode : node ≠ some .directory) :
    Touches [path] files (files.set path node) := by
  constructor
  · intro other hother
    exact set_ne files node (by simpa using hother)
  · intro other
    by_cases hsame : other = path
    · subst hsame
      rw [set_same]
      simp [h, hnode]
    · rw [set_ne files node hsame]

variable {files files' : FileTree}

/-- Outside the touched paths everything is of the same kind. -/
theorem Touches.kindAt {paths : List RelativePath} (h : Touches paths files files')
    (hpath : path ∉ paths) :
    files'.kindAt path = files.kindAt path := by
  rw [FileTree.kindAt, FileTree.kindAt, h.frame path hpath]

/-! ## The calls -/

variable {source destination : RelativePath}

theorem createNew_eq_set {now : Nat} (h : files.createNew path now = .ok files') :
    files path = none ∧ ∃ node, files.set path (some (.file node)) = files' := by
  unfold createNew at h
  split at h
  · rename_i hnone
    cases h
    exact ⟨hnone, _, rfl⟩
  · cases h

theorem store_eq_set {node : FileNode} {content : Bytes} {now : Nat}
    (h : files.store path node content now = .ok files') :
    ∃ node', files.set path (some (.file node')) = files' := by
  unfold store at h
  split at h
  · cases h
    exact ⟨_, rfl⟩
  · cases h

/-- A call that gives a file another content or other metadata. -/
def Rewrites (path : RelativePath) (files files' : FileTree) : Prop :=
  ∃ node node', files path = some (.file node) ∧ files.set path (some (.file node')) = files'

theorem setLen_rewrites {length now : Nat} (h : files.setLen path length now = .ok files') :
    Rewrites path files files' := by
  obtain ⟨node, hopen, hstore⟩ := bind_eq_ok.mp h
  obtain ⟨node', rfl⟩ := store_eq_set hstore
  exact ⟨node, node', openFile_eq_ok.mp hopen, rfl⟩

theorem writeAt_rewrites {offset now : Nat} {bytes : Bytes}
    (h : files.writeAt path offset bytes now = .ok files') :
    Rewrites path files files' := by
  obtain ⟨node, hopen, hstore⟩ := bind_eq_ok.mp h
  obtain ⟨node', rfl⟩ := store_eq_set hstore
  exact ⟨node, node', openFile_eq_ok.mp hopen, rfl⟩

theorem append_rewrites {bytes : Bytes} {now : Nat}
    (h : files.append path bytes now = .ok files') : Rewrites path files files' := by
  obtain ⟨node, hopen, hstore⟩ := bind_eq_ok.mp h
  obtain ⟨node', rfl⟩ := store_eq_set hstore
  exact ⟨node, node', openFile_eq_ok.mp hopen, rfl⟩

theorem restoreFile_rewrites {time : Nat} {attributes : UInt32}
    (h : files.restoreFile path time attributes = .ok files') :
    Rewrites path files files' := by
  obtain ⟨node, hnode, rfl⟩ := Receiver.restoreFile_ok.mp h
  exact ⟨node, _, hnode, rfl⟩

theorem Rewrites.touches (h : Rewrites path files files') : Touches [path] files files' := by
  obtain ⟨node, node', hnode, rfl⟩ := h
  exact touches_set (by simp [hnode]) (by simp)

/-- Nothing is made or removed. -/
theorem Rewrites.kindAt (h : Rewrites path files files') (other : RelativePath) :
    files'.kindAt other = files.kindAt other := by
  by_cases hsame : other = path
  · obtain ⟨node, node', hnode, rfl⟩ := h
    subst hsame
    rw [kindAt_eq_true.mpr ⟨node, hnode⟩]
    exact kindAt_eq_true.mpr ⟨node', set_same _ _ _⟩
  · exact h.touches.kindAt (by simpa using hsame)

theorem replace_eq_set (h : files.replace source destination = .ok files') :
    ∃ node, files source = some (.file node) ∧ files destination ≠ some .directory ∧
      (files.set source none).set destination (some (.file node)) = files' := by
  unfold replace at h
  obtain ⟨node, hopen, h⟩ := bind_eq_ok.mp h
  obtain ⟨_, hdestination, h⟩ := bind_eq_ok.mp h
  rw [pure_eq_ok, Except.ok.injEq] at h
  exact ⟨node, openFile_eq_ok.mp hopen, ensure_eq_ok.mp hdestination, h⟩

theorem replace_touches (h : files.replace source destination = .ok files') :
    Touches [source, destination] files files' := by
  obtain ⟨node, hsource, hdestination, rfl⟩ := replace_eq_set h
  constructor
  · intro path hpath
    simp only [List.mem_cons, List.not_mem_nil, or_false, not_or] at hpath
    rw [set_ne _ _ hpath.2, set_ne _ _ hpath.1]
  · intro path
    by_cases hsame : path = destination
    · subst hsame
      rw [set_same]
      simp [hdestination]
    · rw [set_ne _ _ hsame]
      by_cases hsame' : path = source
      · subst hsame'
        rw [set_same]
        simp [hsource]
      · rw [set_ne _ _ hsame']

theorem removeFile_eq_set (h : files.removeFile path = .ok files') :
    (∃ node, files path = some (.file node)) ∧ files.set path none = files' := by
  obtain ⟨node, hopen, h⟩ := bind_eq_ok.mp h
  rw [pure_eq_ok, Except.ok.injEq] at h
  exact ⟨⟨node, openFile_eq_ok.mp hopen⟩, h⟩

theorem removeFile_touches (h : files.removeFile path = .ok files') :
    Touches [path] files files' := by
  obtain ⟨⟨node, hnode⟩, rfl⟩ := removeFile_eq_set h
  exact touches_set (by simp [hnode]) (by simp)

theorem removeFileIfPresent_eq_ok (h : files.removeFileIfPresent path = .ok files') :
    files' path = none ∧ Touches [path] files files' := by
  unfold removeFileIfPresent at h
  split at h
  · rename_i hnone
    cases h
    exact ⟨hnone, Touches.refl _ _⟩
  · refine ⟨?_, removeFile_touches h⟩
    obtain ⟨_, rfl⟩ := removeFile_eq_set h
    exact set_same _ _ _

theorem createDirectory_eq_ok (h : files.createDirectory path = .ok files') :
    (files path = none ∨ files path = some .directory) ∧
      files.set path (some .directory) = files' := by
  unfold createDirectory at h
  split at h
  · rename_i hnone
    cases h
    exact ⟨.inl hnone, rfl⟩
  · rename_i hdirectory
    cases h
    refine ⟨.inr hdirectory, ?_⟩
    rw [FileTree.set, ← hdirectory, Function.update_eq_self]
  · cases h

theorem createNew_touches {now : Nat} (h : files.createNew path now = .ok files') :
    Touches [path] files files' := by
  obtain ⟨hnone, node, rfl⟩ := createNew_eq_set h
  exact touches_set (by simp [hnone]) (by simp)

/-- A renamed file leaves its old name. -/
theorem replace_source (h : files.replace source destination = .ok files')
    (hne : source ≠ destination) :
    files' source = none := by
  obtain ⟨node, _, _, rfl⟩ := replace_eq_set h
  rw [set_ne _ _ hne, set_same]

theorem replace_destination (h : files.replace source destination = .ok files') :
    ∃ node, files source = some (.file node) ∧ files' destination = some (.file node) := by
  obtain ⟨node, hsource, _, rfl⟩ := replace_eq_set h
  exact ⟨node, hsource, set_same _ _ _⟩

end FileTree

namespace Receiver

/-! ## Sharing the destination -/

/-- What a thread does to what it does not own. -/
structure Guarantee (own : RelativePath → Prop) (saves : Prop) (thread : Nat)
    (before after : Receiver) : Prop where
  directories : ∀ path, after.files path = some .directory ↔ before.files path = some .directory
  frame : ∀ path, ¬ own path → path ≠ journalFileName → path ≠ temporaryJournalFileName →
    after.files.kindAt path = before.files.kindAt path
  completed : after.journal.completedFileIds = before.journal.completedFileIds
  journal : (saves ∧ before.holder = some thread) ∨
    (after.files journalFileName = before.files journalFileName ∧
      after.files temporaryJournalFileName = before.files temporaryJournalFileName ∧
      after.journal = before.journal)
  holder : after.holder = before.holder ∨ (before.holder = none ∧ after.holder = some thread) ∨
    (before.holder = some thread ∧ after.holder = none)
  published : after.files journalFileName = before.files journalFileName ∨
    readAt after.files journalFileName = .ok after.journal

/-- What a thread can count on. -/
structure Rely (own : RelativePath → Prop) (thread : Nat) (before after : Receiver) : Prop where
  directories : ∀ path, before.files path = some .directory → after.files path = some .directory
  own : ∀ path, own path → after.files.kindAt path = before.files.kindAt path
  held : before.holder = some thread → after.holder = some thread ∧
    after.files temporaryJournalFileName = before.files temporaryJournalFileName ∧
    after.journal = before.journal

theorem Rely.refl (own : RelativePath → Prop) (thread : Nat) (state : Receiver) :
    Rely own thread state state :=
  ⟨fun _ h => h, fun _ _ => rfl, fun h => ⟨h, rfl, rfl⟩⟩

theorem Rely.trans {own : RelativePath → Prop} {thread : Nat} {a b c : Receiver}
    (h : Rely own thread a b) (h' : Rely own thread b c) : Rely own thread a c := by
  refine ⟨fun path hpath => h'.directories path (h.directories path hpath), ?_, ?_⟩
  · intro path hpath
    rw [h'.own path hpath, h.own path hpath]
  · intro hheld
    obtain ⟨hb, htemporary, hjournal⟩ := h.held hheld
    obtain ⟨hc, htemporary', hjournal'⟩ := h'.held hb
    exact ⟨hc, htemporary'.trans htemporary, hjournal'.trans hjournal⟩

/-- A thread can rely on threads that own other paths. -/
theorem Guarantee.rely {own other : RelativePath → Prop} {saves : Prop} {thread index : Nat}
    {before after : Receiver} (h : Guarantee other saves index before after) (hne : index ≠ thread)
    (hown : ∀ path, own path → ¬ other path ∧ path ≠ journalFileName ∧
      path ≠ temporaryJournalFileName) : Rely own thread before after := by
  refine ⟨fun path hpath => (h.directories path).mpr hpath, ?_, ?_⟩
  · intro path hpath
    obtain ⟨hother, hjournal, htemporary⟩ := hown path hpath
    exact h.frame path hother hjournal htemporary
  · intro hheld
    have hnot : before.holder ≠ some index := by
      rw [hheld]
      intro hsame
      exact hne (Option.some.inj hsame).symm
    obtain ⟨_, hindex⟩ | ⟨_, htemporary, hjournal⟩ := h.journal
    · exact absurd hindex hnot
    · refine ⟨?_, htemporary, hjournal⟩
      obtain hsame | ⟨hnone, _⟩ | ⟨hindex, _⟩ := h.holder
      · rw [hsame, hheld]
      · rw [hnone] at hheld
        cases hheld
      · exact absurd hindex hnot

section

variable {own : RelativePath → Prop} {saves : Prop} {thread : Nat} {state : Receiver}
  {files : FileTree}

/-- A call on paths that a thread owns. -/
theorem guarantee_of_touches {paths : List RelativePath}
    (h : FileTree.Touches paths state.files files)
    (hpaths : ∀ path ∈ paths, own path ∧ path ≠ journalFileName ∧
      path ≠ temporaryJournalFileName) :
    Guarantee own saves thread state (state.withFiles files) := by
  have hnot : ∀ path, (∀ other ∈ paths, other ≠ path) → files path = state.files path := by
    intro path hpath
    exact h.frame path (fun hmem => hpath path hmem rfl)
  have hjournal := hnot journalFileName (fun other hother => (hpaths other hother).2.1)
  have htemporary := hnot temporaryJournalFileName (fun other hother => (hpaths other hother).2.2)
  refine ⟨h.directories, ?_, rfl, .inr ⟨hjournal, htemporary, rfl⟩, .inl rfl, .inl hjournal⟩
  intro path hown _ _
  apply h.kindAt
  intro hmem
  exact hown (hpaths path hmem).1

/-- A call that only rewrites a file. -/
theorem guarantee_of_rewrites {path : RelativePath}
    (h : FileTree.Rewrites path state.files files) (hjournal : path ≠ journalFileName)
    (htemporary : path ≠ temporaryJournalFileName) :
    Guarantee own saves thread state (state.withFiles files) := by
  have hsame := h.touches.frame journalFileName (by simpa using hjournal.symm)
  have hsame' := h.touches.frame temporaryJournalFileName (by simpa using htemporary.symm)
  exact ⟨h.touches.directories, fun other _ _ _ => h.kindAt other, rfl, .inr ⟨hsame, hsame', rfl⟩,
    .inl rfl, .inl hsame⟩

end

end Receiver

end NetworkCopy
