import NetworkCopy.Receiver.Footprint

/-!
# Lanes that share the destination

The triple of every program that a lane or a worker of the pool runs.  A thread owns the
final path, the part file and the reconstruction temporary of the files that it receives
as a whole.  Between two files none of its part files and temporaries exists (`Calm`).

A stripe is written into a part file that several lanes share; the write neither makes nor
removes anything.  The checkpoint that follows is made under the lock, and what it
publishes is the journal in memory: nobody else changes the temporary journal between the
time it is read back and the time it is renamed.
-/

namespace NetworkCopy

open Crash FileTree ResumeJournal

namespace Receiver

/-- The directories of all files are there, and there is no file at a hidden path that is
not exempt. -/
structure Calm (manifest : Manifest) (hidden : RelativePath → Prop)
    (exempt : List RelativePath) (state : Receiver) : Prop where
  parents : ∀ entry ∈ manifest, ∀ directory ∈ parentDirectories entry.relativePath,
    state.files directory = some .directory
  hidden : ∀ path, hidden path → path ∉ exempt → state.files.NoFile path

/-- A thread owns what it hides, and the journal is nobody's own. -/
structure Owner (own hidden : RelativePath → Prop) : Prop where
  hidden : ∀ path, hidden path → own path
  journal : ∀ path, own path → path ≠ journalFileName ∧ path ≠ temporaryJournalFileName

section

variable {own hidden : RelativePath → Prop} {saves : Prop} {thread : Nat} {manifest : Manifest}
  {exempt : List RelativePath}
variable {path : RelativePath}
variable {state : Receiver} {files : FileTree}

/-- A program that keeps the thread calm beside the others. -/
abbrev Calmly {α : Type} (own hidden : RelativePath → Prop) (saves : Prop) (thread : Nat)
    (manifest : Manifest) (exempt : List RelativePath) (p : Program α) : Prop :=
  p.Triple (Rely hidden thread) (Guarantee own saves thread) (Calm manifest hidden exempt)
    (fun _ => Calm manifest hidden exempt)

theorem calm_stable :
    Prog.Stable (Rely hidden thread) (Calm manifest hidden exempt) := by
  intro before after hrely h
  refine ⟨fun entry hentry directory hdirectory =>
    hrely.directories directory (h.parents entry hentry directory hdirectory), ?_⟩
  intro path hpath hexempt
  rw [NoFile, hrely.own path hpath]
  exact h.hidden path hpath hexempt

/-- A call leaves a thread calm when every hidden path that it touches is exempt or free
afterwards. -/
theorem Calm.touches {exempt' paths : List RelativePath} (h : Calm manifest hidden exempt state)
    (htouches : Touches paths state.files files)
    (hexempt : ∀ path, path ∉ exempt' → path ∈ exempt → files.NoFile path)
    (hpaths : ∀ path ∈ paths, hidden path → path ∉ exempt' → files.NoFile path) :
    Calm manifest hidden exempt' (state.withFiles files) := by
  refine ⟨fun entry hentry directory hdirectory =>
    (htouches.directories directory).mpr (h.parents entry hentry directory hdirectory), ?_⟩
  intro path hpath hnot
  by_cases hmem : path ∈ paths
  · exact hpaths path hmem hpath hnot
  · by_cases hold : path ∈ exempt
    · exact hexempt path hnot hold
    · rw [withFiles_files, NoFile, htouches.kindAt hmem]
      exact h.hidden path hpath hold

theorem Calm.rewrites (h : Calm manifest hidden exempt state)
    (hrewrites : Rewrites path state.files files) :
    Calm manifest hidden exempt (state.withFiles files) := by
  refine ⟨fun entry hentry directory hdirectory =>
    (hrewrites.touches.directories directory).mpr (h.parents entry hentry directory hdirectory),
    ?_⟩
  intro other hother hnot
  rw [withFiles_files, NoFile, hrewrites.kindAt]
  exact h.hidden other hother hnot

/-- A thread goes on in what the others leave. -/
theorem rely_bind {α β : Type} {p : Program α} {f : α → Program β}
    {G : Receiver → Receiver → Prop} {P : Receiver → Prop} {Q : α → Receiver → Prop}
    {T : β → Receiver → Prop} (h : p.Triple (Rely hidden thread) G P Q)
    (hnext : ∀ value, (f value).Triple (Rely hidden thread) G (Q value) T) :
    (p >>= f).Triple (Rely hidden thread) G P T :=
  Prog.Triple.bind (Rely.refl hidden thread) h hnext

/-! ## Calls on a temporary -/

variable {change : FileTree → Nat → IoResult FileTree}

/-- A new temporary is exempt until it gets its final name. -/
theorem createNew_triple (howner : Owner own hidden) (hown : own path) :
    (createNew path).Triple (Rely hidden thread) (Guarantee own saves thread)
      (Calm manifest hidden []) (fun _ => Calm manifest hidden [path]) := by
  apply triple_change (calm_stable) (calm_stable)
  intro state files hcalm hfiles
  have htouches := createNew_touches hfiles
  refine ⟨.inr (guarantee_of_touches htouches ?_), hcalm.touches htouches ?_ ?_⟩
  · intro other hother
    rw [List.mem_singleton] at hother
    rw [hother]
    exact ⟨hown, howner.journal path hown⟩
  · intro other _ hother
    cases hother
  · intro other hother _ hnot
    exact absurd hother hnot

/-- The rule of a call that rewrites a file which is not a journal. -/
theorem rewrites_triple (hjournal : path ≠ journalFileName ∧ path ≠ temporaryJournalFileName)
    (hchange : ∀ files now files', change files now = .ok files' →
      Rewrites path files files') :
    (Prog.modify (onFiles change)).Triple (Rely hidden thread) (Guarantee own saves thread)
      (Calm manifest hidden exempt) (fun _ => Calm manifest hidden exempt) := by
  apply triple_change (calm_stable) (calm_stable)
  intro state files hcalm hfiles
  have hrewrites := hchange _ _ _ hfiles
  exact ⟨.inr (guarantee_of_rewrites hrewrites hjournal.1 hjournal.2), hcalm.rewrites hrewrites⟩

/-- A temporary gets its final name. -/
theorem replace_triple {path finalPath : RelativePath} (howner : Owner own hidden)
    (hpath : own path) (hfinal : own finalPath) (hvisible : ¬ hidden finalPath)
    (hne : path ≠ finalPath) :
    (replace path finalPath).Triple (Rely hidden thread) (Guarantee own saves thread)
      (Calm manifest hidden [path]) (fun _ => Calm manifest hidden []) := by
  apply triple_change (calm_stable) (calm_stable)
  intro state files hcalm hfiles
  have htouches := replace_touches hfiles
  have hfree : files.NoFile path := noFile_of_none (replace_source hfiles hne)
  refine ⟨.inr (guarantee_of_touches htouches ?_), hcalm.touches htouches ?_ ?_⟩
  · intro other hother
    simp only [List.mem_cons, List.not_mem_nil, or_false] at hother
    rcases hother with rfl | rfl
    · exact ⟨hpath, howner.journal _ hpath⟩
    · exact ⟨hfinal, howner.journal _ hfinal⟩
  · intro other _ hother
    rw [List.mem_singleton] at hother
    rw [hother]
    exact hfree
  · intro other hother hhidden _
    simp only [List.mem_cons, List.not_mem_nil, or_false] at hother
    rcases hother with rfl | rfl
    · exact hfree
    · exact absurd hhidden hvisible

/-- The removal of a temporary, as a cleanup. -/
theorem removeFile_cleanup (howner : Owner own hidden) (hown : own path) :
    (removeFile path).Triple (Rely hidden thread) (Guarantee own saves thread)
      (fun _ => True) (fun _ _ => True) := by
  apply triple_change (fun _ _ _ _ => trivial) (fun _ _ _ _ => trivial)
  intro state files _ hfiles
  refine ⟨.inr (guarantee_of_touches (removeFile_touches hfiles) ?_), trivial⟩
  intro other hother
  rw [List.mem_singleton] at hother
  rw [hother]
  exact ⟨hown, howner.journal path hown⟩

/-- The rule of a check or a look at the files. -/
theorem inspect_triple {α : Type} {f : FileTree → IoResult α} :
    Calmly own hidden saves thread manifest exempt (inspect f) :=
  Prog.triple_query (calm_stable) (fun _ => calm_stable) (fun _ _ h _ => h)

theorem lift_triple {α : Type} {result : IoResult α} :
    Calmly own hidden saves thread manifest exempt (Prog.lift result : Program α) :=
  Prog.triple_lift (fun _ => calm_stable) (fun _ _ _ h => h)

/-- What a passed check says is known from then on. -/
theorem fact_triple {α : Type} {result : IoResult α} {P : α → Prop}
    (h : ∀ a, result = .ok a → P a) :
    (Prog.lift result : Program α).Triple (Rely hidden thread) (Guarantee own saves thread)
      (Calm manifest hidden exempt) (fun a state => P a ∧ Calm manifest hidden exempt state) := by
  apply Prog.triple_lift
  · intro a before after hrely hfact
    exact ⟨hfact.1, calm_stable before after hrely hfact.2⟩
  · intro a hresult state hcalm
    exact ⟨h a hresult, hcalm⟩

/-- A cleanup that removes an owned temporary. -/
theorem onError_triple {α : Type} {p : Program α} {P : Receiver → Prop}
    {Q : α → Receiver → Prop} (howner : Owner own hidden) (hown : own path)
    (h : p.Triple (Rely hidden thread) (Guarantee own saves thread) P Q) :
    (p.onError (removeFile path)).Triple (Rely hidden thread) (Guarantee own saves thread) P Q :=
  h.onError (Rely.refl hidden thread) (S := fun _ => True) (fun _ _ => trivial)
    (fun _ _ _ _ => trivial) (fun _ _ _ _ => trivial) (fun _ _ hguar => hguar)
    (removeFile_cleanup howner hown)

/-! ## Payloads -/

variable {entry : ManifestEntry}
variable {payload : Payload} {fileId : Nat}

theorem receiveChunks_triple
    (hjournal : path ≠ journalFileName ∧ path ≠ temporaryJournalFileName) (base byteCount : Nat) :
    ∀ (chunks : List Bytes) (transferred : Nat) (hashed : Bytes),
      Calmly own hidden saves thread manifest exempt
        (receiveChunks path base byteCount chunks transferred hashed)
  | [], transferred, hashed => by
      unfold receiveChunks
      split
      · exact fun _ _ => trivial
      · exact Prog.triple_ret (calm_stable) (fun _ h => h)
  | chunk :: rest, transferred, hashed => by
      unfold receiveChunks
      split
      · refine rely_bind lift_triple (fun _ => ?_)
        refine rely_bind (rewrites_triple hjournal
          (fun _ _ _ h => writeAt_rewrites h)) (fun _ => ?_)
        exact receiveChunks_triple hjournal base byteCount rest _ _
      · exact Prog.triple_ret (calm_stable) (fun _ h => h)

theorem receivePayload_triple {blake3 : Bytes → Digest}
    (hjournal : path ≠ journalFileName ∧ path ≠ temporaryJournalFileName) {base byteCount : Nat}
    {context : String} :
    Calmly own hidden saves thread manifest exempt
      (receivePayload blake3 path base byteCount context payload) := by
  unfold receivePayload
  exact rely_bind
    (receiveChunks_triple hjournal base byteCount _ _ _) (fun _ => lift_triple)

/-- A thread owns what it needs to receive a file as a whole. -/
structure OwnsFile (own hidden : RelativePath → Prop) (fileId : Nat) (path : RelativePath) :
    Prop where
  final : own path
  visible : ¬ hidden path
  part : own (temporaryPath path fileId)

theorem receiveFile_triple {blake3 : Bytes → Digest} (howner : Owner own hidden)
    (hfile : OwnsFile own hidden fileId entry.relativePath) :
    Calmly own hidden saves thread manifest [] (receiveFile blake3 fileId entry payload) := by
  have hpart := hfile.part
  unfold receiveFile
  refine rely_bind (createNew_triple howner hpart) (fun _ => ?_)
  refine rely_bind (rewrites_triple (howner.journal _ hpart)
    (fun _ _ _ h => setLen_rewrites h)) (fun _ => ?_)
  refine rely_bind (onError_triple howner hpart
    (receivePayload_triple (howner.journal _ hpart))) (fun _ => ?_)
  exact replace_triple howner hpart hfile.final hfile.visible
    (temporaryPath_ne entry.relativePath fileId)

theorem writeVerified_triple {contents : Bytes} (howner : Owner own hidden)
    (hfile : OwnsFile own hidden fileId path) :
    Calmly own hidden saves thread manifest [] (writeVerified fileId path contents) := by
  have hpart := hfile.part
  unfold writeVerified
  refine rely_bind (createNew_triple howner hpart) (fun _ => ?_)
  refine rely_bind (Q := fun _ => Calm manifest hidden [temporaryPath path fileId])
    (onError_triple howner hpart ?_) (fun _ => ?_)
  · exact rely_bind (rewrites_triple (howner.journal _ hpart)
      (fun _ _ _ h => setLen_rewrites h)) (fun _ => rewrites_triple
        (howner.journal _ hpart) (fun _ _ _ h => writeAt_rewrites h))
  · exact replace_triple howner hpart hfile.final hfile.visible (temporaryPath_ne path fileId)

/-- A worker of the pool. -/
theorem materializeTinyFile_triple {contents : Nat → Bytes} (howner : Owner own hidden)
    (hfile : ∀ entry, manifest[fileId]? = some entry →
      OwnsFile own hidden fileId entry.relativePath) :
    Calmly own hidden saves thread manifest [] (materializeTinyFile manifest contents fileId) := by
  unfold materializeTinyFile
  refine rely_bind (fact_triple (fun _ => okOrElse_eq_ok.mp)) (fun entry => ?_)
  rintro state ⟨hentry, hcalm⟩
  refine rely_bind lift_triple (fun _ => ?_) state hcalm
  exact writeVerified_triple howner (hfile entry hentry)

/-- A stripe goes to a part file that nobody makes or removes meanwhile. -/
theorem receiveFileStripe_triple {blake3 : Bytes → Digest} {fileId offset length : Nat} :
    Calmly own hidden saves thread manifest []
      (receiveFileStripe blake3 fileId offset length entry payload) := by
  unfold receiveFileStripe
  refine rely_bind lift_triple (fun _ => ?_)
  refine rely_bind inspect_triple (fun _ => ?_)
  refine rely_bind lift_triple (fun _ => ?_)
  exact receivePayload_triple (temporaryPath_ne_journal entry.relativePath fileId)

/-! ## Reconstruction -/

/-- Making directories that are there changes nothing. -/
theorem createDestinationParent_triple (hentry : entry ∈ manifest) :
    Calmly own hidden saves thread manifest [] (createDestinationParent entry.relativePath) := by
  unfold createDestinationParent
  apply Prog.triple_each (Rely.refl hidden thread) (I := fun _ => Calm manifest hidden [])
    (calm_stable)
  intro directory rest hsuffix
  apply triple_change (calm_stable) (calm_stable)
  intro state files hcalm hfiles
  have hmem : directory ∈ parentDirectories entry.relativePath :=
    hsuffix.subset List.mem_cons_self
  obtain ⟨_, rfl⟩ := createDirectory_eq_ok hfiles
  have hsame : state.files.set directory (some .directory) = state.files := by
    rw [FileTree.set, ← hcalm.parents entry hentry directory hmem, Function.update_eq_self]
  rw [hsame]
  have htouches := Touches.refl [] state.files
  refine ⟨.inr (guarantee_of_touches htouches (by simp)), hcalm.touches htouches ?_ ?_⟩
  · intro path _ hpath
    cases hpath
  · intro path hpath
    cases hpath

theorem reconstructOperations_triple {temporary : RelativePath} {basis : Bytes}
    (hjournal : temporary ≠ journalFileName ∧ temporary ≠ temporaryJournalFileName) :
    ∀ (operations : List ReconstructionOp) (written : Bytes),
      Calmly own hidden saves thread manifest exempt
        (reconstructOperations temporary basis operations written)
  | [], written => by
      unfold reconstructOperations
      exact Prog.triple_ret (calm_stable) (fun _ h => h)
  | .basis offset length :: rest, written => by
      unfold reconstructOperations
      refine rely_bind lift_triple (fun _ => ?_)
      refine rely_bind lift_triple (fun _ => ?_)
      refine rely_bind (rewrites_triple hjournal
        (fun _ _ _ h => writeAt_rewrites h)) (fun _ => ?_)
      exact reconstructOperations_triple hjournal rest _
  | .literal contents :: rest, written => by
      unfold reconstructOperations
      refine rely_bind (rewrites_triple hjournal
        (fun _ _ _ h => writeAt_rewrites h)) (fun _ => ?_)
      exact reconstructOperations_triple hjournal rest _

theorem reconstruct_triple {blake3 : Bytes → Digest} {temporary basisPath : RelativePath}
    {expectedBasisBytes : Nat} {plan : ReconstructionPlan} (howner : Owner own hidden)
    (hentry : entry ∈ manifest) (hown : own temporary) (hfinal : own entry.relativePath)
    (hvisible : ¬ hidden entry.relativePath) (hne : temporary ≠ entry.relativePath) :
    Calmly own hidden saves thread manifest []
      (reconstruct blake3 temporary basisPath entry.relativePath expectedBasisBytes plan) := by
  have hjournal := howner.journal _ hown
  unfold reconstruct
  refine rely_bind (createDestinationParent_triple hentry) (fun _ => ?_)
  refine rely_bind inspect_triple (fun basis => ?_)
  refine rely_bind lift_triple (fun _ => ?_)
  refine rely_bind (createNew_triple howner hown) (fun _ => ?_)
  refine rely_bind (Q := fun _ => Calm manifest hidden [temporary])
    (onError_triple howner hown ?_) (fun _ => ?_)
  · unfold reconstructInto
    refine rely_bind (rewrites_triple hjournal
      (fun _ _ _ h => setLen_rewrites h)) (fun _ => ?_)
    refine rely_bind (reconstructOperations_triple hjournal _ _)
      (fun _ => ?_)
    exact rely_bind lift_triple (fun _ => lift_triple)
  refine rely_bind (onError_triple howner hown
    (replace_triple howner hown hfinal hvisible hne)) (fun _ => ?_)
  exact inspect_triple

theorem applySessionPlan_triple {blake3 : Bytes → Digest} {input : SessionInput}
    {allowed : List Nat} {basisFileId expectedBasisBytes : Nat} {planWire : Bytes}
    (howner : Owner own hidden) (hfile : ∀ entry, manifest[fileId]? = some entry →
      OwnsFile own hidden fileId entry.relativePath ∧
        own (reconstructionTemporary entry.relativePath input.processId
          (input.nanos fileId))) :
    Calmly own hidden saves thread manifest []
      (applySessionPlan blake3 input manifest fileId allowed basisFileId expectedBasisBytes
        planWire) := by
  unfold applySessionPlan
  refine rely_bind (fact_triple (P := fun checked => manifest[fileId]? = some checked.1) ?_)
    (fun checked => ?_)
  · intro checked hchecked
    unfold checkSessionPlan at hchecked
    obtain ⟨target, htarget, hchecked⟩ := bind_eq_ok.mp hchecked
    simp only [bind_eq_ok, pure_eq_ok, Except.ok.injEq] at hchecked
    obtain ⟨_, _, _, _, _, _, _, _, _, _, _, _, _, _, _, _, _, _, _, _, _, _, _, _, _, _,
      rfl⟩ := hchecked
    exact okOrElse_eq_ok.mp htarget
  · rintro state ⟨hentry, hcalm⟩
    obtain ⟨howns, htemporary⟩ := hfile checked.1 hentry
    have hmem : checked.1 ∈ manifest := List.mem_of_getElem? hentry
    have hjournal := howner.journal _ howns.final
    refine rely_bind inspect_triple (fun _ => ?_) state hcalm
    refine rely_bind (reconstruct_triple howner hmem htemporary howns.final
      howns.visible (reconstructionTemporary_ne _ _ _)) (fun _ => ?_)
    exact rewrites_triple hjournal (fun _ _ _ h => restoreFile_rewrites h)

/-! ## Checkpoints -/

variable {journal : ResumeJournal}

/-- The steps of a thread that keeps the lock. -/
def Saving (own : RelativePath → Prop) (saves : Prop) (thread : Nat) (before after : Receiver) :
    Prop :=
  Guarantee own saves thread before after ∧ after.holder = before.holder

/-- A thread that holds the lock, with what the journal in memory is. -/
structure Locked (manifest : Manifest) (hidden : RelativePath → Prop) (thread : Nat)
    (journal : ResumeJournal) (state : Receiver) : Prop where
  calm : Calm manifest hidden [] state
  held : state.holder = some thread
  memory : state.journal = journal

theorem locked_stable (journal : ResumeJournal) :
    Prog.Stable (Rely hidden thread) (Locked manifest hidden thread journal) := by
  intro before after hrely h
  obtain ⟨hheld, _, hjournal⟩ := hrely.held h.held
  exact ⟨calm_stable before after hrely h.calm, hheld, hjournal.trans h.memory⟩

/-- A program that keeps the journal in memory while the thread holds the lock. -/
abbrev Lockedly {α : Type} (own hidden : RelativePath → Prop) (saves : Prop) (thread : Nat)
    (manifest : Manifest) (journal : ResumeJournal) (p : Program α) : Prop :=
  p.Triple (Rely hidden thread) (Saving own saves thread) (Locked manifest hidden thread journal)
    (fun _ => Locked manifest hidden thread journal)

/-- A call on the temporary journal under the lock. -/
theorem Locked.touches (h : Locked manifest hidden thread journal state)
    (howner : Owner own hidden) (hsaves : saves)
    (htouches : Touches [temporaryJournalFileName] state.files files) :
    Saving own saves thread state (state.withFiles files) ∧
      Locked manifest hidden thread journal (state.withFiles files) := by
  have hjournal := htouches.frame journalFileName (by decide)
  refine ⟨⟨⟨htouches.directories, ?_, rfl, .inl ⟨hsaves, h.held⟩, .inl rfl, .inl hjournal⟩, rfl⟩,
    ⟨h.calm.touches htouches ?_ ?_, h.held, h.memory⟩⟩
  · intro path _ _ htemporary
    exact htouches.kindAt (by simpa using htemporary)
  · intro path _ hpath
    cases hpath
  · intro path hpath hhidden _
    rw [List.mem_singleton] at hpath
    exact absurd hpath (howner.journal _ (howner.hidden _ hhidden)).2

/-- The rule of a call on the temporary journal under the lock. -/
theorem temporary_triple (howner : Owner own hidden) (hsaves : saves)
    (hchange : ∀ files now files', change files now = .ok files' →
      Touches [temporaryJournalFileName] files files') :
    Lockedly own hidden saves thread manifest journal (Prog.modify (onFiles change)) := by
  apply triple_change (locked_stable journal) (locked_stable journal)
  intro state files hlocked hfiles
  obtain ⟨hsaving, hafter⟩ := hlocked.touches howner hsaves (hchange _ _ _ hfiles)
  exact ⟨.inr hsaving, hafter⟩

theorem appendAll_triple (howner : Owner own hidden) (hsaves : saves) (fields : List Bytes) :
    Lockedly own hidden saves thread manifest journal
      (Prog.each (append temporaryJournalFileName) fields) := by
  apply Prog.triple_each (Rely.refl hidden thread)
    (I := fun _ => Locked manifest hidden thread journal) (locked_stable journal)
  intro field rest _
  exact temporary_triple howner hsaves (fun _ _ _ h => (append_rewrites h).touches)

theorem writeTo_triple (howner : Owner own hidden) (hsaves : saves) :
    Lockedly own hidden saves thread manifest journal
      (writeTo journal temporaryJournalFileName) := by
  have happend : ∀ bytes, Lockedly own hidden saves thread manifest journal
      (append temporaryJournalFileName bytes) := fun bytes =>
    temporary_triple howner hsaves (fun _ _ _ h => (append_rewrites h).touches)
  have hlift : ∀ result : IoResult Unit, Lockedly own hidden saves thread manifest journal
      (Prog.lift result : Program Unit) := fun result =>
    Prog.triple_lift (fun _ => locked_stable journal) (fun _ _ _ h => h)
  unfold writeTo
  refine rely_bind (appendAll_triple howner hsaves _) (fun _ => ?_)
  refine rely_bind (hlift _) (fun _ => ?_)
  refine rely_bind (happend _) (fun _ => ?_)
  refine rely_bind (hlift _) (fun _ => ?_)
  refine rely_bind (happend _) (fun _ => ?_)
  exact appendAll_triple howner hsaves _

/-- What the rename publishes is the journal in memory. -/
theorem publish_saving (h : Locked manifest hidden thread journal state)
    (howner : Owner own hidden) (hsaves : saves)
    (hread : readAt state.files temporaryJournalFileName = .ok journal)
    (hfiles : state.files.replace temporaryJournalFileName journalFileName = .ok files) :
    Saving own saves thread state (state.withFiles files) ∧
      Locked manifest hidden thread journal (state.withFiles files) := by
  have htouches := replace_touches hfiles
  obtain ⟨node, hsource, hdestination⟩ := replace_destination hfiles
  have hpublished : readAt files journalFileName = .ok state.journal := by
    rw [h.memory]
    unfold readAt at hread ⊢
    rw [openFile_eq_ok.mpr hsource] at hread
    rw [openFile_eq_ok.mpr hdestination]
    exact hread
  refine ⟨⟨⟨htouches.directories, ?_, rfl, .inl ⟨hsaves, h.held⟩, .inl rfl, .inr hpublished⟩,
    rfl⟩, ⟨h.calm.touches htouches ?_ ?_, h.held, h.memory⟩⟩
  · intro path _ hjournal htemporary
    exact htouches.kindAt (by simp [hjournal, htemporary])
  · intro path _ hpath
    cases hpath
  · intro path hpath hhidden _
    have hnot := howner.journal _ (howner.hidden _ hhidden)
    simp only [List.mem_cons, List.not_mem_nil, or_false] at hpath
    rcases hpath with rfl | rfl
    · exact absurd rfl hnot.2
    · exact absurd rfl hnot.1

theorem publishJournal_triple (howner : Owner own hidden) (hsaves : saves) :
    Lockedly own hidden saves thread manifest journal (publishJournal journal) := by
  have hstable : ∀ reloaded, Prog.Stable (Rely hidden thread) (fun state =>
      Locked manifest hidden thread journal state ∧
        readAt state.files temporaryJournalFileName = .ok reloaded) := by
    rintro reloaded before after hrely ⟨hlocked, hread⟩
    refine ⟨locked_stable journal before after hrely hlocked, ?_⟩
    unfold readAt openFile at hread ⊢
    rw [(hrely.held hlocked.held).2.1]
    exact hread
  unfold publishJournal
  refine rely_bind (temporary_triple howner hsaves
    (fun _ _ _ h => createNew_touches h)) (fun _ => ?_)
  refine rely_bind (writeTo_triple howner hsaves) (fun _ => ?_)
  refine rely_bind (Q := fun reloaded state =>
    Locked manifest hidden thread journal state ∧
      readAt state.files temporaryJournalFileName = .ok reloaded)
    (Prog.triple_query (locked_stable journal) hstable
      (fun _ _ hlocked hread => ⟨hlocked, hread⟩)) (fun reloaded => ?_)
  refine rely_bind (Q := fun _ state =>
    Locked manifest hidden thread journal state ∧
      readAt state.files temporaryJournalFileName = .ok journal)
    (Prog.triple_lift (fun _ => hstable journal) ?_) (fun _ => ?_)
  · rintro _ hsame state ⟨hlocked, hread⟩
    rw [ensure_eq_ok] at hsame
    rw [hsame] at hread
    exact ⟨hlocked, hread⟩
  · apply triple_change (hstable journal) (locked_stable journal)
    rintro state files ⟨hlocked, hread⟩ hfiles
    obtain ⟨hsaving, hafter⟩ := publish_saving hlocked howner hsaves hread hfiles
    exact ⟨.inr hsaving, hafter⟩

/-- Saving under the lock publishes the journal in memory or nothing. -/
theorem saveAtomic_triple (howner : Owner own hidden) (hsaves : saves) :
    Lockedly own hidden saves thread manifest journal (saveAtomic journal) := by
  unfold saveAtomic
  refine rely_bind (temporary_triple howner hsaves
    (fun _ _ _ h => (removeFileIfPresent_eq_ok h).2)) (fun _ => ?_)
  refine Prog.Triple.onError (Rely.refl hidden thread) (S := fun state => state.holder = some thread)
    (publishJournal_triple howner hsaves) (fun _ h => h.held) ?_ ?_ (fun _ _ hguar => hguar) ?_
  · intro before after hrely hheld
    exact (hrely.held hheld).1
  · intro before after hsaving hheld
    exact hsaving.2.trans hheld
  · apply triple_change (fun before after hrely hheld => (hrely.held hheld).1)
      (fun _ _ _ _ => trivial)
    intro state files hheld hfiles
    have htouches := removeFile_touches hfiles
    refine ⟨.inr ⟨⟨htouches.directories, ?_, rfl, .inl ⟨hsaves, hheld⟩, .inl rfl,
      .inl (htouches.frame journalFileName (by decide))⟩, rfl⟩, trivial⟩
    intro path _ _ htemporary
    exact htouches.kindAt (by simpa using htemporary)

/-- A thread that holds the lock, whatever the journal in memory is. -/
def Holds (manifest : Manifest) (hidden : RelativePath → Prop) (thread : Nat)
    (state : Receiver) : Prop := Locked manifest hidden thread state.journal state

theorem holds_stable :
    Prog.Stable (Rely hidden thread) (Holds manifest hidden thread) := by
  intro before after hrely h
  have hafter := locked_stable before.journal before after hrely h
  exact ⟨hafter.calm, hafter.held, rfl⟩

theorem recordStripe_triple {stripe : ResumeStripe} (howner : Owner own hidden)
    (hsaves : saves) :
    (recordStripe stripe).Triple (Rely hidden thread) (Saving own saves thread)
      (Holds manifest hidden thread) (fun _ => Holds manifest hidden thread) := by
  unfold recordStripe
  refine rely_bind (Q := fun _ => Holds manifest hidden thread) ?_
    (fun newlyCompleted => ?_)
  · -- The mark changes the journal in memory only.
    intro state hstate moved hmoved
    have hmovedHolds := holds_stable state moved hmoved hstate
    refine ⟨?_, fun _ => trivial⟩
    rintro state' ⟨⟩
    have hcalm : Calm manifest hidden []
        { moved with journal := (moved.journal.markCompleted stripe).2 } :=
      ⟨hmovedHolds.calm.parents, hmovedHolds.calm.hidden⟩
    refine ⟨.inr ⟨⟨fun _ => Iff.rfl, fun _ _ _ _ => rfl, rfl, .inl ⟨hsaves, hmovedHolds.held⟩,
      .inl rfl, .inl rfl⟩, rfl⟩, ?_⟩
    intro final hfinal
    exact holds_stable _ final hfinal ⟨hcalm, hmovedHolds.held, rfl⟩
  · split
    · refine rely_bind (Q := fun journal => Locked manifest hidden thread journal)
        (Prog.triple_query (holds_stable) (fun journal => locked_stable journal) ?_)
        (fun journal => ?_)
      · rintro state journal hholds ⟨⟩
        exact hholds
      · apply (saveAtomic_triple howner hsaves).imp (fun _ h => h)
        intro _ final hfinal
        exact ⟨hfinal.calm, hfinal.held, rfl⟩
    · exact Prog.triple_ret (holds_stable) (fun _ h => h)

/-- The end of a lock's scope. -/
theorem unlockJournal_triple {Q : Receiver → Prop} (hQ : Prog.Stable (Rely hidden thread) Q)
    {P : Receiver → Prop} (hP : Prog.Stable (Rely hidden thread) P)
    (hheld : ∀ state, P state → state.holder = some thread)
    (hafter : ∀ state, P state → Q { state with holder := none }) :
    unlockJournal.Triple (Rely hidden thread) (Guarantee own saves thread) P (fun _ => Q) := by
  apply Prog.triple_modify hP hQ
  rintro state state' hstate ⟨⟩
  refine ⟨.inr ⟨fun _ => Iff.rfl, fun _ _ _ _ => rfl, rfl, .inr ⟨rfl, rfl, rfl⟩,
    .inr (.inr ⟨hheld state hstate, rfl⟩), .inl rfl⟩, hafter state hstate⟩

theorem checkpointCompletedStripe_triple {task : TransferTask} (howner : Owner own hidden)
    (hsaves : ∀ fileId offset length, task = .stripe fileId offset length → saves) :
    Calmly own hidden saves thread manifest [] (checkpointCompletedStripe thread task) := by
  cases task with
  | wholeFile => exact Prog.triple_ret (calm_stable) (fun _ h => h)
  | tinyPack => exact Prog.triple_ret (calm_stable) (fun _ h => h)
  | stripe fileId offset length =>
    have hmay := hsaves fileId offset length rfl
    have hunlocked : ∀ state, Holds manifest hidden thread state →
        Calm manifest hidden [] { state with holder := none } :=
      fun state h => ⟨h.calm.parents, h.calm.hidden⟩
    unfold checkpointCompletedStripe
    refine rely_bind lift_triple (fun stripe => ?_)
    refine rely_bind (Q := fun _ => Holds manifest hidden thread)
      (Prog.triple_modify (calm_stable) (holds_stable) ?_) (fun _ => ?_)
    · intro state state' hcalm hlock
      split at hlock
      · rename_i hfree
        cases hlock
        exact ⟨.inr ⟨fun _ => Iff.rfl, fun _ _ _ _ => rfl, rfl, .inr ⟨rfl, rfl, rfl⟩,
          .inr (.inl ⟨hfree, rfl⟩), .inl rfl⟩, ⟨⟨hcalm.parents, hcalm.hidden⟩, rfl, rfl⟩⟩
      · cases hlock
    refine rely_bind (Q := fun _ => Holds manifest hidden thread) ?_ (fun _ => ?_)
    · -- A failure inside the lock's scope releases the lock, too.
      have hheld : Prog.Stable (Rely hidden thread) (fun state => state.holder = some thread) :=
        fun before after hrely hheld => (hrely.held hheld).1
      refine Prog.Triple.onError (Rely.refl hidden thread) (S := fun state => state.holder = some thread)
        (recordStripe_triple howner hmay) (fun _ h => h.held) hheld
        (fun before after hsaving hheld => hsaving.2.trans hheld) (fun _ _ h => h.1) ?_
      exact unlockJournal_triple (fun _ _ _ _ => trivial) hheld (fun _ h => h)
        (fun _ _ => trivial)
    · exact unlockJournal_triple (calm_stable) (holds_stable)
        (fun _ h => h.held) hunlocked

/-! ## Lanes -/

/-- A thread owns what it needs to receive a file as a record or as a plan. -/
structure OwnsTarget (own hidden : RelativePath → Prop) (input : SessionInput) (fileId : Nat)
    (path : RelativePath) : Prop extends OwnsFile own hidden fileId path where
  temporary : own (reconstructionTemporary path input.processId (input.nanos fileId))

section

variable {blake3 : Bytes → Digest} {input : SessionInput} {basis : Option (List Nat)}

theorem receiveRecord_triple {task : TransferTask} (howner : Owner own hidden)
    (hfile : ∀ fileId entry, task = .wholeFile fileId → manifest[fileId]? = some entry →
      OwnsTarget own hidden input fileId entry.relativePath) :
    Calmly own hidden saves thread manifest []
      (receiveRecord blake3 input manifest basis task) := by
  cases task with
  | wholeFile fileId =>
    unfold receiveRecord
    refine rely_bind (fact_triple (fun _ => okOrElse_eq_ok.mp)) (fun entry => ?_)
    rintro state ⟨hentry, hcalm⟩
    split
    · exact receiveFile_triple howner (hfile fileId entry rfl hentry).toOwnsFile state hcalm
    · refine applySessionPlan_triple howner ?_ state hcalm
      intro other hother
      have howns := hfile fileId other rfl hother
      exact ⟨howns.toOwnsFile, howns.temporary⟩
    · trivial
  | tinyPack => exact Prog.triple_ret calm_stable (fun _ h => h)
  | stripe fileId offset length =>
    unfold receiveRecord
    exact rely_bind lift_triple (fun entry => receiveFileStripe_triple)

/-- One turn of a lane. -/
theorem receiveTask_triple {task : TransferTask} (howner : Owner own hidden)
    (hfile : ∀ fileId entry, task = .wholeFile fileId → manifest[fileId]? = some entry →
      OwnsTarget own hidden input fileId entry.relativePath)
    (hsaves : ∀ fileId offset length, task = .stripe fileId offset length → saves) :
    Calmly own hidden saves thread manifest []
      (receiveTask blake3 input manifest basis thread task) := by
  unfold receiveTask
  exact rely_bind (receiveRecord_triple howner hfile)
    (fun _ => checkpointCompletedStripe_triple howner hsaves)

theorem receiveLane_triple {tasks : List TransferTask} (howner : Owner own hidden)
    (hfile : ∀ fileId entry, .wholeFile fileId ∈ tasks → manifest[fileId]? = some entry →
      OwnsTarget own hidden input fileId entry.relativePath)
    (hsaves : ∀ fileId offset length, .stripe fileId offset length ∈ tasks → saves) :
    Calmly own hidden saves thread manifest []
      (receiveLane blake3 input manifest basis thread tasks) := by
  unfold receiveLane
  apply Prog.triple_each (Rely.refl hidden thread) (I := fun _ => Calm manifest hidden [])
    calm_stable
  intro task rest hsuffix
  have hmem : task ∈ tasks := hsuffix.subset List.mem_cons_self
  apply receiveTask_triple howner
  · rintro fileId entry rfl hentry
    exact hfile fileId entry hmem hentry
  · rintro fileId offset length rfl
    exact hsaves fileId offset length hmem

end

end

/-! ## Groups -/

/-- The threads of a group share the destination: what one of them hides, no other owns. -/
structure Shares (input : SessionInput) (manifest : Manifest) (lanes : List (List TransferTask))
    (own hidden : Nat → RelativePath → Prop) (saves : Prop) : Prop where
  owner : ∀ index, Owner (own index) (hidden index)
  apart : ∀ index other, other ≠ index → ∀ path, hidden index path → ¬ own other path
  lane : ∀ (index : Nat) (tasks : List TransferTask), lanes[index]? = some tasks →
    ∀ fileId entry, .wholeFile fileId ∈ tasks → manifest[fileId]? = some entry →
      OwnsTarget (own index) (hidden index) input fileId entry.relativePath
  worker : ∀ (index : Nat) (fileId : Nat), (packedFileIds lanes)[index]? = some fileId →
    ∀ entry, manifest[fileId]? = some entry → OwnsFile (own (lanes.length + index))
      (hidden (lanes.length + index)) fileId entry.relativePath
  saves : ∀ fileId offset length, .stripe fileId offset length ∈ lanes.flatten → saves

section

variable {blake3 : Bytes → Digest} {input : SessionInput} {basis : Option (List Nat)}
  {manifest : Manifest} {lanes : List (List TransferTask)} {own hidden : Nat → RelativePath → Prop}
  {saves : Prop}

theorem Shares.thread (h : Shares input manifest lanes own hidden saves) {index : Nat}
    {p : Program Unit}
    (hget : (groupThreads blake3 input manifest basis lanes)[index]? = some p) :
    p.Triple (Rely (hidden index) index) (Guarantee (own index) saves index)
      (Calm manifest (hidden index) []) (fun _ => Calm manifest (hidden index) []) := by
  unfold groupThreads at hget
  rcases Nat.lt_or_ge index lanes.length with hlt | hge
  · rw [List.getElem?_append_left (by simpa using hlt), List.getElem?_mapIdx,
      Option.map_eq_some_iff] at hget
    obtain ⟨tasks, htasks, rfl⟩ := hget
    apply receiveLane_triple (h.owner index) (h.lane index tasks htasks)
    intro fileId offset length hmem
    exact h.saves fileId offset length
      (List.mem_flatten.mpr ⟨tasks, List.mem_of_getElem? htasks, hmem⟩)
  · rw [List.getElem?_append_right (by simpa using hge), List.length_mapIdx, List.getElem?_map,
      Option.map_eq_some_iff] at hget
    obtain ⟨fileId, hfile, rfl⟩ := hget
    have howns := h.worker (index - lanes.length) fileId hfile
    rw [show lanes.length + (index - lanes.length) = index by omega] at howns
    exact materializeTinyFile_triple (h.owner index) howns

/-- The rule of a group: its threads keep `J`, and none of them leaves anything hidden. -/
theorem Shares.safe (h : Shares input manifest lanes own hidden saves) {I Q J : Receiver → Prop}
    {next : Sys Receiver IoError} {state : Receiver}
    (hkeep : ∀ index before after, J before → Guarantee (own index) saves index before after →
      J after)
    (hJ : J state) (hJI : ∀ current, J current → I current)
    (hcalm : ∀ index, Calm manifest (hidden index) [] state)
    (hnext : ∀ final, J final →
      (∀ index < (groupThreads blake3 input manifest basis lanes).length,
        Calm manifest (hidden index) [] final) → next.Safe I Q final) :
    (Sys.par (groupThreads blake3 input manifest basis lanes) next).Safe I Q state := by
  apply Sys.safe_par J (fun index => Rely (hidden index) index)
    (fun index => Guarantee (own index) saves index)
    (fun index => Calm manifest (hidden index) [])
  · intro index before
    exact Rely.refl (hidden index) index before
  · intro index a b c hab hbc
    exact hab.trans hbc
  · intro index other hne before after _ hguarantee
    apply hguarantee.rely hne
    intro path hpath
    exact ⟨h.apart index other hne path hpath,
      (h.owner index).journal path ((h.owner index).hidden path hpath)⟩
  · exact hkeep
  · exact hJ
  · exact hJI
  · intro index p hget
    exact h.thread hget state (hcalm index)
  · exact hnext

end

end Receiver

end NetworkCopy
