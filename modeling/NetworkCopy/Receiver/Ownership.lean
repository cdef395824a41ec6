import NetworkCopy.Receiver.Ledger

/-!
# Which thread owns which path

A file of the manifest has three names below the destination root: its path, the path of
its part file and, while it is reconstructed, the path of a temporary.  The names of
different files are different when the names of the manifest are apart (`NamesDistinct`);
only a file of the manifest with a generated name could break this.

The remaining tasks contain every file at most once, so the threads of a group receive
different files and own different paths (`shares_files`).
-/

namespace NetworkCopy

open Crash

/-! ## Reconstruction temporaries -/

/-- The digits at the end of a name, and what is in front of them. -/
theorem reverse_digitUnits (name : List UInt16) (number : Nat) :
    (name ++ 0x2D :: digitUnits number).reverse.takeWhile isDigitUnit =
        (digitUnits number).reverse ∧
      (name ++ 0x2D :: digitUnits number).reverse.dropWhile isDigitUnit =
        0x2D :: name.reverse := by
  have hdigits : ∀ unit ∈ (digitUnits number).reverse, isDigitUnit unit = true :=
    fun unit hunit => isDigitUnit_of_mem_digitUnits (List.mem_reverse.mp hunit)
  have hdash : isDigitUnit 0x2D ≠ true := by decide
  rw [List.reverse_append, List.reverse_cons, List.append_assoc, List.singleton_append]
  constructor
  · rw [List.takeWhile_append_of_pos hdigits, List.takeWhile_cons_of_neg hdash, List.append_nil]
  · rw [List.dropWhile_append_of_pos hdigits, List.dropWhile_cons_of_neg hdash]

theorem reconstructionTemporary_eq (path : RelativePath) (processId nanos : Nat) :
    reconstructionTemporary path processId nanos =
      (path ++ utf16 ".ncs-cdc-part" ++ 0x2D :: digitUnits processId) ++
        0x2D :: digitUnits nanos := by
  have hdash : utf16 "-" = [0x2D] := by decide
  have htext : utf16 ".ncs-cdc-part-" = utf16 ".ncs-cdc-part" ++ [0x2D] := by decide
  rw [reconstructionTemporary, utf16_append, utf16_append, utf16_append, hdash, htext]
  show path ++ _ = path ++ _ ++ 0x2D :: utf16 (toString processId) ++ 0x2D :: utf16 (toString nanos)
  simp

/-- A temporary is not a part file: a digit stands in front of its last dash. -/
theorem reconstructionTemporary_ne_temporaryPath (path other : RelativePath)
    (processId nanos fileId : Nat) :
    reconstructionTemporary path processId nanos ≠ temporaryPath other fileId := by
  intro hsame
  have hpart : temporaryPath other fileId =
      (other ++ utf16 ".ncs-part") ++ 0x2D :: digitUnits fileId := by
    have htext : utf16 ".ncs-part-" = utf16 ".ncs-part" ++ [0x2D] := by decide
    show other ++ partSuffix fileId = _
    rw [partSuffix_eq, htext]
    simp
  have hleft := (reverse_digitUnits (path ++ utf16 ".ncs-cdc-part" ++ 0x2D :: digitUnits processId)
    nanos).2
  rw [← reconstructionTemporary_eq, hsame, hpart, (reverse_digitUnits _ fileId).2,
    List.cons.injEq] at hleft
  have hlast : (other ++ utf16 ".ncs-part").getLast? = some 0x74 := by
    rw [List.getLast?_append]
    rfl
  have hlast' : (path ++ utf16 ".ncs-cdc-part" ++ 0x2D :: digitUnits processId).getLast? =
      some ((digitUnits processId).getLast (digitUnits_ne_nil processId)) := by
    rw [List.getLast?_append, List.getLast?_cons_of_ne_nil (digitUnits_ne_nil processId),
      List.getLast?_eq_some_getLast (digitUnits_ne_nil processId)]
    rfl
  rw [List.reverse_inj.mp hleft.2, hlast', Option.some.injEq] at hlast
  have hdigit := isDigitUnit_of_mem_digitUnits
    (List.getLast_mem (digitUnits_ne_nil processId))
  rw [hlast] at hdigit
  exact absurd hdigit (by decide)

/-- The temporaries of one process have different names for different files. -/
theorem reconstructionTemporary_injective {path other : RelativePath} {processId i j : Nat}
    (h : reconstructionTemporary path processId i = reconstructionTemporary other processId j) :
    path = other := by
  have hdigits := (reverse_digitUnits
    (path ++ utf16 ".ncs-cdc-part" ++ 0x2D :: digitUnits processId) i).1
  rw [← reconstructionTemporary_eq, h, reconstructionTemporary_eq, (reverse_digitUnits _ j).1,
    List.reverse_inj] at hdigits
  rw [digitUnits_injective hdigits.symm] at h
  exact List.append_cancel_right h

/-! ## The names of a file -/

/-- The temporary of a file in a session. -/
abbrev SessionInput.temporary (input : SessionInput) (path : RelativePath) (fileId : Nat) :
    RelativePath :=
  reconstructionTemporary path input.processId (input.nanos fileId)

/-- The names of the files of a manifest are apart from each other, from all part files,
from the temporaries of a session and from the journals. -/
structure NamesDistinct (manifest : Manifest) (input : SessionInput) : Prop where
  finals : ∀ (i j : Nat) (left right : ManifestEntry), manifest[i]? = some left →
    manifest[j]? = some right → left.relativePath = right.relativePath → i = j
  parts : ∀ (i j : Nat) (left right : ManifestEntry), manifest[i]? = some left →
    manifest[j]? = some right → left.relativePath ≠ temporaryPath right.relativePath j
  temporaries : ∀ (i j : Nat) (left right : ManifestEntry), manifest[i]? = some left →
    manifest[j]? = some right → left.relativePath ≠ input.temporary right.relativePath j
  named : Receiver.Named manifest

/-- The names that belong to a file. -/
def FileName (manifest : Manifest) (input : SessionInput) (fileId : Nat) (path : RelativePath) :
    Prop :=
  ∃ entry, manifest[fileId]? = some entry ∧ (path = entry.relativePath ∨
    path = temporaryPath entry.relativePath fileId ∨
    path = input.temporary entry.relativePath fileId)

section

variable {manifest : Manifest} {input : SessionInput}

/-- A name belongs to one file. -/
theorem NamesDistinct.unique (h : NamesDistinct manifest input) {i j : Nat} {path : RelativePath}
    (hi : FileName manifest input i path) (hj : FileName manifest input j path) : i = j := by
  obtain ⟨left, hleft, hi⟩ := hi
  obtain ⟨right, hright, hj⟩ := hj
  rcases hi with rfl | rfl | rfl <;> rcases hj with hj | hj | hj
  · exact h.finals i j left right hleft hright hj
  · exact absurd hj (h.parts i j left right hleft hright)
  · exact absurd hj (h.temporaries i j left right hleft hright)
  · exact absurd hj.symm (h.parts j i right left hright hleft)
  · exact partSuffix_injective hj
  · exact absurd hj.symm (reconstructionTemporary_ne_temporaryPath _ _ _ _ _)
  · exact absurd hj.symm (h.temporaries j i right left hright hleft)
  · exact absurd hj (reconstructionTemporary_ne_temporaryPath _ _ _ _ _)
  · exact h.finals i j left right hleft hright (reconstructionTemporary_injective hj)

theorem NamesDistinct.ordinary (h : NamesDistinct manifest input) {fileId : Nat}
    {path : RelativePath} (hname : FileName manifest input fileId path) :
    Receiver.Ordinary path := by
  obtain ⟨entry, hentry, rfl | rfl | rfl⟩ := hname
  · exact h.named entry (List.mem_of_getElem? hentry)
  · exact temporaryPath_ne_journal _ _
  · exact Receiver.reconstructionTemporary_ordinary _ _ _

/-- The names of an accepted manifest are distinct when they are apart and no file has the
name of a temporary. -/
theorem namesDistinct_of_namesApart {directories : List DirectoryEntry}
    (hvalid : validateTreeEntries manifest directories = .ok ()) (hapart : NamesApart manifest)
    (htemporaries : ∀ (i j : Nat) (left right : ManifestEntry), manifest[i]? = some left →
      manifest[j]? = some right → pathComponents left.relativePath ≠
        pathComponents (input.temporary right.relativePath j)) :
    NamesDistinct manifest input := by
  refine ⟨?_, ?_, ?_, ?_⟩
  · intro i j left right hleft hright hsame
    by_contra hne
    exact (hapart.disjoint hvalid hleft hright hne).1 (congrArg pathComponents hsame)
  · intro i j left right hleft hright hsame
    by_cases hij : i = j
    · subst hij
      rw [hleft, Option.some.injEq] at hright
      subst hright
      exact temporaryPath_ne _ _ hsame.symm
    · exact (hapart.disjoint hvalid hleft hright hij).2.1 (congrArg pathComponents hsame)
  · intro i j left right hleft hright hsame
    exact htemporaries i j left right hleft hright (congrArg pathComponents hsame)
  · intro entry hentry
    obtain ⟨hjournal, htemporary⟩ := hapart.journals entry hentry
    exact ⟨fun hsame => hjournal (congrArg pathComponents hsame),
      fun hsame => htemporary (congrArg pathComponents hsame)⟩

end

/-! ## The files of a thread -/

/-- The files that a list of tasks receives as a whole. -/
def wholeFileIds (tasks : List TransferTask) : List Nat :=
  tasks.filterMap (fun task => match task with
    | .wholeFile fileId => some fileId
    | _ => none)

/-- The file of a unit that is one. -/
def TransferUnit.wholeFileId : TransferUnit → Option Nat
  | .file fileId => some fileId
  | .stripe .. => none

/-- The threads of a group receive the files of its units. -/
theorem perm_wholeFileIds (lanes : List (List TransferTask)) :
    ((lanes.map wholeFileIds).flatten ++ Receiver.packedFileIds lanes).Perm
      ((lanes.flatten.flatMap TransferTask.units).filterMap TransferUnit.wholeFileId) := by
  have hflat : (lanes.map wholeFileIds).flatten = wholeFileIds lanes.flatten := by
    unfold wholeFileIds
    rw [List.filterMap_flatten]
  rw [hflat]
  unfold Receiver.packedFileIds
  induction lanes.flatten with
  | nil => exact .nil
  | cons task rest ih =>
    rw [List.flatMap_cons, List.flatMap_cons, List.filterMap_append]
    cases task with
    | wholeFile fileId => exact ih.cons fileId
    | stripe fileId offset length => exact ih
    | tinyPack fileIds totalBytes =>
      have hpack : (TransferTask.units (.tinyPack fileIds totalBytes)).filterMap
          TransferUnit.wholeFileId = fileIds := by
        rw [TransferTask.units, List.filterMap_map]
        exact List.filterMap_some
      rw [hpack]
      show (wholeFileIds rest ++ (fileIds ++ _)).Perm _
      exact (List.perm_append_comm_assoc _ _ _).trans (ih.append_left fileIds)

/-- The files that a thread of a group receives as a whole. -/
def threadFiles (lanes : List (List TransferTask)) (index : Nat) : List Nat :=
  ((lanes.map wholeFileIds) ++ (Receiver.packedFileIds lanes).map (fun fileId => [fileId])).getD
    index []

/-- No two threads receive one file. -/
theorem threadFiles_disjoint {lanes : List (List TransferTask)}
    (h : (lanes.flatten.flatMap TransferTask.units).Nodup) {i j fileId : Nat}
    (hi : fileId ∈ threadFiles lanes i) (hj : fileId ∈ threadFiles lanes j) : i = j := by
  have hinjective : ∀ (unit other : TransferUnit) (fileId : Nat),
      fileId ∈ unit.wholeFileId → fileId ∈ other.wholeFileId → unit = other := by
    intro unit other fileId hunit hother
    cases unit <;> cases other <;> simp_all [TransferUnit.wholeFileId]
  have hsingletons : ((Receiver.packedFileIds lanes).map (fun fileId => [fileId])).flatten =
      Receiver.packedFileIds lanes := by
    rw [← List.flatMap_def]
    exact List.flatMap_singleton' _
  have hnodup : (((lanes.map wholeFileIds) ++
      (Receiver.packedFileIds lanes).map (fun fileId => [fileId])).flatten).Nodup := by
    rw [List.flatten_append, hsingletons, (perm_wholeFileIds lanes).nodup_iff]
    exact h.filterMap hinjective
  have hpairwise := List.pairwise_iff_getElem.mp (List.nodup_flatten.mp hnodup).2
  have hget : ∀ {index}, fileId ∈ threadFiles lanes index →
      ∃ hlt : index < ((lanes.map wholeFileIds) ++
        (Receiver.packedFileIds lanes).map (fun fileId => [fileId])).length,
        fileId ∈ ((lanes.map wholeFileIds) ++
          (Receiver.packedFileIds lanes).map (fun fileId => [fileId])).get ⟨index, hlt⟩ := by
    intro index hmem
    unfold threadFiles at hmem
    rw [List.getD_eq_getElem?_getD] at hmem
    cases hfound : ((lanes.map wholeFileIds) ++
        (Receiver.packedFileIds lanes).map (fun fileId => [fileId]))[index]? with
    | none =>
      rw [hfound] at hmem
      cases hmem
    | some files =>
      rw [hfound] at hmem
      obtain ⟨hlt, hvalue⟩ := List.getElem?_eq_some_iff.mp hfound
      exact ⟨hlt, by rw [List.get_eq_getElem, hvalue]; exact hmem⟩
  obtain ⟨hilt, himem⟩ := hget hi
  obtain ⟨hjlt, hjmem⟩ := hget hj
  rcases Nat.lt_trichotomy i j with hlt | hsame | hgt
  · exact absurd hjmem (hpairwise i j hilt hjlt hlt himem)
  · exact hsame
  · exact absurd himem (hpairwise j i hjlt hilt hgt hjmem)

section

variable {lanes : List (List TransferTask)}
variable {index fileId : Nat}

theorem mem_threadFiles_lane {tasks : List TransferTask} (hlane : lanes[index]? = some tasks)
    (hmem : .wholeFile fileId ∈ tasks) :
    fileId ∈ threadFiles lanes index := by
  have hlt : index < (lanes.map wholeFileIds).length := by
    rw [List.length_map]
    exact (List.getElem?_eq_some_iff.mp hlane).1
  unfold threadFiles
  rw [List.getD_eq_getElem?_getD, List.getElem?_append_left hlt, List.getElem?_map, hlane]
  exact List.mem_filterMap.mpr ⟨_, hmem, rfl⟩

theorem mem_threadFiles_worker (hpacked : (Receiver.packedFileIds lanes)[index]? = some fileId) :
    fileId ∈ threadFiles lanes (lanes.length + index) := by
  unfold threadFiles
  rw [List.getD_eq_getElem?_getD, List.getElem?_append_right (by simp), List.length_map,
    Nat.add_sub_cancel_left, List.getElem?_map, hpacked]
  exact List.mem_singleton.mpr rfl

/-- Only the threads of the group receive files. -/
theorem lt_of_mem_threadFiles {blake3 : Bytes → Digest} {input : SessionInput}
    {manifest : Manifest} {basis : Option (List Nat)} (hmem : fileId ∈ threadFiles lanes index) :
    index < (Receiver.groupThreads blake3 input manifest basis lanes).length := by
  by_contra hge
  unfold threadFiles at hmem
  rw [List.getD_eq_default] at hmem
  · cases hmem
  · simpa [Receiver.groupThreads] using hge

end

/-! ## Groups -/

/-- What is left of a file that is not finished: the part file, unless the file is large,
and the temporary. -/
def Litter (manifest : Manifest) (input : SessionInput) (fileId : Nat) (path : RelativePath) :
    Prop :=
  ∃ entry, manifest[fileId]? = some entry ∧
    (entry.fileClass ≠ .large ∧ path = temporaryPath entry.relativePath fileId ∨
      path = input.temporary entry.relativePath fileId)

theorem Litter.fileName {manifest : Manifest} {input : SessionInput} {fileId : Nat}
    {path : RelativePath} (h : Litter manifest input fileId path) :
    FileName manifest input fileId path := by
  obtain ⟨entry, hentry, ⟨_, hpart⟩ | htemporary⟩ := h
  · exact ⟨entry, hentry, .inr (.inl hpart)⟩
  · exact ⟨entry, hentry, .inr (.inr htemporary)⟩

/-- The threads of a group own the names of their files. -/
theorem shares_files {input : SessionInput} {manifest : Manifest}
    {lanes : List (List TransferTask)} {saves : Prop} (hnames : NamesDistinct manifest input)
    (hunits : (lanes.flatten.flatMap TransferTask.units).Nodup)
    (hsaves : ∀ fileId offset length, .stripe fileId offset length ∈ lanes.flatten → saves) :
    Receiver.Shares input manifest lanes
      (fun index path => ∃ fileId ∈ threadFiles lanes index, FileName manifest input fileId path)
      (fun index path => ∃ fileId ∈ threadFiles lanes index, Litter manifest input fileId path)
      saves := by
  have howns : ∀ (index fileId : Nat) (entry : ManifestEntry), fileId ∈ threadFiles lanes index →
      manifest[fileId]? = some entry →
      Receiver.OwnsTarget
        (fun path => ∃ fileId ∈ threadFiles lanes index, FileName manifest input fileId path)
        (fun path => ∃ fileId ∈ threadFiles lanes index, Litter manifest input fileId path)
        input fileId entry.relativePath := by
    intro index fileId entry hmem hentry
    refine ⟨⟨⟨fileId, hmem, entry, hentry, .inl rfl⟩, ?_,
      ⟨fileId, hmem, entry, hentry, .inr (.inl rfl)⟩⟩,
      ⟨fileId, hmem, entry, hentry, .inr (.inr rfl)⟩⟩
    rintro ⟨other, _, otherEntry, hother, ⟨_, hpart⟩ | htemporary⟩
    · exact hnames.parts fileId other entry otherEntry hentry hother hpart
    · exact hnames.temporaries fileId other entry otherEntry hentry hother htemporary
  refine ⟨?_, ?_, ?_, ?_, hsaves⟩
  · intro index
    constructor
    · rintro path ⟨fileId, hmem, hlitter⟩
      exact ⟨fileId, hmem, hlitter.fileName⟩
    · rintro path ⟨fileId, _, hname⟩
      exact hnames.ordinary hname
  · rintro index other hne path ⟨fileId, hmem, hlitter⟩ ⟨fileId', hmem', hname⟩
    rw [hnames.unique hname hlitter.fileName] at hmem'
    exact hne (threadFiles_disjoint hunits hmem' hmem)
  · intro index tasks hlane fileId entry hmem hentry
    exact howns index fileId entry (mem_threadFiles_lane hlane hmem) hentry
  · intro index fileId hpacked entry hentry
    exact (howns _ fileId entry (mem_threadFiles_worker hpacked) hentry).toOwnsFile

end NetworkCopy
