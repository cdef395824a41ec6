import NetworkCopy.Session.ControlArrival

/-!
# The files that a verified update keeps

`destination_inventory.rs`, `update_verification.rs` and the two parties of the verification in
`multistream_copy.rs`.  The receiver offers the files whose size and time match the manifest, with
their digests; the sender answers with those whose digest is that of its own file.  What is kept is
among what was offered, whatever the sender answers, and with an honest sender it is what has the
digest of the source.

The trees do not change while they are read, so both looks of `hash_candidates` at a file see the
same file.
-/

namespace NetworkCopy

open Duplex ByteOrder

/-! ## The destination inventory -/

/-- What stands at the root of a destination. -/
structure DestinationRoot where
  isReparsePoint : Bool
  isDirectory : Bool
  deriving DecidableEq

/-- A destination.  Without a root there are no files. -/
structure Destination where
  root : Option DestinationRoot
  files : FileTree
  files_of_root : root = none → ∀ path, files path = none

/-- `DestinationInventory`. -/
structure DestinationInventory where
  unchangedFileIds : Finset Nat := ∅
  unchangedBytes : Nat := 0
  changedFiles : Nat := 0
  missingFiles : Nat := 0
  conflictingEntries : Nat := 0

/-- `increment`. -/
def increment (value : Nat) (description : String) : IoResult Nat :=
  okOrElse (checkedAdd value 1) (.other s!"{description} overflowed")

/-- The file is as the manifest has it, as far as its metadata say. -/
def FileNode.Unchanged (node : FileNode) (entry : ManifestEntry) : Prop :=
  node.content.1.length = entry.fileSize ∧ node.lastWriteTime = entry.lastWriteTime

instance (node : FileNode) (entry : ManifestEntry) : Decidable (node.Unchanged entry) :=
  inferInstanceAs (Decidable (_ ∧ _))

/-- A conflicting entry is counted. -/
def countConflict (inventory : DestinationInventory) : IoResult DestinationInventory := do
  let conflictingEntries ← increment inventory.conflictingEntries
    "conflicting destination entry count"
  return { inventory with conflictingEntries }

/-- One turn of the loop of `compare_fast`, with what stands at the path of the entry. -/
def countEntry (inventory : DestinationInventory) (entry : ManifestEntry) (fileId : Nat) :
    Option Node → IoResult DestinationInventory
  | none => do
      let missingFiles ← increment inventory.missingFiles "missing destination file count"
      return { inventory with missingFiles }
  | some .directory => countConflict inventory
  | some (.file node) =>
      if node.isReparsePoint then countConflict inventory
      else if node.Unchanged entry then do
        ensure (fileId ∉ inventory.unchangedFileIds)
          (.other "destination inventory produced a duplicate file ID")
        let unchangedBytes ← okOrElse (checkedAdd inventory.unchangedBytes entry.fileSize)
          (.other "unchanged destination byte count overflowed")
        return { inventory with
          unchangedFileIds := insert fileId inventory.unchangedFileIds, unchangedBytes }
      else do
        let changedFiles ← increment inventory.changedFiles "changed destination file count"
        return { inventory with changedFiles }

/-- One turn of the loop of `compare_fast`. -/
def compareEntry (files : FileTree) (inventory : DestinationInventory)
    (numbered : ManifestEntry × Nat) : IoResult DestinationInventory :=
  countEntry inventory numbered.1 numbered.2 (files numbered.1.relativePath)

/-- `compare_fast`. -/
def compareFast (destination : Destination) (manifest : Manifest) :
    IoResult DestinationInventory := do
  let root ← okOrElse destination.root (osError .notFound)
  ensure (¬ root.isReparsePoint)
    (.invalidInput "destination root must not be a reparse point")
  ensure root.isDirectory (.invalidInput "destination root is not a directory")
  manifest.zipIdx.foldlM (compareEntry destination.files) {}

/-- `validate_update_inventory`. -/
def validateUpdateInventory (inventory : DestinationInventory) : IoResult Unit :=
  let conflictingEntries := inventory.conflictingEntries
  ensure (conflictingEntries = 0)
    (.invalidInput (s!"destination contains {conflictingEntries} conflicting entry or entries at " ++
      "source file paths and cannot be updated safely"))

/-! ## Digests of candidates -/

/-- `CandidateSnapshot`. -/
structure CandidateSnapshot where
  fileSize : Nat
  lastWriteTime : Nat
  deriving DecidableEq

/-- `inspect_candidate`. -/
def inspectCandidate (files : FileTree) (path : RelativePath) (expectedSize : Nat) :
    IoResult CandidateSnapshot := do
  let shown := displayPath path
  match files path with
  | none => .error (osError .notFound)
  | some .directory =>
      .error (.invalidData s!"verification candidate is not a regular file: {shown}")
  | some (.file node) => do
      ensure (¬ node.isReparsePoint)
        (.invalidData s!"verification candidate is not a regular file: {shown}")
      let length := node.content.1.length
      ensure (length = expectedSize)
        (.invalidData (s!"verification candidate size changed for {shown}: expected " ++
          s!"{expectedSize}, found {length}"))
      return { fileSize := length, lastWriteTime := node.lastWriteTime }

section

variable (blake3 : Bytes → Digest)

/-- `hash_file`. -/
def hashFile (files : FileTree) (path : RelativePath) : IoResult Digest := do
  let node ← files.openFile path
  return blake3 node.content.1

/-- One turn of the loop of `hash_candidates`. -/
def hashCandidate (files : FileTree) (manifest : Manifest) (digests : DigestMap)
    (fileId : Nat) : IoResult DigestMap := do
  let entry ← okOrElse manifest[fileId]?
    (.invalidData s!"verification candidate references unknown file ID {fileId}")
  let shown := displayPath entry.relativePath
  let before ← inspectCandidate files entry.relativePath entry.fileSize
  let digest ← hashFile blake3 files entry.relativePath
  let after ← inspectCandidate files entry.relativePath entry.fileSize
  ensure (before = after)
    ⟨.interrupted, s!"verification candidate changed while being hashed: {shown}", none⟩
  ensure (fileId ∉ digests)
    (.other s!"verification candidate produced duplicate file ID {fileId}")
  return digests.insert fileId digest

/-- `hash_candidates`. -/
def hashCandidates (files : FileTree) (manifest : Manifest) (fileIds : Finset Nat) :
    IoResult DigestMap :=
  fileIds.sort.foldlM (hashCandidate blake3 files manifest) ∅

/-- `matching_candidates`. -/
def matchingCandidates (destinationDigests sourceDigests : DigestMap) : IoResult (Finset Nat) := do
  ensure (destinationDigests.keys = sourceDigests.keys)
    (.invalidData "source and destination verification candidate sets differ")
  return ((destinationDigests.toList.filter
    (fun entry => sourceDigests[entry.1]? = some entry.2)).map Prod.fst).toFinset

/-! ## The parties -/

/-- `respond_to_verification_request`. -/
def respondToVerificationRequest (source : FileTree) (manifest : Manifest)
    (responseMessage : UInt8) : Party Unit := do
  let destinationDigests ← readVerificationRequest
  let candidateFileIds := destinationDigests.keys.toFinset
  attempt .protocol (validateUnchangedOffer manifest candidateFileIds)
  let sourceDigests ← attempt .disk (hashCandidates blake3 source manifest candidateFileIds)
  let matchingFileIds ← attempt .protocol (matchingCandidates destinationDigests sourceDigests)
  writeVerificationResponse responseMessage matchingFileIds

/-- A verification, when its request was announced, and the message behind it. -/
def answerVerification (source : FileTree) (manifest : Manifest)
    (requestMessage responseMessage preparationMessage : UInt8) : Party UInt8 :=
  if preparationMessage = requestMessage then do
    respondToVerificationRequest blake3 source manifest responseMessage
    readU8
  else return preparationMessage

/-- The sender after the manifest: it answers the verifications, and has then read the message
behind them. -/
def answerVerifications (source : FileTree) (manifest : Manifest) : Party UInt8 := do
  let preparationMessage ← readU8
  let preparationMessage ← answerVerification blake3 source manifest
    messageFreshResumeVerifyRequest messageFreshResumeVerifyResponse preparationMessage
  answerVerification blake3 source manifest
    messageUpdateVerifyRequest messageUpdateVerifyResponse preparationMessage

/-- `negotiate_verified_unchanged_files`. -/
def negotiateVerifiedUnchangedFiles (destination : Destination) (manifest : Manifest) :
    Party (Finset Nat) :=
  if destination.root = none then return ∅
  else do
    let inventory ← attempt .disk (compareFast destination manifest)
    attempt .disk (validateUpdateInventory inventory)
    let candidateFileIds := inventory.unchangedFileIds
    if candidateFileIds = ∅ then return candidateFileIds
    else do
      let destinationDigests ← attempt .disk
        (hashCandidates blake3 destination.files manifest candidateFileIds)
      writeVerificationRequest messageUpdateVerifyRequest destinationDigests
      let matchingFileIds ← readVerificationResponse messageUpdateVerifyResponse
        "update-verification"
      attempt .protocol (ensure (matchingFileIds ⊆ candidateFileIds)
        (.invalidData "sender verified a file that was not offered as a candidate"))
      return matchingFileIds

end

/-- `select_update_file_sets`: the unchanged files and those to reset. -/
def selectUpdateFileSets (destinationMode : DestinationMode) (inventory : DestinationInventory)
    (verifiedUnchangedFileIds : Option (Finset Nat)) : IoResult (Finset Nat × Finset Nat) :=
  match destinationMode with
  | .fresh => .ok (∅, ∅)
  | .updateVerified => do
      let verified ← okOrElse verifiedUnchangedFileIds
        (.invalidData "verified update mode did not negotiate unchanged files")
      ensure (verified ⊆ inventory.unchangedFileIds)
        (.invalidData
          "verified unchanged set is not a subset of the current destination inventory")
      return (verified, inventory.unchangedFileIds \ verified)

/-! ## What the inventory holds -/

variable {inventory inventory' : DestinationInventory} {entry : ManifestEntry} {fileId : Nat}

/-- The entry stands at its path as a regular file with its size and time. -/
def EntryUnchanged (files : FileTree) (entry : ManifestEntry) : Prop :=
  ∃ node, files entry.relativePath = some (.file node) ∧ node.isReparsePoint = false ∧
    node.Unchanged entry

/-- The entry of a file ID stands at its path as a regular file with its size and time. -/
def UnchangedAt (files : FileTree) (manifest : Manifest) (fileId : Nat) : Prop :=
  ∃ entry, manifest[fileId]? = some entry ∧ EntryUnchanged files entry

/-- The path of an entry is not taken by anything but a regular file. -/
structure EntryFree (files : FileTree) (entry : ManifestEntry) : Prop where
  directory : files entry.relativePath ≠ some .directory
  regular : ∀ node, files entry.relativePath = some (.file node) → node.isReparsePoint = false

theorem countConflict_ids (h : countConflict inventory = .ok inventory') :
    inventory'.unchangedFileIds = inventory.unchangedFileIds := by
  obtain ⟨_, _, hsame⟩ := bind_eq_ok.mp h
  cases hsame
  rfl

theorem compareEntry_ids {files : FileTree}
    (h : compareEntry files inventory (entry, fileId) = .ok inventory') (other : Nat) :
    other ∈ inventory'.unchangedFileIds ↔
      other ∈ inventory.unchangedFileIds ∨ other = fileId ∧ EntryUnchanged files entry := by
  have hkept : ∀ hsame : inventory'.unchangedFileIds = inventory.unchangedFileIds,
      ¬ EntryUnchanged files entry → (other ∈ inventory'.unchangedFileIds ↔
        other ∈ inventory.unchangedFileIds ∨ other = fileId ∧ EntryUnchanged files entry) := by
    intro hsame hnot
    rw [hsame]
    constructor
    · exact .inl
    · intro hor
      exact hor.resolve_right fun hboth => hnot hboth.2
  unfold compareEntry at h
  simp only at h
  cases hnode : files entry.relativePath with
  | none =>
    rw [hnode] at h
    obtain ⟨_, _, hsame⟩ := bind_eq_ok.mp h
    cases hsame
    refine hkept rfl ?_
    intro ⟨node, hfile, _⟩
    rw [hnode] at hfile
    cases hfile
  | some found =>
    rw [hnode] at h
    cases found with
    | directory =>
      refine hkept (countConflict_ids h) ?_
      intro ⟨node, hfile, _⟩
      rw [hnode] at hfile
      cases hfile
    | file node =>
      have hfound : EntryUnchanged files entry ↔
          node.isReparsePoint = false ∧ node.Unchanged entry := by
        constructor
        · intro ⟨other, hfile, hrest⟩
          rw [hnode] at hfile
          cases hfile
          exact hrest
        · intro hrest
          exact ⟨node, hnode, hrest⟩
      rw [countEntry] at h
      by_cases hreparse : node.isReparsePoint = true
      · rw [if_pos hreparse] at h
        refine hkept (countConflict_ids h) ?_
        rw [hfound, hreparse]
        intro ⟨hfalse, _⟩
        cases hfalse
      · rw [if_neg hreparse] at h
        by_cases hunchanged : node.Unchanged entry
        · rw [if_pos hunchanged] at h
          obtain ⟨_, h⟩ := bind_rest h
          obtain ⟨_, _, hsame⟩ := bind_eq_ok.mp h
          cases hsame
          have hentry : EntryUnchanged files entry :=
            hfound.mpr ⟨Bool.eq_false_iff.mpr hreparse, hunchanged⟩
          simp only [Finset.mem_insert, hentry, and_true]
          exact or_comm
        · rw [if_neg hunchanged] at h
          obtain ⟨_, _, hsame⟩ := bind_eq_ok.mp h
          cases hsame
          refine hkept rfl ?_
          rw [hfound]
          exact fun hboth => hunchanged hboth.2

theorem foldlM_compareEntry_ids {files : FileTree} {manifest : Manifest} :
    ∀ {start : Nat} {inventory inventory' : DestinationInventory},
      (manifest.zipIdx start).foldlM (compareEntry files) inventory = .ok inventory' →
      ∀ other, other ∈ inventory'.unchangedFileIds ↔ other ∈ inventory.unchangedFileIds ∨
        start ≤ other ∧ UnchangedAt files manifest (other - start) := by
  induction manifest with
  | nil =>
    intro start inventory inventory' h other
    cases h
    constructor
    · exact .inl
    · intro hor
      refine hor.resolve_right ?_
      intro ⟨_, entry, hentry, _⟩
      cases hentry
  | cons entry rest ih =>
    intro start inventory inventory' h other
    rw [List.zipIdx_cons, List.foldlM_cons] at h
    obtain ⟨next, hnext, h⟩ := bind_eq_ok.mp h
    rw [ih h other, compareEntry_ids hnext other, or_assoc]
    refine or_congr_right ?_
    have hat : UnchangedAt files (entry :: rest) 0 ↔ EntryUnchanged files entry := by
      simp only [UnchangedAt, List.getElem?_cons_zero, Option.some.injEq, exists_eq_left']
    by_cases hhead : other = start
    · rw [hhead, Nat.sub_self, hat]
      constructor
      · intro hor
        refine ⟨le_rfl, ?_⟩
        cases hor with
        | inl hboth => exact hboth.2
        | inr hlater => omega
      · exact fun hboth => .inl ⟨rfl, hboth.2⟩
    · by_cases hlater : start + 1 ≤ other
      · have hindex : other - start = (other - (start + 1)) + 1 := by omega
        rw [hindex]
        simp only [UnchangedAt, List.getElem?_cons_succ, hhead, false_and, false_or, hlater,
          true_and]
        constructor
        · exact fun hfound => ⟨by omega, hfound⟩
        · exact fun hboth => hboth.2
      · constructor
        · intro hor
          cases hor with
          | inl hboth => exact absurd hboth.1 hhead
          | inr hboth => exact absurd hboth.1 hlater
        · intro hboth
          omega

/-- The inventory holds the files that are unchanged by their metadata. -/
theorem compareFast_ids {destination : Destination} {manifest : Manifest}
    {inventory : DestinationInventory} (h : compareFast destination manifest = .ok inventory)
    (fileId : Nat) :
    fileId ∈ inventory.unchangedFileIds ↔ UnchangedAt destination.files manifest fileId := by
  obtain ⟨_, h⟩ := bind_rest h
  obtain ⟨_, h⟩ := bind_rest h
  obtain ⟨_, h⟩ := bind_rest h
  rw [foldlM_compareEntry_ids h fileId]
  simp only [Finset.notMem_empty, false_or, Nat.zero_le, true_and, Nat.sub_zero]

/-! ## The inventory succeeds -/

/-- One turn without a conflict, with room in the counters. -/
theorem compareEntry_ok {files : FileTree} {inventory : DestinationInventory}
    (hfree : EntryFree files entry) (hnew : fileId ∉ inventory.unchangedFileIds)
    (hcount : inventory.missingFiles + inventory.changedFiles + 1 < u64Limit)
    (hbytes : inventory.unchangedBytes + entry.fileSize < u64Limit) :
    ∃ inventory', compareEntry files inventory (entry, fileId) = .ok inventory' ∧
      inventory'.conflictingEntries = inventory.conflictingEntries ∧
      inventory'.missingFiles + inventory'.changedFiles ≤
        inventory.missingFiles + inventory.changedFiles + 1 ∧
      inventory'.unchangedBytes ≤ inventory.unchangedBytes + entry.fileSize := by
  have hincrement : ∀ {value : Nat} {description : String}, value + 1 < u64Limit →
      increment value description = .ok (value + 1) := by
    intro value description hlt
    rw [increment, checkedAdd_eq_some.mpr ⟨hlt, rfl⟩, okOrElse_some]
  unfold compareEntry
  simp only
  cases hnode : files entry.relativePath with
  | none =>
    refine ⟨{ inventory with missingFiles := inventory.missingFiles + 1 }, ?_, rfl, ?_, ?_⟩
    · rw [countEntry, hincrement (by omega)]
      rfl
    · show inventory.missingFiles + 1 + inventory.changedFiles ≤ _
      omega
    · exact Nat.le_add_right _ _
  | some found =>
    cases found with
    | directory => exact absurd hnode hfree.directory
    | file node =>
      have hreparse : ¬ node.isReparsePoint = true := by
        rw [hfree.regular node hnode]
        exact Bool.false_ne_true
      rw [countEntry, if_neg hreparse]
      by_cases hunchanged : node.Unchanged entry
      · rw [if_pos hunchanged, ensure, if_pos hnew, ok_bind,
          checkedAdd_eq_some.mpr ⟨hbytes, rfl⟩, okOrElse_some, ok_bind]
        exact ⟨_, rfl, rfl, Nat.le_add_right _ _, le_rfl⟩
      · rw [if_neg hunchanged]
        refine ⟨{ inventory with changedFiles := inventory.changedFiles + 1 }, ?_, rfl, ?_, ?_⟩
        · rw [hincrement (by omega)]
          rfl
        · exact le_rfl
        · exact Nat.le_add_right _ _

theorem foldlM_compareEntry_ok {files : FileTree} {manifest : Manifest} :
    ∀ {start : Nat} {inventory : DestinationInventory},
      (∀ entry ∈ manifest, EntryFree files entry) →
      (∀ fileId ∈ inventory.unchangedFileIds, fileId < start) →
      inventory.missingFiles + inventory.changedFiles + manifest.length < u64Limit →
      inventory.unchangedBytes + Manifest.totalBytes manifest < u64Limit →
      ∃ inventory', (manifest.zipIdx start).foldlM (compareEntry files) inventory =
          .ok inventory' ∧
        inventory'.conflictingEntries = inventory.conflictingEntries := by
  induction manifest with
  | nil =>
    intro start inventory _ _ _ _
    exact ⟨inventory, rfl, rfl⟩
  | cons entry rest ih =>
    intro start inventory hfree hbelow hcount hbytes
    obtain ⟨hfirst, hothers⟩ := List.forall_mem_cons.mp hfree
    rw [List.length_cons] at hcount
    rw [Manifest.totalBytes, List.map_cons, List.sum_cons] at hbytes
    have hnew : start ∉ inventory.unchangedFileIds := by
      intro hmem
      exact absurd (hbelow start hmem) (lt_irrefl _)
    obtain ⟨next, hnext, hconflicts, hcounts, hsizes⟩ :=
      compareEntry_ok hfirst hnew (by omega) (by omega)
    have hbelow' : ∀ fileId ∈ next.unchangedFileIds, fileId < start + 1 := by
      intro fileId hmem
      cases (compareEntry_ids hnext fileId).mp hmem with
      | inl hold => exact Nat.lt_succ_of_lt (hbelow fileId hold)
      | inr hnew => exact hnew.1 ▸ Nat.lt_succ_self _
    have hrest : next.unchangedBytes + Manifest.totalBytes rest < u64Limit := by
      rw [Manifest.totalBytes]
      omega
    obtain ⟨last, hlast, hsame⟩ := @ih (start + 1) next hothers hbelow' (by omega) hrest
    refine ⟨last, ?_, hsame.trans hconflicts⟩
    rw [List.zipIdx_cons, List.foldlM_cons, hnext, ok_bind]
    exact hlast

/-- A destination whose root, if it has one, is a plain directory, and that has only regular files
at the file paths of the manifest. -/
structure Destination.Unconflicted (destination : Destination) (manifest : Manifest) : Prop where
  root : ∀ root, destination.root = some root → root = ⟨false, true⟩
  free : ∀ entry ∈ manifest, EntryFree destination.files entry

theorem compareFast_ok {destination : Destination} {manifest : Manifest}
    (hroot : destination.root = some ⟨false, true⟩)
    (hfree : ∀ entry ∈ manifest, EntryFree destination.files entry)
    (hcount : manifest.length < u64Limit) (hbytes : Manifest.totalBytes manifest < u64Limit) :
    ∃ inventory, compareFast destination manifest = .ok inventory ∧
      validateUpdateInventory inventory = .ok () := by
  have hempty : ∀ fileId ∈ (∅ : Finset Nat), fileId < 0 := by
    intro fileId hmem
    exact absurd hmem (Finset.notMem_empty _)
  obtain ⟨inventory, hinventory, hconflicts⟩ :=
    @foldlM_compareEntry_ok destination.files manifest 0 {} hfree hempty (by simpa) (by simpa)
  refine ⟨inventory, ?_, ensure_eq_ok.mpr hconflicts⟩
  unfold compareFast
  rw [hroot]
  exact hinventory

/-! ## Digests -/

/-- The content of a file of the manifest. -/
def fileContent (files : FileTree) (manifest : Manifest) (fileId : Nat) : Bytes :=
  match manifest[fileId]? with
  | some entry => (files.contentAt entry.relativePath).getD []
  | none => []

/-- A file of the manifest is a regular file of its size. -/
def RegularAt (files : FileTree) (manifest : Manifest) (fileId : Nat) : Prop :=
  ∃ entry node, manifest[fileId]? = some entry ∧
    files entry.relativePath = some (.file node) ∧ node.isReparsePoint = false ∧
      node.content.1.length = entry.fileSize

theorem UnchangedAt.regular {files : FileTree} {manifest : Manifest}
    (h : UnchangedAt files manifest fileId) : RegularAt files manifest fileId := by
  obtain ⟨entry, hentry, node, hnode, hreparse, hsize, _⟩ := h
  exact ⟨entry, node, hentry, hnode, hreparse, hsize⟩

theorem UnchangedAt.lt_length {files : FileTree} {manifest : Manifest}
    (h : UnchangedAt files manifest fileId) : fileId < manifest.length := by
  obtain ⟨entry, hentry, _⟩ := h
  exact (List.getElem?_eq_some_iff.mp hentry).1

section

variable {blake3 : Bytes → Digest} {files : FileTree} {manifest : Manifest}

theorem hashCandidate_ok {digests : DigestMap} {fileId : Nat}
    (hregular : RegularAt files manifest fileId) (hnew : fileId ∉ digests) :
    hashCandidate blake3 files manifest digests fileId =
      .ok (digests.insert fileId (blake3 (fileContent files manifest fileId))) := by
  obtain ⟨entry, node, hentry, hnode, hreparse, hsize⟩ := hregular
  have hinspect : inspectCandidate files entry.relativePath entry.fileSize =
      .ok ⟨node.content.1.length, node.lastWriteTime⟩ := by
    unfold inspectCandidate
    simp only [hnode, hreparse, hsize, ensure, Bool.false_eq_true, not_false_eq_true, if_true,
      ok_bind]
    rfl
  have hcontent : fileContent files manifest fileId = node.content.1 := by
    simp only [fileContent, hentry, FileTree.contentAt, hnode, Option.getD_some]
  have hhash : hashFile blake3 files entry.relativePath = .ok (blake3 node.content.1) := by
    rw [hashFile, FileTree.openFile_eq_ok.mpr hnode]
    rfl
  unfold hashCandidate
  rw [hentry, okOrElse_some, ok_bind]
  simp only [hinspect, hhash, ok_bind, ensure, hnew, not_false_eq_true, if_true, hcontent]
  rfl

theorem foldlM_hashCandidate_ok {fileIds : List Nat} :
    ∀ {digests : DigestMap}, fileIds.Nodup → (∀ fileId ∈ fileIds, fileId ∉ digests) →
      (∀ fileId ∈ fileIds, RegularAt files manifest fileId) →
      ∃ digests', fileIds.foldlM (hashCandidate blake3 files manifest) digests = .ok digests' ∧
        ∀ fileId : Nat, digests'[fileId]? =
          if fileId ∈ fileIds then some (blake3 (fileContent files manifest fileId))
          else digests[fileId]? := by
  induction fileIds with
  | nil =>
    intro digests _ _ _
    exact ⟨digests, rfl, fun _ => (if_neg List.not_mem_nil).symm⟩
  | cons first rest ih =>
    intro digests hnodup hnew hregular
    obtain ⟨hfirst, hothers⟩ := List.nodup_cons.mp hnodup
    obtain ⟨hnewFirst, hnewOthers⟩ := List.forall_mem_cons.mp hnew
    obtain ⟨hregularFirst, hregularOthers⟩ := List.forall_mem_cons.mp hregular
    have hfresh : ∀ fileId ∈ rest,
        fileId ∉ digests.insert first (blake3 (fileContent files manifest first)) := by
      intro fileId hmem hin
      rw [Std.ExtTreeMap.mem_insert, Std.LawfulEqCmp.compare_eq_iff_eq] at hin
      cases hin with
      | inl hsame => exact hfirst (hsame ▸ hmem)
      | inr hold => exact hnewOthers fileId hmem hold
    obtain ⟨digests', hfold, hlookup⟩ := ih hothers hfresh hregularOthers
    refine ⟨digests', ?_, ?_⟩
    · rw [List.foldlM_cons, hashCandidate_ok hregularFirst hnewFirst, ok_bind]
      exact hfold
    · intro fileId
      rw [hlookup, Std.ExtTreeMap.getElem?_insert]
      simp only [Std.LawfulEqCmp.compare_eq_iff_eq]
      by_cases hmem : fileId ∈ rest
      · rw [if_pos hmem, if_pos (List.mem_cons_of_mem _ hmem)]
      · rw [if_neg hmem]
        by_cases hsame : first = fileId
        · rw [if_pos hsame, if_pos (hsame ▸ List.mem_cons_self), hsame]
        · rw [if_neg hsame, if_neg]
          intro hin
          cases List.mem_cons.mp hin with
          | inl heq => exact hsame heq.symm
          | inr htail => exact hmem htail

/-- The digests of regular files. -/
theorem hashCandidates_ok {fileIds : Finset Nat}
    (hregular : ∀ fileId ∈ fileIds, RegularAt files manifest fileId) :
    ∃ digests, hashCandidates blake3 files manifest fileIds = .ok digests ∧
      ∀ fileId : Nat, digests[fileId]? =
        if fileId ∈ fileIds then some (blake3 (fileContent files manifest fileId))
        else none := by
  have hregular' : ∀ fileId ∈ fileIds.sort, RegularAt files manifest fileId := by
    intro fileId hmem
    exact hregular fileId ((Finset.mem_sort _).mp hmem)
  have hnew : ∀ fileId ∈ fileIds.sort, fileId ∉ (∅ : DigestMap) :=
    fun _ _ => Std.ExtTreeMap.not_mem_empty
  obtain ⟨digests, hfold, hlookup⟩ :=
    @foldlM_hashCandidate_ok blake3 _ _ _ _ (nodup_sort fileIds) hnew hregular'
  refine ⟨digests, hfold, fun fileId => ?_⟩
  rw [hlookup fileId, Std.ExtTreeMap.getElem?_empty]
  simp only [Finset.mem_sort]

end

variable {fileIds : Finset Nat} {digests : DigestMap}

/-- A map is the map of a set of file IDs when it has a value for exactly these. -/
theorem DigestMap.keys_eq (h : ∀ fileId : Nat, digests[fileId]?.isSome ↔ fileId ∈ fileIds) :
    digests.keys = fileIds.sort := by
  have hperm : digests.keys.Perm fileIds.sort := by
    refine (List.perm_ext_iff_of_nodup Std.ExtTreeMap.nodup_keys (nodup_sort fileIds)).mpr ?_
    intro fileId
    rw [Std.ExtTreeMap.mem_keys, Std.ExtTreeMap.mem_iff_isSome_getElem?, h, Finset.mem_sort]
  have hordered : digests.keys.Pairwise (· ≤ ·) :=
    Std.ExtTreeMap.ordered_keys.imp fun hlt => (Nat.compare_eq_lt.mp hlt).le
  exact hperm.eq_of_pairwise' hordered (Finset.pairwise_sort _ _)

theorem DigestMap.keys_eq_of_lookup {digest : Nat → Digest} (h : ∀ fileId : Nat,
      digests[fileId]? = if fileId ∈ fileIds then some (digest fileId) else none) :
    digests.keys = fileIds.sort := by
  apply DigestMap.keys_eq
  intro fileId
  rw [h]
  split <;> simp_all

/-- The maps of a set of file IDs in two trees have the same keys, and match where the contents have
the same digest. -/
theorem matchingCandidates_ok {destinationDigests sourceDigests : DigestMap}
    {destinationDigest sourceDigest : Nat → Digest}
    (hdestination : ∀ fileId : Nat, destinationDigests[fileId]? =
      if fileId ∈ fileIds then some (destinationDigest fileId) else none)
    (hsource : ∀ fileId : Nat, sourceDigests[fileId]? =
      if fileId ∈ fileIds then some (sourceDigest fileId) else none) :
    matchingCandidates destinationDigests sourceDigests =
      .ok (fileIds.filter fun fileId => destinationDigest fileId = sourceDigest fileId) := by
  have hkeys : destinationDigests.keys = sourceDigests.keys := by
    rw [DigestMap.keys_eq_of_lookup hdestination, DigestMap.keys_eq_of_lookup hsource]
  unfold matchingCandidates
  rw [ensure, if_pos hkeys, ok_bind]
  refine congrArg Except.ok ?_
  ext fileId
  simp only [List.mem_toFinset, List.mem_map, List.mem_filter, decide_eq_true_eq,
    Finset.mem_filter, Prod.exists, exists_and_right, exists_eq_right,
    Std.ExtTreeMap.mem_toList_iff_getElem?_eq_some]
  constructor
  · rintro ⟨digest, hmine, hother⟩
    rw [hdestination] at hmine
    rw [hsource] at hother
    by_cases hmem : fileId ∈ fileIds
    · rw [if_pos hmem] at hmine hother
      exact ⟨hmem, Option.some.inj (hmine.trans hother.symm)⟩
    · rw [if_neg hmem] at hmine
      cases hmine
  · rintro ⟨hmem, hsame⟩
    refine ⟨destinationDigest fileId, ?_, ?_⟩
    · rw [hdestination, if_pos hmem]
    · rw [hsource, if_pos hmem, hsame]

/-! ## The parties -/

/-- The writer of a request that is within the limit. -/
theorem writeVerificationRequest_eq {message : UInt8}
    (h : digests.size ≤ maxUnchangedOfferFiles) :
    writeVerificationRequest message digests = (do
      writeU8 message
      writeU32 digests.size
      sendEach writeDigestEntry digests.toList) := by
  have hlt := count_lt (.inl h)
  unfold writeVerificationRequest writeCount
  rw [u32TryFrom_eq_ok.mpr ⟨by omega, rfl⟩]
  simp only [attempt_ok, Proc.ret_bind, ensure, h, if_true]

section

variable {blake3 : Bytes → Digest} {source : FileTree} {destination : Destination}
  {manifest : Manifest}

/-- The files that are kept: unchanged by their metadata, and with the digest of the source. -/
def Kept (blake3 : Bytes → Digest) (source files : FileTree) (manifest : Manifest)
    (fileId : Nat) : Prop :=
  UnchangedAt files manifest fileId ∧
    blake3 (fileContent files manifest fileId) = blake3 (fileContent source manifest fileId)

/-- No verification is asked for. -/
theorem agree_next {L R : Fault → Prop} {α : Type} {Q : α → UInt8 → Prop} {next : UInt8} {a : α}
    (hfresh : next ≠ messageFreshResumeVerifyRequest) (hupdate : next ≠ messageUpdateVerifyRequest)
    (h : Q a next) :
    Agree L R (writeU8 next >>= fun _ => .ret a) (answerVerifications blake3 source manifest) Q := by
  have hnone : ∀ (request response : UInt8), next ≠ request →
      answerVerification blake3 source manifest request response next = .ret next :=
    fun _ _ hne => if_neg hne
  unfold answerVerifications
  refine agree_u8 ?_
  rw [hnone _ _ hfresh, Proc.ret_bind, hnone _ _ hupdate]
  exact Agree.ret h

/-- The files that are unchanged by their metadata are finitely many. -/
theorem finite_unchangedAt {files : FileTree} :
    {fileId | UnchangedAt files manifest fileId}.Finite :=
  (Set.finite_lt_nat manifest.length).subset fun _ h => h.lt_length

theorem checkUnchangedIds_ok {fileCount : Nat} {fileIds : List Nat}
    (h : ∀ fileId ∈ fileIds, fileId < fileCount) : checkUnchangedIds fileCount fileIds = .ok () := by
  induction fileIds with
  | nil => rfl
  | cons fileId rest ih =>
    obtain ⟨hfirst, hothers⟩ := List.forall_mem_cons.mp h
    rw [checkUnchangedIds, ensure, if_pos hfirst, ok_bind]
    exact ih hothers

theorem validateUnchangedOffer_ok {candidates : Finset Nat}
    (hcard : candidates.card ≤ maxUnchangedOfferFiles)
    (hbelow : ∀ fileId ∈ candidates, fileId < manifest.length) :
    validateUnchangedOffer manifest candidates = .ok () := by
  rw [validateUnchangedOffer, ensure, if_pos hcard, ok_bind]
  exact checkUnchangedIds_ok fun fileId hmem => hbelow fileId ((Finset.mem_sort _).mp hmem)

/-- The request with the digests of the candidates, and the answer. -/
theorem agree_answer {L R : Fault → Prop} {Q : Finset Nat → UInt8 → Prop} {next : UInt8}
    {mine other : DigestMap} {candidates matching : Finset Nat}
    (hcount : manifest.length < u64Limit)
    (hbelow : ∀ fileId ∈ candidates, fileId < manifest.length)
    (hcard : candidates.card ≤ maxUnchangedOfferFiles) (hkeys : mine.keys = candidates.sort)
    (hother : hashCandidates blake3 source manifest candidates = .ok other)
    (hmatching : matchingCandidates mine other = .ok matching) (hsubset : matching ⊆ candidates)
    (h : Q matching next) :
    Agree L R
      (writeVerificationRequest messageUpdateVerifyRequest mine >>= fun _ =>
        readVerificationResponse messageUpdateVerifyResponse "update-verification" >>=
          fun matchingFileIds => attempt .protocol (ensure (matchingFileIds ⊆ candidates)
            (.invalidData "sender verified a file that was not offered as a candidate")) >>=
              fun _ => writeU8 next >>= fun _ => .ret matchingFileIds)
      (answerVerifications blake3 source manifest) Q := by
  have hsize : mine.size ≤ maxUnchangedOfferFiles := by
    rw [← Std.ExtTreeMap.length_keys, hkeys, Finset.length_sort]
    exact hcard
  have hrepresentable : mine.Representable := by
    intro entry hentry
    have hkey : entry.1 ∈ mine.keys := by
      rw [← Std.ExtTreeMap.map_fst_toList_eq_keys]
      exact List.mem_map_of_mem hentry
    rw [hkeys, Finset.mem_sort] at hkey
    exact (hbelow _ hkey).trans hcount
  have hmatchingCard := (Finset.card_le_card hsubset).trans hcard
  have hmatchingIds : AllRepresentable matching := by
    intro fileId hmem
    exact (hbelow _ (hsubset hmem)).trans hcount
  have hlt := count_lt (.inl hmatchingCard)
  have hresponse : Emits (writeVerificationResponse messageUpdateVerifyResponse matching) _
      (.ok ()) := emits_writeVerificationResponse.mpr ⟨⟨by omega, hmatchingIds⟩, rfl⟩
  have hbody : Emits (writeU32 mine.size >>= fun _ => sendEach writeDigestEntry mine.toList)
      (requestBytes mine.toList) (.ok ()) := by
    rw [emits_writeU32_bind]
    refine ⟨mine.toList.flatMap digestEntryBytes,
      (emits_sendEach (fun _ _ => emits_writeDigestEntry)).mpr ⟨hrepresentable, rfl⟩, ?_⟩
    rw [requestBytes, Std.ExtTreeMap.length_toList]
  have hparsed : Parses readVerificationRequest (requestBytes mine.toList) mine := by
    refine parses_readVerificationRequest.mpr ⟨mine.toList, ?_, mine.nodup_toList, hrepresentable,
      mine.ofList_toList.symm, rfl⟩
    rw [Std.ExtTreeMap.length_toList]
    exact hsize
  have hoffer : validateUnchangedOffer manifest mine.keys.toFinset = .ok () := by
    rw [hkeys, ← eq_toFinset_sort candidates]
    exact validateUnchangedOffer_ok hcard hbelow
  rw [writeVerificationRequest_eq hsize, bind_assoc]
  unfold answerVerifications
  refine agree_u8 ?_
  -- The message is that of an update.
  rw [answerVerification, if_neg (by decide), Proc.pure_eq_ret, Proc.ret_bind, answerVerification,
    if_pos rfl, respondToVerificationRequest, bind_assoc readVerificationRequest]
  refine Agree.bind (Q := fun _ digests => digests = mine) (Agree.passed hbody hparsed rfl) ?_
  intro _ digests hdigests
  rw [hdigests]
  simp only [hoffer, attempt_ok, Proc.ret_bind]
  rw [hkeys, ← eq_toFinset_sort candidates]
  simp only [hother, attempt_ok, Proc.ret_bind, hmatching]
  refine Agree.bind (Q := fun found _ => found = matching)
    (Agree.passed hresponse (parses_written_verificationResponse hmatchingCard hresponse) rfl).swap
    ?_
  intro found _ hfound
  rw [hfound, ensure, if_pos hsubset, attempt_ok, Proc.ret_bind]
  have hread : (readU8 : Party UInt8) = readU8 >>= fun message => .ret message :=
    (bind_pure _).symm
  rw [hread]
  exact agree_u8 (Agree.ret h)

theorem agree_negotiateVerified {L R : Fault → Prop} {next : UInt8}
    (hfresh : next ≠ messageFreshResumeVerifyRequest) (hupdate : next ≠ messageUpdateVerifyRequest)
    (hcount : manifest.length < u64Limit) (hbytes : Manifest.totalBytes manifest < u64Limit)
    (hsource : ∀ fileId < manifest.length, RegularAt source manifest fileId)
    (hdestination : destination.Unconflicted manifest)
    (hlimit : {fileId | UnchangedAt destination.files manifest fileId}.ncard ≤
      maxUnchangedOfferFiles) :
    Agree L R
      (do
        let matching ← negotiateVerifiedUnchangedFiles blake3 destination manifest
        writeU8 next
        return matching)
      (answerVerifications blake3 source manifest)
      (fun matching message => (∀ fileId, fileId ∈ matching ↔
        Kept blake3 source destination.files manifest fileId) ∧ message = next) := by
  unfold negotiateVerifiedUnchangedFiles
  by_cases hroot : destination.root = none
  · rw [if_pos hroot]
    refine agree_next hfresh hupdate ⟨?_, rfl⟩
    intro fileId
    refine iff_of_false (Finset.notMem_empty _) ?_
    intro ⟨⟨entry, _, node, hnode, _⟩, _⟩
    rw [destination.files_of_root hroot] at hnode
    cases hnode
  · rw [if_neg hroot]
    obtain ⟨root, hsome⟩ := Option.ne_none_iff_exists'.mp hroot
    rw [hdestination.root root hsome] at hsome
    obtain ⟨inventory, hinventory, hvalid⟩ := compareFast_ok hsome hdestination.free hcount hbytes
    have hids := compareFast_ids hinventory
    simp only [hinventory, hvalid, attempt_ok, Proc.ret_bind]
    by_cases hempty : inventory.unchangedFileIds = ∅
    · rw [if_pos hempty]
      refine agree_next hfresh hupdate ⟨?_, rfl⟩
      intro fileId
      rw [hids]
      refine ⟨?_, fun h => h.1⟩
      intro h
      rw [← hids, hempty] at h
      exact absurd h (Finset.notMem_empty _)
    · rw [if_neg hempty]
      have hbelow : ∀ fileId ∈ inventory.unchangedFileIds, fileId < manifest.length :=
        fun fileId hmem => ((hids fileId).mp hmem).lt_length
      have hcard : inventory.unchangedFileIds.card ≤ maxUnchangedOfferFiles := by
        have hset : {fileId | UnchangedAt destination.files manifest fileId} =
            inventory.unchangedFileIds := Set.ext fun fileId => (hids fileId).symm
        rwa [hset, Set.ncard_coe_finset] at hlimit
      obtain ⟨mine, hmine, hmineLookup⟩ := @hashCandidates_ok blake3 destination.files manifest _
        fun fileId hmem => ((hids fileId).mp hmem).regular
      obtain ⟨other, hother, hotherLookup⟩ := @hashCandidates_ok blake3 source manifest _
        fun fileId hmem => hsource fileId (hbelow fileId hmem)
      have hkeys := DigestMap.keys_eq_of_lookup hmineLookup
      simp only [hmine, attempt_ok, Proc.ret_bind, bind_assoc, Proc.pure_eq_ret]
      refine agree_answer hcount hbelow hcard hkeys hother
        (matchingCandidates_ok hmineLookup hotherLookup) (Finset.filter_subset _ _) ⟨?_, rfl⟩
      intro fileId
      rw [Finset.mem_filter, hids]
      rfl

/-! ## Any sender -/

theorem readFrom_attempt_bind {α β : Type} {kind : IoError → Fault} {result : IoResult α}
    {f : α → Party β} {input rest : Bytes} {b : β} :
    (attempt kind result >>= f).readFrom input = .done b rest ↔
      ∃ a, result = .ok a ∧ (f a).readFrom input = .done b rest := by
  rw [Proc.readFrom_bind]
  unfold attempt
  simp only [Proc.readFrom_lift, mapError_eq_ok]
  constructor
  · intro ⟨a, middle, ⟨hresult, hmiddle⟩, h⟩
    exact ⟨a, hresult, hmiddle ▸ h⟩
  · intro ⟨a, hresult, h⟩
    exact ⟨a, input, ⟨hresult, rfl⟩, h⟩

/-- A request is only written within its limit. -/
theorem size_le_of_writeVerificationRequest {message : UInt8} {digests : DigestMap}
    {input rest : Bytes} {u : Unit}
    (h : (writeVerificationRequest message digests).readFrom input = .done u rest) :
    digests.size ≤ maxUnchangedOfferFiles := by
  unfold writeVerificationRequest writeCount at h
  rw [bind_assoc, readFrom_attempt_bind] at h
  obtain ⟨count, hcount, h⟩ := h
  rw [readFrom_attempt_bind] at h
  obtain ⟨_, hlimit, _⟩ := h
  rw [u32TryFrom_eq_ok] at hcount
  rw [ensure_eq_ok, hcount.2] at hlimit
  exact hlimit

/-- Whatever is answered, what the negotiation returns was offered, and what was offered is within
the limit. -/
theorem negotiate_done {reply rest : Bytes} {matching : Finset Nat}
    (h : (negotiateVerifiedUnchangedFiles blake3 destination manifest).readFrom reply =
      .done matching rest) :
    (∀ fileId ∈ matching, UnchangedAt destination.files manifest fileId) ∧
      {fileId | UnchangedAt destination.files manifest fileId}.ncard ≤ maxUnchangedOfferFiles := by
  unfold negotiateVerifiedUnchangedFiles at h
  by_cases hroot : destination.root = none
  · rw [if_pos hroot] at h
    cases h
    have hset : {fileId | UnchangedAt destination.files manifest fileId} = ∅ := by
      refine Set.eq_empty_of_forall_notMem ?_
      intro fileId ⟨entry, _, node, hnode, _⟩
      rw [destination.files_of_root hroot] at hnode
      cases hnode
    rw [hset, Set.ncard_empty]
    exact ⟨fun _ hmem => absurd hmem (Finset.notMem_empty _), Nat.zero_le _⟩
  · rw [if_neg hroot, readFrom_attempt_bind] at h
    obtain ⟨inventory, hinventory, h⟩ := h
    rw [readFrom_attempt_bind] at h
    obtain ⟨_, _, h⟩ := h
    have hids := compareFast_ids hinventory
    have hset : {fileId | UnchangedAt destination.files manifest fileId} =
        inventory.unchangedFileIds := Set.ext fun fileId => (hids fileId).symm
    rw [hset, Set.ncard_coe_finset]
    simp only at h
    by_cases hempty : inventory.unchangedFileIds = ∅
    · rw [if_pos hempty] at h
      cases h
      rw [hempty]
      exact ⟨fun _ hmem => absurd hmem (Finset.notMem_empty _), Nat.zero_le _⟩
    · rw [if_neg hempty, readFrom_attempt_bind] at h
      obtain ⟨mine, hmine, h⟩ := h
      rw [Proc.readFrom_bind] at h
      obtain ⟨_, _, hwritten, h⟩ := h
      rw [Proc.readFrom_bind] at h
      obtain ⟨found, _, _, h⟩ := h
      rw [readFrom_attempt_bind] at h
      obtain ⟨_, hsubset, h⟩ := h
      cases h
      rw [ensure_eq_ok] at hsubset
      obtain ⟨mine', hmine', hlookup⟩ := @hashCandidates_ok blake3 destination.files manifest _
        fun fileId hmem => ((hids fileId).mp hmem).regular
      rw [hmine'] at hmine
      cases hmine
      have hkeys := DigestMap.keys_eq_of_lookup hlookup
      have hsize := size_le_of_writeVerificationRequest hwritten
      rw [← Std.ExtTreeMap.length_keys, hkeys, Finset.length_sort] at hsize
      exact ⟨fun fileId hmem => (hids fileId).mp (hsubset hmem), hsize⟩

/-! ## The selection -/

/-- The part of `prepare_destination` that selects: the second inventory must still hold what was
negotiated. -/
def selectVerified (destination : Destination) (manifest : Manifest)
    (verifiedUnchangedFileIds : Finset Nat) : IoResult (Finset Nat × Finset Nat) := do
  let inventory ← compareFast destination manifest
  validateUpdateInventory inventory
  selectUpdateFileSets .updateVerified inventory (some verifiedUnchangedFileIds)

theorem selectVerified_ok {verified : Finset Nat}
    (hroot : destination.root = some ⟨false, true⟩)
    (hfree : ∀ entry ∈ manifest, EntryFree destination.files entry)
    (hcount : manifest.length < u64Limit) (hbytes : Manifest.totalBytes manifest < u64Limit)
    (hverified : ∀ fileId ∈ verified, UnchangedAt destination.files manifest fileId) :
    ∃ reset, selectVerified destination manifest verified = .ok (verified, reset) ∧
      ∀ fileId, fileId ∈ reset ↔
        UnchangedAt destination.files manifest fileId ∧ fileId ∉ verified := by
  obtain ⟨inventory, hinventory, hvalid⟩ := compareFast_ok hroot hfree hcount hbytes
  have hids := compareFast_ids hinventory
  have hsubset : verified ⊆ inventory.unchangedFileIds :=
    fun fileId hmem => (hids fileId).mpr (hverified fileId hmem)
  refine ⟨inventory.unchangedFileIds \ verified, ?_, ?_⟩
  · rw [selectVerified, hinventory, ok_bind, hvalid, ok_bind, selectUpdateFileSets, okOrElse_some,
      ok_bind, ensure, if_pos hsubset]
    rfl
  · intro fileId
    rw [Finset.mem_sdiff, hids]

end

/-! ## A tree with too many files -/

theorem emptyNode_fits : ([] : Bytes).length < fileSizeLimit := by norm_num [fileSizeLimit]

/-- An empty file. -/
def emptyNode : FileNode :=
  { content := ⟨[], emptyNode_fits⟩, lastWriteTime := 1
    fileAttributes := fileAttributeArchive }

/-- Its entry under a name. -/
def emptyEntry (index : Nat) : ManifestEntry :=
  { relativePath := utf16 (toString index), fileSize := 0, lastWriteTime := 1
    fileAttributes := fileAttributeArchive, fileClass := .tiny
    fileSize_lt := zero_lt_u64Limit, lastWriteTime_lt := one_lt_u64Limit }

/-- A manifest of empty files. -/
def emptyFilesManifest (count : Nat) : Manifest := (List.range count).map emptyEntry

/-- The tree of these files. -/
def emptyFilesTree (count : Nat) : FileTree := fun path =>
  if path ∈ (emptyFilesManifest count).map ManifestEntry.relativePath then some (.file emptyNode)
  else none

/-- The tree as a destination. -/
def emptyFilesDestination (count : Nat) : Destination where
  root := some ⟨false, true⟩
  files := emptyFilesTree count
  files_of_root := fun h => nomatch h

theorem emptyFilesTree_entry {count : Nat} (h : entry ∈ emptyFilesManifest count) :
    emptyFilesTree count entry.relativePath = some (.file emptyNode) :=
  if_pos (List.mem_map_of_mem h)

theorem emptyFilesManifest_getElem? {count fileId : Nat} (h : fileId < count) :
    (emptyFilesManifest count)[fileId]? = some (emptyEntry fileId) := by
  rw [emptyFilesManifest, List.getElem?_map, List.getElem?_range h]
  rfl

theorem emptyFilesTree_unchanged {count fileId : Nat} (h : fileId < count) :
    UnchangedAt (emptyFilesTree count) (emptyFilesManifest count) fileId := by
  have hentry := emptyFilesManifest_getElem? h
  exact ⟨emptyEntry fileId, hentry, emptyNode, emptyFilesTree_entry (List.mem_of_getElem? hentry),
    by decide, rfl, rfl⟩

theorem emptyFiles_kept {blake3 : Bytes → Digest} {count fileId : Nat} (h : fileId < count) :
    Kept blake3 (emptyFilesTree count) (emptyFilesDestination count).files
      (emptyFilesManifest count) fileId :=
  ⟨emptyFilesTree_unchanged h, rfl⟩

theorem emptyFilesDestination_unconflicted {count : Nat} :
    (emptyFilesDestination count).Unconflicted (emptyFilesManifest count) := by
  constructor
  · intro root h
    cases h
    rfl
  · intro entry hentry
    have hnode := emptyFilesTree_entry hentry
    constructor
    · show emptyFilesTree count entry.relativePath ≠ some .directory
      rw [hnode]
      exact fun h => nomatch h
    · intro node h
      have hsame : emptyFilesTree count entry.relativePath = some (.file node) := h
      rw [hnode] at hsame
      cases hsame
      decide

end NetworkCopy
