import NetworkCopy.Session.ControlStream

/-!
# Messages about generations, large files, the end and the source

The bytes of the other messages of the control stream: the commit of a generation, the candidates
for reconstruction, the acknowledgement of a transfer, and what the sender says of its source.
-/

namespace NetworkCopy

open Duplex ByteOrder

/-! ## Generations -/

variable {commit : GenerationCommit} {fileIds : List Nat}

theorem generationCommitListCount_eq_ok {description : String} {count : Nat} :
    generationCommitListCount fileIds description = .ok count ↔
      fileIds.length ≤ maxGenerationCommitFileIds ∧ count = fileIds.length := by
  unfold generationCommitListCount
  simp only [bind_eq_ok, u32TryFrom_eq_ok, ensure_eq_ok, Unique.exists_iff, pure_eq_ok,
    Except.ok.injEq]
  constructor
  · intro ⟨found, ⟨_, hfound⟩, hcount, hsame⟩
    rw [hfound] at hcount hsame
    exact ⟨hcount, hsame.symm⟩
  · intro ⟨hcount, hsame⟩
    have hlt := count_lt (.inr (.inr hcount))
    exact ⟨fileIds.length, ⟨by omega, rfl⟩, hcount, hsame.symm⟩

/-- The formula of the wire size. -/
theorem generationCommitWireBytes_eq_ok {bytes : Nat} :
    generationCommitWireBytes commit = .ok bytes ↔
      (commit.committedFileIds.length ≤ maxGenerationCommitFileIds ∧
        commit.publishedFileIds.length ≤ maxGenerationCommitFileIds ∧
        commit.evictedFileIds.length ≤ maxGenerationCommitFileIds) ∧
      bytes = generationCommitFixedWireBytes + (commit.committedFileIds.length +
        commit.publishedFileIds.length + commit.evictedFileIds.length) *
          generationCommitFileIdWireBytes := by
  unfold generationCommitWireBytes
  simp only [bind_eq_ok, generationCommitListCount_eq_ok, okOrElse_eq_ok, Option.bind_eq_some_iff,
    checkedAdd_eq_some, checkedMul_eq_some]
  constructor
  · intro ⟨committed, ⟨hcommitted, hsame⟩, published, ⟨hpublished, hsame2⟩, evicted,
      ⟨hevicted, hsame3⟩, total, ⟨first, ⟨_, hfirst⟩, _, htotal⟩, product, ⟨_, hproduct⟩, _,
      hbytes⟩
    refine ⟨⟨hcommitted, hpublished, hevicted⟩, ?_⟩
    rw [← hbytes, ← hproduct, ← htotal, ← hfirst, hsame, hsame2, hsame3]
  · intro ⟨⟨hcommitted, hpublished, hevicted⟩, hbytes⟩
    have hlimit : maxGenerationCommitFileIds = 1000000 := by
      unfold maxGenerationCommitFileIds
      rfl
    have hu64 : u64Limit = 18446744073709551616 := by
      unfold u64Limit
      rfl
    have hfixed : generationCommitFixedWireBytes = 21 := rfl
    have hwidth : generationCommitFileIdWireBytes = 8 := rfl
    refine ⟨_, ⟨hcommitted, rfl⟩, _, ⟨hpublished, rfl⟩, _, ⟨hevicted, rfl⟩, _,
      ⟨_, ⟨?_, rfl⟩, ?_, rfl⟩, _, ⟨?_, rfl⟩, ?_, hbytes.symm⟩
    · omega
    · omega
    · rw [hwidth]
      omega
    · rw [hwidth]
      omega

theorem checkDistinct_eq_ok {description : String} :
    ∀ {seen : List Nat}, checkDistinct description fileIds seen = .ok () ↔
      fileIds.Nodup ∧ ∀ fileId ∈ fileIds, fileId ∉ seen := by
  induction fileIds with
  | nil =>
    intro seen
    simp [checkDistinct]
  | cons fileId rest ih =>
    intro seen
    unfold checkDistinct
    simp only [bind_eq_ok, ensure_eq_ok, Unique.exists_iff, ih, List.nodup_cons,
      List.forall_mem_cons]
    constructor
    · rintro ⟨hfresh, hnodup, hrest⟩
      exact ⟨⟨fun hmem => hrest fileId hmem List.mem_cons_self, hnodup⟩, hfresh,
        fun other hother hseen => hrest other hother (List.mem_cons_of_mem _ hseen)⟩
    · rintro ⟨⟨hnotMem, hnodup⟩, hfresh, hrest⟩
      refine ⟨hfresh, hnodup, fun other hother hseen => ?_⟩
      cases List.mem_cons.mp hseen with
      | inl hsame => exact hnotMem (hsame ▸ hother)
      | inr hold => exact hrest other hother hold

/-- A list that a commit can carry. -/
structure CommitList (fileIds : List Nat) : Prop where
  limit : fileIds.length ≤ maxGenerationCommitFileIds
  distinct : fileIds.Nodup
  representable : ∀ fileId ∈ fileIds, fileId < u64Limit

/-- A commit that can be written. -/
structure GenerationCommit.Carried (commit : GenerationCommit) : Prop where
  index : commit.generationIndex < u64Limit
  committed : CommitList commit.committedFileIds
  published : CommitList commit.publishedFileIds
  evicted : CommitList commit.evictedFileIds

/-- The bytes of a commit. -/
def commitBytes (commit : GenerationCommit) : Bytes :=
  [messageGenerationCommit] ++ (beBytes 8 commit.generationIndex ++
    (countedFileIdBytes commit.committedFileIds ++
      (countedFileIdBytes commit.publishedFileIds ++
        countedFileIdBytes commit.evictedFileIds)))

theorem validateGenerationFileIdsForWrite_eq_ok {fileIds : List Nat} {description : String} :
    validateGenerationFileIdsForWrite fileIds description = .ok () ↔
      fileIds.length ≤ maxGenerationCommitFileIds ∧ fileIds.Nodup := by
  unfold validateGenerationFileIdsForWrite
  simp only [bind_eq_ok, generationCommitListCount_eq_ok, checkDistinct_eq_ok, List.not_mem_nil,
    not_false_eq_true, implies_true, and_true, and_assoc, exists_and_left, exists_eq_left]

section

variable {β : Type} {w : Bytes} {b : β}
variable {description : String}

theorem emits_writeGenerationFileIds_bind {fileIds : List Nat} {f : Unit → Party β} :
    Emits (writeGenerationFileIds fileIds description >>= f) w (.ok b) ↔
      fileIds.length ≤ maxGenerationCommitFileIds ∧ (∀ fileId ∈ fileIds, fileId < u64Limit) ∧
        ∃ rest, Emits (f ()) rest (.ok b) ∧ w = countedFileIdBytes fileIds ++ rest := by
  unfold writeGenerationFileIds countedFileIdBytes
  simp only [bind_assoc, emits_attempt_bind, generationCommitListCount_eq_ok,
    emits_writeU32_bind, emits_fileIds_bind, and_assoc, exists_and_left, exists_eq_left,
    List.append_assoc]
  constructor
  · intro ⟨hlimit, hids, tail, ⟨rest, hrest, htail⟩, hw⟩
    exact ⟨hlimit, hids, rest, hrest, by rw [hw, htail]⟩
  · intro ⟨hlimit, hids, rest, hrest, hw⟩
    exact ⟨hlimit, hids, _, ⟨rest, hrest, rfl⟩, hw⟩

theorem emits_validate_bind {fileIds : List Nat} {f : Unit → Party β} :
    Emits (attempt .refused (validateGenerationFileIdsForWrite fileIds description) >>= f) w
        (.ok b) ↔
      (fileIds.length ≤ maxGenerationCommitFileIds ∧ fileIds.Nodup) ∧
        Emits (f ()) w (.ok b) := by
  rw [emits_attempt_bind, ← @validateGenerationFileIdsForWrite_eq_ok fileIds description]
  exact Unique.exists_iff

theorem emits_wireBytes_bind {commit : GenerationCommit} {f : Nat → Party β} :
    Emits (attempt .refused (generationCommitWireBytes commit) >>= f) w (.ok b) ↔
      ∃ bytes, generationCommitWireBytes commit = .ok bytes ∧ Emits (f bytes) w (.ok b) :=
  emits_attempt_bind

theorem parses_wireBytes_bind {commit : GenerationCommit} {wrap : IoError → IoError}
    {g : Nat → Party β} :
    Parses (attempt .protocol ((generationCommitWireBytes commit).mapError wrap) >>= g) w b ↔
      ∃ bytes, generationCommitWireBytes commit = .ok bytes ∧ Parses (g bytes) w b := by
  rw [parses_attempt_bind]
  simp only [mapError_eq_ok]

theorem parses_readGenerationFileIds_bind {g : List Nat → Party β} :
    Parses (readGenerationFileIds description >>= g) w b ↔
      ∃ (fileIds : List Nat) (rest : Bytes), CommitList fileIds ∧ Parses (g fileIds) rest b ∧
        w = countedFileIdBytes fileIds ++ rest := by
  unfold readGenerationFileIds countedFileIdBytes
  simp only [bind_assoc, parses_readU32_bind, parses_ensure_bind, parses_readFileIds_bind,
    List.append_assoc]
  constructor
  · rintro ⟨count, tail, _, ⟨hlimit, fileIds, rest, hlength, hnodup, hids, hrest, htail⟩, hw⟩
    refine ⟨fileIds, rest, ⟨by rw [hlength]; exact hlimit, hnodup, hids⟩, hrest, ?_⟩
    rw [hw, htail, hlength]
  · rintro ⟨fileIds, rest, ⟨hlimit, hnodup, hids⟩, hrest, hw⟩
    exact ⟨fileIds.length, _, count_lt (.inr (.inr hlimit)),
      ⟨hlimit, fileIds, rest, rfl, hnodup, hids, hrest, rfl⟩, hw⟩

end

theorem emits_writeGenerationCommit {w : Bytes} :
    Emits (writeGenerationCommit commit) w (.ok ()) ↔
      commit.Carried ∧ w = commitBytes commit := by
  have hlast : (writeGenerationFileIds commit.evictedFileIds "generation evicted-file list") =
      (writeGenerationFileIds commit.evictedFileIds "generation evicted-file list" >>=
        fun u => .ret u) := (bind_pure _).symm
  unfold writeGenerationCommit commitBytes
  rw [hlast]
  simp only [emits_validate_bind, emits_wireBytes_bind, generationCommitWireBytes_eq_ok,
    emits_writeU8_bind, emits_writeIndex_bind, emits_writeGenerationFileIds_bind, emits_ret]
  constructor
  · intro ⟨⟨hcommitted, hdistinct⟩, ⟨hpublished, hdistinct2⟩, ⟨hevicted, hdistinct3⟩, _, _, _,
      ⟨hindex, _, ⟨_, hids, _, ⟨_, hids2, _, ⟨_, hids3, _, ⟨hw6, _⟩, hw5⟩, hw4⟩, hw3⟩, hw2⟩, hw1⟩
    refine ⟨⟨hindex, ⟨hcommitted, hdistinct, hids⟩, ⟨hpublished, hdistinct2, hids2⟩,
      ⟨hevicted, hdistinct3, hids3⟩⟩, ?_⟩
    rw [hw1, hw2, hw3, hw4, hw5, hw6, List.append_nil]
  · intro ⟨⟨hindex, hcommitted, hpublished, hevicted⟩, hw⟩
    exact ⟨⟨hcommitted.limit, hcommitted.distinct⟩, ⟨hpublished.limit, hpublished.distinct⟩,
      ⟨hevicted.limit, hevicted.distinct⟩, _,
      ⟨⟨hcommitted.limit, hpublished.limit, hevicted.limit⟩, rfl⟩, _,
      ⟨hindex, _, ⟨hcommitted.limit, hcommitted.representable, _,
        ⟨hpublished.limit, hpublished.representable, _,
          ⟨hevicted.limit, hevicted.representable, [], ⟨rfl, trivial⟩,
            (List.append_nil _).symm⟩, rfl⟩, rfl⟩, rfl⟩, hw⟩

theorem parses_readGenerationCommit {w : Bytes} :
    Parses readGenerationCommit w commit ↔ commit.Carried ∧ w = commitBytes commit := by
  unfold readGenerationCommit commitBytes
  simp only [parses_readU8_bind, parses_ensure_bind, parses_readU64_bind,
    parses_readGenerationFileIds_bind, parses_wireBytes_bind, generationCommitWireBytes_eq_ok,
    Proc.pure_eq_ret, parses_ret]
  rw [← u64Limit_eq]
  constructor
  · rintro ⟨message, _, ⟨hmessage, index, _, hindex, ⟨committed, _, hcommitted, ⟨published, _,
      hpublished, ⟨evicted, _, hevicted, ⟨_, _, hnil, hcommit⟩, hw5⟩, hw4⟩, hw3⟩, hw2⟩, hw1⟩
    rw [hcommit]
    refine ⟨⟨hindex, hcommitted, hpublished, hevicted⟩, ?_⟩
    rw [hw1, hw2, hw3, hw4, hw5, hnil, List.append_nil, hmessage]
  · rintro ⟨⟨hindex, hcommitted, hpublished, hevicted⟩, hw⟩
    exact ⟨messageGenerationCommit, _, ⟨rfl, commit.generationIndex, _, hindex,
      ⟨commit.committedFileIds, _, hcommitted, ⟨commit.publishedFileIds, _, hpublished,
        ⟨commit.evictedFileIds, [], hevicted,
          ⟨_, ⟨⟨hcommitted.limit, hpublished.limit, hevicted.limit⟩, rfl⟩, rfl, rfl⟩,
          (List.append_nil _).symm⟩, rfl⟩, rfl⟩, rfl⟩, hw⟩

/-! ## Large files -/

/-- A large file of the manifest. -/
def Manifest.IsLarge (manifest : Manifest) (fileId : Nat) : Prop :=
  ∃ entry, manifest[fileId]? = some entry ∧ entry.fileClass = .large

theorem checkLargeCdcCandidate_eq_ok {manifest : Manifest} {fileId : Nat} :
    checkLargeCdcCandidate manifest fileId = .ok () ↔ manifest.IsLarge fileId := by
  unfold checkLargeCdcCandidate Manifest.IsLarge
  simp only [bind_eq_ok, okOrElse_eq_ok, ensure_eq_ok]

theorem emits_writeLargeCdcBegin {w : Bytes} :
    Emits (writeLargeCdcBegin fileIds) w (.ok ()) ↔
      (fileIds.length ≤ maxUnchangedOfferFiles ∧ ∀ fileId ∈ fileIds, fileId < u64Limit) ∧
        w = [messageLargeCdcBegin] ++ countedFileIdBytes fileIds := by
  unfold writeLargeCdcBegin countedFileIdBytes
  simp only [emits_writeCount_bind, emits_writeU8_bind, emits_writeU32_bind, emits_fileIds,
    and_assoc, exists_and_left, exists_eq_left]
  constructor
  · intro ⟨_, hcount, hids, hw⟩
    exact ⟨hcount, hids, hw⟩
  · intro ⟨hcount, hids, hw⟩
    have hlt := count_lt (.inl hcount)
    exact ⟨by omega, hcount, hids, hw⟩

theorem parses_readLargeCdcCandidateFileIds {manifest : Manifest} {w : Bytes} :
    Parses (readLargeCdcCandidateFileIds manifest) w fileIds ↔
      (fileIds.length ≤ maxUnchangedOfferFiles ∧ fileIds.Nodup ∧
        ∀ fileId ∈ fileIds, manifest.IsLarge fileId ∧ fileId < u64Limit) ∧
        w = countedFileIdBytes fileIds := by
  unfold readLargeCdcCandidateFileIds countedFileIdBytes fileIdBytes
  simp only [parses_readU32_bind, parses_ensure_bind,
    parses_receiveDistinct (fun _ _ => parses_readFileId), mapError_eq_ok,
    checkLargeCdcCandidate_eq_ok, List.map_id, List.not_mem_nil, not_false_eq_true, true_and]
  rw [← u64Limit_eq]
  constructor
  · rintro ⟨count, rest, _, ⟨hcount, hlength, hnodup, hids, hrest⟩, hw⟩
    refine ⟨⟨by rw [hlength]; exact hcount, hnodup, hids⟩, ?_⟩
    rw [hw, hrest, hlength]
  · rintro ⟨⟨hcount, hnodup, hids⟩, hw⟩
    exact ⟨fileIds.length, _, count_lt (.inl hcount), ⟨hcount, rfl, hnodup, hids, rfl⟩, hw⟩

/-! ## The acknowledgement -/

/-- The `u64` fields of the acknowledgement before and behind the number of workers. -/
def TransferAck.fields (ack : TransferAck) : List Nat × List Nat :=
  ([ack.filesCopied, ack.bytesCopied, ack.dataWireBytes, ack.compressedRecords,
      ack.cdc.offeredFiles, ack.cdc.completedFiles, ack.cdc.fallbackFiles, ack.cdc.logicalBytes,
      ack.cdc.reusedBytes, ack.cdc.literalBytes, ack.cdc.indexWireBytes, ack.cdc.planWireBytes],
    [ack.tinyPackCount, ack.compressedTinyPackCount, ack.rawTinyPackCount, ack.tinyFilesPacked,
      ack.tinyBytesPacked, ack.tinyPackWireBytes])

/-- A value with the types of the source. -/
structure TransferAck.Typed (ack : TransferAck) : Prop where
  before : ∀ value ∈ ack.fields.1, value < u64Limit
  workers : ack.tinyMaterializationWorkers < 2 ^ 32
  behind : ∀ value ∈ ack.fields.2, value < u64Limit

/-- The bytes of an acknowledgement. -/
def ackBytes (ack : TransferAck) : Bytes :=
  [messageTransferAck] ++ (fileIdBytes ack.fields.1 ++
    (beBytes 4 ack.tinyMaterializationWorkers ++ fileIdBytes ack.fields.2))

theorem emits_writeTransferAck {ack : TransferAck} {w : Bytes} :
    Emits (writeTransferAck ack) w (.ok ()) ↔ w = ackBytes ack := by
  unfold writeTransferAck
  simp only [emits_writeU8_bind, emits_writeU64_bind, emits_writeU32_bind, emits_writeU64,
    exists_eq_left]
  have hbytes : ackBytes ack = [messageTransferAck] ++ (fileIdBytes ack.fields.1 ++
      (beBytes 4 ack.tinyMaterializationWorkers ++ fileIdBytes ack.fields.2)) := rfl
  rw [hbytes]
  simp only [TransferAck.fields, fileIdBytes, List.flatMap_cons, List.flatMap_nil,
    List.append_assoc, List.append_nil]

theorem parses_readTransferAck {ack : TransferAck} {w : Bytes} :
    Parses readTransferAck w ack ↔ ack.Typed ∧ w = ackBytes ack := by
  unfold readTransferAck
  simp only [parses_readU8_bind, parses_ensure_bind, parses_readU64_bind, parses_readU32_bind,
    Proc.pure_eq_ret, parses_ret]
  rw [← u64Limit_eq]
  constructor
  · rintro ⟨message, _, ⟨hmessage, v1, _, h1, ⟨v2, _, h2, ⟨v3, _, h3, ⟨v4, _, h4, ⟨v5, _, h5,
      ⟨v6, _, h6, ⟨v7, _, h7, ⟨v8, _, h8, ⟨v9, _, h9, ⟨v10, _, h10, ⟨v11, _, h11, ⟨v12, _, h12,
      ⟨workers, _, hworkers, ⟨v13, _, h13, ⟨v14, _, h14, ⟨v15, _, h15, ⟨v16, _, h16,
      ⟨v17, _, h17, ⟨v18, _, h18, ⟨hnil, hack⟩, e20⟩, e19⟩, e18⟩, e17⟩, e16⟩, e15⟩, e14⟩, e13⟩,
      e12⟩, e11⟩, e10⟩, e9⟩, e8⟩, e7⟩, e6⟩, e5⟩, e4⟩, e3⟩, e2⟩, e1⟩
    rw [hack]
    constructor
    · constructor
      · simp only [TransferAck.fields, List.forall_mem_cons]
        exact ⟨h1, h2, h3, h4, h5, h6, h7, h8, h9, h10, h11, h12, fun _ hnone => by cases hnone⟩
      · show workers < 2 ^ 32
        omega
      · simp only [TransferAck.fields, List.forall_mem_cons]
        exact ⟨h13, h14, h15, h16, h17, h18, fun _ hnone => by cases hnone⟩
    · rw [e1, e2, e3, e4, e5, e6, e7, e8, e9, e10, e11, e12, e13, e14, e15, e16, e17, e18, e19,
        e20, hnil, hmessage]
      simp only [ackBytes, TransferAck.fields, fileIdBytes, List.flatMap_cons, List.flatMap_nil,
        List.append_assoc, List.append_nil]
  · rintro ⟨⟨hbefore, hworkers, hbehind⟩, hw⟩
    simp only [TransferAck.fields, List.forall_mem_cons] at hbefore hbehind
    obtain ⟨h1, h2, h3, h4, h5, h6, h7, h8, h9, h10, h11, h12, _⟩ := hbefore
    obtain ⟨h13, h14, h15, h16, h17, h18, _⟩ := hbehind
    refine ⟨messageTransferAck, _, ⟨rfl, _, _, h1, ⟨_, _, h2, ⟨_, _, h3, ⟨_, _, h4, ⟨_, _, h5,
      ⟨_, _, h6, ⟨_, _, h7, ⟨_, _, h8, ⟨_, _, h9, ⟨_, _, h10, ⟨_, _, h11, ⟨_, _, h12,
      ⟨_, _, by omega, ⟨_, _, h13, ⟨_, _, h14, ⟨_, _, h15, ⟨_, _, h16, ⟨_, _, h17,
      ⟨_, _, h18, ⟨rfl, rfl⟩, rfl⟩, rfl⟩, rfl⟩, rfl⟩, rfl⟩, rfl⟩, rfl⟩, rfl⟩, rfl⟩, rfl⟩, rfl⟩,
      rfl⟩, rfl⟩, rfl⟩, rfl⟩, rfl⟩, rfl⟩, rfl⟩, rfl⟩, ?_⟩
    rw [hw]
    simp only [ackBytes, TransferAck.fields, fileIdBytes, List.flatMap_cons, List.flatMap_nil,
      List.append_assoc, List.append_nil]

/-! ## Metadata -/

/-- The bytes of a block. -/
def blockBytes (message : UInt8) (bytes : Bytes) : Bytes :=
  [message] ++ (beBytes 4 bytes.length ++ bytes)

theorem emits_writeBlock {message : UInt8} {limit : Nat} {bytes w : Bytes}
    {exceeds unrepresented : String} :
    Emits (writeBlock message limit bytes exceeds unrepresented) w (.ok ()) ↔
      (bytes.length ≤ limit ∧ bytes.length < 2 ^ 32) ∧ w = blockBytes message bytes := by
  unfold writeBlock blockBytes
  simp only [emits_attempt_bind, u32TryFrom_eq_ok, emits_writeU8_bind, emits_writeU32_bind,
    emits_write, and_assoc, exists_and_left, exists_eq_left, ensure_eq_ok,
    Unique.exists_iff]

/-- A block is read as nothing when it is empty, and else as what its bytes decode to. -/
theorem parses_readBlock {α : Type} {message : UInt8} {limit : Nat} {expected : String}
    {exceeds : Nat → String} {decode : Bytes → IoResult α} (hlimit : limit < 2 ^ 32)
    {value : Option α} {w : Bytes} :
    Parses (readBlock message limit expected exceeds decode) w value ↔
      ∃ bytes : Bytes, bytes.length ≤ limit ∧ w = blockBytes message bytes ∧
        ((bytes = [] ∧ value = none) ∨
          (bytes ≠ [] ∧ ∃ decoded, decode bytes = .ok decoded ∧ value = some decoded)) := by
  unfold readBlock blockBytes
  simp only [parses_readU8_bind, parses_ensure_bind, parses_readU32_bind]
  constructor
  · rintro ⟨found, _, ⟨hfound, count, _, _, ⟨hcount, hrest⟩, hw2⟩, hw1⟩
    split at hrest
    · rename_i hzero
      rw [Proc.pure_eq_ret, parses_ret] at hrest
      refine ⟨[], Nat.zero_le _, ?_, .inl ⟨rfl, hrest.2⟩⟩
      rw [hw1, hw2, hfound, hrest.1, hzero]
      rfl
    · rename_i hpos
      simp only [parses_read_bind, parses_attempt_bind, Proc.pure_eq_ret, parses_ret] at hrest
      obtain ⟨bytes, _, hlength, ⟨decoded, hdecoded, hnil, hvalue⟩, hw3⟩ := hrest
      refine ⟨bytes, by rw [hlength]; exact hcount, ?_, .inr ⟨?_, decoded, hdecoded, hvalue⟩⟩
      · rw [hw1, hw2, hw3, hnil, hfound, hlength, List.append_nil]
      · intro hempty
        rw [hempty] at hlength
        exact hpos hlength.symm
  · rintro ⟨bytes, hlength, hw, hvalue⟩
    refine ⟨message, _, ⟨rfl, bytes.length, bytes, by omega, ⟨hlength, ?_⟩, rfl⟩, hw⟩
    obtain ⟨hempty, hnone⟩ | ⟨hnonempty, decoded, hdecoded, hsome⟩ := hvalue
    · rw [hempty, hnone, List.length_nil, if_pos rfl, Proc.pure_eq_ret, parses_ret]
      exact ⟨rfl, rfl⟩
    · rw [if_neg (fun hzero => hnonempty (List.eq_nil_of_length_eq_zero hzero))]
      simp only [parses_read_bind, parses_attempt_bind, Proc.pure_eq_ret, parses_ret]
      exact ⟨bytes, [], rfl, ⟨decoded, hdecoded, rfl, hsome⟩, (List.append_nil _).symm⟩

section

variable {Address : Type} (texts : TextSupport Address)
variable {layout : Option DesktopLayoutSnapshot}

/-- The bytes of a name, or none. -/
def nameBytes (name : Option SourceDirectoryName) : Bytes :=
  (name.map (fun name => stringBytes name.value)).getD []

theorem emits_writeSourceDirectoryName {name : Option SourceDirectoryName} {w : Bytes} :
    Emits (writeSourceDirectoryName name) w (.ok ()) ↔
      (nameBytes name).length ≤ maxSourceDirectoryNameUtf8Bytes ∧
        w = blockBytes messageSourceDirectoryName (nameBytes name) := by
  unfold writeSourceDirectoryName
  rw [emits_writeBlock]
  constructor
  · intro ⟨⟨hlimit, _⟩, hw⟩
    exact ⟨hlimit, hw⟩
  · intro ⟨hlimit, hw⟩
    refine ⟨⟨hlimit, lt_of_le_of_lt hlimit ?_⟩, hw⟩
    norm_num [maxSourceDirectoryNameUtf8Bytes]

theorem decodeSourceDirectoryName_eq_ok {bytes : Bytes} {name : SourceDirectoryName} :
    decodeSourceDirectoryName texts bytes = .ok name ↔ bytes = stringBytes name.value := by
  unfold decodeSourceDirectoryName
  simp only [bind_eq_ok, okOrElse_eq_ok, fromUTF8_eq_some, mapError_eq_ok,
    SourceDirectoryName.parse_eq_ok]
  constructor
  · intro ⟨value, hbytes, hname⟩
    rw [hname]
    exact hbytes
  · intro hbytes
    exact ⟨name.value, hbytes, rfl⟩

theorem stringBytes_ne_nil {value : String} (h : value ≠ "") : stringBytes value ≠ [] := by
  intro hnil
  have hlength := stringBytes_length value
  rw [hnil, List.length_nil] at hlength
  exact h (String.utf8ByteSize_eq_zero_iff.mp hlength.symm)

theorem parses_readSourceDirectoryName {name : Option SourceDirectoryName} {w : Bytes} :
    Parses (readSourceDirectoryName texts) w name ↔
      (nameBytes name).length ≤ maxSourceDirectoryNameUtf8Bytes ∧
        w = blockBytes messageSourceDirectoryName (nameBytes name) := by
  unfold readSourceDirectoryName
  rw [parses_readBlock (by norm_num [maxSourceDirectoryNameUtf8Bytes])]
  simp only [decodeSourceDirectoryName_eq_ok]
  constructor
  · intro ⟨bytes, hlimit, hw, hvalue⟩
    obtain ⟨hempty, hnone⟩ | ⟨_, decoded, hdecoded, hsome⟩ := hvalue
    · rw [hempty] at hlimit hw
      rw [hnone]
      exact ⟨hlimit, hw⟩
    · rw [hdecoded] at hlimit hw
      rw [hsome]
      exact ⟨hlimit, hw⟩
  · intro ⟨hlimit, hw⟩
    refine ⟨nameBytes name, hlimit, hw, ?_⟩
    cases name with
    | none => exact .inl ⟨rfl, rfl⟩
    | some name => exact .inr ⟨stringBytes_ne_nil name.valid.nonempty, name, rfl, rfl⟩

/-- The bytes of a layout, or none. -/
def layoutBytes (layout : Option DesktopLayoutSnapshot) : Bytes :=
  (layout.map DesktopLayoutSnapshot.layout).getD []

/-- A layout that the format can carry, or none. -/
def LayoutFits (layout : Option DesktopLayoutSnapshot) : Prop :=
  ∀ snapshot ∈ layout, snapshot.Fits texts

theorem emits_writeDesktopLayoutMetadata {w : Bytes} :
    Emits (writeDesktopLayoutMetadata texts layout) w (.ok ()) ↔
      LayoutFits texts layout ∧
        w = blockBytes messageDesktopLayoutMetadata (layoutBytes layout) := by
  have hlimit : maxDesktopLayoutBytes < 2 ^ 32 := by
    unfold maxDesktopLayoutBytes
    norm_num
  unfold writeDesktopLayoutMetadata LayoutFits
  simp only [emits_attempt_bind, emits_writeBlock]
  cases layout with
  | none =>
    constructor
    · intro ⟨encoded, hencoded, _, hw⟩
      cases hencoded
      refine ⟨?_, hw⟩
      intro snapshot hsnapshot
      cases hsnapshot
    · intro ⟨_, hw⟩
      exact ⟨none, rfl, ⟨Nat.zero_le _, by norm_num⟩, hw⟩
  | some snapshot =>
    have hmap : ∀ encoded : Option (List UInt8),
        (some snapshot).mapM (encodeDesktopLayout texts) = .ok encoded ↔
          ∃ bytes, encodeDesktopLayout texts snapshot = .ok bytes ∧ encoded = some bytes := by
      intro encoded
      show (encodeDesktopLayout texts snapshot).map some = .ok encoded ↔ _
      cases encodeDesktopLayout texts snapshot with
      | ok bytes => simp [Except.map, eq_comm]
      | error error => simp [Except.map]
    simp only [hmap, encodeDesktopLayout_eq_ok]
    constructor
    · intro ⟨encoded, ⟨bytes, ⟨hfits, hbytes⟩, hencoded⟩, _, hw⟩
      refine ⟨?_, ?_⟩
      · intro other hother
        cases hother
        exact hfits
      · rw [hw, hencoded, hbytes]
        rfl
    · intro ⟨hfits, hw⟩
      have hsnapshot := hfits snapshot rfl
      exact ⟨some snapshot.layout, ⟨_, ⟨hsnapshot, rfl⟩, rfl⟩,
        ⟨hsnapshot.limit, lt_of_le_of_lt hsnapshot.limit hlimit⟩, hw⟩

theorem layout_ne_nil (snapshot : DesktopLayoutSnapshot) : snapshot.layout ≠ [] := by
  simp [DesktopLayoutSnapshot.layout, DesktopLayoutSnapshot.headFields, desktopLayoutMagic]

theorem parses_readDesktopLayoutMetadata {w : Bytes} :
    Parses (readDesktopLayoutMetadata texts) w layout ↔
      LayoutFits texts layout ∧
        w = blockBytes messageDesktopLayoutMetadata (layoutBytes layout) := by
  have hlimit : maxDesktopLayoutBytes < 2 ^ 32 := by
    unfold maxDesktopLayoutBytes
    norm_num
  unfold readDesktopLayoutMetadata LayoutFits
  rw [parses_readBlock hlimit]
  simp only [mapError_eq_ok, decodeDesktopLayout_eq_ok]
  constructor
  · intro ⟨bytes, _, hw, hvalue⟩
    obtain ⟨hempty, hnone⟩ | ⟨_, snapshot, ⟨hfits, hbytes⟩, hsome⟩ := hvalue
    · rw [hnone]
      refine ⟨?_, by rw [hw, hempty]; rfl⟩
      intro snapshot hsnapshot
      cases hsnapshot
    · rw [hsome]
      refine ⟨?_, by rw [hw, hbytes]; rfl⟩
      intro other hother
      cases hother
      exact hfits
  · intro ⟨hfits, hw⟩
    cases layout with
    | none => exact ⟨[], Nat.zero_le _, hw, .inl ⟨rfl, rfl⟩⟩
    | some snapshot =>
      have hsnapshot := hfits snapshot rfl
      exact ⟨snapshot.layout, hsnapshot.limit, hw,
        .inr ⟨layout_ne_nil snapshot, snapshot, ⟨hsnapshot, rfl⟩, rfl⟩⟩

end

/-- A text support without addresses. -/
def bareTexts : TextSupport Unit where
  display _ := ""
  fromStr _ := .ok ()
  debug := String.ofList
  utf8Error _ := "invalid utf-8"

end NetworkCopy
