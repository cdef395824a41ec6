import NetworkCopy.Lane.Records
import NetworkCopy.PlanRewrite

/-!
# Tiny packs

A tiny pack carries the contents of many small files in one record: a header, the ID,
size and digest of every member, the joined contents (raw or as one Zstandard frame),
and the digest of the whole.  The receiver cuts the decoded payload at the manifest's
sizes, checks every digest, and hands the pieces to the pool that writes them.

The pool works on a batch with up to two threads and reports when every file is
published.  A batch is modelled as the sequence of its jobs.
-/

namespace NetworkCopy

open Duplex ByteRange

/-- `MESSAGE_TINY_PACK_V2`. -/
def messageTinyPackV2 : UInt8 := 0x36

/-- `MAX_TINY_PACK_WIRE_BYTES`. -/
def maxTinyPackWireBytes : Nat := maxTinyPackBytes * 2

/-- `MIN_SAVINGS_PERCENT`. -/
def minSavingsPercent : Nat := 10

/-- `compression_probe::should_compress_sizes`. -/
def shouldCompressSizes (rawBytes compressedBytes : Nat) : Bool :=
  if rawBytes = 0 then false
  else decide (compressedBytes * 100 ≤ rawBytes * (100 - minSavingsPercent))

/-! ## The payload of a pack -/

/-- `TinyPackEncoding`. -/
inductive TinyPackEncoding where
  | raw
  | zstandard
  deriving DecidableEq, Repr

/-- `TinyPackEncoding::wire_value`. -/
def TinyPackEncoding.wireValue : TinyPackEncoding → UInt8
  | raw => modeRaw
  | zstandard => modeZstd

/-- `TinyPackEncoding::from_wire`. -/
def TinyPackEncoding.fromWire (value : UInt8) : IoResult TinyPackEncoding :=
  if value = modeRaw then .ok raw
  else if value = modeZstd then .ok zstandard
  else .error (.invalidData
    ("unknown tiny-pack encoding mode 0x" ++ hexUpper 2 value.toNat))

@[simp] theorem TinyPackEncoding.fromWire_wireValue (encoding : TinyPackEncoding) :
    fromWire encoding.wireValue = .ok encoding := by
  cases encoding <;> decide

/-- `validate_logical_size`. -/
def validateLogicalSize (bytes : Nat) : IoResult Unit :=
  let limit := maxTinyPackBytes
  ensure (bytes ≤ limit)
    (.invalidInput s!"tiny pack contains {bytes} bytes, exceeding the {limit}-byte limit")

/-- `validate_wire_size`. -/
def validateWireSize (bytes : Nat) : IoResult Unit :=
  let limit := maxTinyPackWireBytes
  ensure (bytes ≤ limit)
    (.invalidData
      s!"tiny-pack wire payload contains {bytes} bytes, exceeding the {limit}-byte limit")

/-- `tiny_pack_codec::encode`, as the encoding and the wire payload. -/
def encodeTinyPack (zstd : Zstd) (rawPayload : Bytes) :
    IoResult (TinyPackEncoding × Bytes) := do
  validateLogicalSize rawPayload.length
  if rawPayload.isEmpty then return (.raw, rawPayload)
  let compressed ← (zstd.compress rawPayload).mapError
    (fun text => .other s!"tiny-pack Zstandard compression failed: {text}")
  validateWireSize compressed.length
  if shouldCompressSizes rawPayload.length compressed.length then
    return (.zstandard, compressed)
  else return (.raw, rawPayload)

/-- `tiny_pack_codec::decode` into a buffer of the given length. -/
def decodeTinyPack (zstd : Zstd) (encoding : TinyPackEncoding) (wirePayload : Bytes)
    (expectedLogicalBytes bufferBytes : Nat) : IoResult Bytes := do
  validateLogicalSize expectedLogicalBytes
  validateWireSize wirePayload.length
  ensure (expectedLogicalBytes ≤ bufferBytes)
    (.invalidInput "tiny-pack decode buffer is too small")
  match encoding with
  | .raw =>
      let wireLength := wirePayload.length
      ensure (wireLength = expectedLogicalBytes)
        (.invalidData
          s!"raw tiny pack contains {wireLength} bytes, expected {expectedLogicalBytes}")
      return wirePayload
  | .zstandard =>
      ensure (wirePayload ≠ []) (.invalidData "compressed tiny-pack payload is empty")
      let decompressed ← (zstd.decompress wirePayload expectedLogicalBytes).mapError
        (fun text => .invalidData s!"tiny-pack Zstandard decompression failed: {text}")
      let length := decompressed.length
      ensure (length = expectedLogicalBytes)
        (.invalidData
          s!"tiny pack decompressed to {length} bytes, expected {expectedLogicalBytes}")
      return decompressed

/-- A payload in the encoder's choice of encoding decodes to itself, and its wire form
is within the limit that the receiver accepts. -/
theorem decodeTinyPack_encodeTinyPack {zstd : Zstd} {rawPayload : Bytes}
    {encoded : TinyPackEncoding × Bytes} (h : encodeTinyPack zstd rawPayload = .ok encoded)
    {bufferBytes : Nat} (hbuffer : rawPayload.length ≤ bufferBytes) :
    encoded.2.length ≤ maxTinyPackWireBytes ∧
      decodeTinyPack zstd encoded.1 encoded.2 rawPayload.length bufferBytes =
        .ok rawPayload := by
  unfold encodeTinyPack at h
  obtain ⟨_, hlogical, h⟩ := bind_eq_ok.mp h
  rw [validateLogicalSize, ensure_eq_ok] at hlogical
  have hraw : rawPayload.length ≤ maxTinyPackWireBytes := by
    unfold maxTinyPackWireBytes
    omega
  -- What the raw encoding needs, whichever way it was chosen.
  have hrawDecodes : decodeTinyPack zstd .raw rawPayload rawPayload.length bufferBytes =
      .ok rawPayload := by
    simp [decodeTinyPack, validateLogicalSize, validateWireSize, ensure, hlogical, hraw,
      hbuffer]
  split at h
  · cases h
    exact ⟨hraw, hrawDecodes⟩
  · obtain ⟨compressed, hcompress, h⟩ := bind_eq_ok.mp h
    obtain ⟨_, hwire, h⟩ := bind_eq_ok.mp h
    rw [validateWireSize, ensure_eq_ok] at hwire
    cases hframe : zstd.compress rawPayload with
    | error text => rw [hframe] at hcompress; cases hcompress
    | ok frame =>
      rw [hframe] at hcompress
      cases hcompress
      split at h
      · cases h
        refine ⟨hwire, ?_⟩
        have hdecompress := zstd.decompress_compress _ _ _ hframe le_rfl
        have hne := zstd.frame_ne_nil _ _ hframe
        simp [decodeTinyPack, validateLogicalSize, validateWireSize, ensure, hlogical,
          hwire, hbuffer, hne, hdecompress, Except.mapError]
      · cases h
        exact ⟨hraw, hrawDecodes⟩

/-! ## Sending -/

/-- `TINY_PACK_FIXED_WIRE_BYTES`. -/
def tinyPackFixedWireBytes : Nat := 1 + 4 + 8 + 1 + 8 + contentDigestBytes

/-- `TINY_PACK_FILE_METADATA_WIRE_BYTES`. -/
def tinyPackFileMetadataWireBytes : Nat := 8 + 8 + contentDigestBytes

/-- `TinyPackTransferSummary`. -/
structure TinyPackTransferSummary where
  summary : TinyPackSummary
  compressed : Bool
  wireBytes : Nat

/-- `tiny_pack_record_wire_bytes`. -/
def tinyPackRecordWireBytes (fileCount payloadBytes : Nat) : IoResult Nat := do
  let metadataBytes ← okOrElse (checkedMul fileCount tinyPackFileMetadataWireBytes)
    (.other "tiny-pack metadata size overflowed")
  let bytes ← okOrElse (checkedAdd tinyPackFixedWireBytes metadataBytes)
    (.other "tiny-pack record size overflowed")
  okOrElse (checkedAdd bytes payloadBytes) (.other "tiny-pack record size overflowed")

section

variable (env : LaneEnv) (source : FileTree) (manifest : Manifest)

/-- The loop of `send_tiny_pack` that reads the members into the buffer.  The length of
the payload read so far is the buffer offset. -/
def readTinyFiles : List Nat → Bytes → List Digest → Party (Bytes × List Digest)
  | [], payload, digests => return (payload, digests)
  | fileId :: rest, payload, digests => do
      let entry ← attempt .refused (okOrElse manifest[fileId]?
        (.invalidInput "tiny pack contains an invalid file ID"))
      let rangeEnd ← attempt .refused
        (addCounter payload.length entry.fileSize "tiny-pack buffer offset overflowed")
      attempt .refused (ensure (rangeEnd ≤ copyBufferBytes)
        (.invalidInput "tiny-pack contents exceed their transfer buffer"))
      let file ← attempt .disk (source.openFile entry.relativePath)
      attempt .refused (validateSourceMetadata file entry)
      let contents ← attempt .disk (readExactAt failedToFill file 0 entry.fileSize)
      attempt .refused (validateSourceMetadata file entry)
      readTinyFiles rest (payload ++ contents) (digests ++ [env.blake3 contents])

/-- The loop of `send_tiny_pack` over the members and their digests. -/
def writeMembers : List (Nat × Digest) → Party Unit
  | [] => return ()
  | member :: rest => do
      let entry ← attempt .refused (okOrElse manifest[member.1]?
        (.invalidInput "tiny pack contains an invalid file ID"))
      let wireId ← attempt .refused
        (u64TryFrom member.1 (.invalidInput "tiny-pack file ID cannot be represented"))
      writeU64 wireId
      writeU64 entry.fileSize
      writeDigest member.2
      writeMembers rest

/-- `send_tiny_pack`. -/
def sendTinyPack (fileIds : List Nat) (expectedTotalBytes : Nat) :
    Party TinyPackTransferSummary := do
  let summary ← attempt .refused (summarizeTinyPack manifest fileIds)
  attempt .refused (ensure (summary.bytes = expectedTotalBytes)
    (.invalidInput "tiny-pack plan byte count changed"))
  let totalBytes := summary.bytes
  let bufferBytes := copyBufferBytes
  attempt .refused (ensure (totalBytes ≤ bufferBytes)
    (.invalidInput
      (s!"tiny pack requires {totalBytes} bytes but its buffer contains only " ++
        s!"{bufferBytes} bytes")))
  let assembled ← readTinyFiles env source manifest fileIds [] []
  let offset := assembled.1.length
  attempt .refused (ensure (offset = totalBytes)
    (.other s!"tiny-pack assembly produced {offset} bytes, expected {totalBytes}"))
  let encoded ← attempt .refused (encodeTinyPack env.zstd assembled.1)
  let recordWireBytes ← attempt .refused
    (tinyPackRecordWireBytes fileIds.length encoded.2.length)
  writeU8 messageTinyPackV2
  let fileCount ← attempt .refused
    (u32TryFrom fileIds.length (.invalidInput "tiny pack contains too many files"))
  writeU32 fileCount
  writeU64 summary.bytes
  writeMembers manifest (fileIds.zip assembled.2)
  writeU8 encoded.1.wireValue
  let wireLength ← attempt .refused (u64TryFrom encoded.2.length
    (.other "tiny-pack wire length cannot be represented"))
  writeU64 wireLength
  Proc.write encoded.2
  writeDigest (env.blake3 assembled.1)
  return { summary, compressed := decide (encoded.1 = .zstandard)
           wireBytes := recordWireBytes }

/-! ## Receiving -/

/-- The loop of `receive_tiny_pack` that reads the members. -/
def readMembers : List Nat → List Digest → Party (List Digest)
  | [], digests => return digests
  | expectedFileId :: rest, digests => do
      let announcedFileId ← readU64
      let announcedSize ← readU64
      attempt .protocol (ensure (announcedFileId = expectedFileId)
        (.invalidData
          s!"tiny pack announced file ID {announcedFileId}, expected {expectedFileId}"))
      let entry ← attempt .protocol (okOrElse manifest[expectedFileId]?
        (.invalidData "tiny pack referenced an unknown file"))
      let fileSize := entry.fileSize
      attempt .protocol (ensure (announcedSize = fileSize)
        (.invalidData
          (s!"tiny file {expectedFileId} announced {announcedSize} bytes, expected " ++
            s!"{fileSize}")))
      let digest ← readDigest
      readMembers rest (digests ++ [digest])

/-- `TinyFileMaterializeRequest`: a member and its range of the payload. -/
structure MaterializeRequest where
  fileId : Nat
  relativePath : RelativePath
  start : Nat
  rangeEnd : Nat

/-- The loop of `receive_tiny_pack` that cuts the payload, with
`prepare_buffered_tiny_file`. -/
def prepareTinyFiles (payload : Bytes) :
    List (Nat × Digest) → Nat → List MaterializeRequest →
      Party (Nat × List MaterializeRequest)
  | [], offset, requests => return (offset, requests)
  | member :: rest, offset, requests => do
      let entry ← attempt .protocol (okOrElse manifest[member.1]?
        (.invalidData "tiny pack referenced an unknown file"))
      let rangeEnd ← attempt .protocol
        (addCounter offset entry.fileSize "tiny-pack receive offset overflowed")
      attempt .protocol (ensure (rangeEnd ≤ payload.length)
        (.invalidData "tiny-pack file contents exceed the decoded payload"))
      let fileId := member.1
      attempt .protocol (verifyDigest
        (s!"tiny file {fileId} (" ++ displayPath entry.relativePath ++ ")")
        (env.blake3 (range payload offset entry.fileSize)) member.2)
      prepareTinyFiles payload rest rangeEnd
        (requests ++ [⟨fileId, entry.relativePath, offset, rangeEnd⟩])

/-- `tiny_file_materialize::write_verified`. -/
def writeVerified (files : FileTree) (fileId : Nat) (relativePath : RelativePath)
    (contents : Bytes) : IoResult FileTree := do
  let temporary := temporaryPath relativePath fileId
  let files ← files.createNew temporary env.now
  let files ← files.setLen temporary contents.length env.now
  let files ← files.writeAt temporary 0 contents env.now
  files.replace temporary relativePath

/-- `TinyFileMaterializeRequest::validate`, for the requests of a batch. -/
def validateRequests (payloadBytes : Nat) : List MaterializeRequest → IoResult Unit
  | [] => .ok ()
  | request :: rest => do
      let start := request.start
      let rangeEnd := request.rangeEnd
      ensure (start ≤ rangeEnd ∧ rangeEnd ≤ payloadBytes)
        (.invalidInput
          (s!"tiny-file materialization range {start}..{rangeEnd} exceeds the " ++
            s!"{payloadBytes}-byte decoded payload"))
      validateRequests payloadBytes rest

/-- The jobs of a batch, each with its slice of the payload. -/
def materializeJobs (payload : Bytes) : List MaterializeRequest → FileTree → IoResult FileTree
  | [], files => .ok files
  | request :: rest, files => do
      let files ← writeVerified env files request.fileId request.relativePath
        (range payload request.start (request.rangeEnd - request.start))
      materializeJobs payload rest files

/-- `materialize_batch`. -/
def materializeBatch (payload : Bytes) (requests : List MaterializeRequest)
    (files : FileTree) : Party FileTree := do
  attempt .refused (validateRequests payload.length requests)
  attempt .disk (materializeJobs env payload requests files)

/-- `receive_tiny_pack`. -/
def receiveTinyPack (files : FileTree) (fileIds : List Nat) (expectedTotalBytes : Nat) :
    Party (TinyPackTransferSummary × FileTree) := do
  let message ← readU8
  attempt .protocol (ensure (message = messageTinyPackV2)
    (.invalidData
      ("expected v1.3 tiny-pack message, received 0x" ++ hexUpper 2 message.toNat)))
  let announcedFileCount ← readU32
  let announcedTotalBytes ← readU64
  let summary ← attempt .refused (summarizeTinyPack manifest fileIds)
  attempt .refused (ensure (summary.bytes = expectedTotalBytes)
    (.invalidData "receiver tiny-pack plan byte count changed"))
  let expectedFiles := fileIds.length
  let expectedBytes := summary.bytes
  attempt .protocol (ensure
    (¬ (announcedFileCount ≠ expectedFiles ∨ announcedTotalBytes ≠ expectedBytes))
    (.invalidData
      (s!"tiny pack announced {announcedFileCount} files and {announcedTotalBytes} bytes, " ++
        s!"expected {expectedFiles} files and {expectedBytes} bytes")))
  let expectedDigests ← readMembers manifest fileIds []
  let mode ← readU8
  let encoding ← attempt .protocol (TinyPackEncoding.fromWire mode)
  let wireBytes ← readU64
  attempt .protocol (ensure (wireBytes ≤ maxTinyPackWireBytes)
    (.invalidData
      (s!"tiny-pack wire payload contains {wireBytes} bytes, exceeding the supported " ++
        "limit")))
  let recordWireBytes ← attempt .protocol (tinyPackRecordWireBytes fileIds.length wireBytes)
  let wirePayload ← Proc.read wireBytes
  let payload ← attempt .protocol
    (decodeTinyPack env.zstd encoding wirePayload summary.bytes copyBufferBytes)
  let expectedPackDigest ← readDigest
  attempt .protocol (verifyDigest "tiny pack" (env.blake3 payload) expectedPackDigest)
  let prepared ← prepareTinyFiles env manifest payload (fileIds.zip expectedDigests) 0 []
  let consumed := prepared.1
  attempt .protocol (ensure (consumed = summary.bytes)
    (.invalidData s!"decoded tiny files consumed {consumed} bytes, expected {expectedBytes}"))
  let files ← materializeBatch env payload prepared.2 files
  return ({ summary, compressed := decide (encoding = .zstandard)
            wireBytes := recordWireBytes }, files)

end

/-! ## Agreement -/

section

variable {α β : Type} {Q : α → β → Prop} {env : LaneEnv} {source : FileTree}
  {manifest : Manifest}
variable {requests : List MaterializeRequest}
variable {payload : Bytes} {fileIds : List Nat}

/-- The contents are those of the members, in order. -/
def Members (source : FileTree) (manifest : Manifest) (fileIds : List Nat)
    (contents : List Bytes) : Prop :=
  List.Forall₂ (fun fileId content => ∃ entry, manifest[fileId]? = some entry ∧
    source.contentAt entry.relativePath = some content ∧
    content.length = entry.fileSize) fileIds contents

/-- Whatever the sender assembles are the contents and the digests of the members. -/
theorem agree_readTinyFiles {f : Bytes × List Digest → Party α} {q : Party β} :
    ∀ (fileIds : List Nat) (payload : Bytes) (digests : List Digest),
      (∀ contents, Members source manifest fileIds contents →
        LaneAgree (f (payload ++ contents.flatten, digests ++ contents.map env.blake3)) q Q) →
      LaneAgree (readTinyFiles env source manifest fileIds payload digests >>= f) q Q
  | [], payload, digests, h => by
      have hnil := h [] .nil
      rw [List.flatten_nil, List.map_nil, List.append_nil, List.append_nil] at hnil
      exact hnil
  | fileId :: rest, payload, digests, h => by
      simp only [readTinyFiles, bind_assoc]
      apply lane_attempt_left
      intro entry hentry
      apply lane_attempt_left
      intro rangeEnd _
      apply lane_attempt_left
      intro _ _
      apply lane_attempt_left
      intro file hfile
      apply lane_attempt_left
      intro _ hvalid
      have hsize := (validateSourceMetadata_eq_ok.mp hvalid).1
      have hread : readExactAt failedToFill file 0 entry.fileSize = .ok file.content.1 := by
        rw [readExactAt, if_pos (by omega), range, List.drop_zero, ← hsize, List.take_length]
      rw [hread, attempt_ok, Proc.ret_bind]
      apply lane_attempt_left
      intro _ _
      apply agree_readTinyFiles rest
      intro contents hcontents
      have hmembers : Members source manifest (fileId :: rest) (file.content.1 :: contents) :=
        .cons ⟨entry, okOrElse_eq_ok.mp hentry, FileTree.contentAt_of_openFile hfile, hsize⟩
          hcontents
      have hnext := h _ hmembers
      rw [List.flatten_cons, List.map_cons, ← List.append_assoc] at hnext
      rw [List.append_assoc digests, List.singleton_append]
      exact hnext

/-- The members cross the wire one by one. -/
theorem agree_members {f : Unit → Party α} {g : List Digest → Party β} :
    ∀ {fileIds : List Nat} {digests : List Digest} (accepted : List Digest),
      digests.length = fileIds.length →
      LaneAgree (f ()) (g (accepted ++ digests)) Q →
      LaneAgree (writeMembers manifest (fileIds.zip digests) >>= f)
        (readMembers manifest fileIds accepted >>= g) Q
  | [], [], accepted, _, h => by
      rw [List.append_nil] at h
      exact h
  | fileId :: rest, digest :: digests, accepted, hlength, h => by
      simp only [List.zip_cons_cons, writeMembers, readMembers, bind_assoc]
      apply lane_attempt_left
      intro entry hentry
      apply lane_attempt_left
      intro wireId hwireId
      obtain ⟨hlimit, rfl⟩ := u64TryFrom_eq_ok.mp hwireId
      apply agree_u64 hlimit
      apply agree_u64 entry.fileSize_lt
      apply agree_ensure_right rfl
      rw [okOrElse_eq_ok.mp hentry, okOrElse_some, attempt_ok, Proc.ret_bind]
      apply agree_ensure_right rfl
      apply agree_digest
      apply agree_members
      · simpa using hlength
      · rw [List.append_assoc, List.singleton_append]
        exact h
  | [], _ :: _, _, hlength, _ => by simp at hlength
  | _ :: _, [], _, hlength, _ => by simp at hlength

/-- The request cuts the member's content out of the payload. -/
def RequestFor (source : FileTree) (payload : Bytes) (manifest : Manifest) (fileId : Nat)
    (request : MaterializeRequest) : Prop :=
  request.fileId = fileId ∧ request.start ≤ request.rangeEnd ∧
    request.rangeEnd ≤ payload.length ∧ ∃ entry, manifest[fileId]? = some entry ∧
      request.relativePath = entry.relativePath ∧
      source.contentAt entry.relativePath =
        some (range payload request.start (request.rangeEnd - request.start))

/-- The receiver cuts the payload where the sender joined it. -/
theorem prepareTinyFiles_eq (hpayload : payload.length < u64Limit) :
    ∀ {fileIds : List Nat} {contents : List Bytes} (offset : Nat)
      (requests : List MaterializeRequest), Members source manifest fileIds contents →
      payload.drop offset = contents.flatten → offset ≤ payload.length →
      ∃ added, prepareTinyFiles env manifest payload
          (fileIds.zip (contents.map env.blake3)) offset requests =
          .ret (payload.length, requests ++ added) ∧
        List.Forall₂ (RequestFor source payload manifest) fileIds added := by
  intro fileIds contents offset requests hmembers
  induction hmembers generalizing offset requests with
  | nil =>
    intro hdrop hoffset
    have hend : payload.length ≤ offset := List.drop_eq_nil_iff.mp hdrop
    refine ⟨[], ?_, .nil⟩
    rw [List.append_nil, le_antisymm hend hoffset]
    rfl
  | @cons fileId content rest contents hhead _ ih =>
    intro hdrop hoffset
    obtain ⟨entry, hentry, hcontent, hsize⟩ := hhead
    rw [List.flatten_cons] at hdrop
    have hlength : payload.length - offset = content.length + contents.flatten.length := by
      rw [← List.length_drop, hdrop, List.length_append]
    have hrange : range payload offset entry.fileSize = content := by
      rw [range, hdrop, ← hsize, List.take_left]
    have hnext : payload.drop (offset + entry.fileSize) = contents.flatten := by
      rw [← List.drop_drop, hdrop, ← hsize, List.drop_left]
    obtain ⟨added, hadded, hfor⟩ := ih (offset + entry.fileSize)
      (requests ++ [⟨fileId, entry.relativePath, offset, offset + entry.fileSize⟩])
      hnext (by omega)
    refine ⟨⟨fileId, entry.relativePath, offset, offset + entry.fileSize⟩ :: added, ?_,
      .cons ⟨rfl, Nat.le_add_right _ _, ?_, entry, hentry, rfl, ?_⟩ hfor⟩
    · simp only [List.map_cons, List.zip_cons_cons, prepareTinyFiles]
      rw [hentry, okOrElse_some, attempt_ok, Proc.ret_bind,
        addCounter_of_lt (by omega), attempt_ok, Proc.ret_bind, ensure, if_pos (by omega),
        attempt_ok, Proc.ret_bind, hrange, verifyDigest, ensure, if_pos rfl, attempt_ok,
        Proc.ret_bind, hadded, List.append_assoc, List.singleton_append]
    · show offset + entry.fileSize ≤ payload.length
      omega
    · show source.contentAt entry.relativePath =
        some (range payload offset (offset + entry.fileSize - offset))
      rw [Nat.add_sub_cancel_left, hrange, hcontent]

theorem validateRequests_eq_ok
    (h : List.Forall₂ (RequestFor source payload manifest) fileIds requests) :
    validateRequests payload.length requests = .ok () := by
  induction h with
  | nil => rfl
  | cons hhead _ ih =>
    rw [validateRequests, ensure, if_pos ⟨hhead.2.1, hhead.2.2.1⟩, ok_bind, ih]

/-- A written tiny file has its content, and nothing else has changed. -/
theorem writeVerified_eq_ok {files files' : FileTree} {fileId : Nat}
    {relativePath : RelativePath} {contents : Bytes}
    (h : writeVerified env files fileId relativePath contents = .ok files') :
    files'.contentAt relativePath = some contents ∧
      FileTree.SameExcept [relativePath] files files' := by
  unfold writeVerified at h
  obtain ⟨created, hcreated, h⟩ := bind_eq_ok.mp h
  obtain ⟨sized, hsized, h⟩ := bind_eq_ok.mp h
  obtain ⟨written, hwritten, h⟩ := bind_eq_ok.mp h
  obtain ⟨hfree, hempty, hframe₁⟩ := FileTree.createNew_eq_ok hcreated
  obtain ⟨hresized, hframe₂⟩ := FileTree.setLen_eq_ok hempty hsized
  obtain ⟨hcontent, hframe₃⟩ := FileTree.writeAt_eq_ok hresized hwritten
  obtain ⟨hfinal, hframe₄⟩ := FileTree.replace_eq_ok hcontent h
  rw [overwrite_all 0 (by rw [resize_length])] at hfinal
  have hsub : [temporaryPath relativePath fileId] ⊆
      [temporaryPath relativePath fileId, relativePath] := by simp
  refine ⟨hfinal, ?_⟩
  exact ((((hframe₁.trans hframe₂).trans hframe₃).mono hsub).trans hframe₄).drop hfree
    (FileTree.replace_frees (temporaryPath_ne _ _) h)

/-- The final paths of the members of a pack. -/
def memberPaths (manifest : Manifest) (fileIds : List Nat) : List RelativePath :=
  fileIds.filterMap (fun fileId => manifest[fileId]?.map (·.relativePath))

/-- Every path of the list holds the source's file. -/
def HoldsSource (source files : FileTree) (paths : List RelativePath) : Prop :=
  ∀ path ∈ paths, (source.contentAt path).isSome ∧
    files.contentAt path = source.contentAt path

/-- A placed file keeps the others in place. -/
theorem HoldsSource.cons {source files files' : FileTree} {paths : List RelativePath}
    {path : RelativePath} (h : HoldsSource source files paths)
    (hsome : (source.contentAt path).isSome)
    (hcontent : files'.contentAt path = source.contentAt path)
    (hframe : FileTree.SameExcept [path] files files') :
    HoldsSource source files' (path :: paths) := by
  intro other hmem
  by_cases hsame : other = path
  · rw [hsame]
    exact ⟨hsome, hcontent⟩
  · obtain ⟨hother, hholds⟩ := h other (by simpa [hsame] using hmem)
    refine ⟨hother, ?_⟩
    rw [← hholds, FileTree.contentAt, FileTree.contentAt, hframe other (by simp [hsame])]

/-- The jobs of a batch place the members. -/
theorem materializeJobs_placed
    (h : List.Forall₂ (RequestFor source payload manifest) fileIds requests) :
    ∀ {files files' : FileTree} {done : List RelativePath},
      materializeJobs env payload requests files = .ok files' → HoldsSource source files done →
      HoldsSource source files' (memberPaths manifest fileIds ++ done) ∧
      FileTree.SameExcept (memberPaths manifest fileIds) files files' := by
  induction h with
  | nil =>
    intro files files' done hjobs hdone
    cases hjobs
    exact ⟨hdone, .refl _ _⟩
  | @cons fileId request rest requests hrequest _ ih =>
    intro files files' done hjobs hdone
    obtain ⟨rfl, _, _, entry, hentry, hpath, hsource⟩ := hrequest
    rw [materializeJobs] at hjobs
    obtain ⟨next, hnext, hjobs⟩ := bind_eq_ok.mp hjobs
    rw [hpath] at hnext
    obtain ⟨hwritten, hframe⟩ := writeVerified_eq_ok hnext
    have hdone' : HoldsSource source next (entry.relativePath :: done) :=
      hdone.cons (by rw [hsource]; rfl) (by rw [hwritten, hsource]) hframe
    obtain ⟨hholds, hframe'⟩ := ih hjobs hdone'
    have hpaths : memberPaths manifest (request.fileId :: rest) =
        entry.relativePath :: memberPaths manifest rest := by
      simp [memberPaths, hentry]
    rw [hpaths]
    constructor
    · intro path hmem
      apply hholds path
      simp only [List.cons_append, List.mem_cons, List.mem_append] at hmem ⊢
      tauto
    · exact (hframe.mono (by simp)).trans (hframe'.mono (by simp))

/-- Every member of the pack is in the manifest. -/
theorem requests_known (h : List.Forall₂ (RequestFor source payload manifest) fileIds requests) :
    ∀ fileId ∈ fileIds, ∃ entry, manifest[fileId]? = some entry := by
  induction h with
  | nil => simp
  | cons hrequest _ ih =>
    obtain ⟨_, _, _, entry, hentry, _, _⟩ := hrequest
    intro fileId hmem
    rcases List.mem_cons.mp hmem with rfl | hmem
    · exact ⟨entry, hentry⟩
    · exact ih fileId hmem

/-- Every member of the pack is known and at its final path, and nothing else has
changed. -/
def PackPlaced (source files files' : FileTree) (manifest : Manifest)
    (fileIds : List Nat) : Prop :=
  (∀ fileId ∈ fileIds, ∃ entry, manifest[fileId]? = some entry) ∧
    HoldsSource source files' (memberPaths manifest fileIds) ∧
    FileTree.SameExcept (memberPaths manifest fileIds) files files'

/-- A tiny-pack record places its members; the two sides report the same summary. -/
theorem agree_tinyPack (env : LaneEnv) (source files : FileTree) (manifest : Manifest)
    (fileIds : List Nat) (totalBytes : Nat) :
    LaneAgree (sendTinyPack env source manifest fileIds totalBytes)
      (receiveTinyPack env manifest files fileIds totalBytes)
      (fun sent received => received.1 = sent ∧
        PackPlaced source files received.2 manifest fileIds) := by
  have hbufferLimit : copyBufferBytes < u64Limit := by
    norm_num [copyBufferBytes, u64Limit]
  unfold sendTinyPack receiveTinyPack
  apply lane_attempt_left
  intro summary hsummary
  apply lane_attempt_left
  intro _ htotal
  rw [ensure_eq_ok] at htotal
  apply lane_attempt_left
  intro _ hfits
  rw [ensure_eq_ok] at hfits
  apply agree_readTinyFiles
  intro contents hcontents
  simp only [List.nil_append]
  apply lane_attempt_left
  intro _ hassembled
  rw [ensure_eq_ok] at hassembled
  apply lane_attempt_left
  intro encoded hencoded
  obtain ⟨hwireLimit, hdecoded⟩ := decodeTinyPack_encodeTinyPack hencoded
    (show contents.flatten.length ≤ copyBufferBytes by omega)
  apply lane_attempt_left
  intro recordWireBytes hrecord
  apply agree_u8
  apply agree_ensure_right rfl
  apply lane_attempt_left
  intro fileCount hcount
  obtain ⟨hcountLimit, rfl⟩ := u32TryFrom_eq_ok.mp hcount
  apply agree_u32 hcountLimit
  apply agree_u64 (by omega)
  rw [hsummary, attempt_ok, Proc.ret_bind]
  apply agree_ensure_right htotal
  apply agree_ensure_right (by simp)
  have hdigests : (contents.map env.blake3).length = fileIds.length := by
    rw [List.length_map, hcontents.length_eq]
  apply agree_members [] hdigests
  rw [List.nil_append]
  apply agree_u8
  rw [TinyPackEncoding.fromWire_wireValue, attempt_ok, Proc.ret_bind]
  apply lane_attempt_left
  intro wireLength hlength
  obtain ⟨hlengthLimit, rfl⟩ := u64TryFrom_eq_ok.mp hlength
  apply agree_u64 hlengthLimit
  apply agree_ensure_right hwireLimit
  rw [hrecord, attempt_ok, Proc.ret_bind]
  apply agree_bytes rfl
  rw [← hassembled, hdecoded, attempt_ok, Proc.ret_bind]
  apply agree_digest
  apply agree_ensure_right rfl
  obtain ⟨requests, hprepared, hrequests⟩ := prepareTinyFiles_eq
    (show contents.flatten.length < u64Limit by omega) 0 [] hcontents
    (List.drop_zero) (Nat.zero_le _)
  rw [hprepared, Proc.ret_bind, List.nil_append]
  apply agree_ensure_right rfl
  simp only [materializeBatch, bind_assoc]
  rw [validateRequests_eq_ok hrequests, attempt_ok, Proc.ret_bind]
  apply agree_attempt_right (fun _ _ => trivial)
  intro files' hfiles'
  obtain ⟨hplaced, hframe⟩ := materializeJobs_placed hrequests hfiles'
    (show HoldsSource source files [] by intro path hmem; simp at hmem)
  rw [List.append_nil] at hplaced
  exact Agree.ret ⟨rfl, requests_known hrequests, hplaced, hframe⟩

end

end NetworkCopy
