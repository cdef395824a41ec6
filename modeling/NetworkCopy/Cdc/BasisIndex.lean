import NetworkCopy.Cdc.Chunker
import NetworkCopy.Lib.ByteOrder

/-!
# The basis-file index

`cdc_basis_index.rs`: the chunks of a basis file with their keys, a table of the
first location of each key, and the wire form of the index.

BLAKE3 is a parameter, a function from contents to digests.  The `HashMap` of
first locations is used only through `entry().or_insert()` and `get()`, so an
association list with those two operations stands for it.
-/

namespace NetworkCopy

open ByteOrder

/-- `ChunkKey`; the length is a `u32`. -/
structure ChunkKey where
  digest : Digest
  length : Nat
  deriving DecidableEq

/-- `chunk_key`. -/
def chunkKey (blake3 : Bytes → Digest) (contents : Bytes) : IoResult ChunkKey := do
  ensure (contents.length < 2 ^ 32)
    (.invalidInput "content-defined chunk is larger than u32")
  return { digest := blake3 contents, length := contents.length }

/-- `BasisChunk`. -/
structure BasisChunk where
  offset : Nat
  key : ChunkKey
  deriving DecidableEq

/-- `first_locations.entry(key).or_insert(offset)`. -/
def orInsert (locations : List (ChunkKey × Nat)) (key : ChunkKey) (offset : Nat) :
    List (ChunkKey × Nat) :=
  if (locations.lookup key).isSome then locations else locations ++ [(key, offset)]

/-- `BasisFileIndex`, without the elapsed time. -/
structure BasisFileIndex where
  averageKib : Nat
  fileBytes : Nat
  chunks : List BasisChunk
  firstLocations : List (ChunkKey × Nat)
  deriving DecidableEq

namespace BasisFileIndex

/-- The visitor of `build_from_reader`. -/
def visitChunk (blake3 : Bytes → Digest)
    (state : List BasisChunk × List (ChunkKey × Nat)) (offset : Nat) (contents : Bytes) :
    IoResult (List BasisChunk × List (ChunkKey × Nat)) := do
  let key ← chunkKey blake3 contents
  return (state.1 ++ [⟨offset, key⟩], orInsert state.2 key offset)

/-- `BasisFileIndex::build_from_reader`. -/
def buildFromReader (blake3 : Bytes → Digest) (reads : List Bytes)
    (expectedBytes averageKib : Nat) : IoResult BasisFileIndex := do
  let config ← ChunkConfig.fromAverageKib averageKib
  let chunking ← chunkReader config (visitChunk blake3) reads ([], [])
  let bytes := chunking.2.bytes
  ensure (bytes = expectedBytes)
    (.invalidData
      (s!"basis file changed while being indexed: expected {expectedBytes} bytes, " ++
        s!"read {bytes}"))
  return { averageKib, fileBytes := bytes, chunks := chunking.1.1
           firstLocations := chunking.1.2 }

/-- `BasisFileIndex::find`. -/
def find (index : BasisFileIndex) (key : ChunkKey) : Option Nat :=
  index.firstLocations.lookup key

/-! ## Wire form -/

/-- `WIRE_MAGIC`: `NCI1`. -/
def wireMagic : Bytes := [0x4E, 0x43, 0x49, 0x31]

/-- `WIRE_HEADER_BYTES`. -/
def wireHeaderBytes : Nat := 4 + 4 + 8 + 8

/-- `WIRE_RECORD_BYTES`. -/
def wireRecordBytes : Nat := 8 + 4 + 32

/-- `wire_size_for_chunks`. -/
def wireSizeForChunks (chunkCount : Nat) : IoResult Nat :=
  okOrElse ((checkedMul chunkCount wireRecordBytes).bind (checkedAdd wireHeaderBytes))
    (.other "basis index wire size overflowed")

/-- The record of one chunk. -/
def encodeChunk (chunk : BasisChunk) : Bytes :=
  leBytes 8 chunk.offset ++ (leBytes 4 chunk.key.length ++ chunk.key.digest.1)

/-- `encode_wire`. -/
def encodeWire (index : BasisFileIndex) : IoResult Bytes := do
  ensure (index.averageKib < 2 ^ 32) (.other "average chunk size cannot be represented")
  let _ ← wireSizeForChunks index.chunks.length
  return wireMagic ++ (leBytes 4 index.averageKib ++ (leBytes 8 index.fileBytes ++
    (leBytes 8 index.chunks.length ++ index.chunks.flatMap encodeChunk)))

/-- `invalid_wire`. -/
def invalidWire (message : String) : IoError := .invalidData message

end BasisFileIndex

/-- Reading a field at a cursor, with the texts of the two failures: the field and
the cursor behind it. -/
def readSlice (overflowed truncated : IoError) (encoded : Bytes) (cursor length : Nat) :
    IoResult (Bytes × Nat) := do
  let fieldEnd ← okOrElse (checkedAdd cursor length) overflowed
  let field ← okOrElse (slice encoded cursor length) truncated
  return (field, fieldEnd)

theorem readSlice_length {overflowed truncated : IoError} {encoded : Bytes}
    {cursor length : Nat} {result : Bytes × Nat}
    (h : readSlice overflowed truncated encoded cursor length = .ok result) :
    result.1.length = length := by
  rw [readSlice] at h
  obtain ⟨_, h⟩ := bind_rest h
  obtain ⟨field, hfield, h⟩ := bind_eq_ok.mp h
  cases h
  exact length_of_slice (okOrElse_eq_ok.mp hfield)

/-- A field of an encoding in the address range is read at its place. -/
theorem readSlice_append (overflowed truncated : IoError) {before field after : Bytes}
    (hlimit : (before ++ (field ++ after)).length < u64Limit) :
    readSlice overflowed truncated (before ++ (field ++ after)) before.length field.length =
      .ok (field, before.length + field.length) := by
  have hadd : checkedAdd before.length field.length =
      some (before.length + field.length) := by
    refine checkedAdd_eq_some.mpr ⟨?_, rfl⟩
    simp only [List.length_append] at hlimit
    omega
  rw [readSlice, hadd, slice_append]
  rfl

/-- A digest read at a cursor. -/
def readDigestWith (overflowed truncated : IoError) (encoded : Bytes) (cursor : Nat) :
    IoResult (Digest × Nat) :=
  match h : readSlice overflowed truncated encoded cursor contentDigestBytes with
  | .ok result => .ok (⟨result.1, readSlice_length h⟩, result.2)
  | .error error => .error error

theorem readDigestWith_append (overflowed truncated : IoError) {before after : Bytes}
    {digest : Digest} (hlimit : (before ++ (digest.1 ++ after)).length < u64Limit) :
    readDigestWith overflowed truncated (before ++ (digest.1 ++ after)) before.length =
      .ok (digest, before.length + contentDigestBytes) := by
  have hread := readSlice_append overflowed truncated hlimit
  rw [digest.2] at hread
  unfold readDigestWith
  split
  · rename_i result hresult
    rw [hread] at hresult
    cases hresult
    rfl
  · rename_i error herror
    rw [hread] at herror
    cases herror

namespace BasisFileIndex

/-- `read_u32` and `read_u64`, little-endian. -/
def readUInt (width : Nat) (encoded : Bytes) (cursor : Nat) : IoResult (Nat × Nat) := do
  let field ← readSlice (invalidWire "basis index cursor overflowed")
    (invalidWire "basis index is truncated") encoded cursor width
  return (leValue field.1, field.2)

/-- `read_digest`. -/
def readDigest (encoded : Bytes) (cursor : Nat) : IoResult (Digest × Nat) :=
  readDigestWith (invalidWire "basis index cursor overflowed")
    (invalidWire "basis index digest is truncated") encoded cursor

/-- The local variables of the loop of `decode_wire`. -/
structure DecodeState where
  cursor : Nat
  chunks : List BasisChunk := []
  firstLocations : List (ChunkKey × Nat) := []
  expectedOffset : Nat := 0

/-- The body of the loop of `decode_wire`. -/
def decodeChunk (encoded : Bytes) (config : ChunkConfig) (chunkCount chunkIndex : Nat)
    (state : DecodeState) : IoResult DecodeState := do
  let expectedOffset := state.expectedOffset
  let offset ← readUInt 8 encoded state.cursor
  let length ← readUInt 4 encoded offset.2
  let digest ← readDigest encoded length.2
  ensure (length.1 ≠ 0) (invalidWire "basis chunk length must not be zero")
  let found := offset.1
  ensure (found = expectedOffset)
    (invalidWire s!"basis chunk {chunkIndex} starts at {found}, expected {expectedOffset}")
  ensure (length.1 ≤ config.maximumBytes)
    (invalidWire s!"basis chunk {chunkIndex} exceeds the configured maximum size")
  ensure (chunkIndex + 1 = chunkCount ∨ config.minimumBytes ≤ length.1)
    (invalidWire
      s!"non-final basis chunk {chunkIndex} is smaller than the configured minimum")
  let key : ChunkKey := { digest := digest.1, length := length.1 }
  let nextOffset ← okOrElse (checkedAdd expectedOffset length.1)
    (invalidWire "basis chunk offsets overflowed")
  return { cursor := digest.2, chunks := state.chunks ++ [⟨found, key⟩]
           firstLocations := orInsert state.firstLocations key found
           expectedOffset := nextOffset }

/-- The loop of `decode_wire` over the remaining chunks. -/
def decodeChunks (encoded : Bytes) (config : ChunkConfig) (chunkCount : Nat) :
    Nat → DecodeState → IoResult DecodeState
  | 0, state => .ok state
  | remaining + 1, state => do
      let state ← decodeChunk encoded config chunkCount (chunkCount - (remaining + 1)) state
      decodeChunks encoded config chunkCount remaining state

/-- `decode_wire`. -/
def decodeWire (encoded : Bytes) : IoResult BasisFileIndex := do
  ensure (wireHeaderBytes ≤ encoded.length) (invalidWire "basis index header is truncated")
  ensure (encoded.take 4 = wireMagic) (invalidWire "basis index magic is invalid")
  let averageKib ← readUInt 4 encoded 4
  let config ← match ChunkConfig.fromAverageKib averageKib.1 with
    | .ok config => .ok config
    | .error error =>
        .error (invalidWire ("invalid average chunk size: " ++ error.message))
  let fileBytes ← readUInt 8 encoded averageKib.2
  let chunkCount ← readUInt 8 encoded fileBytes.2
  let expectedWireBytes ← wireSizeForChunks chunkCount.1
  let wireBytes := encoded.length
  ensure (wireBytes = expectedWireBytes)
    (invalidWire s!"basis index length is {wireBytes}, expected {expectedWireBytes}")
  let state ← decodeChunks encoded config chunkCount.1 chunkCount.1
    { cursor := chunkCount.2 }
  let describedBytes := state.expectedOffset
  let declaredBytes := fileBytes.1
  ensure (describedBytes = declaredBytes)
    (invalidWire
      (s!"basis chunks describe {describedBytes} bytes, but the header declares " ++
        s!"{declaredBytes}"))
  return { averageKib := averageKib.1, fileBytes := declaredBytes, chunks := state.chunks
           firstLocations := state.firstLocations }

end BasisFileIndex

/-! ## What the builder computes -/

/-- The key of a chunk that is short enough. -/
def keyOf (blake3 : Bytes → Digest) (contents : Bytes) : ChunkKey where
  digest := blake3 contents
  length := contents.length

theorem chunkKey_eq_ok {blake3 : Bytes → Digest} {contents : Bytes}
    (h : contents.length < 2 ^ 32) :
    chunkKey blake3 contents = .ok (keyOf blake3 contents) := by
  rw [chunkKey, ensure, if_pos h]
  rfl

/-- The chunks of an index over pieces that start at an offset. -/
def basisChunks (blake3 : Bytes → Digest) : Nat → List Bytes → List BasisChunk
  | _, [] => []
  | offset, piece :: rest =>
      ⟨offset, keyOf blake3 piece⟩ :: basisChunks blake3 (offset + piece.length) rest

@[simp] theorem basisChunks_length (blake3 : Bytes → Digest) :
    ∀ (pieces : List Bytes) (offset : Nat),
      (basisChunks blake3 offset pieces).length = pieces.length := by
  intro pieces
  induction pieces with
  | nil => intro offset; rfl
  | cons piece rest ih => intro offset; simp [basisChunks, ih]

/-- The first locations of a list of chunks, added to a table. -/
def locateChunks (locations : List (ChunkKey × Nat)) (chunks : List BasisChunk) :
    List (ChunkKey × Nat) :=
  chunks.foldl (fun table chunk => orInsert table chunk.key chunk.offset) locations

theorem lookup_append (key : ChunkKey) :
    ∀ first second : List (ChunkKey × Nat),
      (first ++ second).lookup key = (first.lookup key).or (second.lookup key) := by
  intro first second
  induction first with
  | nil => rfl
  | cons entry rest ih =>
    rw [List.cons_append, List.lookup, List.lookup]
    split
    · rfl
    · exact ih

/-- The table finds the first chunk with a key. -/
theorem lookup_locateChunks (key : ChunkKey) :
    ∀ (chunks : List BasisChunk) (locations : List (ChunkKey × Nat)),
      (locateChunks locations chunks).lookup key =
        (locations.lookup key).or
          ((chunks.find? (fun chunk => chunk.key = key)).map BasisChunk.offset) := by
  intro chunks
  induction chunks with
  | nil => intro locations; simp [locateChunks]
  | cons chunk rest ih =>
    intro locations
    have hstep : locateChunks locations (chunk :: rest) =
        locateChunks (orInsert locations chunk.key chunk.offset) rest := rfl
    rw [hstep, ih, List.find?_cons, orInsert]
    by_cases hkey : chunk.key = key
    · subst hkey
      simp only [decide_true, Option.map_some]
      split
      · rename_i hsome
        obtain ⟨offset, hoffset⟩ := Option.isSome_iff_exists.mp hsome
        simp [hoffset]
      · rename_i hnone
        have hnone' : locations.lookup chunk.key = none :=
          Option.not_isSome_iff_eq_none.mp hnone
        rw [lookup_append, hnone']
        simp [List.lookup]
    · simp only [hkey, decide_false]
      split
      · rfl
      · rw [lookup_append]
        have hother : [(chunk.key, chunk.offset)].lookup key = none := by
          have hne : (key == chunk.key) = false := by simpa using Ne.symm hkey
          simp [List.lookup, hne]
        rw [hother, Option.or_none]

/-- The index of a content under an accepted configuration. -/
def indexOf (blake3 : Bytes → Digest) (averageKib : Nat) (config : ChunkConfig)
    (content : Bytes) : BasisFileIndex where
  averageKib := averageKib
  fileBytes := content.length
  chunks := basisChunks blake3 0 (chunksOf config content)
  firstLocations := locateChunks [] (basisChunks blake3 0 (chunksOf config content))

namespace BasisFileIndex

variable (blake3 : Bytes → Digest)

/-- The visitor of the builder never fails on short chunks, and collects them. -/
theorem visitChunks_eq :
    ∀ (pieces : List Bytes) (offset : Nat) (chunks : List BasisChunk)
      (locations : List (ChunkKey × Nat)) (stats : ChunkingStats),
      (∀ piece ∈ pieces, piece.length < 2 ^ 32) →
      ∃ stats', visitChunks (visitChunk blake3) offset pieces ((chunks, locations), stats) =
          .ok ((chunks ++ basisChunks blake3 offset pieces,
            locateChunks locations (basisChunks blake3 offset pieces)), stats') ∧
        stats'.bytes = stats.bytes + pieces.flatten.length := by
  intro pieces
  induction pieces with
  | nil =>
    intro offset chunks locations stats _
    exact ⟨stats, by simp [visitChunks, basisChunks, locateChunks], by simp⟩
  | cons piece rest ih =>
    intro offset chunks locations stats hshort
    obtain ⟨stats', hrun, hbytes⟩ := ih (offset + piece.length)
      (chunks ++ [⟨offset, keyOf blake3 piece⟩])
      (orInsert locations (keyOf blake3 piece) offset) (stats.push piece.length)
      (fun other hother => hshort other (by simp [hother]))
    refine ⟨stats', ?_, ?_⟩
    · rw [visitChunks, visitChunk, chunkKey_eq_ok (hshort piece (by simp))]
      simp only [ok_bind, pure_eq_ok]
      rw [hrun, List.append_assoc]
      rfl
    · rw [hbytes, ChunkingStats.push_bytes, List.flatten_cons, List.length_append]
      omega

variable {config : ChunkConfig}

/-- `build_from_reader` computes the index of the content, however it is read. -/
theorem buildFromReader_eq {averageKib : Nat}
    (hconfig : ChunkConfig.fromAverageKib averageKib = .ok config) {content : Bytes}
    {reads : List Bytes} (hreads : ReadsOf content reads) (hlimit : content.length < u64Limit) :
    buildFromReader blake3 reads content.length averageKib =
      .ok (indexOf blake3 averageKib config content) := by
  obtain ⟨hvalid, _⟩ := ChunkConfig.valid_of_fromAverageKib hconfig
  have hshort : ∀ piece ∈ chunksOf config content, piece.length < 2 ^ 32 := fun piece hmem =>
    lt_of_le_of_lt ((chunksOf_sizes hvalid content).length_le piece hmem) hvalid.maximum
  obtain ⟨stats, hrun, hbytes⟩ :=
    visitChunks_eq blake3 (chunksOf config content) 0 [] [] {} hshort
  rw [chunksOf_flatten] at hbytes
  have htotal : stats.bytes = content.length := by simpa using hbytes
  rw [buildFromReader, hconfig, ok_bind, chunkReader_eq config _ hreads hlimit, hrun]
  simp only [ok_bind, htotal, ensure, if_true, List.nil_append, pure_eq_ok]
  rfl

/-! ## The wire round trip -/

/-- An integer field in range is read at its place. -/
theorem readUInt_append {width value : Nat} (before : Bytes) {after : Bytes}
    (hvalue : value < 256 ^ width)
    (hlimit : (before ++ (leBytes width value ++ after)).length < u64Limit) :
    readUInt width (before ++ (leBytes width value ++ after)) before.length =
      .ok (value, before.length + width) := by
  have hread := readSlice_append (invalidWire "basis index cursor overflowed")
    (invalidWire "basis index is truncated") hlimit
  rw [leBytes_length] at hread
  rw [readUInt, hread, ok_bind, pure_eq_ok, leValue_leBytes width value hvalue]

@[simp] theorem encodeChunk_length (chunk : BasisChunk) :
    (encodeChunk chunk).length = wireRecordBytes := by
  simp [encodeChunk, chunk.key.digest.2, wireRecordBytes, contentDigestBytes]

/-- One record is decoded at its place. -/
theorem decodeChunk_append (hvalid : config.Valid) {piece before after : Bytes}
    {chunkCount chunkIndex : Nat} {state : DecodeState}
    (hlimit : (before ++ (encodeChunk ⟨state.expectedOffset, keyOf blake3 piece⟩ ++
      after)).length < u64Limit) (hcursor : state.cursor = before.length) (hpiece : piece ≠ [])
    (hmax : piece.length ≤ config.maximumBytes)
    (hmin : chunkIndex + 1 = chunkCount ∨ config.minimumBytes ≤ piece.length)
    (hoffset : state.expectedOffset + piece.length < u64Limit) :
    decodeChunk (before ++ (encodeChunk ⟨state.expectedOffset, keyOf blake3 piece⟩ ++ after))
        config chunkCount chunkIndex state =
      .ok { cursor := before.length + wireRecordBytes
            chunks := state.chunks ++ [⟨state.expectedOffset, keyOf blake3 piece⟩]
            firstLocations :=
              orInsert state.firstLocations (keyOf blake3 piece) state.expectedOffset
            expectedOffset := state.expectedOffset + piece.length } := by
  have hlength : piece.length < 256 ^ 4 := by
    have := hvalid.maximum
    norm_num
    omega
  have hposition : state.expectedOffset < 256 ^ 8 := by
    have : u64Limit = 256 ^ 8 := by norm_num [u64Limit]
    omega
  set encoded := before ++
    (encodeChunk ⟨state.expectedOffset, keyOf blake3 piece⟩ ++ after) with hencoded
  have hfirst : encoded = before ++ (leBytes 8 state.expectedOffset ++
      (leBytes 4 piece.length ++ ((blake3 piece).1 ++ after))) := by
    simp [hencoded, encodeChunk, keyOf]
  have hsecond : encoded = (before ++ leBytes 8 state.expectedOffset) ++
      (leBytes 4 piece.length ++ ((blake3 piece).1 ++ after)) := by
    simp [hfirst]
  have hthird : encoded = (before ++ leBytes 8 state.expectedOffset ++
      leBytes 4 piece.length) ++ ((blake3 piece).1 ++ after) := by
    simp [hfirst]
  have hreadOffset : readUInt 8 encoded state.cursor =
      .ok (state.expectedOffset, before.length + 8) := by
    rw [hcursor, hfirst]
    exact readUInt_append before hposition (by rw [← hfirst]; exact hlimit)
  have hreadLength : readUInt 4 encoded (before.length + 8) =
      .ok (piece.length, before.length + 8 + 4) := by
    have hread := readUInt_append _ hlength (by rw [← hsecond]; exact hlimit)
    rw [← hsecond] at hread
    simpa using hread
  have hreadDigest : readDigest encoded (before.length + 8 + 4) =
      .ok (blake3 piece, before.length + 8 + 4 + contentDigestBytes) := by
    have hread := readDigestWith_append (invalidWire "basis index cursor overflowed")
      (invalidWire "basis index digest is truncated") (by rw [← hthird]; exact hlimit)
    rw [← hthird] at hread
    simpa [readDigest] using hread
  have hadd : checkedAdd state.expectedOffset piece.length =
      some (state.expectedOffset + piece.length) := checkedAdd_eq_some.mpr ⟨hoffset, rfl⟩
  have hnonzero : piece.length ≠ 0 := by simpa using hpiece
  rw [decodeChunk]
  simp only [hreadOffset, ok_bind, hreadLength, hreadDigest, ensure, hnonzero, ne_eq,
    not_false_eq_true, if_true, hmax, hmin, hadd, okOrElse_some, pure_eq_ok]
  rfl

/-- The records of an index are decoded one after the other. -/
theorem decodeChunks_eq (hvalid : config.Valid) (chunkCount : Nat) :
    ∀ (pieces : List Bytes) (before : Bytes) (state : DecodeState),
      ChunkSizes config pieces → pieces.length ≤ chunkCount →
      (before ++ (basisChunks blake3 state.expectedOffset pieces).flatMap
        encodeChunk).length < u64Limit →
      state.cursor = before.length →
      state.expectedOffset + pieces.flatten.length < u64Limit →
      ∃ cursor, decodeChunks (before ++
          (basisChunks blake3 state.expectedOffset pieces).flatMap encodeChunk)
          config chunkCount pieces.length state =
        .ok { cursor
              chunks := state.chunks ++ basisChunks blake3 state.expectedOffset pieces
              firstLocations := locateChunks state.firstLocations
                (basisChunks blake3 state.expectedOffset pieces)
              expectedOffset := state.expectedOffset + pieces.flatten.length } := by
  intro pieces
  induction pieces with
  | nil =>
    intro before state _ _ _ _ _
    exact ⟨state.cursor, by simp [decodeChunks, basisChunks, locateChunks]⟩
  | cons piece rest ih =>
    intro before state hsizes hcount hlimit hcursor htotal
    have hnext : ∀ encoded : Bytes, decodeChunks encoded config chunkCount
        (rest.length + 1) state =
        (decodeChunk encoded config chunkCount (chunkCount - (rest.length + 1)) state >>=
          fun state => decodeChunks encoded config chunkCount rest.length state) :=
      fun _ => rfl
    obtain ⟨hpiece, hmax, hmin, hrest⟩ : piece ≠ [] ∧ piece.length ≤ config.maximumBytes ∧
        (chunkCount - (rest.length + 1) + 1 = chunkCount ∨
          config.minimumBytes ≤ piece.length) ∧ ChunkSizes config rest := by
      cases hsizes with
      | last _ hpiece hmax =>
        rw [List.length_singleton] at hcount
        exact ⟨hpiece, hmax, Or.inl (by simp; omega), .nil⟩
      | cons _ _ hpiece hmax hmin hrest => exact ⟨hpiece, hmax, Or.inr hmin, hrest⟩
    rw [List.flatten_cons, List.length_append] at htotal
    rw [List.length_cons] at hcount
    set after := (basisChunks blake3 (state.expectedOffset + piece.length) rest).flatMap
      encodeChunk with hafter
    have hflat : (basisChunks blake3 state.expectedOffset (piece :: rest)).flatMap
        encodeChunk =
        encodeChunk ⟨state.expectedOffset, keyOf blake3 piece⟩ ++ after := rfl
    rw [hflat] at hlimit ⊢
    rw [List.length_cons, hnext,
      decodeChunk_append blake3 hvalid hlimit hcursor hpiece hmax hmin (by omega), ok_bind]
    have hassoc : before ++ (encodeChunk ⟨state.expectedOffset, keyOf blake3 piece⟩ ++
        after) = (before ++ encodeChunk ⟨state.expectedOffset, keyOf blake3 piece⟩) ++
          after := by
      simp
    rw [hassoc] at hlimit ⊢
    obtain ⟨cursor, hrun⟩ := ih
      (before ++ encodeChunk ⟨state.expectedOffset, keyOf blake3 piece⟩)
      { cursor := before.length + wireRecordBytes
        chunks := state.chunks ++ [⟨state.expectedOffset, keyOf blake3 piece⟩]
        firstLocations :=
          orInsert state.firstLocations (keyOf blake3 piece) state.expectedOffset
        expectedOffset := state.expectedOffset + piece.length }
      hrest (by omega) hlimit (by simp) (by simp only; omega)
    refine ⟨cursor, ?_⟩
    rw [hrun]
    simp [basisChunks, locateChunks, Nat.add_assoc]

/-- The number of chunks of a file leaves room for its index. -/
theorem chunkCount_le (hvalid : config.Valid) (content : Bytes) :
    (chunksOf config content).length * 2048 ≤ content.length + 2048 := by
  have hcount := (chunksOf_sizes hvalid content).count_le
  rw [chunksOf_flatten] at hcount
  have hmin := hvalid.minimum
  generalize (chunksOf config content).length = count at hcount ⊢
  rcases Nat.eq_zero_or_pos count with rfl | hpos
  · rw [Nat.zero_mul]
    exact Nat.zero_le _
  · -- All chunks but one are at least the minimum long.
    obtain ⟨full, rfl⟩ : ∃ full, count = full + 1 := ⟨count - 1, by omega⟩
    rw [Nat.add_mul, Nat.one_mul] at hcount ⊢
    have hfull := Nat.mul_le_mul_left full hmin
    exact Nat.add_le_add_right (hfull.trans (Nat.le_of_add_le_add_right hcount)) 2048

theorem wireSizeForChunks_eq {chunkCount : Nat}
    (h : wireHeaderBytes + chunkCount * wireRecordBytes < u64Limit) :
    wireSizeForChunks chunkCount = .ok (wireHeaderBytes + chunkCount * wireRecordBytes) := by
  have hmul : checkedMul chunkCount wireRecordBytes = some (chunkCount * wireRecordBytes) :=
    checkedMul_eq_some.mpr ⟨by omega, rfl⟩
  have hadd : checkedAdd wireHeaderBytes (chunkCount * wireRecordBytes) =
      some (wireHeaderBytes + chunkCount * wireRecordBytes) :=
    checkedAdd_eq_some.mpr ⟨h, rfl⟩
  rw [wireSizeForChunks, hmul, Option.bind_some, hadd, okOrElse_some]

theorem flatMap_encodeChunk_length (chunks : List BasisChunk) :
    (chunks.flatMap encodeChunk).length = chunks.length * wireRecordBytes := by
  rw [List.length_flatMap]
  simp [wireRecordBytes]

/-- The index of a file survives its wire form. -/
theorem decodeWire_encodeWire {averageKib : Nat}
    (hconfig : ChunkConfig.fromAverageKib averageKib = .ok config) (content : FileContent) :
    ∃ wire, (indexOf blake3 averageKib config content.1).encodeWire = .ok wire ∧
      decodeWire wire = .ok (indexOf blake3 averageKib config content.1) := by
  obtain ⟨hvalid, _, haverage⟩ := ChunkConfig.valid_of_fromAverageKib hconfig
  have hkib : averageKib < 2 ^ 32 := by
    unfold maxAverageKib at haverage
    omega
  have hcount := chunkCount_le hvalid content.1
  have hsizes := chunksOf_sizes hvalid content.1
  set index := indexOf blake3 averageKib config content.1 with hindex
  set pieces := chunksOf config content.1 with hpieces
  have hchunks : index.chunks = basisChunks blake3 0 pieces := rfl
  have hcountEq : index.chunks.length = pieces.length := by simp [hchunks]
  have hfile := content.2
  have hlimits : fileSizeLimit = 2 ^ 63 ∧ u64Limit = 2 ^ 64 := by
    constructor
    · unfold fileSizeLimit; rfl
    · unfold u64Limit; rfl
  have hwire : wireHeaderBytes + pieces.length * wireRecordBytes < u64Limit := by
    unfold wireHeaderBytes wireRecordBytes
    omega
  have hsize := wireSizeForChunks_eq hwire
  have hbytesLt : content.1.length < 256 ^ 8 := by norm_num; omega
  have hcountLt : pieces.length < 256 ^ 8 := by norm_num; omega
  -- The wire form, seen from each of its fields.
  set records := index.chunks.flatMap encodeChunk with hrecords
  set wire := wireMagic ++ (leBytes 4 averageKib ++ (leBytes 8 content.1.length ++
    (leBytes 8 pieces.length ++ records))) with hwireEq
  have hlength : wire.length = wireHeaderBytes + pieces.length * wireRecordBytes := by
    simp only [hwireEq, hrecords, List.length_append, leBytes_length,
      flatMap_encodeChunk_length, hcountEq]
    simp [wireMagic, wireHeaderBytes]
    omega
  have hlimit : wire.length < u64Limit := by rw [hlength]; exact hwire
  refine ⟨wire, ?_, ?_⟩
  · rw [encodeWire, ensure, if_pos (show index.averageKib < 2 ^ 32 from hkib), ok_bind, hcountEq, hsize, ok_bind]
    rfl
  have hkibRead : readUInt 4 wire 4 = .ok (averageKib, 8) := by
    exact readUInt_append wireMagic (by norm_num; omega) hlimit
  have hsecond : wire = (wireMagic ++ leBytes 4 averageKib) ++
      (leBytes 8 content.1.length ++ (leBytes 8 pieces.length ++ records)) := by
    simp [hwireEq]
  have hthird : wire = (wireMagic ++ leBytes 4 averageKib ++ leBytes 8 content.1.length) ++
      (leBytes 8 pieces.length ++ records) := by
    simp [hwireEq]
  have hfourth : wire = (wireMagic ++ leBytes 4 averageKib ++ leBytes 8 content.1.length ++
      leBytes 8 pieces.length) ++ (basisChunks blake3 0 pieces).flatMap encodeChunk := by
    simp [hwireEq, hrecords, hchunks]
  have hbytesRead : readUInt 8 wire 8 = .ok (content.1.length, 16) := by
    have hread := readUInt_append _ hbytesLt (by rw [← hsecond]; exact hlimit)
    rw [← hsecond] at hread
    simpa [wireMagic] using hread
  have hcountRead : readUInt 8 wire 16 = .ok (pieces.length, 24) := by
    have hread := readUInt_append _ hcountLt (by rw [← hthird]; exact hlimit)
    rw [← hthird] at hread
    simpa [wireMagic] using hread
  obtain ⟨cursor, hrun⟩ := decodeChunks_eq blake3 hvalid pieces.length pieces
    (wireMagic ++ leBytes 4 averageKib ++ leBytes 8 content.1.length ++
      leBytes 8 pieces.length) { cursor := 24 } hsizes (Nat.le_refl _)
    (by rw [← hfourth]; exact hlimit) (by simp [wireMagic])
    (by rw [hpieces, chunksOf_flatten]; simp only; omega)
  simp only at hrun
  rw [← hfourth, hpieces, chunksOf_flatten, ← hpieces] at hrun
  have hheader : wireHeaderBytes ≤ wireHeaderBytes + pieces.length * wireRecordBytes :=
    Nat.le_add_right _ _
  have hmagic : wire.take 4 = wireMagic := by
    rw [hwireEq]
    exact List.take_left' rfl
  rw [decodeWire]
  simp only [ensure, hlength, hheader, hmagic, if_true, ok_bind, hkibRead, hconfig,
    hbytesRead, hcountRead, hsize, hrun, Nat.zero_add, List.nil_append, pure_eq_ok]
  rfl

end BasisFileIndex

end NetworkCopy
