import NetworkCopy.Cdc.EndToEnd
import NetworkCopy.Cdc.Segmentation

/-!
# What the CDC decoders accept

`decode_wire` of the basis index and of the reconstruction plan read a header and a counted list
of records at a moving cursor.  `Occupies` says which bytes a field takes; the fields of an
accepted message lie one behind the other and end where the message ends, so that the message is
the encoding of what was decoded.  The checks along the way say what is known of it.
-/

namespace NetworkCopy

open BasisFileIndex ByteOrder

/-! ## Fields -/

/-- A field occupies the bytes between two cursors. -/
structure Occupies (encoded : Bytes) (cursor : Nat) (field : Bytes) (next : Nat) : Prop where
  next_eq : next = cursor + field.length
  limit : next < u64Limit
  le : next ≤ encoded.length
  take : encoded.take next = encoded.take cursor ++ field

theorem Occupies.append {encoded first second : Bytes} {cursor middle next : Nat}
    (hfirst : Occupies encoded cursor first middle)
    (hsecond : Occupies encoded middle second next) :
    Occupies encoded cursor (first ++ second) next where
  next_eq := by
    rw [hsecond.next_eq, hfirst.next_eq, List.length_append, Nat.add_assoc]
  limit := hsecond.limit
  le := hsecond.le
  take := by rw [hsecond.take, hfirst.take, List.append_assoc]

/-- A field that is read occupies its bytes. -/
theorem occupies_of_readSlice {overflowed truncated : IoError} {encoded : Bytes}
    {cursor length : Nat} {result : Bytes × Nat}
    (h : readSlice overflowed truncated encoded cursor length = .ok result) :
    Occupies encoded cursor result.1 result.2 ∧ result.1.length = length := by
  have hlength := readSlice_length h
  rw [readSlice] at h
  obtain ⟨fieldEnd, hend, h⟩ := bind_eq_ok.mp h
  obtain ⟨field, hfield, h⟩ := bind_eq_ok.mp h
  cases h
  rw [okOrElse_eq_ok, checkedAdd_eq_some] at hend
  rw [okOrElse_eq_ok, slice] at hfield
  split at hfield
  · next hle =>
      cases hfield
      refine ⟨⟨?_, ?_, ?_, ?_⟩, hlength⟩
      · rw [hlength]
        exact hend.2.symm
      · omega
      · show fieldEnd ≤ encoded.length
        omega
      · show encoded.take fieldEnd = _
        rw [← hend.2, List.take_add]
  · cases hfield

theorem occupies_of_readDigestWith {overflowed truncated : IoError} {encoded : Bytes}
    {cursor : Nat} {result : Digest × Nat}
    (h : readDigestWith overflowed truncated encoded cursor = .ok result) :
    Occupies encoded cursor result.1.1 result.2 := by
  unfold readDigestWith at h
  split at h
  · next found hfound =>
      cases h
      exact (occupies_of_readSlice hfound).1
  · cases h

/-! ## Basis indexes -/

namespace BasisFileIndex

theorem occupies_of_readUInt {width : Nat} {encoded : Bytes} {cursor : Nat} {result : Nat × Nat}
    (h : readUInt width encoded cursor = .ok result) :
    Occupies encoded cursor (leBytes width result.1) result.2 ∧ result.1 < 256 ^ width := by
  unfold readUInt at h
  obtain ⟨field, hfield, h⟩ := bind_eq_ok.mp h
  cases h
  obtain ⟨hoccupies, hlength⟩ := occupies_of_readSlice hfield
  subst hlength
  show Occupies encoded cursor (leBytes field.1.length (leValue field.1)) field.2 ∧ _
  rw [leBytes_leValue]
  exact ⟨hoccupies, leValue_lt field.1⟩

/-- The checks of one chunk, with the chunks that follow it. -/
def ChunkChecked (config : ChunkConfig) (offset : Nat) (chunk : BasisChunk) (isFinal : Prop) :
    Prop :=
  chunk.offset = offset ∧ 0 < chunk.key.length ∧ chunk.key.length ≤ config.maximumBytes ∧
    (isFinal ∨ config.minimumBytes ≤ chunk.key.length)

/-- Chunks that follow each other from an offset on. -/
def ChunksFrom (config : ChunkConfig) : Nat → List BasisChunk → Prop
  | _, [] => True
  | offset, chunk :: rest =>
      ChunkChecked config offset chunk (rest = []) ∧
        ChunksFrom config (offset + chunk.key.length) rest

/-- The bytes that some chunks describe. -/
def chunkBytes (chunks : List BasisChunk) : Nat :=
  (chunks.map (fun chunk => chunk.key.length)).sum

variable {config : ChunkConfig}

theorem decodeChunk_eq_ok {encoded : Bytes} {chunkCount chunkIndex : Nat}
    {state state' : DecodeState}
    (h : decodeChunk encoded config chunkCount chunkIndex state = .ok state') :
    ∃ chunk, Occupies encoded state.cursor (encodeChunk chunk) state'.cursor ∧
      ChunkChecked config state.expectedOffset chunk (chunkIndex + 1 = chunkCount) ∧
      state'.chunks = state.chunks ++ [chunk] ∧
      state'.firstLocations = orInsert state.firstLocations chunk.key chunk.offset ∧
      state'.expectedOffset = state.expectedOffset + chunk.key.length ∧
      state'.expectedOffset < u64Limit := by
  unfold decodeChunk at h
  simp only at h
  obtain ⟨offset, hoffset, h⟩ := bind_eq_ok.mp h
  obtain ⟨length, hlength, h⟩ := bind_eq_ok.mp h
  obtain ⟨digest, hdigest, h⟩ := bind_eq_ok.mp h
  obtain ⟨_, hne, h⟩ := bind_eq_ok.mp h
  obtain ⟨_, hstart, h⟩ := bind_eq_ok.mp h
  obtain ⟨_, hmax, h⟩ := bind_eq_ok.mp h
  obtain ⟨_, hmin, h⟩ := bind_eq_ok.mp h
  obtain ⟨nextOffset, hnext, h⟩ := bind_eq_ok.mp h
  cases h
  rw [okOrElse_eq_ok, checkedAdd_eq_some] at hnext
  have hfields := (occupies_of_readUInt hoffset).1.append
    ((occupies_of_readUInt hlength).1.append (occupies_of_readDigestWith hdigest))
  refine ⟨⟨offset.1, ⟨digest.1, length.1⟩⟩, hfields, ⟨ensure_eq_ok.mp hstart, ?_,
    ensure_eq_ok.mp hmax, ensure_eq_ok.mp hmin⟩, rfl, rfl, hnext.2.symm, ?_⟩
  · exact Nat.pos_of_ne_zero (ensure_eq_ok.mp hne)
  · show nextOffset < u64Limit
    omega

/-- The chunks that the rest of the loop decodes. -/
theorem decodeChunks_eq_ok {encoded : Bytes} {chunkCount : Nat} {remaining : Nat}
    {state state' : DecodeState} (hremaining : remaining ≤ chunkCount)
    (hcursor : state.cursor ≤ encoded.length) (hlimit : state.cursor < u64Limit)
    (hoffset : state.expectedOffset < u64Limit)
    (h : decodeChunks encoded config chunkCount remaining state = .ok state') :
    ∃ chunks, chunks.length = remaining ∧
      Occupies encoded state.cursor (chunks.flatMap encodeChunk) state'.cursor ∧
      ChunksFrom config state.expectedOffset chunks ∧
      state'.chunks = state.chunks ++ chunks ∧
      state'.firstLocations = locateChunks state.firstLocations chunks ∧
      state'.expectedOffset = state.expectedOffset + chunkBytes chunks ∧
      state'.expectedOffset < u64Limit := by
  induction remaining generalizing state with
  | zero =>
    cases h
    exact ⟨[], rfl, ⟨rfl, hlimit, hcursor, (List.append_nil _).symm⟩, trivial,
      (List.append_nil _).symm, rfl, rfl, hoffset⟩
  | succ remaining ih =>
    rw [decodeChunks] at h
    obtain ⟨middle, hmiddle, hrest⟩ := bind_eq_ok.mp h
    obtain ⟨chunk, hchunk, hchecked, hchunks, hlocations, hmoved, hmovedLt⟩ :=
      decodeChunk_eq_ok hmiddle
    obtain ⟨chunks, hcount, hoccupies, hfrom, hall, hlocated, hend, hendLt⟩ :=
      ih (by omega) hchunk.le hchunk.limit hmovedLt hrest
    refine ⟨chunk :: chunks, by simp [hcount], ?_, ⟨?_, ?_⟩, ?_, ?_, ?_, hendLt⟩
    · rw [List.flatMap_cons]
      exact hchunk.append hoccupies
    · -- The chunk is the final one exactly when none follows.
      have hfinal : chunks = [] ↔ chunkCount - (remaining + 1) + 1 = chunkCount := by
        rw [← List.length_eq_zero_iff, hcount]
        omega
      rw [hfinal]
      exact hchecked
    · rw [← hmoved]
      exact hfrom
    · rw [hall, hchunks, List.append_assoc]
      rfl
    · rw [hlocated, hlocations]
      rfl
    · rw [hend, hmoved, chunkBytes, chunkBytes, List.map_cons, List.sum_cons, Nat.add_assoc]

/-- What an accepted basis index is. -/
theorem decodeWire_eq_ok {encoded : Bytes} {index : BasisFileIndex}
    (h : decodeWire encoded = .ok index) :
    index.encodeWire = .ok encoded ∧
      (∃ config, ChunkConfig.fromAverageKib index.averageKib = .ok config ∧
        ChunksFrom config 0 index.chunks) ∧
      chunkBytes index.chunks = index.fileBytes ∧ index.fileBytes < u64Limit ∧
      index.firstLocations = locateChunks [] index.chunks := by
  unfold decodeWire at h
  simp only at h
  obtain ⟨_, hheader, h⟩ := bind_eq_ok.mp h
  obtain ⟨_, hmagic, h⟩ := bind_eq_ok.mp h
  obtain ⟨averageKib, haverage, h⟩ := bind_eq_ok.mp h
  obtain ⟨config, hconfig, h⟩ : ∃ config,
      ChunkConfig.fromAverageKib averageKib.1 = .ok config ∧ _ := by
    split at h
    · next config hconfig => exact ⟨config, hconfig, h⟩
    · cases h
  rw [ok_bind] at h
  obtain ⟨fileBytes, hfile, h⟩ := bind_eq_ok.mp h
  obtain ⟨chunkCount, hcount, h⟩ := bind_eq_ok.mp h
  obtain ⟨wireBytes, hwire, h⟩ := bind_eq_ok.mp h
  obtain ⟨_, hlength, h⟩ := bind_eq_ok.mp h
  obtain ⟨state, hstate, h⟩ := bind_eq_ok.mp h
  obtain ⟨_, hdescribed, h⟩ := bind_eq_ok.mp h
  cases h
  rw [ensure_eq_ok] at hheader hmagic hlength hdescribed
  have hpos : 0 < u64Limit := by
    unfold u64Limit
    omega
  have hmagicField : Occupies encoded 0 wireMagic 4 := by
    refine ⟨rfl, ?_, ?_, by rw [hmagic]; rfl⟩
    · unfold u64Limit
      omega
    · unfold wireHeaderBytes at hheader
      omega
  have hcountField := occupies_of_readUInt hcount
  obtain ⟨chunks, hchunkCount, hoccupies, hfrom, hchunks, hlocated, hend, hendLt⟩ :=
    decodeChunks_eq_ok (Nat.le_refl _) hcountField.1.le hcountField.1.limit hpos hstate
  have hall := hmagicField.append ((occupies_of_readUInt haverage).1.append
    ((occupies_of_readUInt hfile).1.append (hcountField.1.append hoccupies)))
  rw [List.nil_append] at hchunks
  -- The message ends with the last chunk, because its length is what the count asks for.
  have hkib := (occupies_of_readUInt haverage).2
  rw [wireSizeForChunks, okOrElse_eq_ok, Option.bind_eq_some_iff] at hwire
  obtain ⟨records, hrecords, hwireAdd⟩ := hwire
  rw [checkedMul_eq_some] at hrecords
  rw [checkedAdd_eq_some] at hwireAdd
  have hfields : (wireMagic ++ (leBytes 4 averageKib.1 ++ (leBytes 8 fileBytes.1 ++
      (leBytes 8 chunkCount.1 ++ chunks.flatMap encodeChunk)))).length = encoded.length := by
    simp only [List.length_append, leBytes_length, flatMap_encodeChunk_length, hchunkCount]
    rw [hlength, ← hwireAdd.2, ← hrecords.2]
    simp [wireMagic, wireHeaderBytes]
    omega
  have hmessage : encoded = wireMagic ++ (leBytes 4 averageKib.1 ++ (leBytes 8 fileBytes.1 ++
      (leBytes 8 chunkCount.1 ++ chunks.flatMap encodeChunk))) := by
    have htake := hall.take
    rw [hall.next_eq, hfields, Nat.zero_add, List.take_length] at htake
    simpa using htake
  refine ⟨?_, ⟨config, hconfig, hchunks ▸ hfrom⟩, ?_, ?_, ?_⟩
  · unfold encodeWire
    simp only
    refine bind_eq_ok.mpr ⟨(), ensure_eq_ok.mpr (by simpa using hkib), ?_⟩
    refine bind_eq_ok.mpr ⟨_, wireSizeForChunks_eq (?_ : _ < u64Limit), ?_⟩
    · rw [hchunks, hchunkCount, hrecords.2]
      omega
    · rw [pure_eq_ok, hmessage, hchunks, hchunkCount]
  · show chunkBytes state.chunks = fileBytes.1
    rw [hchunks, ← hdescribed, hend]
    exact (Nat.zero_add _).symm
  · show fileBytes.1 < u64Limit
    omega
  · show state.firstLocations = locateChunks [] state.chunks
    rw [hlocated, hchunks]

/-- What the layout says of one chunk. -/
theorem ChunksFrom.bounds {offset : Nat} {before after : List BasisChunk} {chunk : BasisChunk}
    (h : ChunksFrom config offset (before ++ chunk :: after)) :
    chunk.offset = offset + chunkBytes before ∧ 0 < chunk.key.length ∧
      chunk.key.length ≤ config.maximumBytes ∧
      (after ≠ [] → config.minimumBytes ≤ chunk.key.length) := by
  induction before generalizing offset with
  | nil =>
    obtain ⟨hoffset, hpos, hmax, hmin⟩ := h.1
    refine ⟨hoffset, hpos, hmax, fun hafter => ?_⟩
    cases hmin with
    | inl hfinal => exact absurd hfinal hafter
    | inr hmin => exact hmin
  | cons first before ih =>
    have hrest := ih h.2
    have hsum : chunkBytes (first :: before) = first.key.length + chunkBytes before := by
      simp [chunkBytes]
    rw [hsum, ← Nat.add_assoc]
    exact hrest

/-- The table of first locations finds the first chunk with a key. -/
theorem find_eq {index : BasisFileIndex}
    (h : index.firstLocations = locateChunks [] index.chunks) (key : ChunkKey) :
    index.find key =
      (index.chunks.find? (fun chunk => chunk.key = key)).map BasisChunk.offset := by
  unfold find
  rw [h, lookup_locateChunks]
  simp

/-- The index of a file survives its wire form, and what is accepted is laid out like the chunks of
a file and encodes to the same bytes. -/
theorem basis_index_codec (blake3 : Bytes → Digest) :
    (∀ averageKib config, ChunkConfig.fromAverageKib averageKib = .ok config →
      ∀ (content : FileContent) (reads : List Bytes), ReadsOf content.1 reads →
      ∃ index wire decoded,
        buildFromReader blake3 reads content.1.length averageKib = .ok index ∧
        index.encodeWire = .ok wire ∧ decodeWire wire = .ok decoded ∧
        decoded.averageKib = index.averageKib ∧ decoded.fileBytes = index.fileBytes ∧
        decoded.chunks = index.chunks ∧ ∀ key, decoded.find key = index.find key) ∧
    ∀ encoded index, decodeWire encoded = .ok index →
      (∃ config, ChunkConfig.fromAverageKib index.averageKib = .ok config ∧
        ∀ before chunk after, index.chunks = before ++ chunk :: after →
          chunk.offset = chunkBytes before ∧ 0 < chunk.key.length ∧
          chunk.key.length ≤ config.maximumBytes ∧
          (after ≠ [] → config.minimumBytes ≤ chunk.key.length)) ∧
      chunkBytes index.chunks = index.fileBytes ∧
      (∀ key, index.find key =
        (index.chunks.find? (fun chunk => chunk.key = key)).map BasisChunk.offset) ∧
      index.encodeWire = .ok encoded := by
  constructor
  · intro averageKib config hconfig content reads hreads
    have hbuild := buildFromReader_eq blake3 hconfig hreads
      (content.2.trans fileSizeLimit_lt)
    obtain ⟨wire, hencode, hdecode⟩ := decodeWire_encodeWire blake3 hconfig content
    exact ⟨_, wire, _, hbuild, hencode, hdecode, rfl, rfl, rfl, fun _ => rfl⟩
  · intro encoded index h
    obtain ⟨hencode, ⟨config, hconfig, hfrom⟩, hbytes, _, hlocated⟩ := decodeWire_eq_ok h
    refine ⟨⟨config, hconfig, ?_⟩, hbytes, find_eq hlocated, hencode⟩
    intro before chunk after hsplit
    rw [hsplit] at hfrom
    have hbounds := hfrom.bounds
    rw [Nat.zero_add] at hbounds
    exact hbounds

/-- The index of `abc`, both ways. -/
theorem basis_index_codec_abc :
    ∃ index wire decoded,
      buildFromReader blake3OfAbc [[0x61, 0x62, 0x63]] 3 64 = .ok index ∧
      index.encodeWire = .ok wire ∧ decodeWire wire = .ok decoded ∧
      decoded.chunks = index.chunks ∧ chunkBytes decoded.chunks = decoded.fileBytes ∧
      decoded.encodeWire = .ok wire := by
  have hcodec := basis_index_codec blake3OfAbc
  obtain ⟨index, wire, decoded, hbuild, hencode, hdecode, _, _, hchunks, _⟩ :=
    hcodec.1 64 defaultChunkConfig (by decide +kernel) abcContent [[0x61, 0x62, 0x63]]
      ⟨rfl, by simp⟩
  have hback := hcodec.2 wire decoded hdecode
  exact ⟨index, wire, decoded, hbuild, hencode, hdecode, hchunks, hback.2.1, hback.2.2.2⟩

end BasisFileIndex

/-! ## Reconstruction plans -/

namespace ReconstructionPlan

variable {encoded : Bytes}
variable {plan : ReconstructionPlan}

theorem occupies_of_readU64 {cursor : Nat} {result : Nat × Nat}
    (h : readU64 encoded cursor = .ok result) :
    Occupies encoded cursor (leBytes 8 result.1) result.2 ∧ result.1 < 256 ^ 8 := by
  unfold readU64 at h
  obtain ⟨field, hfield, h⟩ := bind_eq_ok.mp h
  cases h
  obtain ⟨hoccupies, hlength⟩ := occupies_of_readSlice hfield
  have hbytes : leBytes 8 (leValue field.1) = field.1 := by
    rw [← hlength]
    exact leBytes_leValue field.1
  refine ⟨?_, by rw [← hlength]; exact leValue_lt field.1⟩
  show Occupies encoded cursor (leBytes 8 (leValue field.1)) field.2
  rw [hbytes]
  exact hoccupies

theorem occupies_of_readU8 {cursor : Nat} {result : UInt8 × Nat}
    (h : readU8 encoded cursor = .ok result) :
    Occupies encoded cursor [result.1] result.2 := by
  unfold readU8 at h
  obtain ⟨byte, hbyte, h⟩ := bind_eq_ok.mp h
  obtain ⟨next, hnext, h⟩ := bind_eq_ok.mp h
  cases h
  rw [okOrElse_eq_ok] at hbyte hnext
  rw [checkedAdd_eq_some] at hnext
  obtain ⟨hlt, hget⟩ := List.getElem?_eq_some_iff.mp hbyte
  refine ⟨hnext.2.symm, ?_, ?_, ?_⟩
  · show next < u64Limit
    omega
  · show next ≤ encoded.length
    omega
  · show encoded.take next = encoded.take cursor ++ [byte]
    rw [← hnext.2, ← hget, List.take_append_getElem hlt]

/-- One decoded operation. -/
theorem decodeOp_eq_ok {operationIndex : Nat} {state state' : DecodeState}
    (h : decodeOp encoded operationIndex state = .ok state') :
    ∃ operation, Occupies encoded state.cursor (encodeOp operation) state'.cursor ∧
      operation.Fits (u64Limit - 1) ∧ state'.operations = state.operations ++ [operation] ∧
      state'.referencedBytes = state.referencedBytes + operation.referenced ∧
      state'.literalBytes = state.literalBytes + operation.literals := by
  unfold decodeOp at h
  obtain ⟨tag, htag, h⟩ := bind_eq_ok.mp h
  have htagField := occupies_of_readU8 htag
  split at h
  · next hbasis =>
      obtain ⟨offset, hoffset, h⟩ := bind_eq_ok.mp h
      obtain ⟨length, hlength, h⟩ := bind_eq_ok.mp h
      obtain ⟨_, hne, h⟩ := bind_eq_ok.mp h
      obtain ⟨rangeEnd, hrange, h⟩ := bind_eq_ok.mp h
      obtain ⟨referencedBytes, hreferenced, h⟩ := bind_eq_ok.mp h
      cases h
      rw [hbasis] at htagField
      rw [okOrElse_eq_ok, checkedAdd_eq_some] at hrange hreferenced
      have hfields := htagField.append
        ((occupies_of_readU64 hoffset).1.append (occupies_of_readU64 hlength).1)
      have hpos := ensure_eq_ok.mp hne
      refine ⟨.basis offset.1 length.1, hfields, ⟨by omega, by omega⟩, rfl,
        hreferenced.2.symm, rfl⟩
  · next hother =>
      split at h
      · next hliteral =>
          obtain ⟨length, hlength, h⟩ := bind_eq_ok.mp h
          obtain ⟨_, hne, h⟩ := bind_eq_ok.mp h
          obtain ⟨contents, hcontents, h⟩ := bind_eq_ok.mp h
          obtain ⟨literalBytes, hliterals, h⟩ := bind_eq_ok.mp h
          cases h
          rw [hliteral] at htagField
          rw [okOrElse_eq_ok, checkedAdd_eq_some] at hliterals
          obtain ⟨hoccupies, hlengths⟩ := occupies_of_readSlice hcontents
          have hlengthField := (occupies_of_readU64 hlength).1
          rw [← hlengths] at hlengthField hliterals
          have hpos := ensure_eq_ok.mp hne
          refine ⟨.literal contents.1, htagField.append (hlengthField.append hoccupies), ?_, rfl,
            rfl, hliterals.2.symm⟩
          show contents.1 ≠ []
          intro hnil
          rw [hnil] at hlengths
          exact hpos hlengths.symm
      · cases h

/-- The operations that the rest of the loop decodes. -/
theorem decodeOps_eq_ok {operationCount remaining : Nat} {state state' : DecodeState}
    (hcursor : state.cursor ≤ encoded.length) (hlimit : state.cursor < u64Limit)
    (h : decodeOps encoded operationCount remaining state = .ok state') :
    ∃ operations, operations.length = remaining ∧
      Occupies encoded state.cursor (operations.flatMap encodeOp) state'.cursor ∧
      (∀ operation ∈ operations, operation.Fits (u64Limit - 1)) ∧
      state'.operations = state.operations ++ operations ∧
      state'.referencedBytes =
        state.referencedBytes + (operations.map ReconstructionOp.referenced).sum ∧
      state'.literalBytes =
        state.literalBytes + (operations.map ReconstructionOp.literals).sum := by
  induction remaining generalizing state with
  | zero =>
    cases h
    exact ⟨[], rfl, ⟨rfl, hlimit, hcursor, (List.append_nil _).symm⟩, by simp,
      (List.append_nil _).symm, rfl, rfl⟩
  | succ remaining ih =>
    rw [decodeOps] at h
    obtain ⟨middle, hmiddle, hrest⟩ := bind_eq_ok.mp h
    obtain ⟨operation, hoperation, hfits, hops, hreferenced, hliterals⟩ :=
      decodeOp_eq_ok hmiddle
    obtain ⟨operations, hcount, hoccupies, hall, hops', hreferenced', hliterals'⟩ :=
      ih hoperation.le hoperation.limit hrest
    refine ⟨operation :: operations, by simp [hcount], ?_, ?_, ?_, ?_, ?_⟩
    · rw [List.flatMap_cons]
      exact hoperation.append hoccupies
    · intro other hother
      cases List.mem_cons.mp hother with
      | inl hsame => exact hsame ▸ hfits
      | inr hmem => exact hall other hmem
    · rw [hops', hops, List.append_assoc]
      rfl
    · rw [hreferenced', hreferenced, List.map_cons, List.sum_cons, Nat.add_assoc]
    · rw [hliterals', hliterals, List.map_cons, List.sum_cons, Nat.add_assoc]

/-- What an accepted plan is. -/
theorem decodeWire_eq_ok (h : decodeWire encoded = .ok plan) :
    plan.encodeWire = .ok encoded ∧
      (∀ operation ∈ plan.operations, operation.Fits (u64Limit - 1)) ∧
      (plan.operations.map ReconstructionOp.referenced).sum = plan.referencedBytes ∧
      (plan.operations.map ReconstructionOp.literals).sum = plan.literalBytes ∧
      plan.referencedBytes + plan.literalBytes = plan.targetBytes ∧
      plan.targetBytes < u64Limit := by
  unfold decodeWire at h
  simp only at h
  obtain ⟨_, hheader, h⟩ := bind_eq_ok.mp h
  obtain ⟨_, hmagic, h⟩ := bind_eq_ok.mp h
  obtain ⟨targetBytes, htarget, h⟩ := bind_eq_ok.mp h
  obtain ⟨digest, hdigest, h⟩ := bind_eq_ok.mp h
  obtain ⟨operationCount, hcount, h⟩ := bind_eq_ok.mp h
  obtain ⟨state, hstate, h⟩ := bind_eq_ok.mp h
  obtain ⟨_, htrailing, h⟩ := bind_eq_ok.mp h
  obtain ⟨describedBytes, hdescribed, h⟩ := bind_eq_ok.mp h
  obtain ⟨_, hdeclared, h⟩ := bind_eq_ok.mp h
  cases h
  rw [ensure_eq_ok] at hheader hmagic htrailing hdeclared
  rw [okOrElse_eq_ok, checkedAdd_eq_some] at hdescribed
  have hmagicField : Occupies encoded 0 planMagic 4 := by
    refine ⟨rfl, ?_, ?_, by rw [hmagic]; rfl⟩
    · unfold u64Limit
      omega
    · unfold planHeaderBytes at hheader
      omega
  have hcountField := (occupies_of_readU64 hcount).1
  obtain ⟨operations, hlength, hoccupies, hfits, hops, hreferenced, hliterals⟩ :=
    decodeOps_eq_ok hcountField.le hcountField.limit hstate
  rw [List.nil_append] at hops
  rw [Nat.zero_add] at hreferenced hliterals
  have hall := hmagicField.append ((occupies_of_readU64 htarget).1.append
    ((occupies_of_readDigestWith hdigest).append (hcountField.append hoccupies)))
  have hmessage : encoded = planMagic ++ (leBytes 8 targetBytes.1 ++ (digest.1.1 ++
      (leBytes 8 operationCount.1 ++ operations.flatMap encodeOp))) := by
    have htake := hall.take
    rw [htrailing, List.take_length] at htake
    simpa using htake
  have hlimit : encoded.length < u64Limit := by
    rw [← htrailing]
    exact hall.limit
  have hsize : planHeaderBytes + (operations.flatMap encodeOp).length < u64Limit := by
    rw [hmessage] at hlimit
    simp only [List.length_append, leBytes_length, digest.1.2, contentDigestBytes] at hlimit
    simp only [planHeaderBytes]
    simp only [planMagic, List.length_cons, List.length_nil] at hlimit
    omega
  refine ⟨?_, ?_, ?_, ?_, ?_, ?_⟩
  · unfold encodeWire wireSize
    rw [hops, wireSizeOf_eq operations planHeaderBytes hsize, ok_bind, hlength, pure_eq_ok,
      ← hmessage]
  · rw [hops]
    exact hfits
  · show (state.operations.map ReconstructionOp.referenced).sum = state.referencedBytes
    rw [hops, hreferenced]
  · show (state.operations.map ReconstructionOp.literals).sum = state.literalBytes
    rw [hops, hliterals]
  · show state.referencedBytes + state.literalBytes = targetBytes.1
    omega
  · show targetBytes.1 < u64Limit
    omega

/-! ### Plans that were built -/

variable {index : BasisFileIndex} {blake3 : Bytes → Digest}
variable {operations operations' : List ReconstructionOp} {basisBytes : Nat}

/-- The reads up to the first empty one. -/
def liveReads (reads : List Bytes) : List Bytes := reads.takeWhile (fun read => read ≠ [])

theorem chunkReader_liveReads {σ : Type} (config : ChunkConfig)
    (visitor : σ → Nat → Bytes → IoResult σ) (reads : List Bytes) (initial : σ) :
    chunkReader config visitor reads initial =
      chunkReaderOutcomes config visitor (reads.map ReadOutcome.data) initial := by
  have hloop : ∀ state : ChunkState σ, chunkReads config visitor reads state =
      chunkOutcomes config visitor (reads.map ReadOutcome.data) state := by
    induction reads with
    | nil => intro state; rfl
    | cons read rest ih =>
      intro state
      rw [List.map_cons, chunkReads, chunkOutcomes]
      split
      · rfl
      · exact bind_congr (fun next => ih next)
  unfold chunkReader chunkReaderOutcomes
  rw [hloop]

theorem delivers_liveReads (reads : List Bytes) :
    Delivers (reads.map ReadOutcome.data) (liveReads reads).flatten := by
  induction reads with
  | nil => exact .nil
  | cons read rest ih =>
    by_cases hread : read = []
    · rw [hread]
      exact .ended _
    · have hlive : liveReads (read :: rest) = read :: liveReads rest := by
        simp [liveReads, hread]
      rw [hlive, List.flatten_cons, List.map_cons]
      exact .data read hread ih

/-- The byte counts of the operations that were appended so far. -/
structure BuildState.Counted (basisBytes : Nat) (state : BuildState) : Prop where
  fits : ∀ operation ∈ state.operations, operation.Fits basisBytes
  referenced : (state.operations.map ReconstructionOp.referenced).sum = state.referencedBytes
  literals : (state.operations.map ReconstructionOp.literals).sum = state.literalBytes

/-- One more operation, which may have been merged into the last one. -/
structure Extends (basisBytes : Nat) (operations operations' : List ReconstructionOp)
    (operation : ReconstructionOp) : Prop where
  fits : (∀ other ∈ operations, other.Fits basisBytes) →
    ∀ other ∈ operations', other.Fits basisBytes
  referenced : (operations'.map ReconstructionOp.referenced).sum =
    (operations.map ReconstructionOp.referenced).sum + operation.referenced
  literals : (operations'.map ReconstructionOp.literals).sum =
    (operations.map ReconstructionOp.literals).sum + operation.literals
  length_le : operations'.length ≤ operations.length + 1

theorem extends_append (operations : List ReconstructionOp) {operation : ReconstructionOp}
    (hfits : operation.Fits basisBytes) :
    Extends basisBytes operations (operations ++ [operation]) operation where
  fits := by
    intro hall other hother
    cases List.mem_append.mp hother with
    | inl hmem => exact hall other hmem
    | inr hmem => exact List.mem_singleton.mp hmem ▸ hfits
  referenced := by simp
  literals := by simp
  length_le := by simp

/-- The last operation is replaced by one that covers the new one too. -/
theorem extends_merge {operations : List ReconstructionOp}
    {last merged operation : ReconstructionOp} (hlast : operations.getLast? = some last)
    (hfits : last.Fits basisBytes → merged.Fits basisBytes)
    (hreferenced : merged.referenced = last.referenced + operation.referenced)
    (hliterals : merged.literals = last.literals + operation.literals) :
    Extends basisBytes operations (operations.dropLast ++ [merged]) operation := by
  have hsplit : operations.dropLast ++ [last] = operations :=
    List.dropLast_append_getLast? last hlast
  constructor
  · intro hall other hother
    cases List.mem_append.mp hother with
    | inl hmem => exact hall other (List.dropLast_subset _ hmem)
    | inr hmem =>
      rw [List.mem_singleton.mp hmem]
      exact hfits (hall last (List.mem_of_getLast? hlast))
  · conv_rhs => rw [← hsplit]
    simp [hreferenced, Nat.add_assoc]
  · conv_rhs => rw [← hsplit]
    simp [hliterals, Nat.add_assoc]
  · conv_rhs => rw [← hsplit]
    simp

theorem appendBasis_extends {offset length : Nat} (hrange : offset + length ≤ basisBytes)
    (h : appendBasis operations offset length = .ok operations') :
    Extends basisBytes operations operations' (.basis offset length) := by
  unfold appendBasis at h
  obtain ⟨_, hne, h⟩ := bind_eq_ok.mp h
  have hpos := ensure_eq_ok.mp hne
  have hfits : (ReconstructionOp.basis offset length).Fits basisBytes := ⟨by omega, hrange⟩
  split at h
  · next previousOffset previousLength hlast =>
      obtain ⟨previousEnd, hend, h⟩ := bind_eq_ok.mp h
      rw [addCounter_eq_ok] at hend
      split at h
      · next hsame =>
          obtain ⟨merged, hmerged, h⟩ := bind_eq_ok.mp h
          cases h
          rw [addCounter_eq_ok] at hmerged
          apply extends_merge hlast
          · intro ⟨hprevious, _⟩
            show 0 < merged ∧ previousOffset + merged ≤ basisBytes
            omega
          · exact hmerged.2.symm
          · rfl
      · cases h
        exact extends_append operations hfits
  · cases h
    exact extends_append operations hfits

theorem appendLiteral_extends {contents : Bytes}
    (h : appendLiteral operations contents = .ok operations') :
    Extends basisBytes operations operations' (.literal contents) := by
  unfold appendLiteral at h
  obtain ⟨_, hne, h⟩ := bind_eq_ok.mp h
  have hcontents : contents ≠ [] := ensure_eq_ok.mp hne
  have hfits : (ReconstructionOp.literal contents).Fits basisBytes := hcontents
  split at h
  · next previous hlast =>
      cases h
      apply extends_merge hlast
      · intro hprevious
        show previous ++ contents ≠ []
        intro hnil
        exact hprevious (List.append_eq_nil_iff.mp hnil).1
      · rfl
      · simp [ReconstructionOp.literals]
  · cases h
    exact extends_append operations hfits

/-- Every location of an index lies in its file. -/
def Located (index : BasisFileIndex) : Prop :=
  ∀ key offset, index.find key = some offset → offset + key.length ≤ index.fileBytes

/-- One visit. -/
theorem visitCandidate_counted (hlocated : Located index) {maximumLiteralBytes offset : Nat}
    {state state' : BuildState} {contents : Bytes} (hstate : state.Counted index.fileBytes)
    (h : visitCandidate blake3 index maximumLiteralBytes state offset contents = .ok state') :
    state'.Counted index.fileBytes ∧
      state'.referencedBytes + state'.literalBytes =
        state.referencedBytes + state.literalBytes + contents.length ∧
      state'.operations.length ≤ state.operations.length + 1 := by
  unfold visitCandidate at h
  simp only at h
  obtain ⟨key, hkey, h⟩ := bind_eq_ok.mp h
  have hkeyLength : key.length = contents.length := by
    unfold chunkKey at hkey
    obtain ⟨_, hkey⟩ := bind_rest hkey
    cases hkey
    rfl
  split at h
  · next basisOffset hfind =>
      obtain ⟨operations, hops, h⟩ := bind_eq_ok.mp h
      obtain ⟨referencedBytes, hreferenced, h⟩ := bind_eq_ok.mp h
      cases h
      rw [addCounter_eq_ok] at hreferenced
      have hrange := hlocated key basisOffset hfind
      rw [hkeyLength] at hrange
      have hextends := appendBasis_extends hrange hops
      refine ⟨⟨hextends.fits hstate.fits, ?_, ?_⟩, ?_, hextends.length_le⟩
      · rw [hextends.referenced, hstate.referenced]
        exact hreferenced.2
      · rw [hextends.literals, hstate.literals]
        rfl
      · show referencedBytes + state.literalBytes = _
        omega
  · obtain ⟨nextLiteralBytes, hnext, h⟩ := bind_eq_ok.mp h
    obtain ⟨_, h⟩ := bind_rest h
    obtain ⟨operations, hops, h⟩ := bind_eq_ok.mp h
    cases h
    rw [addCounter_eq_ok] at hnext
    have hextends : Extends index.fileBytes state.operations operations (.literal contents) :=
      appendLiteral_extends hops
    refine ⟨⟨hextends.fits hstate.fits, ?_, ?_⟩, ?_, hextends.length_le⟩
    · rw [hextends.referenced, hstate.referenced]
      rfl
    · rw [hextends.literals, hstate.literals]
      exact hnext.2
    · show state.referencedBytes + nextLiteralBytes = _
      omega

/-- All visits. -/
theorem visitChunks_counted (hlocated : Located index) {maximumLiteralBytes offset : Nat}
    {pieces : List Bytes} {state : BuildState} {stats : ChunkingStats}
    {result : BuildState × ChunkingStats} (hstate : state.Counted index.fileBytes)
    (h : visitChunks (visitCandidate blake3 index maximumLiteralBytes) offset pieces
      (state, stats) = .ok result) :
    result.1.Counted index.fileBytes ∧
      result.1.operations.length ≤ state.operations.length + pieces.length ∧
      result.2.bytes = stats.bytes + pieces.flatten.length := by
  induction pieces generalizing offset state stats with
  | nil =>
    cases h
    exact ⟨hstate, Nat.le_refl _, rfl⟩
  | cons piece rest ih =>
    rw [visitChunks] at h
    obtain ⟨next, hnext, hrest⟩ := bind_eq_ok.mp h
    have hvisit := visitCandidate_counted hlocated hstate hnext
    have hall := ih hvisit.1 hrest
    refine ⟨hall.1, ?_, ?_⟩
    · have hone := hvisit.2.2
      have hmore := hall.2.1
      rw [List.length_cons]
      omega
    · rw [hall.2.2, ChunkingStats.push_bytes, List.flatten_cons, List.length_append,
        Nat.add_assoc]

/-- What a plan that was built is. -/
theorem buildBounded_counted {reads : List Bytes} {expectedBytes : Nat}
    {maximumLiteralBytes : Nat} (hlocated : Located index)
    (h : buildBounded blake3 reads expectedBytes index maximumLiteralBytes = .ok plan) :
    (∀ operation ∈ plan.operations, operation.Fits index.fileBytes) ∧
      (plan.operations.map ReconstructionOp.referenced).sum = plan.referencedBytes ∧
      (plan.operations.map ReconstructionOp.literals).sum = plan.literalBytes ∧
      plan.referencedBytes + plan.literalBytes = plan.targetBytes ∧
      plan.targetBytes = expectedBytes ∧
      plan.operations.length * 2048 ≤ expectedBytes + 2048 := by
  unfold buildBounded at h
  simp only at h
  obtain ⟨config, hconfig, h⟩ := bind_eq_ok.mp h
  obtain ⟨chunking, hchunking, h⟩ := bind_eq_ok.mp h
  obtain ⟨_, hbytes, h⟩ := bind_eq_ok.mp h
  obtain ⟨plannedBytes, hplanned, h⟩ := bind_eq_ok.mp h
  obtain ⟨_, hexpected, h⟩ := bind_eq_ok.mp h
  cases h
  rw [ensure_eq_ok] at hbytes hexpected
  rw [addCounter_eq_ok] at hplanned
  obtain ⟨hvalid, _, _⟩ := ChunkConfig.valid_of_fromAverageKib hconfig
  rw [chunkReader_liveReads] at hchunking
  have hdelivers := delivers_liveReads reads
  have hlimit := length_lt_of_chunkReaderOutcomes _ _ hdelivers hchunking
  rw [chunkReaderOutcomes_eq _ _ hdelivers hlimit] at hchunking
  have hempty : BuildState.Counted index.fileBytes {} := ⟨by simp, rfl, rfl⟩
  have hrun := visitChunks_counted hlocated hempty hchunking
  have hcount := chunkCount_le hvalid (liveReads reads).flatten
  have hlength := hrun.2.1
  have htotal := hrun.2.2
  rw [chunksOf_flatten] at htotal
  simp only [List.length_nil, Nat.zero_add] at hlength htotal
  have hsum : chunking.1.referencedBytes + chunking.1.literalBytes = expectedBytes := by omega
  have hoperations : chunking.1.operations.length * 2048 ≤ expectedBytes + 2048 := by
    rw [← hbytes, htotal]
    exact (Nat.mul_le_mul_right 2048 hlength).trans hcount
  refine ⟨hrun.1.fits, hrun.1.referenced, hrun.1.literals, hsum, rfl, ?_⟩
  dsimp only
  exact hoperations

/-- An index that was built or decoded; there are no others. -/
inductive Obtained (blake3 : Bytes → Digest) (index : BasisFileIndex) : Prop
  | built (reads : List Bytes) (expectedBytes averageKib : Nat)
      (h : BasisFileIndex.buildFromReader blake3 reads expectedBytes averageKib = .ok index)
  | decoded (encoded : Bytes) (h : BasisFileIndex.decodeWire encoded = .ok index)

/-- Chunks that follow each other lie before the end of the last one. -/
theorem located_of_chunksFrom {config : ChunkConfig}
    (hfrom : ChunksFrom config 0 index.chunks)
    (hbytes : chunkBytes index.chunks = index.fileBytes)
    (hlocations : index.firstLocations = locateChunks [] index.chunks) : Located index := by
  intro key offset hfind
  rw [find_eq hlocations, Option.map_eq_some_iff] at hfind
  obtain ⟨chunk, hchunk, hoffset⟩ := hfind
  have hkey : chunk.key = key := by simpa using List.find?_some hchunk
  obtain ⟨before, after, hsplit⟩ := List.append_of_mem (List.mem_of_find?_eq_some hchunk)
  rw [hsplit] at hfrom hbytes
  have hbounds := hfrom.bounds
  have htotal : chunkBytes (before ++ chunk :: after) =
      chunkBytes before + (chunk.key.length +
        chunkBytes after) := by
    simp [chunkBytes]
  rw [← hkey, ← hoffset]
  omega

theorem chunksFrom_basisChunks (blake3 : Bytes → Digest) {config : ChunkConfig}
    {pieces : List Bytes} (hsizes : ChunkSizes config pieces) (offset : Nat) :
    ChunksFrom config offset (basisChunks blake3 offset pieces) ∧
      chunkBytes (basisChunks blake3 offset pieces) = pieces.flatten.length := by
  induction hsizes generalizing offset with
  | nil => exact ⟨trivial, rfl⟩
  | last piece hne hmax =>
    exact ⟨⟨⟨rfl, List.length_pos_iff.mpr hne, hmax, .inl rfl⟩, trivial⟩, by
      simp [basisChunks, chunkBytes, keyOf]⟩
  | cons piece rest hne hmax hmin _ ih =>
    have hrest := ih (offset + piece.length)
    refine ⟨⟨⟨rfl, List.length_pos_iff.mpr hne, hmax, .inr hmin⟩, hrest.1⟩, ?_⟩
    have hsum := hrest.2
    unfold chunkBytes at hsum ⊢
    rw [basisChunks, List.map_cons, List.sum_cons, hsum, List.flatten_cons, List.length_append]
    rfl

theorem Obtained.located (h : Obtained blake3 index) :
    Located index ∧ index.fileBytes < u64Limit := by
  cases h with
  | decoded encoded h =>
    obtain ⟨_, ⟨config, _, hfrom⟩, hbytes, hlimit, hlocations⟩ :=
      BasisFileIndex.decodeWire_eq_ok h
    exact ⟨located_of_chunksFrom hfrom hbytes hlocations, hlimit⟩
  | built reads expectedBytes averageKib h =>
    unfold BasisFileIndex.buildFromReader at h
    simp only at h
    obtain ⟨config, hconfig, h⟩ := bind_eq_ok.mp h
    obtain ⟨chunking, hchunking, h⟩ := bind_eq_ok.mp h
    obtain ⟨_, h⟩ := bind_rest h
    rw [chunkReader_liveReads] at hchunking
    have hdelivers := delivers_liveReads reads
    have hlimit := length_lt_of_chunkReaderOutcomes _ _ hdelivers hchunking
    rw [chunkReaderOutcomes_eq _ _ hdelivers hlimit] at hchunking
    -- The reads up to the first empty one give the same index.
    have hreads : ReadsOf (liveReads reads).flatten (liveReads reads) :=
      ⟨rfl, fun read hread => by simpa using List.mem_takeWhile_imp hread⟩
    have hindex := BasisFileIndex.buildFromReader_eq blake3 hconfig hreads hlimit
    unfold BasisFileIndex.buildFromReader at hindex
    simp only [hconfig, ok_bind, chunkReader_eq _ _ hreads hlimit, hchunking] at hindex
    obtain ⟨_, hindex⟩ := bind_rest hindex
    rw [h] at hindex
    cases hindex
    obtain ⟨hvalid, _, _⟩ := ChunkConfig.valid_of_fromAverageKib hconfig
    have hchunks := chunksFrom_basisChunks blake3 (chunksOf_sizes hvalid
      (liveReads reads).flatten) 0
    rw [chunksOf_flatten] at hchunks
    exact ⟨located_of_chunksFrom hchunks.1 hchunks.2 rfl, hlimit⟩

/-- A plan that was built for a file survives its wire form. -/
theorem decodeWire_of_built {reads : List Bytes} {expectedBytes maximumLiteralBytes : Nat}
    (hindex : Obtained blake3 index) (hfile : expectedBytes < fileSizeLimit)
    (hbuild : buildBounded blake3 reads expectedBytes index maximumLiteralBytes = .ok plan) :
    ∃ wire, plan.encodeWire = .ok wire ∧ plan.wireSize = .ok wire.length ∧
      decodeWire wire = .ok { plan with candidateChunks := 0 } := by
  obtain ⟨hlocated, hlimit⟩ := hindex.located
  obtain ⟨hfits, hreferenced, hliterals, htotal, htarget, hcount⟩ :=
    buildBounded_counted hlocated hbuild
  have hsize : planHeaderBytes + (plan.operations.length * basisRecordBytes +
      plan.targetBytes) < u64Limit := by
    have hlimits : fileSizeLimit = 2 ^ 63 ∧ u64Limit = 2 ^ 64 := by
      constructor
      · unfold fileSizeLimit; rfl
      · unfold u64Limit; rfl
    rw [htarget]
    unfold planHeaderBytes basisRecordBytes
    omega
  have hlength : (List.replicate index.fileBytes (0 : UInt8)).length = index.fileBytes :=
    List.length_replicate
  rw [← hlength] at hfits hlimit
  exact decodeWire_encodeWire hfits hreferenced hliterals htotal hlimit hsize

/-- A plan that was built for a file survives its wire form, and what is accepted consists of
operations that are not empty, stay in range and add up to the target, and encodes to the same
bytes. -/
theorem reconstruction_plan_codec (blake3 : Bytes → Digest) :
    (∀ index reads expectedBytes maximumLiteralBytes plan, Obtained blake3 index →
      expectedBytes < fileSizeLimit →
      buildBounded blake3 reads expectedBytes index maximumLiteralBytes = .ok plan →
      ∃ wire decoded, plan.encodeWire = .ok wire ∧ plan.wireSize = .ok wire.length ∧
        decodeWire wire = .ok decoded ∧ decoded.targetBytes = plan.targetBytes ∧
        decoded.targetDigest = plan.targetDigest ∧ decoded.operations = plan.operations ∧
        decoded.referencedBytes = plan.referencedBytes ∧
        decoded.literalBytes = plan.literalBytes) ∧
    ∀ encoded plan, decodeWire encoded = .ok plan →
      plan.encodeWire = .ok encoded ∧
      (∀ operation ∈ plan.operations, operation.Fits (u64Limit - 1)) ∧
      (plan.operations.map ReconstructionOp.referenced).sum +
        (plan.operations.map ReconstructionOp.literals).sum = plan.targetBytes := by
  constructor
  · intro index reads expectedBytes maximumLiteralBytes plan hindex hfile hbuild
    obtain ⟨wire, hencode, hwireSize, hdecode⟩ := decodeWire_of_built hindex hfile hbuild
    exact ⟨wire, _, hencode, hwireSize, hdecode, rfl, rfl, rfl, rfl, rfl⟩
  · intro encoded plan h
    obtain ⟨hencode, hfits, hreferenced, hliterals, htotal, _⟩ := decodeWire_eq_ok h
    refine ⟨hencode, hfits, ?_⟩
    rw [hreferenced, hliterals]
    exact htotal

/-- A plan for `abc` against itself, both ways. -/
theorem reconstruction_plan_codec_abc :
    ∃ index plan wire decoded,
      buildBounded blake3OfAbc [[0x61, 0x62, 0x63]] 3 index 0 = .ok plan ∧
      plan.encodeWire = .ok wire ∧ decodeWire wire = .ok decoded ∧
      decoded.operations = plan.operations ∧ decoded.encodeWire = .ok wire := by
  have hreads : ReadsOf abcContent.1 [[0x61, 0x62, 0x63]] := ⟨rfl, by simp⟩
  have hconfig : ChunkConfig.fromAverageKib 64 = .ok defaultChunkConfig := by decide +kernel
  have hindex := BasisFileIndex.buildFromReader_eq blake3OfAbc hconfig hreads
    (abcContent.2.trans fileSizeLimit_lt)
  set index := indexOf blake3OfAbc 64 defaultChunkConfig abcContent.1 with hindexEq
  obtain ⟨plan, hplan⟩ : ∃ plan,
      buildBounded blake3OfAbc [[0x61, 0x62, 0x63]] 3 index 0 = .ok plan := by
    cases hrun : buildBounded blake3OfAbc [[0x61, 0x62, 0x63]] 3 index 0 with
    | ok plan => exact ⟨plan, rfl⟩
    | error error =>
        have hok : (buildBounded blake3OfAbc [[0x61, 0x62, 0x63]] 3 index 0).isOk = true := by
          rw [hindexEq]
          decide +kernel
        rw [hrun] at hok
        cases hok
  have hcodec := reconstruction_plan_codec blake3OfAbc
  obtain ⟨wire, decoded, hencode, _, hdecode, _, _, hops, _⟩ :=
    hcodec.1 index _ 3 0 plan (.built _ _ _ hindex) (by norm_num [fileSizeLimit]) hplan
  exact ⟨index, plan, wire, decoded, hplan, hencode, hdecode, hops,
    (hcodec.2 wire decoded hdecode).1⟩

end ReconstructionPlan

end NetworkCopy
