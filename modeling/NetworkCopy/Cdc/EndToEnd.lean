import NetworkCopy.Cdc.Reconstruction

/-!
# Content-defined transfer, end to end

Index the basis, send the index, plan the candidate against it, send the plan and
execute it: the result is the candidate.  `OpsFor` is the invariant that carries
the argument: the operations collected so far fit the basis and describe the bytes
visited so far.  Each stage is shown to keep it, and the literal bytes in it are
exactly those of chunks the basis does not have.
-/

namespace NetworkCopy

open ByteOrder ReconstructionOp

/-! ## Operations and what they describe -/

variable {operations : List ReconstructionOp} {referencedBytes literalBytes : Nat}

/-- The bytes an operation describes. -/
def ReconstructionOp.bytes (basis : Bytes) : ReconstructionOp → Bytes
  | .basis offset length => (basis.drop offset).take length
  | .literal contents => contents

/-- The basis bytes an operation refers to. -/
def ReconstructionOp.referenced : ReconstructionOp → Nat
  | .basis _ length => length
  | .literal _ => 0

/-- The literal bytes of an operation. -/
def ReconstructionOp.literals : ReconstructionOp → Nat
  | .basis _ _ => 0
  | .literal contents => contents.length

/-- An operation is not empty and stays inside the basis. -/
def ReconstructionOp.Fits (basisBytes : Nat) : ReconstructionOp → Prop
  | .basis offset length => 0 < length ∧ offset + length ≤ basisBytes
  | .literal contents => contents ≠ []

/-- The operations describe `content`, with the given byte counts. -/
structure OpsFor (basis : Bytes) (operations : List ReconstructionOp) (content : Bytes)
    (referencedBytes literalBytes : Nat) : Prop where
  fits : ∀ operation ∈ operations, operation.Fits basis.length
  bytes : operations.flatMap (ReconstructionOp.bytes basis) = content
  referenced : (operations.map ReconstructionOp.referenced).sum = referencedBytes
  literals : (operations.map ReconstructionOp.literals).sum = literalBytes

theorem OpsFor.nil (basis : Bytes) : OpsFor basis [] [] 0 0 :=
  ⟨by simp, rfl, rfl, rfl⟩

/-- Adding an operation at the end. -/
theorem OpsFor.append {basis : Bytes} {content : Bytes}
    (h : OpsFor basis operations content referencedBytes literalBytes)
    (operation : ReconstructionOp) (hfits : operation.Fits basis.length) :
    OpsFor basis (operations ++ [operation]) (content ++ operation.bytes basis)
      (referencedBytes + operation.referenced) (literalBytes + operation.literals) where
  fits := by
    intro other hother
    rcases List.mem_append.mp hother with hother | hother
    · exact h.fits other hother
    · rw [List.mem_singleton] at hother
      subst hother
      exact hfits
  bytes := by rw [List.flatMap_append, h.bytes]; simp
  referenced := by rw [List.map_append, List.sum_append, h.referenced]; simp
  literals := by rw [List.map_append, List.sum_append, h.literals]; simp

/-- Two adjacent ranges are one. -/
theorem take_drop_append (basis : Bytes) (offset first second : Nat) :
    (basis.drop offset).take first ++ (basis.drop (offset + first)).take second =
      (basis.drop offset).take (first + second) := by
  rw [List.take_add, List.drop_drop]

/-- `append_basis` adds a range of the basis. -/
theorem appendBasis_eq {basis : Bytes} (hbasis : basis.length < u64Limit) {content : Bytes}
    (h : OpsFor basis operations content referencedBytes literalBytes) {offset length : Nat}
    (hlength : 0 < length) (hrange : offset + length ≤ basis.length) :
    ∃ operations', appendBasis operations offset length = .ok operations' ∧
      OpsFor basis operations' (content ++ (basis.drop offset).take length)
        (referencedBytes + length) literalBytes ∧
      operations'.length ≤ operations.length + 1 := by
  have hnew := h.append (.basis offset length) ⟨hlength, hrange⟩
  have hplain : ∃ operations', (.ok (operations ++ [.basis offset length]) :
        IoResult (List ReconstructionOp)) = .ok operations' ∧
      OpsFor basis operations' (content ++ (basis.drop offset).take length)
        (referencedBytes + length) literalBytes ∧
      operations'.length ≤ operations.length + 1 :=
    ⟨_, rfl, hnew, by simp⟩
  rw [appendBasis, ensure, if_pos (by omega : length ≠ 0), ok_bind]
  split
  · rename_i previousOffset previousLength hlast
    obtain ⟨earlier, rfl⟩ := List.getLast?_eq_some_iff.mp hlast
    obtain ⟨hpos, hprevious⟩ : 0 < previousLength ∧
        previousOffset + previousLength ≤ basis.length :=
      h.fits (.basis previousOffset previousLength) (by simp)
    rw [addCounter_of_lt (by omega), ok_bind]
    split
    · -- The ranges are adjacent and become one.
      rename_i hadjacent
      subst hadjacent
      rw [addCounter_of_lt (by omega), ok_bind, List.dropLast_concat]
      refine ⟨_, rfl, ⟨?_, ?_, ?_, ?_⟩, by simp⟩
      · intro operation hmem
        rcases List.mem_append.mp hmem with hmem | hmem
        · exact h.fits operation (by simp [hmem])
        · rw [List.mem_singleton] at hmem
          subst hmem
          exact ⟨by omega, by omega⟩
      · rw [← h.bytes, List.flatMap_append, List.flatMap_append, List.append_assoc]
        simp only [List.flatMap_cons, List.flatMap_nil, List.append_nil,
          bytes]
        rw [take_drop_append]
      · rw [← h.referenced]
        simp [referenced]
        omega
      · rw [← h.literals]
        simp [literals]
    · exact hplain
  · exact hplain

/-- `append_literal` adds literal bytes. -/
theorem appendLiteral_eq {basis : Bytes} {content : Bytes}
    (h : OpsFor basis operations content referencedBytes literalBytes) {contents : Bytes}
    (hcontents : contents ≠ []) :
    ∃ operations', appendLiteral operations contents = .ok operations' ∧
      OpsFor basis operations' (content ++ contents) referencedBytes
        (literalBytes + contents.length) ∧
      operations'.length ≤ operations.length + 1 := by
  have hnew := h.append (.literal contents) hcontents
  rw [appendLiteral, ensure, if_pos hcontents, ok_bind]
  split
  · rename_i previous hlast
    obtain ⟨earlier, rfl⟩ := List.getLast?_eq_some_iff.mp hlast
    rw [List.dropLast_concat]
    refine ⟨_, rfl, ⟨?_, ?_, ?_, ?_⟩, by simp⟩
    · intro operation hmem
      rcases List.mem_append.mp hmem with hmem | hmem
      · exact h.fits operation (by simp [hmem])
      · rw [List.mem_singleton] at hmem
        subst hmem
        simp [Fits, hcontents]
    · rw [← h.bytes]
      simp [bytes]
    · rw [← h.referenced]
      simp [referenced]
    · rw [← h.literals]
      simp [literals]
      omega
  · exact ⟨_, rfl, hnew, by simp⟩

/-! ## Building -/

/-- The bytes of the pieces whose key the index does not have. -/
def missingBytes (blake3 : Bytes → Digest) (index : BasisFileIndex) (pieces : List Bytes) :
    Nat :=
  ((pieces.filter (fun piece => index.find (keyOf blake3 piece) = none)).map
    List.length).sum

/-- The index names, for a key, a place of the basis that holds the piece. -/
def IndexSound (blake3 : Bytes → Digest) (index : BasisFileIndex) (basis piece : Bytes) :
    Prop :=
  ∀ offset, index.find (keyOf blake3 piece) = some offset →
    offset + piece.length ≤ basis.length ∧ (basis.drop offset).take piece.length = piece

namespace ReconstructionPlan

/-- What the planner has collected after some pieces. -/
structure BuildState.For (basis : Bytes) (state : BuildState) (content : Bytes) : Prop where
  ops : OpsFor basis state.operations content state.referencedBytes state.literalBytes
  hashed : state.hashed = content
  total : state.referencedBytes + state.literalBytes = content.length

section

variable {blake3 : Bytes → Digest} {index : BasisFileIndex} {basis : Bytes}
  (maximumLiteralBytes : Nat)

/-- One visit of the planner: the piece is appended, unless its literal bytes pass
the limit. -/
theorem visitCandidate_eq {state : BuildState} {content piece : Bytes} (offset : Nat)
    (hbasis : basis.length < u64Limit) (hstate : state.For basis content)
    (hpiece : piece ≠ []) (hshort : piece.length < 2 ^ 32)
    (hsound : IndexSound blake3 index basis piece)
    (htotal : content.length + piece.length < u64Limit) :
    let missing := if index.find (keyOf blake3 piece) = none then piece.length else 0
    if state.literalBytes + missing ≤ maximumLiteralBytes ∨ missing = 0 then
      ∃ state', visitCandidate blake3 index maximumLiteralBytes state offset piece =
          .ok state' ∧
        state'.For basis (content ++ piece) ∧
        state'.literalBytes = state.literalBytes + missing ∧
        state'.operations.length ≤ state.operations.length + 1
    else
      visitCandidate blake3 index maximumLiteralBytes state offset piece =
        .error (literalLimitExceeded maximumLiteralBytes) := by
  have hpos := List.length_pos_iff.mpr hpiece
  have hsum := hstate.total
  rw [visitCandidate]
  simp only [chunkKey_eq_ok hshort, ok_bind]
  cases hfind : index.find (keyOf blake3 piece) with
  | some basisOffset =>
    obtain ⟨hrange, hbytes⟩ := hsound basisOffset hfind
    obtain ⟨operations, hops, hfor, hcount⟩ :=
      appendBasis_eq hbasis hstate.ops hpos hrange
    rw [hbytes] at hfor
    simp only [reduceCtorEq, if_false, Nat.add_zero, or_true, if_true, hops, ok_bind]
    rw [addCounter_of_lt (by omega), ok_bind]
    exact ⟨_, rfl, ⟨hfor, by simp [hstate.hashed], by simp; omega⟩, rfl, hcount⟩
  | none =>
    simp only [if_true]
    rw [addCounter_of_lt (by omega), ok_bind]
    split
    · rename_i hlimit
      have hle : state.literalBytes + piece.length ≤ maximumLiteralBytes := by omega
      obtain ⟨operations, hops, hfor, hcount⟩ := appendLiteral_eq hstate.ops hpiece
      rw [ensure, if_pos hle, ok_bind, hops, ok_bind]
      exact ⟨_, rfl, ⟨hfor, by simp [hstate.hashed], by simp; omega⟩, rfl, hcount⟩
    · rename_i hlimit
      rw [ensure, if_neg (by omega)]
      rfl

/-- A run of the planner over some pieces succeeds exactly when the missing bytes
stay within the limit. -/
theorem visitChunks_eq (hbasis : basis.length < u64Limit) :
    ∀ (pieces : List Bytes) (offset : Nat) (state : BuildState) (stats : ChunkingStats)
      (content : Bytes), state.For basis content → state.literalBytes ≤ maximumLiteralBytes →
      (∀ piece ∈ pieces, piece ≠ [] ∧ piece.length < 2 ^ 32 ∧
        IndexSound blake3 index basis piece) →
      content.length + pieces.flatten.length < u64Limit →
      if state.literalBytes + missingBytes blake3 index pieces ≤ maximumLiteralBytes then
        ∃ state' stats', visitChunks (visitCandidate blake3 index maximumLiteralBytes) offset
            pieces (state, stats) = .ok (state', stats') ∧
          state'.For basis (content ++ pieces.flatten) ∧
          state'.literalBytes = state.literalBytes + missingBytes blake3 index pieces ∧
          state'.operations.length ≤ state.operations.length + pieces.length ∧
          stats'.bytes = stats.bytes + pieces.flatten.length
      else
        visitChunks (visitCandidate blake3 index maximumLiteralBytes) offset pieces
            (state, stats) = .error (literalLimitExceeded maximumLiteralBytes) := by
  intro pieces
  induction pieces with
  | nil =>
    intro offset state stats content hstate hlimit _ _
    have hnone : missingBytes blake3 index [] = 0 := rfl
    rw [hnone, Nat.add_zero, if_pos hlimit]
    exact ⟨state, stats, rfl, by simpa using hstate, rfl, by simp, by simp⟩
  | cons piece rest ih =>
    intro offset state stats content hstate hlimit hpieces htotal
    rw [List.flatten_cons, List.length_append] at htotal
    obtain ⟨hpiece, hshort, hsound⟩ := hpieces piece (by simp)
    have hmissing : missingBytes blake3 index (piece :: rest) =
        (if index.find (keyOf blake3 piece) = none then piece.length else 0) +
          missingBytes blake3 index rest := by
      unfold missingBytes
      rw [List.filter_cons]
      by_cases hfind : index.find (keyOf blake3 piece) = none <;> simp [hfind]
    have hvisit := visitCandidate_eq maximumLiteralBytes offset hbasis
      hstate hpiece hshort hsound (by omega)
    rw [hmissing]
    generalize (if index.find (keyOf blake3 piece) = none then piece.length else 0) =
      missing at hvisit ⊢
    simp only at hvisit
    rw [visitChunks]
    split at hvisit
    · rename_i hfits
      have hfits' : state.literalBytes + missing ≤ maximumLiteralBytes := by omega
      obtain ⟨next, hnext, hfor, hliteral, hcount⟩ := hvisit
      have hrest := ih (offset + piece.length) next (stats.push piece.length)
        (content ++ piece) hfor (by omega)
        (fun other hother => hpieces other (by simp [hother]))
        (by rw [List.length_append]; omega)
      simp only [hnext, ok_bind]
      rw [hliteral] at hrest
      rw [← Nat.add_assoc]
      split at hrest
      · rename_i hall
        rw [if_pos hall]
        obtain ⟨state', stats', hrun, hfor', hliteral', hcount', hbytes⟩ := hrest
        refine ⟨state', stats', hrun, ?_, hliteral', ?_, ?_⟩
        · rw [List.flatten_cons, ← List.append_assoc]
          exact hfor'
        · rw [List.length_cons]
          omega
        · rw [hbytes, ChunkingStats.push_bytes, List.flatten_cons, List.length_append]
          omega
      · rename_i hall
        rw [if_neg hall]
        exact hrest
    · rename_i hover
      rw [if_neg (by omega), hvisit]
      rfl

end

/-- A plan that describes `content` over `basis`. -/
structure For (blake3 : Bytes → Digest) (basis : Bytes) (plan : ReconstructionPlan)
    (content : Bytes) : Prop where
  ops : OpsFor basis plan.operations content plan.referencedBytes plan.literalBytes
  target : plan.targetBytes = content.length
  digest : plan.targetDigest = blake3 content
  total : plan.referencedBytes + plan.literalBytes = content.length

/-- `build_bounded` fails with the literal limit exactly when the missing bytes
exceed it, and else returns a plan for the candidate. -/
theorem buildBounded_eq {blake3 : Bytes → Digest} (index : BasisFileIndex)
    {basis candidate : Bytes} {config : ChunkConfig} {reads : List Bytes}
    (maximumLiteralBytes : Nat)
    (hconfig : ChunkConfig.fromAverageKib index.averageKib = .ok config)
    (hreads : ReadsOf candidate reads) (hbasis : basis.length < u64Limit)
    (hcandidate : candidate.length < u64Limit)
    (hsound : ∀ piece ∈ chunksOf config candidate, IndexSound blake3 index basis piece) :
    if missingBytes blake3 index (chunksOf config candidate) ≤ maximumLiteralBytes then
      ∃ plan, buildBounded blake3 reads candidate.length index maximumLiteralBytes =
          .ok plan ∧
        plan.For blake3 basis candidate ∧
        plan.operations.length ≤ (chunksOf config candidate).length ∧
        plan.literalBytes = missingBytes blake3 index (chunksOf config candidate)
    else
      buildBounded blake3 reads candidate.length index maximumLiteralBytes =
        .error (literalLimitExceeded maximumLiteralBytes) := by
  obtain ⟨hvalid, _⟩ := ChunkConfig.valid_of_fromAverageKib hconfig
  have hpieces : ∀ piece ∈ chunksOf config candidate, piece ≠ [] ∧ piece.length < 2 ^ 32 ∧
      IndexSound blake3 index basis piece := fun piece hmem =>
    ⟨chunksOf_ne_nil config candidate piece hmem,
      lt_of_le_of_lt ((chunksOf_sizes hvalid candidate).length_le piece hmem) hvalid.maximum,
      hsound piece hmem⟩
  have hrun := visitChunks_eq maximumLiteralBytes hbasis (chunksOf config candidate) 0 {} {} []
    ⟨OpsFor.nil basis, rfl, rfl⟩ (Nat.zero_le _) hpieces
    (by rw [chunksOf_flatten]; simpa using hcandidate)
  rw [chunksOf_flatten] at hrun
  rw [buildBounded, hconfig, ok_bind, chunkReader_eq config _ hreads hcandidate]
  simp only [Nat.zero_add, List.nil_append] at hrun
  split at hrun
  · rename_i hlimit
    rw [if_pos hlimit]
    obtain ⟨state, stats, hvisit, hfor, hliteral, hcount, hbytes⟩ := hrun
    have htotal := hfor.total
    simp only [hvisit, ok_bind, hbytes, ensure, if_true, pure_eq_ok]
    rw [addCounter_of_lt (by omega)]
    simp only [ok_bind, htotal, if_true]
    refine ⟨_, rfl, ⟨hfor.ops, rfl, ?_, htotal⟩, by simpa using hcount, by simpa using hliteral⟩
    simp only [hfor.hashed]
  · rename_i hlimit
    rw [if_neg hlimit, hrun]
    rfl

/-! ## Executing -/

variable {plan : ReconstructionPlan}

/-- The copy loop delivers the range, whatever the sizes of the single reads. -/
theorem copyRange_eq (sizes : ReadSizes) (basis : Bytes) :
    ∀ fuel position remaining, remaining ≤ fuel → position + remaining ≤ basis.length →
      copyRange sizes basis fuel position remaining =
        .ok ((basis.drop position).take remaining) := by
  intro fuel
  induction fuel with
  | zero =>
    intro position remaining hfuel _
    have hzero : remaining = 0 := by omega
    subst hzero
    rw [copyRange, List.take_zero]
  | succ fuel ih =>
    intro position remaining hfuel hrange
    cases remaining with
    | zero => rw [copyRange, List.take_zero]
    | succ remaining =>
      have hbuffer : 0 < reconstructionBufferBytes := by
        norm_num [reconstructionBufferBytes]
      have hpos := sizes.pos (min (remaining + 1) reconstructionBufferBytes)
        (basis.length - position) (by omega) (by omega)
      have hle := sizes.le (min (remaining + 1) reconstructionBufferBytes)
        (basis.length - position)
      rw [copyRange]
      generalize sizes.size (min (remaining + 1) reconstructionBufferBytes)
        (basis.length - position) = read at hpos hle ⊢
      have hread : read ≤ remaining + 1 := by omega
      rw [ensure, if_pos (by omega), ok_bind,
        ih (position + read) (remaining + 1 - read) (by omega) (by omega), ok_bind,
        pure_eq_ok, take_drop_append]
      congr 2
      omega

/-- Executing the operations of a plan writes what they describe. -/
theorem executeOps_eq (sizes : ReadSizes) {basis : Bytes} (hbasis : basis.length < u64Limit) :
    ∀ (operations : List ReconstructionOp) (written : Bytes),
      (∀ operation ∈ operations, operation.Fits basis.length) →
      written.length + (operations.flatMap (bytes basis)).length < u64Limit →
      executeOps sizes basis operations written =
        .ok (written ++ operations.flatMap (bytes basis)) := by
  intro operations
  induction operations with
  | nil => intro written _ _; simp [executeOps]
  | cons operation rest ih =>
    intro written hfits htotal
    rw [List.flatMap_cons, List.length_append] at htotal
    have hrest := fun other (hother : other ∈ rest) => hfits other (by simp [hother])
    cases operation with
    | basis offset length =>
      obtain ⟨hpos, hrange⟩ : 0 < length ∧ offset + length ≤ basis.length :=
        hfits (.basis offset length) (by simp)
      have hadd : checkedAdd offset length = some (offset + length) :=
        checkedAdd_eq_some.mpr ⟨by omega, rfl⟩
      have hlength : ((basis.drop offset).take length).length = length := by
        simp
        omega
      simp only [bytes, hlength] at htotal
      rw [executeOps, hadd, okOrElse_some, ok_bind]
      simp only [ensure, if_pos hrange, ok_bind]
      rw [copyRange_eq sizes basis length offset length (Nat.le_refl _) hrange, ok_bind,
        addCounter_of_lt (by omega), ok_bind,
        ih _ hrest (by simp only [List.length_append, hlength]; omega)]
      simp [bytes]
    | literal contents =>
      simp only [bytes] at htotal
      rw [executeOps, addCounter_of_lt (by omega), ok_bind,
        ih _ hrest (by simp only [List.length_append]; omega)]
      simp [bytes]

/-- Reconstructing from a plan for a content yields the content. -/
theorem For.reconstruct_eq {blake3 : Bytes → Digest} {basis content : Bytes}
    (h : plan.For blake3 basis content) (sizes : ReadSizes) (hbasis : basis.length < u64Limit)
    (hcontent : content.length < u64Limit) :
    reconstruct blake3 sizes basis basis.length plan = .ok content := by
  have hexecute := executeOps_eq sizes hbasis plan.operations [] h.ops.fits
    (by rw [h.ops.bytes]; simpa using hcontent)
  rw [h.ops.bytes, List.nil_append] at hexecute
  rw [reconstruct]
  simp only [ensure, if_true, ok_bind, hexecute, h.target, h.digest, overwriteStart,
    Nat.sub_self, List.replicate_zero, List.append_nil, pure_eq_ok]

/-! ## The wire round trip of a plan -/

theorem readBytes_append (before field : Bytes) {after : Bytes}
    (hlimit : (before ++ (field ++ after)).length < u64Limit) :
    readBytes (before ++ (field ++ after)) before.length field.length =
      .ok (field, before.length + field.length) :=
  readSlice_append _ _ hlimit

theorem readU64_append (value : Nat) (before : Bytes) {after : Bytes}
    (hvalue : value < u64Limit)
    (hlimit : (before ++ (leBytes 8 value ++ after)).length < u64Limit) :
    readU64 (before ++ (leBytes 8 value ++ after)) before.length =
      .ok (value, before.length + 8) := by
  have hvalue' : value < 256 ^ 8 := by
    have : u64Limit = 256 ^ 8 := by norm_num [u64Limit]
    omega
  have hread := readBytes_append before (leBytes 8 value) hlimit
  rw [leBytes_length] at hread
  rw [readU64, hread, ok_bind, pure_eq_ok, leValue_leBytes 8 value hvalue']

theorem readU8_append {tag : UInt8} {before after : Bytes}
    (hlimit : (before ++ (tag :: after)).length < u64Limit) :
    readU8 (before ++ (tag :: after)) before.length = .ok (tag, before.length + 1) := by
  have hadd : checkedAdd before.length 1 = some (before.length + 1) := by
    refine checkedAdd_eq_some.mpr ⟨?_, rfl⟩
    simp only [List.length_append, List.length_cons] at hlimit
    omega
  rw [readU8, List.getElem?_append_right (Nat.le_refl _), Nat.sub_self, hadd]
  rfl

/-- One operation is decoded at its place. -/
theorem decodeOp_append {basis before after : Bytes} {operation : ReconstructionOp}
    (operationIndex : Nat) {state : DecodeState}
    (hlimit : (before ++ (encodeOp operation ++ after)).length < u64Limit)
    (hcursor : state.cursor = before.length) (hfits : operation.Fits basis.length)
    (hbasis : basis.length < u64Limit)
    (hreferenced : state.referencedBytes + operation.referenced < u64Limit)
    (hliterals : state.literalBytes + operation.literals < u64Limit) :
    decodeOp (before ++ (encodeOp operation ++ after)) operationIndex state =
      .ok { cursor := before.length + (encodeOp operation).length
            operations := state.operations ++ [operation]
            referencedBytes := state.referencedBytes + operation.referenced
            literalBytes := state.literalBytes + operation.literals } := by
  cases operation with
  | basis offset length =>
    obtain ⟨hpos, hrange⟩ : 0 < length ∧ offset + length ≤ basis.length := hfits
    set encoded := before ++ (encodeOp (.basis offset length) ++ after) with hencoded
    have hfirst : encoded = before ++ (opBasis :: (leBytes 8 offset ++
        (leBytes 8 length ++ after))) := by
      simp [hencoded, encodeOp]
    have hsecond : encoded = (before ++ [opBasis]) ++
        (leBytes 8 offset ++ (leBytes 8 length ++ after)) := by
      simp [hfirst]
    have hthird : encoded = (before ++ [opBasis] ++ leBytes 8 offset) ++
        (leBytes 8 length ++ after) := by
      simp [hfirst]
    have htag : readU8 encoded before.length = .ok (opBasis, before.length + 1) := by
      rw [hfirst] at hlimit ⊢
      exact readU8_append hlimit
    have hoffset : readU64 encoded (before.length + 1) =
        .ok (offset, before.length + 1 + 8) := by
      have hread := readU64_append offset (before ++ [opBasis])
        (by omega) (by rw [← hsecond]; exact hlimit)
      rw [← hsecond] at hread
      simpa using hread
    have hlength : readU64 encoded (before.length + 1 + 8) =
        .ok (length, before.length + 1 + 8 + 8) := by
      have hread := readU64_append length (before ++ [opBasis] ++ leBytes 8 offset)
        (by omega) (by rw [← hthird]; exact hlimit)
      rw [← hthird] at hread
      simpa using hread
    have hrangeAdd : checkedAdd offset length = some (offset + length) :=
      checkedAdd_eq_some.mpr ⟨by omega, rfl⟩
    have hsum : checkedAdd state.referencedBytes length =
        some (state.referencedBytes + length) := checkedAdd_eq_some.mpr ⟨hreferenced, rfl⟩
    have hnonzero : length ≠ 0 := by omega
    rw [decodeOp, hcursor, htag, ok_bind]
    simp only [if_true, hoffset, ok_bind, hlength, ensure, hnonzero, ne_eq,
      not_false_eq_true, hrangeAdd, okOrElse_some, hsum, pure_eq_ok]
    simp [encodeOp, referenced, literals, Nat.add_assoc]
  | literal contents =>
    have hcontents : contents ≠ [] := hfits
    set encoded := before ++ (encodeOp (.literal contents) ++ after) with hencoded
    have hfirst : encoded = before ++ (opLiteral :: (leBytes 8 contents.length ++
        (contents ++ after))) := by
      simp [hencoded, encodeOp]
    have hsecond : encoded = (before ++ [opLiteral]) ++
        (leBytes 8 contents.length ++ (contents ++ after)) := by
      simp [hfirst]
    have hthird : encoded = (before ++ [opLiteral] ++ leBytes 8 contents.length) ++
        (contents ++ after) := by
      simp [hfirst]
    have hcontentsLt : contents.length < u64Limit := by
      rw [hfirst] at hlimit
      simp only [List.length_append, List.length_cons] at hlimit
      omega
    have htag : readU8 encoded before.length = .ok (opLiteral, before.length + 1) := by
      rw [hfirst] at hlimit ⊢
      exact readU8_append hlimit
    have hlength : readU64 encoded (before.length + 1) =
        .ok (contents.length, before.length + 1 + 8) := by
      have hread := readU64_append contents.length (before ++ [opLiteral])
        hcontentsLt (by rw [← hsecond]; exact hlimit)
      rw [← hsecond] at hread
      simpa using hread
    have hbytes : readBytes encoded (before.length + 1 + 8) contents.length =
        .ok (contents, before.length + 1 + 8 + contents.length) := by
      have hread := readBytes_append
        (before ++ [opLiteral] ++ leBytes 8 contents.length) contents
        (by rw [← hthird]; exact hlimit)
      rw [← hthird] at hread
      simpa using hread
    have hsum : checkedAdd state.literalBytes contents.length =
        some (state.literalBytes + contents.length) := checkedAdd_eq_some.mpr ⟨hliterals, rfl⟩
    have hnonzero : contents.length ≠ 0 := by simpa using hcontents
    have htags : opLiteral ≠ opBasis := by decide
    rw [decodeOp, hcursor, htag, ok_bind]
    simp only [htags, if_false, if_true, hlength, ok_bind, ensure, hnonzero, ne_eq,
      not_false_eq_true, hbytes, okOrElse_some, hsum, pure_eq_ok]
    simp [encodeOp, referenced, literals, Nat.add_assoc]
    omega

/-- The operations are decoded one after the other. -/
theorem decodeOps_eq {basis : Bytes} (hbasis : basis.length < u64Limit)
    (operationCount : Nat) :
    ∀ (operations : List ReconstructionOp) (before : Bytes) (state : DecodeState),
      (before ++ operations.flatMap encodeOp).length < u64Limit →
      state.cursor = before.length →
      (∀ operation ∈ operations, operation.Fits basis.length) →
      state.referencedBytes + (operations.map referenced).sum < u64Limit →
      state.literalBytes + (operations.map literals).sum < u64Limit →
      decodeOps (before ++ operations.flatMap encodeOp) operationCount operations.length
          state =
        .ok { cursor := (before ++ operations.flatMap encodeOp).length
              operations := state.operations ++ operations
              referencedBytes := state.referencedBytes +
                (operations.map referenced).sum
              literalBytes := state.literalBytes +
                (operations.map literals).sum } := by
  intro operations
  induction operations with
  | nil =>
    intro before state _ hcursor _ _ _
    simp [decodeOps, ← hcursor]
  | cons operation rest ih =>
    intro before state hlimit hcursor hfits hreferenced hliterals
    simp only [List.map_cons, List.sum_cons] at hreferenced hliterals
    rw [List.flatMap_cons] at hlimit ⊢
    rw [List.length_cons, decodeOps,
      decodeOp_append _ hlimit hcursor (hfits operation (by simp)) hbasis (by omega)
        (by omega), ok_bind]
    have hassoc : before ++ (encodeOp operation ++ rest.flatMap encodeOp) =
        (before ++ encodeOp operation) ++ rest.flatMap encodeOp := by
      simp
    rw [hassoc] at hlimit ⊢
    rw [ih (before ++ encodeOp operation) _ hlimit (by simp)
      (fun other hother => hfits other (by simp [hother])) (by simp only; omega)
      (by simp only; omega)]
    simp [Nat.add_assoc]

/-- An operation takes at most 17 bytes besides its literal. -/
theorem encodeOp_length_le (operation : ReconstructionOp) :
    (encodeOp operation).length ≤ basisRecordBytes + operation.literals := by
  cases operation with
  | basis offset length => simp [encodeOp, literals, basisRecordBytes]
  | literal contents =>
    simp only [encodeOp, literals, basisRecordBytes, List.length_cons,
      List.length_append, leBytes_length]
    omega

theorem flatMap_encodeOp_length_le (operations : List ReconstructionOp) :
    (operations.flatMap encodeOp).length ≤
      operations.length * basisRecordBytes +
        (operations.map literals).sum := by
  induction operations with
  | nil => simp
  | cons operation rest ih =>
    have hop := encodeOp_length_le operation
    simp only [List.flatMap_cons, List.length_append, List.length_cons, Nat.add_mul,
      List.map_cons, List.sum_cons]
    omega

/-- `wire_size` is the length of the wire form, as long as that is representable. -/
theorem wireSizeOf_eq :
    ∀ (operations : List ReconstructionOp) (size : Nat),
      size + (operations.flatMap encodeOp).length < u64Limit →
      wireSizeOf operations size = .ok (size + (operations.flatMap encodeOp).length) := by
  intro operations
  induction operations with
  | nil => intro size _; rfl
  | cons operation rest ih =>
    intro size hlimit
    rw [List.flatMap_cons, List.length_append] at hlimit ⊢
    cases operation with
    | basis offset length =>
      have hlength : (encodeOp (.basis offset length)).length = basisRecordBytes := by
        simp [encodeOp, basisRecordBytes]
      rw [hlength] at hlimit ⊢
      rw [wireSizeOf, ok_bind]
      beta_reduce
      rw [addCounter_of_lt (by omega), ok_bind, ih _ (by omega), Nat.add_assoc]
    | literal contents =>
      have hlength : (encodeOp (.literal contents)).length =
          literalHeaderBytes + contents.length := by
        simp [encodeOp, literalHeaderBytes]
        omega
      rw [hlength] at hlimit ⊢
      rw [wireSizeOf, addCounter_of_lt (by omega), ok_bind]
      beta_reduce
      rw [addCounter_of_lt (by omega), ok_bind, ih _ (by omega), Nat.add_assoc]

/-- A plan with not too many operations survives its wire form, up to the chunk
count, which is not sent. -/
theorem decodeWire_encodeWire {basis : Bytes}
    (hfits : ∀ operation ∈ plan.operations, operation.Fits basis.length)
    (hreferenced : (plan.operations.map referenced).sum = plan.referencedBytes)
    (hliterals : (plan.operations.map literals).sum = plan.literalBytes)
    (htotal : plan.referencedBytes + plan.literalBytes = plan.targetBytes)
    (hbasis : basis.length < u64Limit)
    (hsize : planHeaderBytes + (plan.operations.length * basisRecordBytes +
      plan.targetBytes) < u64Limit) :
    ∃ wire, plan.encodeWire = .ok wire ∧ plan.wireSize = .ok wire.length ∧
      decodeWire wire = .ok { plan with candidateChunks := 0 } := by
  have hflat := flatMap_encodeOp_length_le plan.operations
  have hops : plan.operations.length < u64Limit := by
    unfold basisRecordBytes at hsize
    omega
  set records := plan.operations.flatMap encodeOp with hrecords
  set wire := planMagic ++ (leBytes 8 plan.targetBytes ++ (plan.targetDigest.1 ++
    (leBytes 8 plan.operations.length ++ records))) with hwireEq
  have hlength : wire.length = planHeaderBytes + records.length := by
    simp [hwireEq, planMagic, planHeaderBytes, plan.targetDigest.2, contentDigestBytes]
    omega
  have hlimit : wire.length < u64Limit := by omega
  have hwireSize : plan.wireSize = .ok wire.length := by
    rw [wireSize, wireSizeOf_eq _ _ (by rw [← hrecords]; omega), ← hrecords, hlength]
  refine ⟨wire, ?_, hwireSize, ?_⟩
  · rw [encodeWire, hwireSize, ok_bind]
    rfl
  have hsecond : wire = (planMagic ++ leBytes 8 plan.targetBytes) ++
      (plan.targetDigest.1 ++ (leBytes 8 plan.operations.length ++ records)) := by
    simp [hwireEq]
  have hthird : wire = (planMagic ++ leBytes 8 plan.targetBytes ++ plan.targetDigest.1) ++
      (leBytes 8 plan.operations.length ++ records) := by
    simp [hwireEq]
  have hfourth : wire = (planMagic ++ leBytes 8 plan.targetBytes ++ plan.targetDigest.1 ++
      leBytes 8 plan.operations.length) ++ plan.operations.flatMap encodeOp := by
    simp [hwireEq, hrecords]
  have hdigestLength : plan.targetDigest.1.length = 32 := plan.targetDigest.2
  have hreadTarget : readU64 wire 4 = .ok (plan.targetBytes, 12) :=
    readU64_append plan.targetBytes planMagic (by omega) hlimit
  have hreadDigest : readDigest wire 12 = .ok (plan.targetDigest, 44) := by
    have hread := readDigestWith_append (invalidPlan "reconstruction plan cursor overflowed")
      (invalidPlan "reconstruction plan is truncated") (by rw [← hsecond]; exact hlimit)
    rw [← hsecond] at hread
    simpa [readDigest, planMagic, contentDigestBytes] using hread
  have hreadCount : readU64 wire 44 = .ok (plan.operations.length, 52) := by
    have hread := readU64_append plan.operations.length
      (planMagic ++ leBytes 8 plan.targetBytes ++ plan.targetDigest.1) hops
      (by rw [← hthird]; exact hlimit)
    rw [← hthird] at hread
    simpa [planMagic, hdigestLength] using hread
  have hrun := decodeOps_eq hbasis plan.operations.length plan.operations
    (planMagic ++ leBytes 8 plan.targetBytes ++ plan.targetDigest.1 ++
      leBytes 8 plan.operations.length) { cursor := 52 } (by rw [← hfourth]; exact hlimit)
    (by simp [planMagic, hdigestLength]) hfits (by simp only; omega)
    (by simp only; omega)
  rw [← hfourth] at hrun
  simp only [Nat.zero_add, List.nil_append, hreferenced, hliterals] at hrun
  have hheader : planHeaderBytes ≤ wire.length := by omega
  have hmagic : wire.take 4 = planMagic := by
    rw [hwireEq]
    exact List.take_left' rfl
  have hdescribed : checkedAdd plan.referencedBytes plan.literalBytes =
      some plan.targetBytes := checkedAdd_eq_some.mpr ⟨by omega, by omega⟩
  rw [decodeWire]
  simp only [ensure, hheader, hmagic, if_true, ok_bind, hreadTarget, hreadDigest, hreadCount,
    hrun, hdescribed, okOrElse_some, pure_eq_ok]

/-- A plan for a content survives its wire form. -/
theorem For.decodeWire_encodeWire {blake3 : Bytes → Digest} {basis content : Bytes}
    (h : plan.For blake3 basis content) (hbasis : basis.length < u64Limit)
    (hsize : planHeaderBytes + (plan.operations.length * basisRecordBytes +
      content.length) < u64Limit) :
    ∃ wire, plan.encodeWire = .ok wire ∧
      decodeWire wire = .ok { plan with candidateChunks := 0 } := by
  obtain ⟨wire, hencode, _, hdecode⟩ := ReconstructionPlan.decodeWire_encodeWire h.ops.fits
    h.ops.referenced h.ops.literals (h.total.trans h.target.symm) hbasis
    (by rw [h.target]; exact hsize)
  exact ⟨wire, hencode, hdecode⟩

end ReconstructionPlan

/-! ## The index of the basis -/

/-- A chunk of an index stands for a piece at its offset. -/
theorem mem_basisChunks {blake3 : Bytes → Digest} :
    ∀ {pieces : List Bytes} {start : Nat} {chunk : BasisChunk},
      chunk ∈ basisChunks blake3 start pieces →
      ∃ before piece after, pieces = before ++ piece :: after ∧
        chunk = ⟨start + before.flatten.length, keyOf blake3 piece⟩ := by
  intro pieces
  induction pieces with
  | nil => intro start chunk hmem; cases hmem
  | cons piece rest ih =>
    intro start chunk hmem
    rw [basisChunks] at hmem
    rcases List.mem_cons.mp hmem with rfl | hmem
    · exact ⟨[], piece, rest, rfl, rfl⟩
    · obtain ⟨before, found, after, rfl, rfl⟩ := ih hmem
      exact ⟨piece :: before, found, after, rfl, by simp [Nat.add_assoc]⟩

/-- Every piece has a chunk with its key. -/
theorem exists_mem_basisChunks (blake3 : Bytes → Digest) :
    ∀ {pieces : List Bytes} (start : Nat) {piece : Bytes}, piece ∈ pieces →
      ∃ chunk ∈ basisChunks blake3 start pieces, chunk.key = keyOf blake3 piece := by
  intro pieces
  induction pieces with
  | nil => intro start piece hmem; cases hmem
  | cons first rest ih =>
    intro start piece hmem
    rw [basisChunks]
    rcases List.mem_cons.mp hmem with rfl | hmem
    · exact ⟨_, List.mem_cons_self .., rfl⟩
    · obtain ⟨chunk, hchunk, hkey⟩ := ih (start + first.length) hmem
      exact ⟨chunk, List.mem_cons_of_mem _ hchunk, hkey⟩

/-- No two different pieces of the same length share a digest. -/
def CollisionFree (blake3 : Bytes → Digest) (pieces : List Bytes) : Prop :=
  ∀ left ∈ pieces, ∀ right ∈ pieces, left.length = right.length →
    blake3 left = blake3 right → left = right

theorem CollisionFree.eq_of_keyOf {blake3 : Bytes → Digest} {pieces : List Bytes}
    (hfree : CollisionFree blake3 pieces) {left right : Bytes} (hleft : left ∈ pieces)
    (hright : right ∈ pieces) (hkey : keyOf blake3 left = keyOf blake3 right) :
    left = right := by
  rw [keyOf, keyOf, ChunkKey.mk.injEq] at hkey
  exact hfree left hleft right hright hkey.2 hkey.1

section

variable {blake3 : Bytes → Digest} (averageKib : Nat) {config : ChunkConfig}
  {basis candidate : Bytes}

theorem find_indexOf (key : ChunkKey) :
    (indexOf blake3 averageKib config basis).find key =
      ((basisChunks blake3 0 (chunksOf config basis)).find?
        (fun chunk => chunk.key = key)).map BasisChunk.offset := by
  rw [BasisFileIndex.find, indexOf, lookup_locateChunks]
  simp

/-- Without collisions, what the index finds for a piece is a copy of it. -/
theorem indexSound_indexOf
    (hfree : CollisionFree blake3 (chunksOf config basis ++ chunksOf config candidate))
    {piece : Bytes} (hpiece : piece ∈ chunksOf config candidate) :
    IndexSound blake3 (indexOf blake3 averageKib config basis) basis piece := by
  intro offset hfind
  rw [find_indexOf, Option.map_eq_some_iff] at hfind
  obtain ⟨chunk, hchunk, rfl⟩ := hfind
  have hkey : chunk.key = keyOf blake3 piece := by simpa using List.find?_some hchunk
  obtain ⟨before, found, after, hpieces, rfl⟩ :=
    mem_basisChunks (List.mem_of_find?_eq_some hchunk)
  have hfound : found ∈ chunksOf config basis := by rw [hpieces]; simp
  have hsame : found = piece := hfree.eq_of_keyOf (by simp [hfound]) (by simp [hpiece]) hkey
  subst hsame
  have hbasis := chunksOf_flatten config basis
  rw [hpieces, List.flatten_append, List.flatten_cons] at hbasis
  simp only [Nat.zero_add]
  rw [← hbasis]
  constructor
  · simp
  · rw [List.drop_left, List.take_left]

/-- Without collisions, the index misses exactly the pieces the basis does not have. -/
theorem find_indexOf_eq_none
    (hfree : CollisionFree blake3 (chunksOf config basis ++ chunksOf config candidate))
    {piece : Bytes} (hpiece : piece ∈ chunksOf config candidate) :
    (indexOf blake3 averageKib config basis).find (keyOf blake3 piece) = none ↔
      piece ∉ chunksOf config basis := by
  rw [find_indexOf, Option.map_eq_none_iff, List.find?_eq_none]
  constructor
  · intro hnone hmem
    obtain ⟨chunk, hchunk, hkey⟩ := exists_mem_basisChunks blake3 0 hmem
    exact hnone chunk hchunk (by simpa using hkey)
  · intro habsent chunk hchunk hkey
    obtain ⟨before, found, after, hpieces, rfl⟩ := mem_basisChunks hchunk
    have hfound : found ∈ chunksOf config basis := by rw [hpieces]; simp
    have hsame : found = piece :=
      hfree.eq_of_keyOf (by simp [hfound]) (by simp [hpiece]) (by simpa using hkey)
    exact habsent (hsame ▸ hfound)

end

/-! ## End to end -/

/-- The bytes of the candidate's chunks that are not chunks of the basis. -/
def absentBytes (config : ChunkConfig) (basis candidate : Bytes) : Nat :=
  (((chunksOf config candidate).filter (fun piece => piece ∉ chunksOf config basis)).map
    List.length).sum

/-- What a plan that the planner returned is good for: it is within the literal limit,
survives its wire form, and reconstructs the candidate. -/
structure ReconstructionPlan.Usable (blake3 : Bytes → Digest) (sizes : ReadSizes)
    (basis candidate : Bytes) (maximumLiteralBytes : Nat) (plan : ReconstructionPlan)
    (wire : Bytes) : Prop where
  encode : plan.encodeWire = .ok wire
  decode : ReconstructionPlan.decodeWire wire = .ok { plan with candidateChunks := 0 }
  nonempty : wire ≠ []
  target : plan.targetBytes = candidate.length
  literals : plan.literalBytes ≤ maximumLiteralBytes
  reconstruct : reconstruct blake3 sizes basis basis.length { plan with candidateChunks := 0 } =
    .ok candidate

/-- The planner against the index of a basis: it exceeds the literal limit or returns a
usable plan. -/
theorem buildBounded_indexOf {blake3 : Bytes → Digest} (sizes : ReadSizes)
    {averageKib : Nat} {config : ChunkConfig}
    (hconfig : ChunkConfig.fromAverageKib averageKib = .ok config)
    (basis candidate : FileContent) {candidateReads : List Bytes}
    (hreads : ReadsOf candidate.1 candidateReads) (maximumLiteralBytes : Nat)
    (hfree : CollisionFree blake3 (chunksOf config basis.1 ++ chunksOf config candidate.1)) :
    if missingBytes blake3 (indexOf blake3 averageKib config basis.1)
        (chunksOf config candidate.1) ≤ maximumLiteralBytes then
      ∃ plan wire, ReconstructionPlan.buildBounded blake3 candidateReads candidate.1.length
          (indexOf blake3 averageKib config basis.1) maximumLiteralBytes = .ok plan ∧
        plan.Usable blake3 sizes basis.1 candidate.1 maximumLiteralBytes wire
    else
      ReconstructionPlan.buildBounded blake3 candidateReads candidate.1.length
          (indexOf blake3 averageKib config basis.1) maximumLiteralBytes =
        .error (literalLimitExceeded maximumLiteralBytes) := by
  obtain ⟨hvalid, _⟩ := ChunkConfig.valid_of_fromAverageKib hconfig
  have hbasis : basis.1.length < u64Limit := basis.2.trans fileSizeLimit_lt
  have hcandidate : candidate.1.length < u64Limit := candidate.2.trans fileSizeLimit_lt
  have hplan := ReconstructionPlan.buildBounded_eq (indexOf blake3 averageKib config basis.1)
    maximumLiteralBytes hconfig hreads hbasis hcandidate
    (fun piece hpiece => indexSound_indexOf averageKib hfree hpiece)
  by_cases hlimit : missingBytes blake3 (indexOf blake3 averageKib config basis.1)
      (chunksOf config candidate.1) ≤ maximumLiteralBytes
  · rw [if_pos hlimit] at hplan ⊢
    obtain ⟨plan, hok, hfor, hcount, hliteral⟩ := hplan
    -- A file has room for the wire form of a plan with one operation per chunk.
    have hsize : ReconstructionPlan.planHeaderBytes + (plan.operations.length *
        ReconstructionPlan.basisRecordBytes + candidate.1.length) < u64Limit := by
      have hchunks := BasisFileIndex.chunkCount_le hvalid candidate.1
      have hfile := candidate.2
      have hlimits : fileSizeLimit = 2 ^ 63 ∧ u64Limit = 2 ^ 64 := by
        constructor
        · unfold fileSizeLimit; rfl
        · unfold u64Limit; rfl
      unfold ReconstructionPlan.planHeaderBytes ReconstructionPlan.basisRecordBytes
      omega
    obtain ⟨wire, hencode, hdecode⟩ := hfor.decodeWire_encodeWire hbasis hsize
    have hdecoded : ({ plan with candidateChunks := 0 } : ReconstructionPlan).For blake3
        basis.1 candidate.1 := ⟨hfor.ops, hfor.target, hfor.digest, hfor.total⟩
    refine ⟨plan, wire, hok, hencode, hdecode, ?_, hfor.target, by omega,
      hdecoded.reconstruct_eq sizes hbasis hcandidate⟩
    rintro rfl
    cases hdecode
  · rw [if_neg hlimit] at hplan ⊢
    exact hplan

/-- Index, plan and reconstruction compose, for every basis, every candidate, every
accepted average chunk size and every way in which the files are read.  The planner
fails with the literal limit exactly when the candidate's chunks that the basis does
not have exceed it; otherwise it returns a plan, and every plan it returns
reconstructs the candidate after both wire forms. -/
theorem cdc_end_to_end (blake3 : Bytes → Digest) (sizes : ReadSizes) (averageKib : Nat)
    (config : ChunkConfig) (hconfig : ChunkConfig.fromAverageKib averageKib = .ok config)
    (basis candidate : FileContent) (basisReads candidateReads : List Bytes)
    (hbasisReads : ReadsOf basis.1 basisReads)
    (hcandidateReads : ReadsOf candidate.1 candidateReads) (maximumLiteralBytes : Nat)
    (hfree : CollisionFree blake3 (chunksOf config basis.1 ++ chunksOf config candidate.1)) :
    ∃ index indexWire,
      BasisFileIndex.buildFromReader blake3 basisReads basis.1.length averageKib =
        .ok index ∧
      index.encodeWire = .ok indexWire ∧
      BasisFileIndex.decodeWire indexWire = .ok index ∧
      ((∃ error, ReconstructionPlan.buildBounded blake3 candidateReads candidate.1.length
            index maximumLiteralBytes = .error error ∧ isLiteralLimitExceeded error = true) ↔
        maximumLiteralBytes < absentBytes config basis.1 candidate.1) ∧
      (absentBytes config basis.1 candidate.1 ≤ maximumLiteralBytes →
        ∃ plan, ReconstructionPlan.buildBounded blake3 candidateReads candidate.1.length
          index maximumLiteralBytes = .ok plan) ∧
      ∀ plan, ReconstructionPlan.buildBounded blake3 candidateReads candidate.1.length
          index maximumLiteralBytes = .ok plan →
        ∃ planWire decoded, plan.encodeWire = .ok planWire ∧
          ReconstructionPlan.decodeWire planWire = .ok decoded ∧
          reconstruct blake3 sizes basis.1 index.fileBytes decoded = .ok candidate.1 := by
  have hbasis : basis.1.length < u64Limit := basis.2.trans fileSizeLimit_lt
  obtain ⟨indexWire, hencode, hdecode⟩ :=
    BasisFileIndex.decodeWire_encodeWire blake3 hconfig basis
  have hbuild := BasisFileIndex.buildFromReader_eq blake3 hconfig hbasisReads hbasis
  set index := indexOf blake3 averageKib config basis.1 with hindex
  have hmissing : missingBytes blake3 index (chunksOf config candidate.1) =
      absentBytes config basis.1 candidate.1 := by
    unfold missingBytes absentBytes
    congr 2
    refine List.filter_congr ?_
    intro piece hpiece
    have hnone := find_indexOf_eq_none averageKib hfree hpiece
    rw [← hindex] at hnone
    simp [hnone]
  have hplan := buildBounded_indexOf sizes hconfig basis candidate hcandidateReads
    maximumLiteralBytes hfree
  rw [← hindex, hmissing] at hplan
  refine ⟨index, indexWire, hbuild, hencode, hdecode, ?_⟩
  split at hplan
  · rename_i hlimit
    obtain ⟨plan, planWire, hok, husable⟩ := hplan
    refine ⟨⟨?_, fun hover => absurd hlimit (by omega)⟩, fun _ => ⟨plan, hok⟩, ?_⟩
    · rintro ⟨error, herror, _⟩
      rw [hok] at herror
      cases herror
    · intro plan' hplan'
      rw [hok] at hplan'
      cases hplan'
      exact ⟨planWire, _, husable.encode, husable.decode, husable.reconstruct⟩
  · rename_i hlimit
    refine ⟨⟨fun _ => by omega, fun _ => ⟨_, hplan, rfl⟩⟩, fun hle => absurd hle hlimit, ?_⟩
    intro plan hok
    rw [hplan] at hok
    cases hok

/-- The BLAKE3 digest of the three bytes `abc`, and zeros for any other content. -/
def blake3OfAbc (contents : Bytes) : Digest :=
  if contents = [0x61, 0x62, 0x63] then
    ⟨[0x64, 0x37, 0xb3, 0xac, 0x38, 0x46, 0x51, 0x33, 0xff, 0xb6, 0x3b, 0x75, 0x27, 0x3a,
      0x8d, 0xb5, 0x48, 0xc5, 0x58, 0x46, 0x5d, 0x79, 0xdb, 0x03, 0xfd, 0x35, 0x9c, 0x6c,
      0xd5, 0xbd, 0x9d, 0x85], rfl⟩
  else ⟨List.replicate contentDigestBytes 0, List.length_replicate⟩

/-- Reads that deliver as much as they can. -/
def ReadSizes.full : ReadSizes where
  size := min
  pos := by omega
  le := by omega

/-- The file `abc`. -/
def abcContent : FileContent :=
  ⟨[0x61, 0x62, 0x63], by norm_num [fileSizeLimit]⟩

/-- The configuration of the default average of 64 KiB. -/
def defaultChunkConfig : ChunkConfig where
  averageBytes := 65536
  minimumBytes := 32768
  maximumBytes := 131072
  boundaryMask := 32767

/-- `abc` is planned against itself without any literal byte, and reconstructed. -/
theorem cdc_end_to_end_abc :
    ∃ index plan planWire decoded,
      BasisFileIndex.buildFromReader blake3OfAbc [[0x61, 0x62, 0x63]] 3 64 = .ok index ∧
      ReconstructionPlan.buildBounded blake3OfAbc [[0x61, 0x62], [0x63]] 3 index 0 =
        .ok plan ∧
      plan.encodeWire = .ok planWire ∧
      ReconstructionPlan.decodeWire planWire = .ok decoded ∧
      reconstruct blake3OfAbc .full abcContent.1 index.fileBytes decoded =
        .ok abcContent.1 := by
  have hchunks : chunksOf defaultChunkConfig abcContent.1 = [[0x61, 0x62, 0x63]] := by
    decide +kernel
  obtain ⟨index, _, hbuild, _, _, _, hexists, hplans⟩ := cdc_end_to_end blake3OfAbc .full 64
    defaultChunkConfig (by decide +kernel) abcContent abcContent
    [[0x61, 0x62, 0x63]] [[0x61, 0x62], [0x63]] ⟨rfl, by simp⟩ ⟨rfl, by simp⟩ 0
    (by
      rw [hchunks]
      intro left hleft right hright _ _
      simp only [List.cons_append, List.nil_append, List.mem_cons, List.not_mem_nil,
        or_false, or_self] at hleft hright
      rw [hleft, hright])
  obtain ⟨plan, hplan⟩ := hexists (by rw [absentBytes, hchunks]; simp)
  obtain ⟨planWire, decoded, hencode, hdecode, hreconstruct⟩ := hplans plan hplan
  exact ⟨index, plan, planWire, decoded, hbuild, hplan, hencode, hdecode, hreconstruct⟩

end NetworkCopy
