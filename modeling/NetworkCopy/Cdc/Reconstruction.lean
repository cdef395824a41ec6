import NetworkCopy.Cdc.BasisIndex

/-!
# Reconstruction plans

`cdc_reconstruction_bench.rs`: a plan describes a candidate file as a sequence of
ranges of the basis file and literal bytes.  The sender builds it against the
index of the basis, sends it, and the receiver executes it.

The hasher of the source is fed piece by piece; the model keeps the bytes fed so
far and applies BLAKE3 to them at the end.
-/

namespace NetworkCopy

open ByteOrder

/-- `LiteralLimitExceeded`, as an `io::Error`. -/
def literalLimitExceeded (limitBytes : Nat) : IoError where
  kind := .other
  message := s!"reconstruction literal staging exceeded {limitBytes} bytes"
  literalLimit := some limitBytes

/-- `is_literal_limit_exceeded`. -/
def isLiteralLimitExceeded (error : IoError) : Bool := error.literalLimit.isSome

/-- `ReconstructionOp`. -/
inductive ReconstructionOp where
  | basis (offset length : Nat)
  | literal (contents : Bytes)
  deriving DecidableEq

/-- `ReconstructionPlan`, without the elapsed time. -/
structure ReconstructionPlan where
  targetBytes : Nat
  targetDigest : Digest
  operations : List ReconstructionOp
  candidateChunks : Nat
  referencedBytes : Nat
  literalBytes : Nat
  deriving DecidableEq

/-! ## Building a plan -/

/-- `append_basis`: a range that continues the last one extends it. -/
def appendBasis (operations : List ReconstructionOp) (offset length : Nat) :
    IoResult (List ReconstructionOp) := do
  ensure (length ≠ 0) (.invalidInput "basis reference length must not be zero")
  match operations.getLast? with
  | some (.basis previousOffset previousLength) =>
      let previousEnd ← addCounter previousOffset previousLength
        "previous basis range overflowed"
      if previousEnd = offset then
        let merged ← addCounter previousLength length "merged basis range overflowed"
        return operations.dropLast ++ [.basis previousOffset merged]
      else return operations ++ [.basis offset length]
  | _ => return operations ++ [.basis offset length]

/-- `append_literal`: literals in a row are one literal.  The reservation of memory
is taken to succeed. -/
def appendLiteral (operations : List ReconstructionOp) (contents : Bytes) :
    IoResult (List ReconstructionOp) := do
  ensure (contents ≠ []) (.invalidInput "literal contents must not be empty")
  match operations.getLast? with
  | some (.literal previous) =>
      return operations.dropLast ++ [.literal (previous ++ contents)]
  | _ => return operations ++ [.literal contents]

namespace ReconstructionPlan

/-- The variables that the visitor of `build_bounded` updates. -/
structure BuildState where
  operations : List ReconstructionOp := []
  hashed : Bytes := []
  referencedBytes : Nat := 0
  literalBytes : Nat := 0

/-- The visitor of `build_bounded`. -/
def visitCandidate (blake3 : Bytes → Digest) (index : BasisFileIndex)
    (maximumLiteralBytes : Nat) (state : BuildState) (_candidateOffset : Nat)
    (contents : Bytes) : IoResult BuildState := do
  let hashed := state.hashed ++ contents
  let key ← chunkKey blake3 contents
  let chunkBytes := contents.length
  match index.find key with
  | some basisOffset =>
      let operations ← appendBasis state.operations basisOffset chunkBytes
      let referencedBytes ← addCounter state.referencedBytes chunkBytes
        "referenced byte count overflowed"
      return { state with operations, hashed, referencedBytes }
  | none =>
      let nextLiteralBytes ← addCounter state.literalBytes chunkBytes
        "literal byte count overflowed"
      ensure (nextLiteralBytes ≤ maximumLiteralBytes)
        (literalLimitExceeded maximumLiteralBytes)
      let operations ← appendLiteral state.operations contents
      return { state with operations, hashed, literalBytes := nextLiteralBytes }

/-- `ReconstructionPlan::build_bounded` on the reads of the candidate. -/
def buildBounded (blake3 : Bytes → Digest) (reads : List Bytes) (expectedBytes : Nat)
    (index : BasisFileIndex) (maximumLiteralBytes : Nat) : IoResult ReconstructionPlan := do
  let config ← ChunkConfig.fromAverageKib index.averageKib
  let chunking ← chunkReader config (visitCandidate blake3 index maximumLiteralBytes)
    reads {}
  let state := chunking.1
  let readBytes := chunking.2.bytes
  ensure (readBytes = expectedBytes)
    (.invalidData
      (s!"candidate changed while being planned: expected {expectedBytes} bytes, " ++
        s!"read {readBytes}"))
  let plannedBytes ← addCounter state.referencedBytes state.literalBytes
    "planned byte count overflowed"
  ensure (plannedBytes = expectedBytes)
    (.invalidData
      (s!"reconstruction plan describes {plannedBytes} bytes, expected " ++
        s!"{expectedBytes}"))
  return { targetBytes := expectedBytes, targetDigest := blake3 state.hashed
           operations := state.operations, candidateChunks := chunking.2.chunks
           referencedBytes := state.referencedBytes, literalBytes := state.literalBytes }

/-! ## Wire form -/

/-- `PLAN_MAGIC`: `NCP1`. -/
def planMagic : Bytes := [0x4E, 0x43, 0x50, 0x31]

/-- `PLAN_HEADER_BYTES`. -/
def planHeaderBytes : Nat := 4 + 8 + 32 + 8

/-- `BASIS_RECORD_BYTES`. -/
def basisRecordBytes : Nat := 1 + 8 + 8

/-- `LITERAL_HEADER_BYTES`. -/
def literalHeaderBytes : Nat := 1 + 8

/-- `OP_BASIS`. -/
def opBasis : UInt8 := 0

/-- `OP_LITERAL`. -/
def opLiteral : UInt8 := 1

/-- The loop of `wire_size`. -/
def wireSizeOf : List ReconstructionOp → Nat → IoResult Nat
  | [], size => .ok size
  | operation :: rest, size => do
      let operationBytes ← match operation with
        | .basis _ _ => .ok basisRecordBytes
        | .literal contents =>
            addCounter literalHeaderBytes contents.length "literal wire size overflowed"
      let size ← addCounter size operationBytes "reconstruction plan wire size overflowed"
      wireSizeOf rest size

/-- `wire_size`. -/
def wireSize (plan : ReconstructionPlan) : IoResult Nat :=
  wireSizeOf plan.operations planHeaderBytes

/-- The record of one operation. -/
def encodeOp : ReconstructionOp → Bytes
  | .basis offset length => opBasis :: (leBytes 8 offset ++ leBytes 8 length)
  | .literal contents => opLiteral :: (leBytes 8 contents.length ++ contents)

/-- `encode_wire`. -/
def encodeWire (plan : ReconstructionPlan) : IoResult Bytes := do
  let _ ← plan.wireSize
  return planMagic ++ (leBytes 8 plan.targetBytes ++ (plan.targetDigest.1 ++
    (leBytes 8 plan.operations.length ++ plan.operations.flatMap encodeOp)))

/-- `invalid_plan`. -/
def invalidPlan (message : String) : IoError := .invalidData message

/-- `read_bytes`. -/
def readBytes (encoded : Bytes) (cursor length : Nat) : IoResult (Bytes × Nat) :=
  readSlice (invalidPlan "reconstruction plan cursor overflowed")
    (invalidPlan "reconstruction plan is truncated") encoded cursor length

/-- `read_u64`. -/
def readU64 (encoded : Bytes) (cursor : Nat) : IoResult (Nat × Nat) := do
  let field ← readBytes encoded cursor 8
  return (leValue field.1, field.2)

/-- `read_digest`. -/
def readDigest (encoded : Bytes) (cursor : Nat) : IoResult (Digest × Nat) :=
  readDigestWith (invalidPlan "reconstruction plan cursor overflowed")
    (invalidPlan "reconstruction plan is truncated") encoded cursor

/-- `read_u8`. -/
def readU8 (encoded : Bytes) (cursor : Nat) : IoResult (UInt8 × Nat) := do
  let byte ← okOrElse encoded[cursor]? (invalidPlan "reconstruction plan is truncated")
  let next ← okOrElse (checkedAdd cursor 1)
    (invalidPlan "reconstruction plan cursor overflowed")
  return (byte, next)

/-- The local variables of the loop of `decode_wire`. -/
structure DecodeState where
  cursor : Nat
  operations : List ReconstructionOp := []
  referencedBytes : Nat := 0
  literalBytes : Nat := 0

/-- The body of the loop of `decode_wire`. -/
def decodeOp (encoded : Bytes) (operationIndex : Nat) (state : DecodeState) :
    IoResult DecodeState := do
  let tag ← readU8 encoded state.cursor
  if tag.1 = opBasis then
    let offset ← readU64 encoded tag.2
    let length ← readU64 encoded offset.2
    ensure (length.1 ≠ 0) (invalidPlan "basis operation length must not be zero")
    let _ ← okOrElse (checkedAdd offset.1 length.1)
      (invalidPlan "basis operation range overflowed")
    let referencedBytes ← okOrElse (checkedAdd state.referencedBytes length.1)
      (invalidPlan "referenced byte count overflowed")
    return { state with cursor := length.2, referencedBytes
                        operations := state.operations ++ [.basis offset.1 length.1] }
  else if tag.1 = opLiteral then
    let length ← readU64 encoded tag.2
    ensure (length.1 ≠ 0) (invalidPlan "literal operation length must not be zero")
    let contents ← readBytes encoded length.2 length.1
    let literalBytes ← okOrElse (checkedAdd state.literalBytes length.1)
      (invalidPlan "literal byte count overflowed")
    return { state with cursor := contents.2, literalBytes
                        operations := state.operations ++ [.literal contents.1] }
  else
    let unknown := tag.1.toNat
    .error (invalidPlan
      s!"reconstruction operation {operationIndex} has unknown tag {unknown}")

/-- The loop of `decode_wire` over the remaining operations. -/
def decodeOps (encoded : Bytes) (operationCount : Nat) :
    Nat → DecodeState → IoResult DecodeState
  | 0, state => .ok state
  | remaining + 1, state => do
      let state ← decodeOp encoded (operationCount - (remaining + 1)) state
      decodeOps encoded operationCount remaining state

/-- `decode_wire`. -/
def decodeWire (encoded : Bytes) : IoResult ReconstructionPlan := do
  ensure (planHeaderBytes ≤ encoded.length)
    (invalidPlan "reconstruction plan header is truncated")
  ensure (encoded.take 4 = planMagic) (invalidPlan "reconstruction plan magic is invalid")
  let targetBytes ← readU64 encoded 4
  let targetDigest ← readDigest encoded targetBytes.2
  let operationCount ← readU64 encoded targetDigest.2
  let state ← decodeOps encoded operationCount.1 operationCount.1
    { cursor := operationCount.2 }
  let trailing := encoded.length - state.cursor
  ensure (state.cursor = encoded.length)
    (invalidPlan s!"reconstruction plan contains {trailing} trailing bytes")
  let describedBytes ← okOrElse (checkedAdd state.referencedBytes state.literalBytes)
    (invalidPlan "reconstruction byte count overflowed")
  let declaredBytes := targetBytes.1
  ensure (describedBytes = declaredBytes)
    (invalidPlan
      (s!"reconstruction operations describe {describedBytes} bytes, but the header " ++
        s!"declares {declaredBytes}"))
  return { targetBytes := declaredBytes, targetDigest := targetDigest.1
           operations := state.operations, candidateChunks := 0
           referencedBytes := state.referencedBytes, literalBytes := state.literalBytes }

end ReconstructionPlan

/-! ## Executing a plan -/

/-- `RECONSTRUCTION_BUFFER_BYTES`. -/
@[irreducible] def reconstructionBufferBytes : Nat := 1024 * 1024

/-- What `File::read` promises: with room in the buffer and bytes left it delivers
at least one byte, at most what was requested and at most what is left. -/
structure ReadSizes where
  size : Nat → Nat → Nat
  pos : ∀ requested available, 0 < requested → 0 < available →
    0 < size requested available
  le : ∀ requested available, size requested available ≤ min requested available

/-- The copy loop of one basis range.  The fuel is the length of the range, since
every turn copies at least one byte. -/
def copyRange (sizes : ReadSizes) (basis : Bytes) : Nat → Nat → Nat → IoResult Bytes
  | _, _, 0 => .ok []
  | 0, _, _ + 1 => .ok []
  | fuel + 1, position, remaining + 1 => do
      let requested := min (remaining + 1) reconstructionBufferBytes
      let read := sizes.size requested (basis.length - position)
      ensure (read ≠ 0) ⟨.unexpectedEof, "basis file ended during reconstruction", none⟩
      let rest ← copyRange sizes basis fuel (position + read) (remaining + 1 - read)
      return (basis.drop position).take read ++ rest

/-- The loop of `reconstruct_into`; the result is what was written. -/
def executeOps (sizes : ReadSizes) (basis : Bytes) :
    List ReconstructionOp → Bytes → IoResult Bytes
  | [], written => .ok written
  | .basis offset length :: rest, written => do
      let rangeEnd ← okOrElse (checkedAdd offset length)
        (.invalidData "basis reconstruction range overflowed")
      let basisBytes := basis.length
      ensure (rangeEnd ≤ basisBytes)
        (.invalidData
          (s!"basis reconstruction range {offset}..{rangeEnd} exceeds {basisBytes} " ++
            "bytes"))
      let range ← copyRange sizes basis length offset length
      let _ ← addCounter written.length length "reconstructed byte count overflowed"
      executeOps sizes basis rest (written ++ range)
  | .literal contents :: rest, written => do
      let _ ← addCounter written.length contents.length "reconstructed byte count overflowed"
      executeOps sizes basis rest (written ++ contents)

/-- The content of a file of the given length after bytes were written from its
start. -/
def overwriteStart (fileLength : Nat) (written : Bytes) : Bytes :=
  written ++ List.replicate (fileLength - written.length) 0

/-- `reconstruct`: the content of the output file.  The temporary file is replaced
over the output path only when everything was written and the digest matches. -/
def reconstruct (blake3 : Bytes → Digest) (sizes : ReadSizes) (basis : Bytes)
    (expectedBasisBytes : Nat) (plan : ReconstructionPlan) : IoResult Bytes := do
  let actualBasisBytes := basis.length
  ensure (actualBasisBytes = expectedBasisBytes)
    (.invalidData
      (s!"basis file size changed: expected {expectedBasisBytes}, found " ++
        s!"{actualBasisBytes}"))
  let written ← executeOps sizes basis plan.operations []
  let writtenBytes := written.length
  let targetBytes := plan.targetBytes
  ensure (writtenBytes = targetBytes)
    (.invalidData s!"reconstruction wrote {writtenBytes} bytes, expected {targetBytes}")
  ensure (blake3 written = plan.targetDigest)
    (.invalidData
      ("reconstructed BLAKE3 mismatch: expected " ++ formatDigest plan.targetDigest ++
        ", found " ++ formatDigest (blake3 written)))
  let output := overwriteStart targetBytes written
  let outputBytes := output.length
  ensure (outputBytes = targetBytes)
    (.invalidData
      s!"reconstructed output has {outputBytes} bytes, expected {targetBytes}")
  return output

end NetworkCopy
