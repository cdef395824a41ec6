import NetworkCopy.ContentHash
import NetworkCopy.LaneReport

/-!
# The content-defined chunker

`content_defined_dedup_bench::chunk_reader` reads a file in pieces, rolls a gear
hash over its bytes and cuts a chunk where the hash hits the boundary mask, but
not before the minimum and at the latest at the maximum chunk size.  What is left
at the end of the file is the last chunk.

The reader may deliver a file in pieces of any size.  `chunksOf` says which chunks
a content has; `chunkReader_eq` says that the reader visits exactly those, with
their offsets, however the pieces fall.
-/

namespace NetworkCopy

/-! ## Configuration -/

/-- `DEFAULT_AVERAGE_KIB`. -/
def defaultAverageKib : Nat := 64

/-- `MIN_AVERAGE_KIB`. -/
def minAverageKib : Nat := 4

/-- `MAX_AVERAGE_KIB`. -/
def maxAverageKib : Nat := 4 * 1024

/-- `ChunkConfig`. -/
structure ChunkConfig where
  averageBytes : Nat
  minimumBytes : Nat
  maximumBytes : Nat
  boundaryMask : UInt64
  deriving DecidableEq, Repr

/-- `validate_average_kib`.  A power of two is the power of its own logarithm. -/
def validateAverageKib (averageKib : Nat) : IoResult Unit := do
  ensure (minAverageKib ≤ averageKib ∧ averageKib ≤ maxAverageKib)
    (.invalidInput
      (s!"content-defined average chunk size must be between {minAverageKib} and " ++
        s!"{maxAverageKib} KiB"))
  ensure (averageKib = 2 ^ averageKib.log2)
    (.invalidInput "content-defined average chunk size must be a power of two")

/-- `ChunkConfig::from_average_kib`.  The products cannot overflow for a valid
average. -/
def ChunkConfig.fromAverageKib (averageKib : Nat) : IoResult ChunkConfig := do
  validateAverageKib averageKib
  let averageBytes ← okOrElse (checkedMul averageKib 1024)
    (.other "content-defined average chunk size overflowed")
  let minimumBytes := averageBytes / 2
  let maximumBytes ← okOrElse (checkedMul averageBytes 2)
    (.other "content-defined maximum chunk size overflowed")
  return { averageBytes, minimumBytes, maximumBytes
           boundaryMask := UInt64.ofNat (minimumBytes - 1) }

/-- What an accepted configuration guarantees. -/
structure ChunkConfig.Valid (config : ChunkConfig) : Prop where
  minimum : 2048 ≤ config.minimumBytes
  order : config.minimumBytes ≤ config.maximumBytes
  maximum : config.maximumBytes < 2 ^ 32

theorem ChunkConfig.valid_of_fromAverageKib {averageKib : Nat} {config : ChunkConfig}
    (h : fromAverageKib averageKib = .ok config) :
    config.Valid ∧ minAverageKib ≤ averageKib ∧ averageKib ≤ maxAverageKib := by
  rw [fromAverageKib, validateAverageKib] at h
  obtain ⟨_, hvalid, h⟩ := bind_eq_ok.mp h
  obtain ⟨_, hrange, _⟩ := bind_eq_ok.mp hvalid
  obtain ⟨averageBytes, haverage, h⟩ := bind_eq_ok.mp h
  obtain ⟨maximumBytes, hmaximum, h⟩ := bind_eq_ok.mp h
  cases h
  rw [ensure_eq_ok] at hrange
  rw [okOrElse_eq_ok, checkedMul_eq_some] at haverage hmaximum
  obtain ⟨hlow, hhigh⟩ := hrange
  refine ⟨⟨?_, ?_, ?_⟩, hlow, hhigh⟩ <;> unfold minAverageKib maxAverageKib at * <;>
    simp only <;> omega

/-! ## The gear hash -/

/-- The xorshift state of `build_gear_table` after some steps. -/
def gearState : Nat → UInt64
  | 0 => 0x9E3779B97F4A7C15
  | index + 1 =>
      let state := gearState index
      let state := state ^^^ (state >>> 12)
      let state := state ^^^ (state <<< 25)
      state ^^^ (state >>> 27)

/-- `GEAR_TABLE[byte]`. -/
def gearTable (byte : UInt8) : UInt64 :=
  gearState (byte.toNat + 1) * 0x2545F4914F6CDD1D

/-- `GearHash::push`. -/
def gearPush (value : UInt64) (byte : UInt8) : UInt64 :=
  (value <<< 1) + gearTable byte

/-! ## The reader -/

/-- `ChunkingStats`, without the elapsed time. -/
structure ChunkingStats where
  bytes : Nat := 0
  chunks : Nat := 0
  minimumChunkBytes : Nat := 0
  maximumChunkBytes : Nat := 0
  deriving DecidableEq, Repr

/-- The boundary test of `chunk_reader`, after a byte was pushed. -/
def ChunkConfig.isBoundary (config : ChunkConfig) (chunkBytes : Nat) (hash : UInt64) : Bool :=
  config.minimumBytes ≤ chunkBytes &&
    (hash &&& config.boundaryMask = 0 || config.maximumBytes ≤ chunkBytes)

section

variable {σ : Type} (config : ChunkConfig) (visitor : σ → Nat → Bytes → IoResult σ)

/-- `emit_chunk`: the visitor first, then the counters. -/
def emitChunk (offset : Nat) (contents : Bytes) (visited : σ) (stats : ChunkingStats) :
    IoResult (σ × ChunkingStats) := do
  let visited ← visitor visited offset contents
  let chunkBytes := contents.length
  let bytes ← addCounter stats.bytes chunkBytes "content-defined byte count overflowed"
  let chunks ← addCounter stats.chunks 1 "content-defined chunk count overflowed"
  let stats := if chunks = 1 then
      { bytes, chunks, minimumChunkBytes := chunkBytes, maximumChunkBytes := chunkBytes }
    else
      { bytes, chunks, minimumChunkBytes := min stats.minimumChunkBytes chunkBytes
        maximumChunkBytes := max stats.maximumChunkBytes chunkBytes }
  return (visited, stats)

/-- The local variables of `chunk_reader`. -/
structure ChunkState (σ : Type) where
  chunkStart : Nat := 0
  chunk : Bytes := []
  hash : UInt64 := 0
  stats : ChunkingStats := {}
  visited : σ

/-- The body of the loop over the bytes of one read. -/
def chunkByte (state : ChunkState σ) (byte : UInt8) : IoResult (ChunkState σ) :=
  let hash := gearPush state.hash byte
  let chunk := state.chunk ++ [byte]
  if config.isBoundary chunk.length hash then do
    let emitted ← emitChunk visitor state.chunkStart chunk state.visited state.stats
    let chunkStart ← addCounter state.chunkStart chunk.length
      "content-defined chunk offset overflowed"
    return { chunkStart, chunk := [], hash := 0, stats := emitted.2, visited := emitted.1 }
  else .ok { state with hash, chunk }

/-- The loop over the reads, which ends at the first empty one. -/
def chunkReads : List Bytes → ChunkState σ → IoResult (ChunkState σ)
  | [], state => .ok state
  | read :: rest, state =>
      if read = [] then .ok state
      else do
        let state ← read.foldlM (chunkByte config visitor) state
        chunkReads rest state

/-- `chunk_reader` on a sequence of reads. -/
def chunkReader (reads : List Bytes) (initial : σ) : IoResult (σ × ChunkingStats) := do
  let state ← chunkReads config visitor reads { visited := initial }
  if state.chunk = [] then return (state.visited, state.stats)
  else emitChunk visitor state.chunkStart state.chunk state.visited state.stats

end

/-- The reads of a file: non-empty pieces that make up its content. -/
structure ReadsOf (content : Bytes) (reads : List Bytes) : Prop where
  flatten : reads.flatten = content
  nonempty : ∀ read ∈ reads, read ≠ []

/-! ## The chunks of a content -/

/-- Cutting the remaining bytes, with the chunk and the hash so far. -/
def cutChunks (config : ChunkConfig) : Bytes → Bytes → UInt64 → List Bytes
  | [], chunk, _ => if chunk = [] then [] else [chunk]
  | byte :: rest, chunk, hash =>
      let hash := gearPush hash byte
      let chunk := chunk ++ [byte]
      if config.isBoundary chunk.length hash then chunk :: cutChunks config rest [] 0
      else cutChunks config rest chunk hash

/-- The chunks of a content, in order. -/
def chunksOf (config : ChunkConfig) (content : Bytes) : List Bytes :=
  cutChunks config content [] 0

theorem cutChunks_flatten (config : ChunkConfig) :
    ∀ (bytes chunk : Bytes) (hash : UInt64),
      (cutChunks config bytes chunk hash).flatten = chunk ++ bytes := by
  intro bytes
  induction bytes with
  | nil =>
    intro chunk hash
    rw [cutChunks]
    split <;> simp_all
  | cons byte rest ih =>
    intro chunk hash
    rw [cutChunks]
    split
    · rw [List.flatten_cons, ih]
      simp
    · rw [ih]
      simp

/-- The chunks of a content make it up. -/
theorem chunksOf_flatten (config : ChunkConfig) (content : Bytes) :
    (chunksOf config content).flatten = content := by
  rw [chunksOf, cutChunks_flatten, List.nil_append]

theorem cutChunks_ne_nil (config : ChunkConfig) :
    ∀ (bytes chunk : Bytes) (hash : UInt64),
      ∀ piece ∈ cutChunks config bytes chunk hash, piece ≠ [] := by
  intro bytes
  induction bytes with
  | nil =>
    intro chunk hash piece hmem
    rw [cutChunks] at hmem
    split at hmem
    · cases hmem
    · rw [List.mem_singleton] at hmem
      subst hmem
      assumption
  | cons byte rest ih =>
    intro chunk hash piece hmem
    rw [cutChunks] at hmem
    split at hmem
    · rcases List.mem_cons.mp hmem with rfl | hmem
      · simp
      · exact ih _ _ piece hmem
    · exact ih _ _ piece hmem

theorem chunksOf_ne_nil (config : ChunkConfig) (content : Bytes) :
    ∀ piece ∈ chunksOf config content, piece ≠ [] :=
  cutChunks_ne_nil config content [] 0

/-- The sizes of a list of chunks: none is empty or above the maximum, and only
the last may be below the minimum. -/
inductive ChunkSizes (config : ChunkConfig) : List Bytes → Prop
  | nil : ChunkSizes config []
  | last (piece : Bytes) : piece ≠ [] → piece.length ≤ config.maximumBytes →
      ChunkSizes config [piece]
  | cons (piece : Bytes) (rest : List Bytes) : piece ≠ [] →
      piece.length ≤ config.maximumBytes → config.minimumBytes ≤ piece.length →
      ChunkSizes config rest → ChunkSizes config (piece :: rest)

theorem cutChunks_sizes {config : ChunkConfig} (horder : 0 < config.maximumBytes)
    (hle : config.minimumBytes ≤ config.maximumBytes) :
    ∀ (bytes chunk : Bytes) (hash : UInt64), chunk.length < config.maximumBytes →
      ChunkSizes config (cutChunks config bytes chunk hash) := by
  intro bytes
  induction bytes with
  | nil =>
    intro chunk hash hchunk
    rw [cutChunks]
    split
    · exact .nil
    · exact .last chunk (by assumption) hchunk.le
  | cons byte rest ih =>
    intro chunk hash hchunk
    rw [cutChunks]
    split
    · rename_i hboundary
      simp only [ChunkConfig.isBoundary, Bool.and_eq_true, decide_eq_true_eq] at hboundary
      exact .cons _ _ (by simp) (by simp; omega) hboundary.1 (ih [] 0 (by simpa using horder))
    · -- No boundary was found, so the chunk is still below the maximum.
      rename_i hboundary
      refine ih _ _ ?_
      by_contra hfull
      refine hboundary ?_
      simp only [ChunkConfig.isBoundary, Bool.and_eq_true, Bool.or_eq_true,
        decide_eq_true_eq]
      exact ⟨by omega, Or.inr (by omega)⟩

theorem chunksOf_sizes {config : ChunkConfig} (hvalid : config.Valid) (content : Bytes) :
    ChunkSizes config (chunksOf config content) := by
  have hpos : 0 < config.maximumBytes := by
    have := hvalid.minimum
    have := hvalid.order
    omega
  exact cutChunks_sizes hpos hvalid.order content [] 0 (by simpa using hpos)

theorem ChunkSizes.length_le {config : ChunkConfig} {pieces : List Bytes}
    (h : ChunkSizes config pieces) :
    ∀ piece ∈ pieces, piece.length ≤ config.maximumBytes := by
  induction h with
  | nil => simp
  | last piece _ hmax => simpa using hmax
  | cons piece rest _ hmax _ _ ih =>
    intro other hother
    rcases List.mem_cons.mp hother with rfl | hother
    · exact hmax
    · exact ih other hother

/-- All chunks but one have at least the minimum size. -/
theorem ChunkSizes.count_le {config : ChunkConfig} {pieces : List Bytes}
    (h : ChunkSizes config pieces) :
    pieces.length * config.minimumBytes ≤ pieces.flatten.length + config.minimumBytes := by
  induction h with
  | nil => simp
  | last piece _ _ => simp
  | cons piece rest _ _ hmin _ ih =>
    simp only [List.length_cons, List.flatten_cons, List.length_append, Nat.add_mul]
    omega

/-! ## The reader visits the chunks -/

/-- The counters after one more chunk. -/
def ChunkingStats.push (stats : ChunkingStats) (chunkBytes : Nat) : ChunkingStats :=
  if stats.chunks + 1 = 1 then
    { bytes := stats.bytes + chunkBytes, chunks := stats.chunks + 1
      minimumChunkBytes := chunkBytes, maximumChunkBytes := chunkBytes }
  else
    { bytes := stats.bytes + chunkBytes, chunks := stats.chunks + 1
      minimumChunkBytes := min stats.minimumChunkBytes chunkBytes
      maximumChunkBytes := max stats.maximumChunkBytes chunkBytes }

@[simp] theorem ChunkingStats.push_bytes (stats : ChunkingStats) (chunkBytes : Nat) :
    (stats.push chunkBytes).bytes = stats.bytes + chunkBytes := by
  unfold push
  split <;> rfl

@[simp] theorem ChunkingStats.push_chunks (stats : ChunkingStats) (chunkBytes : Nat) :
    (stats.push chunkBytes).chunks = stats.chunks + 1 := by
  unfold push
  split <;> rfl

section

variable {σ : Type} (config : ChunkConfig) (visitor : σ → Nat → Bytes → IoResult σ)

/-- Visiting chunks one after the other, each with its offset, and counting. -/
def visitChunks : Nat → List Bytes → σ × ChunkingStats → IoResult (σ × ChunkingStats)
  | _, [], state => .ok state
  | offset, piece :: rest, state => do
      let visited ← visitor state.1 offset piece
      visitChunks (offset + piece.length) rest (visited, state.2.push piece.length)

/-- Emitting a chunk within the counter range. -/
theorem emitChunk_eq {offset : Nat} {contents : Bytes} {visited : σ}
    {stats : ChunkingStats} (hbytes : stats.bytes + contents.length < u64Limit)
    (hchunks : stats.chunks + 1 < u64Limit) :
    emitChunk visitor offset contents visited stats =
      (visitor visited offset contents >>= fun visited =>
        .ok (visited, stats.push contents.length)) := by
  unfold emitChunk
  dsimp only
  rw [addCounter_of_lt hbytes, addCounter_of_lt hchunks]
  rfl

/-- The loop over some bytes, followed by the end of the file, visits the chunks
that those bytes complete.  The invariant: the counters stand at the start of the
current chunk, and no chunk counted so far was empty. -/
theorem chunkBytes_eq :
    ∀ (bytes : Bytes) (state : ChunkState σ),
      state.stats.bytes = state.chunkStart → state.stats.chunks ≤ state.stats.bytes →
      state.chunkStart + state.chunk.length + bytes.length < u64Limit →
      (bytes.foldlM (chunkByte config visitor) state >>= fun state =>
        if state.chunk = [] then .ok (state.visited, state.stats)
        else emitChunk visitor state.chunkStart state.chunk state.visited state.stats) =
      visitChunks visitor state.chunkStart
        (cutChunks config bytes state.chunk state.hash) (state.visited, state.stats) := by
  intro bytes
  induction bytes with
  | nil =>
    intro state hstart hcount hlimit
    rw [List.foldlM_nil, pure_eq_ok, ok_bind, cutChunks]
    split
    · rfl
    · rename_i hchunk
      have hpos := List.length_pos_iff.mpr hchunk
      rw [emitChunk_eq visitor (by simp at hlimit; omega) (by simp at hlimit; omega)]
      rfl
  | cons byte rest ih =>
    intro state hstart hcount hlimit
    rw [List.length_cons] at hlimit
    have hlength : (state.chunk ++ [byte]).length = state.chunk.length + 1 := by simp
    rw [List.foldlM_cons, bind_assoc, cutChunks, chunkByte]
    split
    · rw [emitChunk_eq visitor (by omega) (by omega), visitChunks]
      cases hvisit : visitor state.visited state.chunkStart (state.chunk ++ [byte]) with
      | error e => rfl
      | ok visited =>
        rw [ok_bind, ok_bind, addCounter_of_lt (by omega)]
        simp only [ok_bind, pure_eq_ok]
        rw [ih]
        · simp [hstart]
        · simp only [ChunkingStats.push_chunks, ChunkingStats.push_bytes]
          omega
        · simp only [List.length_nil]
          omega
    · rw [ok_bind]
      exact ih { state with hash := gearPush state.hash byte, chunk := state.chunk ++ [byte] }
        hstart hcount (by simp only; omega)

/-- The loop over non-empty reads is the loop over their bytes. -/
theorem chunkReads_eq :
    ∀ (reads : List Bytes) (state : ChunkState σ), (∀ read ∈ reads, read ≠ []) →
      chunkReads config visitor reads state =
        reads.flatten.foldlM (chunkByte config visitor) state := by
  intro reads
  induction reads with
  | nil => intro state _; rfl
  | cons read rest ih =>
    intro state hreads
    rw [chunkReads, if_neg (hreads read (by simp)), List.flatten_cons, List.foldlM_append]
    refine bind_congr ?_
    intro next
    exact ih next (fun other hother => hreads other (by simp [hother]))

/-- `chunk_reader` visits the chunks of the content, however it is read. -/
theorem chunkReader_eq {content : Bytes} {reads : List Bytes} (hreads : ReadsOf content reads)
    (hlimit : content.length < u64Limit) (initial : σ) :
    chunkReader config visitor reads initial =
      visitChunks visitor 0 (chunksOf config content) (initial, {}) := by
  have hrun := chunkBytes_eq config visitor content { visited := initial } rfl (Nat.le_refl _)
    (by simpa using hlimit)
  rw [chunkReader, chunkReads_eq config visitor reads _ hreads.nonempty, hreads.flatten]
  exact hrun

end

end NetworkCopy
