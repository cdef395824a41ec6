import NetworkCopy.Cdc.Chunker

/-!
# The chunks do not depend on the reads

`chunk_reader` reads until the end of the file and goes on after an interruption.  Whatever the
single reads deliver, the visitor sees `chunksOf` of the content with the running sums of the
lengths as offsets.  The hash starts anew behind every cut, so that the chunks behind a cut are the
chunks of the bytes behind it: two files that share a suffix from a cut on share its chunks.
-/

namespace NetworkCopy

/-- What `Read::read` returns. -/
inductive ReadOutcome where
  | data (bytes : Bytes)
  | interrupted
  | failed (error : IoError)
  deriving DecidableEq

/-- The reads deliver a content: an empty read ends it, and an interruption adds nothing. -/
inductive Delivers : List ReadOutcome → Bytes → Prop
  | nil : Delivers [] []
  | ended (rest : List ReadOutcome) : Delivers (.data [] :: rest) []
  | interrupted {rest : List ReadOutcome} {content : Bytes} :
      Delivers rest content → Delivers (.interrupted :: rest) content
  | data {rest : List ReadOutcome} {content : Bytes} (bytes : Bytes) : bytes ≠ [] →
      Delivers rest content → Delivers (.data bytes :: rest) (bytes ++ content)

section

variable {σ : Type} (config : ChunkConfig) (visitor : σ → Nat → Bytes → IoResult σ)
variable {outcomes : List ReadOutcome}

/-- The loop of `chunk_reader` over the outcomes of its reads. -/
def chunkOutcomes : List ReadOutcome → ChunkState σ → IoResult (ChunkState σ)
  | [], state => .ok state
  | .interrupted :: rest, state => chunkOutcomes rest state
  | .failed error :: _, _ => .error error
  | .data bytes :: rest, state =>
      if bytes = [] then .ok state
      else do
        let state ← bytes.foldlM (chunkByte config visitor) state
        chunkOutcomes rest state

/-- `chunk_reader`, with every outcome that a read can have. -/
def chunkReaderOutcomes (outcomes : List ReadOutcome) (initial : σ) :
    IoResult (σ × ChunkingStats) := do
  let state ← chunkOutcomes config visitor outcomes { visited := initial }
  if state.chunk = [] then return (state.visited, state.stats)
  else emitChunk visitor state.chunkStart state.chunk state.visited state.stats

/-- The loop over the reads is the loop over the bytes that they deliver. -/
theorem chunkOutcomes_eq {content : Bytes} (h : Delivers outcomes content)
    (state : ChunkState σ) :
    chunkOutcomes config visitor outcomes state =
      content.foldlM (chunkByte config visitor) state := by
  induction h generalizing state with
  | nil => rfl
  | ended rest => rfl
  | interrupted _ ih => exact ih state
  | data bytes hne _ ih =>
    rw [chunkOutcomes, if_neg hne, List.foldlM_append]
    refine bind_congr ?_
    intro next
    exact ih next

/-- The visitor sees the chunks of the content. -/
theorem chunkReaderOutcomes_eq {content : Bytes} (h : Delivers outcomes content)
    (hlimit : content.length < u64Limit) (initial : σ) :
    chunkReaderOutcomes config visitor outcomes initial =
      visitChunks visitor 0 (chunksOf config content) (initial, {}) := by
  have hrun := chunkBytes_eq config visitor content { visited := initial } rfl (Nat.le_refl _)
    (by simpa using hlimit)
  rw [chunkReaderOutcomes, chunkOutcomes_eq config visitor h]
  exact hrun

/-! ## Contents beyond the counters -/

/-- The counters of a chunking state agree, and are in range. -/
structure ChunkState.Counted (state : ChunkState σ) : Prop where
  bytes : state.stats.bytes = state.chunkStart
  limit : state.chunkStart < u64Limit

theorem emitChunk_bytes {offset : Nat} {contents : Bytes} {visited : σ} {stats : ChunkingStats}
    {result : σ × ChunkingStats}
    (h : emitChunk visitor offset contents visited stats = .ok result) :
    result.2.bytes = stats.bytes + contents.length ∧ result.2.bytes < u64Limit := by
  unfold emitChunk at h
  obtain ⟨visited', _, h⟩ := bind_eq_ok.mp h
  obtain ⟨bytes, hbytes, h⟩ := bind_eq_ok.mp h
  obtain ⟨chunks, _, h⟩ := bind_eq_ok.mp h
  cases h
  rw [addCounter_eq_ok] at hbytes
  split
  · show bytes = _ ∧ bytes < u64Limit
    omega
  · show bytes = _ ∧ bytes < u64Limit
    omega

/-- One byte more. -/
theorem chunkByte_counted {state state' : ChunkState σ} {byte : UInt8} (hstate : state.Counted)
    (h : chunkByte config visitor state byte = .ok state') :
    state'.Counted ∧
      state'.chunkStart + state'.chunk.length = state.chunkStart + state.chunk.length + 1 := by
  unfold chunkByte at h
  simp only at h
  split at h
  · obtain ⟨emitted, hemit, h⟩ := bind_eq_ok.mp h
    obtain ⟨chunkStart, hstart, h⟩ := bind_eq_ok.mp h
    cases h
    have hbytes := emitChunk_bytes visitor hemit
    have hsame := hstate.bytes
    rw [addCounter_eq_ok] at hstart
    simp only [List.length_append, List.length_singleton] at hbytes hstart
    refine ⟨⟨?_, hstart.2 ▸ hstart.1⟩, ?_⟩
    · show emitted.2.bytes = chunkStart
      omega
    · show chunkStart + 0 = _
      omega
  · cases h
    refine ⟨⟨hstate.bytes, hstate.limit⟩, ?_⟩
    simp only [List.length_append, List.length_singleton]
    omega

theorem chunkBytes_counted {bytes : Bytes} {state state' : ChunkState σ} (hstate : state.Counted)
    (h : bytes.foldlM (chunkByte config visitor) state = .ok state') :
    state'.Counted ∧ state'.chunkStart + state'.chunk.length =
      state.chunkStart + state.chunk.length + bytes.length := by
  induction bytes generalizing state with
  | nil =>
    cases h
    exact ⟨hstate, rfl⟩
  | cons byte rest ih =>
    rw [List.foldlM_cons] at h
    obtain ⟨middle, hmiddle, hrest⟩ := bind_eq_ok.mp h
    have hfirst := chunkByte_counted config visitor hstate hmiddle
    have hlast := ih hfirst.1 hrest
    refine ⟨hlast.1, ?_⟩
    rw [List.length_cons]
    omega

/-- A content that the counters cannot count is refused. -/
theorem length_lt_of_chunkReaderOutcomes {content : Bytes} {initial : σ}
    {result : σ × ChunkingStats} (h : Delivers outcomes content)
    (hrun : chunkReaderOutcomes config visitor outcomes initial = .ok result) :
    content.length < u64Limit := by
  have hpos : 0 < u64Limit := by
    unfold u64Limit
    omega
  unfold chunkReaderOutcomes at hrun
  rw [chunkOutcomes_eq config visitor h] at hrun
  obtain ⟨state, hstate, hend⟩ := bind_eq_ok.mp hrun
  have hinitial : ChunkState.Counted { visited := initial } := ⟨rfl, hpos⟩
  have hcounted := chunkBytes_counted config visitor hinitial hstate
  have hlimit := hcounted.1.limit
  have hbytes := hcounted.1.bytes
  have htotal : state.chunkStart + state.chunk.length = 0 + 0 + content.length := hcounted.2
  split at hend
  · next hnone =>
      rw [hnone, List.length_nil] at htotal
      omega
  · have hemit := emitChunk_bytes visitor hend
    omega

end

/-! ## Offsets -/

/-- Chunks with the sums of the lengths before them. -/
def withOffsets : Nat → List Bytes → List (Nat × Bytes)
  | _, [] => []
  | offset, piece :: rest => (offset, piece) :: withOffsets (offset + piece.length) rest

/-- A visitor that writes down what it is given. -/
def recordChunk (visited : List (Nat × Bytes)) (offset : Nat) (contents : Bytes) :
    IoResult (List (Nat × Bytes)) := .ok (visited ++ [(offset, contents)])

theorem visitChunks_recordChunk (offset : Nat) (pieces : List Bytes)
    (visited : List (Nat × Bytes)) (stats : ChunkingStats) :
    (visitChunks recordChunk offset pieces (visited, stats)).map Prod.fst =
      .ok (visited ++ withOffsets offset pieces) := by
  induction pieces generalizing offset visited stats with
  | nil => simp [visitChunks, withOffsets, Except.map]
  | cons piece rest ih =>
    rw [visitChunks, recordChunk, ok_bind, ih, withOffsets, List.append_assoc]
    rfl

/-! ## Behind a cut -/

/-- The first chunk ends somewhere, and the hash starts anew behind it. -/
theorem cutChunks_tail {config : ChunkConfig} {bytes chunk : Bytes} {hash : UInt64}
    {piece : Bytes} {others : List Bytes}
    (h : cutChunks config bytes chunk hash = piece :: others) :
    others = chunksOf config others.flatten := by
  induction bytes generalizing chunk hash with
  | nil =>
    rw [cutChunks] at h
    split at h
    · cases h
    · cases h
      rfl
  | cons byte rest ih =>
    rw [cutChunks] at h
    split at h
    · cases h
      conv_rhs => rw [cutChunks_flatten, List.nil_append]
      rfl
    · exact ih h

/-- The chunks behind a cut are the chunks of the bytes behind it. -/
theorem chunksOf_append {config : ChunkConfig} {content : Bytes} {before after : List Bytes}
    (h : chunksOf config content = before ++ after) : chunksOf config after.flatten = after := by
  induction before generalizing content with
  | nil =>
    have hcontent : after.flatten = content := by
      rw [← List.nil_append after, ← h, chunksOf_flatten]
    rw [hcontent]
    exact h
  | cons piece before ih =>
    have htail := cutChunks_tail (h : cutChunks config content [] 0 = piece :: (before ++ after))
    exact ih htail.symm

/-- A chunk ends at a position, or the position is the start. -/
def IsCut (config : ChunkConfig) (content : Bytes) (position : Nat) : Prop :=
  ∃ before after, chunksOf config content = before ++ after ∧ before.flatten.length = position

/-- A suffix that starts at a cut has its own chunks in the whole. -/
theorem IsCut.chunksOf_eq {config : ChunkConfig} {first suffix : Bytes}
    (h : IsCut config (first ++ suffix) first.length) :
    ∃ before, chunksOf config (first ++ suffix) = before ++ chunksOf config suffix := by
  obtain ⟨before, after, hsplit, hlength⟩ := h
  have hflat : before.flatten ++ after.flatten = first ++ suffix := by
    rw [← List.flatten_append, ← hsplit, chunksOf_flatten]
  have hparts := List.append_inj hflat hlength
  have hafter : chunksOf config suffix = after := by rw [← hparts.2, chunksOf_append hsplit]
  exact ⟨before, by rw [hafter, hsplit]⟩

/-- What the sizes say of one chunk. -/
theorem ChunkSizes.bounds {config : ChunkConfig} {pieces : List Bytes}
    (h : ChunkSizes config pieces) {before after : List Bytes} {piece : Bytes}
    (hsplit : pieces = before ++ piece :: after) :
    piece ≠ [] ∧ piece.length ≤ config.maximumBytes ∧
      (after ≠ [] → config.minimumBytes ≤ piece.length) := by
  induction h generalizing before with
  | nil => simp at hsplit
  | last only hne hmax =>
    cases before with
    | nil =>
      cases hsplit
      exact ⟨hne, hmax, fun hafter => absurd rfl hafter⟩
    | cons first before => simp at hsplit
  | cons first rest hne hmax hmin _ ih =>
    cases before with
    | nil =>
      cases hsplit
      exact ⟨hne, hmax, fun _ => hmin⟩
    | cons other before =>
      cases hsplit
      exact ih rfl

/-! ## Content-defined chunking -/

/-- For every valid configuration and every content: whatever the reads deliver, the visitor is
given the chunks of the content with their offsets, a recording visitor finds just them, and a
content beyond the counters is refused.  The chunks make up the content, have the sizes of the
configuration, and are the same behind a cut wherever the bytes behind it are. -/
theorem chunking_canonical {averageKib : Nat} {config : ChunkConfig}
    (hconfig : ChunkConfig.fromAverageKib averageKib = .ok config) (content : Bytes) :
    (∀ outcomes, Delivers outcomes content → content.length < u64Limit →
      (chunkReaderOutcomes config recordChunk outcomes []).map Prod.fst =
          .ok (withOffsets 0 (chunksOf config content)) ∧
        ∀ (σ : Type) (visitor : σ → Nat → Bytes → IoResult σ) (initial : σ),
          chunkReaderOutcomes config visitor outcomes initial =
            visitChunks visitor 0 (chunksOf config content) (initial, {})) ∧
    (∀ outcomes, Delivers outcomes content → u64Limit ≤ content.length →
      ∀ (σ : Type) (visitor : σ → Nat → Bytes → IoResult σ) (initial : σ),
        ∃ error, chunkReaderOutcomes config visitor outcomes initial = .error error) ∧
    (chunksOf config content).flatten = content ∧
    (∀ before piece after, chunksOf config content = before ++ piece :: after →
      piece ≠ [] ∧ piece.length ≤ config.maximumBytes ∧
        (after ≠ [] → config.minimumBytes ≤ piece.length)) ∧
    (∀ before after, chunksOf config content = before ++ after →
      chunksOf config after.flatten = after) ∧
    ∀ first second suffix, content = first ++ suffix → IsCut config content first.length →
      IsCut config (second ++ suffix) second.length →
      ∃ before before', chunksOf config content = before ++ chunksOf config suffix ∧
        chunksOf config (second ++ suffix) = before' ++ chunksOf config suffix := by
  obtain ⟨hvalid, _, _⟩ := ChunkConfig.valid_of_fromAverageKib hconfig
  refine ⟨?_, ?_, chunksOf_flatten config content, ?_, ?_, ?_⟩
  · intro outcomes houtcomes hlimit
    refine ⟨?_, fun σ visitor initial =>
      chunkReaderOutcomes_eq config visitor houtcomes hlimit initial⟩
    rw [chunkReaderOutcomes_eq config recordChunk houtcomes hlimit, visitChunks_recordChunk]
    rfl
  · intro outcomes houtcomes hlimit σ visitor initial
    cases hrun : chunkReaderOutcomes config visitor outcomes initial with
    | error error => exact ⟨error, rfl⟩
    | ok result =>
        have hlt := length_lt_of_chunkReaderOutcomes config visitor houtcomes hrun
        omega
  · intro before piece after hsplit
    exact (chunksOf_sizes hvalid content).bounds hsplit
  · intro before after hsplit
    exact chunksOf_append hsplit
  · intro first second suffix hcontent hcut hcut'
    subst hcontent
    obtain ⟨before, hbefore⟩ := hcut.chunksOf_eq
    obtain ⟨before', hbefore'⟩ := hcut'.chunksOf_eq
    exact ⟨before, before', hbefore, hbefore'⟩

/-- The chunks of `abc` at the default average, read one byte at a time. -/
theorem chunking_canonical_abc :
    ∃ config, ChunkConfig.fromAverageKib defaultAverageKib = .ok config ∧
      (chunkReaderOutcomes config recordChunk
        [.data [0x61], .interrupted, .data [0x62], .data [0x63], .data []] []).map Prod.fst =
        .ok [(0, [0x61, 0x62, 0x63])] := by
  have hconfig : ChunkConfig.fromAverageKib defaultAverageKib =
      .ok ⟨65536, 32768, 131072, 32767⟩ := by
    decide +kernel
  refine ⟨_, hconfig, ?_⟩
  have hreads : Delivers [.data [0x61], .interrupted, .data [0x62], .data [0x63], .data []]
      ([0x61] ++ ([0x62] ++ ([0x63] ++ []))) :=
    .data _ (by decide) (.interrupted (.data _ (by decide) (.data _ (by decide) (.ended []))))
  have hlimit : [0x61, 0x62, 0x63].length < u64Limit := by
    simp [u64Limit]
  have hchunks : chunksOf ⟨65536, 32768, 131072, 32767⟩ [0x61, 0x62, 0x63] =
      [[0x61, 0x62, 0x63]] := by
    decide +kernel
  have hrun := ((chunking_canonical hconfig [0x61, 0x62, 0x63]).1 _ hreads hlimit).1
  rw [hchunks] at hrun
  exact hrun

end NetworkCopy
