import NetworkCopy.Lane.Wire

/-!
# The payload stream

`adaptive_compression.rs`: the bytes of a file or of a stripe travel raw, or as a
sequence of Zstandard chunks, followed by their BLAKE3 digest.  The two sides cut a
raw payload into pieces of their own buffer size; a compressed payload is cut by the
sender, which announces the length of every chunk.

The compressor and the hash function are parameters.  Of Zstandard the program uses
that a frame is not empty and that decompressing it gives back what was compressed.
-/

namespace NetworkCopy

open Duplex ByteOrder ByteRange

/-- `compression_probe::CompressionDecision`. -/
inductive CompressionDecision where
  | sendRaw
  | compress
  deriving DecidableEq, Repr

/-- What the program uses of the `zstd` crate.  `decompress frame capacity` is
`decompress_to_buffer` with an output buffer of that capacity. -/
structure Zstd where
  compress : Bytes → Except String Bytes
  decompress : Bytes → Nat → Except String Bytes
  decompress_compress : ∀ raw frame capacity, compress raw = .ok frame →
    raw.length ≤ capacity → decompress frame capacity = .ok raw
  frame_ne_nil : ∀ raw frame, compress raw = .ok frame → frame ≠ []

/-- `COMPRESSION_CHUNK_BYTES`. -/
@[irreducible] def compressionChunkBytes : Nat := 1024 * 1024

/-- `MAX_COMPRESSED_CHUNK_BYTES`. -/
def maxCompressedChunkBytes : Nat := compressionChunkBytes * 2

/-- `MODE_RAW`. -/
def modeRaw : UInt8 := 0

/-- `MODE_ZSTD`. -/
def modeZstd : UInt8 := 1

/-- `compress_to_buffer` with the buffer of the encoder. -/
def Zstd.compressToBuffer (zstd : Zstd) (raw : Bytes) : IoResult Bytes :=
  match zstd.compress raw with
  | .error text => .error (.other s!"Zstandard payload compression failed: {text}")
  | .ok frame =>
      ensure (frame.length ≤ maxCompressedChunkBytes)
        (.other "Zstandard payload compression failed: Destination buffer is too small")
        >>= fun _ => .ok frame

/-- `read_exact` at a position of an open file, with the text for an early end. -/
def readExactAt (endOfFile : String) (node : FileNode) (offset length : Nat) :
    IoResult Bytes :=
  if offset + length ≤ node.content.1.length then .ok (range node.content.1 offset length)
  else .error ⟨.unexpectedEof, endOfFile, none⟩

/-! ## Sending -/

section

variable (blake3 : Bytes → Digest) (zstd : Zstd) (fill : Nat → Nat → IoResult Bytes)
  (byteCount bufferBytes : Nat) (decision : CompressionDecision)

/-- One chunk on the wire. -/
def sendChunk (chunk : Bytes) : Party Unit :=
  match decision with
  | .sendRaw => Proc.write chunk
  | .compress => do
      let frame ← attempt .refused (zstd.compressToBuffer chunk)
      let rawLength ← attempt .refused
        (u32TryFrom chunk.length (.other "raw compression chunk is too large"))
      writeU32 rawLength
      let frameLength ← attempt .refused
        (u32TryFrom frame.length (.other "compressed chunk is too large"))
      writeU32 frameLength
      Proc.write frame

/-- `requested` of `send_payload`: the length of the next chunk. -/
def requestedBytes (byteCount bufferBytes transferred : Nat) : Nat :=
  min (byteCount - transferred) (min compressionChunkBytes bufferBytes)

/-- The loop of `send_payload`.  The result is what was fed to the hasher.  Every turn
sends at least one byte, so the byte count bounds the number of turns. -/
def sendChunks : Nat → Nat → Bytes → Party Bytes
  | 0, _, hashed => return hashed
  | fuel + 1, transferred, hashed =>
      if transferred < byteCount then do
        let chunk ← attempt .disk
          (fill transferred (requestedBytes byteCount bufferBytes transferred))
        sendChunk zstd decision chunk
        sendChunks fuel (transferred + requestedBytes byteCount bufferBytes transferred)
          (hashed ++ chunk)
      else return hashed

/-- `write_mode`. -/
def writeMode : Party Unit :=
  writeU8 (match decision with | .sendRaw => modeRaw | .compress => modeZstd)

/-- `send_payload`. -/
def sendPayload : Party Bool := do
  attempt .refused (ensure (bufferBytes ≠ 0)
    (.invalidInput "compression buffer must not be empty"))
  writeMode decision
  let hashed ← sendChunks zstd fill byteCount bufferBytes decision byteCount 0 []
  writeDigest (blake3 hashed)
  return decide (decision = .compress)

end

/-! ## Receiving -/

section

variable {σ : Type} (blake3 : Bytes → Digest) (zstd : Zstd)
  (writeChunk : σ → Bytes → Nat → IoResult σ) (byteCount bufferBytes : Nat)

/-- `read_mode`. -/
def readMode : Party CompressionDecision := do
  let mode ← readU8
  if mode = modeRaw then return .sendRaw
  else if mode = modeZstd then return .compress
  else
    let unknown := mode.toNat
    attempt .protocol (.error (.invalidData s!"received unknown compression mode {unknown}"))

/-- Read one chunk; `remaining` bytes of the payload are still missing. -/
def receiveChunk (decision : CompressionDecision) (remaining : Nat) : Party Bytes :=
  match decision with
  | .sendRaw => Proc.read (min remaining bufferBytes)
  | .compress => do
      let rawLength ← readU32
      let frameLength ← readU32
      attempt .protocol (ensure
        (¬ (rawLength = 0 ∨ compressionChunkBytes < rawLength ∨ bufferBytes < rawLength ∨
          remaining < rawLength))
        (.invalidData s!"received invalid raw compression chunk length {rawLength}"))
      attempt .protocol (ensure
        (¬ (frameLength = 0 ∨ maxCompressedChunkBytes < frameLength))
        (.invalidData s!"received invalid compressed chunk length {frameLength}"))
      let frame ← Proc.read frameLength
      let chunk ← attempt .protocol ((zstd.decompress frame rawLength).mapError
        (fun text => .invalidData s!"Zstandard payload decompression failed: {text}"))
      let expandedLength := chunk.length
      attempt .protocol (ensure (expandedLength = rawLength)
        (.invalidData
          s!"compressed chunk expanded to {expandedLength} bytes, expected {rawLength}"))
      return chunk

/-- The loop of `receive_payload`: what was fed to the hasher and the state of the
writer. -/
def receiveChunks (decision : CompressionDecision) :
    Nat → Nat → Bytes → σ → Party (Bytes × σ)
  | 0, _, hashed, state => return (hashed, state)
  | fuel + 1, transferred, hashed, state =>
      if transferred < byteCount then do
        let chunk ← receiveChunk zstd bufferBytes decision (byteCount - transferred)
        let state ← attempt .disk (writeChunk state chunk transferred)
        receiveChunks decision fuel (transferred + chunk.length) (hashed ++ chunk) state
      else return (hashed, state)

/-- `receive_payload`. -/
def receivePayload (context : String) (state : σ) : Party (Bool × σ) := do
  attempt .refused (ensure (bufferBytes ≠ 0)
    (.invalidInput "decompression buffer must not be empty"))
  let decision ← readMode
  let received ← receiveChunks zstd writeChunk byteCount bufferBytes decision byteCount 0 []
    state
  let expectedDigest ← readDigest
  attempt .protocol (verifyDigest context (blake3 received.1) expectedDigest)
  return (decide (decision = .compress), received.2)

end

/-! ## What arrives -/

/-- `Delivered writeChunk state offset bytes state'`: the writer was given `bytes`, in
pieces, at consecutive offsets from `offset` on. -/
inductive Delivered {σ : Type} (writeChunk : σ → Bytes → Nat → IoResult σ) :
    σ → Nat → Bytes → σ → Prop
  | nil (state : σ) (offset : Nat) : Delivered writeChunk state offset [] state
  | cons {state next last : σ} {offset : Nat} {chunk rest : Bytes} :
      writeChunk state chunk offset = .ok next →
      Delivered writeChunk next (offset + chunk.length) rest last →
      Delivered writeChunk state offset (chunk ++ rest) last

section

variable {σ : Type} {blake3 : Bytes → Digest} {zstd : Zstd}
  {fill : Nat → Nat → IoResult Bytes} {writeChunk : σ → Bytes → Nat → IoResult σ}
  {content : Bytes} {sendBytes receiveBytes : Nat}

/-- The source delivers every range of the content. -/
def Fills (fill : Nat → Nat → IoResult Bytes) (content : Bytes) : Prop :=
  ∀ offset length, offset + length ≤ content.length →
    fill offset length = .ok (range content offset length)

/-- The rest of the content behind a range. -/
theorem drop_eq_range_append (content : Bytes) (offset length : Nat) :
    content.drop offset = range content offset length ++ content.drop (offset + length) := by
  rw [range, ← List.drop_drop, List.take_append_drop]

/-- Every turn of the sender takes at least one byte and stays inside the content. -/
theorem requestedBytes_bounds {byteCount transferred : Nat} (hsend : 0 < sendBytes)
    (hmore : transferred < byteCount) :
    0 < requestedBytes byteCount sendBytes transferred ∧
      transferred + requestedBytes byteCount sendBytes transferred ≤ byteCount ∧
      requestedBytes byteCount sendBytes transferred ≤ compressionChunkBytes ∧
      requestedBytes byteCount sendBytes transferred ≤ sendBytes := by
  have hchunk : 0 < compressionChunkBytes := by norm_num [compressionChunkBytes]
  unfold requestedBytes
  omega

/-- A raw payload leaves the sender unchanged. -/
theorem sendChunks_raw_emits (zstd : Zstd) (hfill : Fills fill content) (hsend : 0 < sendBytes) :
    ∀ (fuel transferred : Nat) (hashed : Bytes), content.length - transferred ≤ fuel →
      Emits (sendChunks zstd fill content.length sendBytes .sendRaw fuel transferred hashed)
        (content.drop transferred) (.ok (hashed ++ content.drop transferred))
  | 0, transferred, hashed, hfuel => by
      rw [List.drop_eq_nil_of_le (by omega), List.append_nil]
      exact .ret hashed
  | fuel + 1, transferred, hashed, hfuel => by
      rw [sendChunks]
      by_cases hmore : transferred < content.length
      · obtain ⟨hpos, hin, _, _⟩ := requestedBytes_bounds hsend hmore
        rw [if_pos hmore, hfill _ _ hin, attempt_ok, Proc.ret_bind,
          drop_eq_range_append content transferred
            (requestedBytes content.length sendBytes transferred), ← List.append_assoc]
        exact .send _ (sendChunks_raw_emits zstd hfill hsend fuel _ _ (by omega))
      · rw [if_neg hmore, List.drop_eq_nil_of_le (by omega), List.append_nil]
        exact .ret hashed

/-- A raw payload is received as it was sent, or the writer fails. -/
theorem receiveChunks_raw_consumes (zstd : Zstd)
    (writeChunk : σ → Bytes → Nat → IoResult σ) (hreceive : 0 < receiveBytes)
    (byteCount : Nat) :
    ∀ (fuel transferred : Nat) (hashed wire : Bytes) (state : σ),
      wire.length = byteCount - transferred → wire.length ≤ fuel →
      (∃ last, Consumes (receiveChunks zstd writeChunk byteCount receiveBytes .sendRaw
          fuel transferred hashed state) wire (.ok (hashed ++ wire, last)) ∧
        Delivered writeChunk state transferred wire last) ∨
      ∃ error, Consumes (receiveChunks zstd writeChunk byteCount receiveBytes .sendRaw
          fuel transferred hashed state) wire (.error (.disk error))
  | 0, transferred, hashed, wire, state, hwire, hfuel => by
      have hnil : wire = [] := List.eq_nil_of_length_eq_zero (by omega)
      subst hnil
      rw [List.append_nil]
      exact .inl ⟨state, .ret _, .nil state transferred⟩
  | fuel + 1, transferred, hashed, wire, state, hwire, hfuel => by
      rw [receiveChunks]
      by_cases hmore : transferred < byteCount
      · rw [if_pos hmore]
        set requested := min (byteCount - transferred) receiveBytes with hrequested
        have hlength : (wire.take requested).length = requested := by
          rw [List.length_take]
          omega
        have hsplit : wire.take requested ++ wire.drop requested = wire :=
          List.take_append_drop _ _
        -- One read takes `requested` bytes off the stream.
        have hread : ∀ {r : Except Fault (Bytes × σ)},
            Consumes (attempt .disk (writeChunk state (wire.take requested) transferred) >>=
              fun state => receiveChunks zstd writeChunk byteCount receiveBytes .sendRaw
                fuel (transferred + (wire.take requested).length)
                (hashed ++ wire.take requested) state) (wire.drop requested) r →
            Consumes (receiveChunk zstd receiveBytes .sendRaw (byteCount - transferred) >>=
              fun chunk => attempt .disk (writeChunk state chunk transferred) >>=
                fun state => receiveChunks zstd writeChunk byteCount receiveBytes .sendRaw
                  fuel (transferred + chunk.length) (hashed ++ chunk) state) wire r := by
          intro r h
          have hrecv := Consumes.recv (wire.take requested)
            (k := fun chunk => attempt .disk (writeChunk state chunk transferred) >>=
              fun state => receiveChunks zstd writeChunk byteCount receiveBytes .sendRaw
                fuel (transferred + chunk.length) (hashed ++ chunk) state) h
          rw [hlength, hsplit] at hrecv
          exact hrecv
        cases hwrite : writeChunk state (wire.take requested) transferred with
        | error error =>
          refine .inr ⟨error, hread ?_⟩
          rw [hwrite]
          exact .fail _ _
        | ok next =>
          have hrest : (wire.drop requested).length =
              byteCount - (transferred + (wire.take requested).length) := by
            rw [List.length_drop, hlength]
            omega
          rcases receiveChunks_raw_consumes zstd writeChunk hreceive byteCount fuel
              (transferred + (wire.take requested).length)
              (hashed ++ wire.take requested) (wire.drop requested) next hrest
              (by rw [List.length_drop]; omega) with ⟨last, hlast, hdelivered⟩ | ⟨error, herror⟩
          · refine .inl ⟨last, hread ?_, ?_⟩
            · rw [hwrite]
              rw [List.append_assoc, hsplit] at hlast
              exact hlast
            · have hcons := Delivered.cons hwrite hdelivered
              rw [hsplit] at hcons
              exact hcons
          · refine .inr ⟨error, hread ?_⟩
            rw [hwrite]
            exact herror
      · have hnil : wire = [] := List.eq_nil_of_length_eq_zero (by omega)
        subst hnil
        rw [if_neg hmore, List.append_nil]
        exact .inl ⟨state, .ret _, .nil state transferred⟩

variable {L R : Fault → Prop}

/-- One compressed chunk crosses the wire. -/
theorem agree_compressedChunk {α β : Type} {Q : α → β → Prop} {chunk : Bytes}
    {remaining : Nat} {f : Unit → Party α} {g : Bytes → Party β}
    (hL : ∀ error, L (.refused error)) (hpos : 0 < chunk.length)
    (hchunk : chunk.length ≤ compressionChunkBytes) (hbuffer : chunk.length ≤ receiveBytes)
    (hremaining : chunk.length ≤ remaining) (h : Agree L R (f ()) (g chunk) Q) :
    Agree L R (sendChunk zstd .compress chunk >>= f)
      (receiveChunk zstd receiveBytes .compress remaining >>= g) Q := by
  simp only [sendChunk, receiveChunk, bind_assoc]
  apply agree_attempt_left (fun error _ => hL error)
  intro frame hframe
  -- The frame is what the compressor returned, and it fits its buffer.
  unfold Zstd.compressToBuffer at hframe
  cases hcompress : zstd.compress chunk with
  | error text => rw [hcompress] at hframe; cases hframe
  | ok frame' =>
    rw [hcompress] at hframe
    obtain ⟨_, hfits, hsame⟩ := bind_eq_ok.mp hframe
    cases hsame
    rw [ensure_eq_ok] at hfits
    apply agree_attempt_left (fun error _ => hL error)
    intro rawLength hraw
    obtain ⟨hrawLimit, rfl⟩ := u32TryFrom_eq_ok.mp hraw
    apply agree_u32 hrawLimit
    apply agree_attempt_left (fun error _ => hL error)
    intro frameLength hlength
    obtain ⟨hframeLimit, rfl⟩ := u32TryFrom_eq_ok.mp hlength
    apply agree_u32 hframeLimit
    apply agree_ensure_right (by omega)
    have hne : 0 < frame.length := List.length_pos_of_ne_nil (zstd.frame_ne_nil _ _ hcompress)
    apply agree_ensure_right (by omega)
    apply agree_bytes rfl
    rw [zstd.decompress_compress _ _ _ hcompress le_rfl]
    show Agree L R (f ()) (attempt .protocol (ensure (chunk.length = chunk.length) _) >>=
      fun _ => Proc.ret chunk >>= g) Q
    exact agree_ensure_right rfl h

/-- What both ends know after the chunks of a payload: the receiver has hashed and
written the whole content. -/
def ChunksArrive (writeChunk : σ → Bytes → Nat → IoResult σ) (content : Bytes)
    (transferred : Nat) (hashed : Bytes) (state : σ) (sent : Bytes) (received : Bytes × σ) :
    Prop :=
  sent = hashed ++ content.drop transferred ∧ received.1 = sent ∧
    Delivered writeChunk state transferred (content.drop transferred) received.2

/-- The chunks of a compressed payload cross one by one. -/
theorem agree_compressedChunks (hfill : Fills fill content) (hsend : 0 < sendBytes)
    (hbuffers : min compressionChunkBytes sendBytes ≤ receiveBytes)
    (hL : ∀ error, L (.refused error)) (hR : ∀ error, R (.disk error)) :
    ∀ (fuel transferred : Nat) (hashed : Bytes) (state : σ),
      content.length - transferred ≤ fuel →
      Agree L R
        (sendChunks zstd fill content.length sendBytes .compress fuel transferred hashed)
        (receiveChunks zstd writeChunk content.length receiveBytes .compress fuel transferred
          hashed state)
        (ChunksArrive writeChunk content transferred hashed state)
  | 0, transferred, hashed, state, hfuel => by
      have hnil : content.drop transferred = [] := List.drop_eq_nil_of_le (by omega)
      refine Agree.ret ⟨?_, rfl, ?_⟩
      · rw [hnil, List.append_nil]
      · rw [hnil]
        exact .nil state transferred
  | fuel + 1, transferred, hashed, state, hfuel => by
      rw [sendChunks, receiveChunks]
      by_cases hmore : transferred < content.length
      · obtain ⟨hpos, hin, hchunk, hbuffer⟩ := requestedBytes_bounds hsend hmore
        set requested := requestedBytes content.length sendBytes transferred with hrequested
        have hlength : (range content transferred requested).length = requested :=
          range_length hin
        have hreceive : requested ≤ receiveBytes := by
          rw [hrequested, requestedBytes] at hbuffer ⊢
          omega
        rw [if_pos hmore, if_pos hmore, hfill _ _ hin, attempt_ok, Proc.ret_bind]
        apply agree_compressedChunk hL (by omega) (by omega) (by omega) (by omega)
        apply agree_attempt_right (fun error _ => hR error)
        intro next hnext
        rw [hlength]
        refine (agree_compressedChunks hfill hsend hbuffers hL hR fuel
          (transferred + requested) (hashed ++ range content transferred requested) next
          (by omega)).mono ?_
        rintro sent received ⟨hsent, hsame, hdelivered⟩
        have hsplit := drop_eq_range_append content transferred requested
        refine ⟨?_, hsame, ?_⟩
        · rw [hsent, hsplit, List.append_assoc]
        · rw [hsplit]
          exact .cons hnext (by rw [hlength]; exact hdelivered)
      · have hnil : content.drop transferred = [] := List.drop_eq_nil_of_le (by omega)
        rw [if_neg hmore, if_neg hmore]
        refine Agree.ret ⟨?_, rfl, ?_⟩
        · rw [hnil, List.append_nil]
        · rw [hnil]
          exact .nil state transferred

/-- The chunks of a raw payload; the two sides may use different buffers. -/
theorem agree_rawChunks (hfill : Fills fill content) (hsend : 0 < sendBytes)
    (hreceive : 0 < receiveBytes) (hR : ∀ error, R (.disk error)) (state : σ) :
    Agree L R (sendChunks zstd fill content.length sendBytes .sendRaw content.length 0 [])
      (receiveChunks zstd writeChunk content.length receiveBytes .sendRaw content.length 0 []
        state)
      (ChunksArrive writeChunk content 0 [] state) := by
  have hemits := sendChunks_raw_emits zstd hfill hsend content.length 0 [] (by omega)
  rcases receiveChunks_raw_consumes zstd writeChunk hreceive content.length content.length
      0 [] content state (by omega) le_rfl with
    ⟨last, hconsumes, hdelivered⟩ | ⟨error, hconsumes⟩
  · exact Agree.oneWay hemits hconsumes ⟨rfl, rfl, hdelivered⟩
  · exact Agree.consumesError hemits hconsumes (hR error)

/-- A payload arrives: both ends report the same mode, and the writer was given the
content at consecutive offsets.  The receiver's buffer has to hold a chunk of the
sender. -/
theorem agree_payload (hfill : Fills fill content) (hsend : 0 < sendBytes)
    (hbuffers : min compressionChunkBytes sendBytes ≤ receiveBytes)
    (hL : ∀ error, L (.refused error)) (hR : ∀ error, R (.disk error))
    (decision : CompressionDecision) (context : String) (state : σ) :
    Agree L R (sendPayload blake3 zstd fill content.length sendBytes decision)
      (receivePayload blake3 zstd writeChunk content.length receiveBytes context state)
      (fun compressed received => received.1 = compressed ∧
        Delivered writeChunk state 0 content received.2) := by
  have hchunk : 0 < compressionChunkBytes := by norm_num [compressionChunkBytes]
  rw [sendPayload, receivePayload]
  apply agree_ensure_left (by omega)
  apply agree_ensure_right (by omega)
  have hmode : ∀ {g : CompressionDecision → Party (Bool × σ)} {f : Unit → Party Bool}
      {Q : Bool → Bool × σ → Prop}, Agree L R (f ()) (g decision) Q →
      Agree L R (writeMode decision >>= f) (readMode >>= g) Q := by
    intro g f Q h
    unfold readMode
    rw [bind_assoc]
    cases decision with
    | sendRaw => exact agree_u8 h
    | compress => exact agree_u8 h
  apply hmode
  refine Agree.bind (Q := ChunksArrive writeChunk content 0 [] state) ?_ ?_
  · cases decision with
    | sendRaw => exact agree_rawChunks hfill hsend (by omega) hR state
    | compress =>
      exact agree_compressedChunks hfill hsend hbuffers hL hR content.length 0 [] state
        (by omega)
  · rintro sent received ⟨hsent, hsame, hdelivered⟩
    apply agree_digest
    rw [hsame]
    apply agree_ensure_right rfl
    exact Agree.ret ⟨rfl, hdelivered⟩

end

/-! ## Payloads of files -/

/-- A file is read range by range. -/
theorem fills_readExactAt (endOfFile : String) (node : FileNode) (offset length : Nat)
    (h : offset + length ≤ node.content.1.length) :
    Fills (fun transferred requested =>
        readExactAt endOfFile node (offset + transferred) requested)
      (range node.content.1 offset length) := by
  intro transferred requested hin
  rw [range_length h] at hin
  show readExactAt endOfFile node (offset + transferred) requested = _
  rw [readExactAt, if_pos (by omega)]
  congr 1
  rw [range, range, range, List.drop_take, List.drop_drop, List.take_take,
    min_eq_left (by omega)]

/-- Writing a payload piece by piece is writing it at once. -/
theorem delivered_writeAt {path : RelativePath} {offset now : Nat} :
    ∀ {files files' : FileTree} {start : Nat} {bytes content : Bytes},
      Delivered (fun files chunk transferred =>
        FileTree.writeAt files path (offset + transferred) chunk now) files start bytes files' →
      files.contentAt path = some content →
      (bytes = [] → offset + start ≤ content.length) →
      files'.contentAt path = some (overwrite 0 content (offset + start) bytes) ∧
        FileTree.SameExcept [path] files files' := by
  intro files files' start bytes content h
  induction h generalizing content with
  | nil state start =>
    intro hcontent hin
    rw [overwrite_nil 0 (hin rfl)]
    exact ⟨hcontent, .refl _ _⟩
  | @cons state next last start chunk rest hwrite hrest ih =>
    intro hcontent hin
    obtain ⟨hnext, hframe⟩ := FileTree.writeAt_eq_ok hcontent hwrite
    have hlength := overwrite_length_le (0 : UInt8) content (offset + start) chunk
    obtain ⟨hlast, hframe'⟩ := ih hnext (by intro _; omega)
    refine ⟨?_, hframe.trans hframe'⟩
    rw [hlast, ← Nat.add_assoc, overwrite_append]

end NetworkCopy
