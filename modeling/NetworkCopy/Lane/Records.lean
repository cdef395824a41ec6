import NetworkCopy.Lane.Payload
import NetworkCopy.Cdc.Reconstruction
import NetworkCopy.TransferPlan

/-!
# Whole-file and stripe records

A lane sends a medium file as one record and a large file as stripes.  The sender
checks the source file's size and write time before and after it reads it; the
receiver writes into a temporary file, and a whole file is renamed over its final
path when its digest matched.

`LaneEnv` holds what both sides take from outside the program.  `LaneAgree` is the
agreement of a lane: the sender may stop for any reason, the receiver only because a
file operation failed.
-/

namespace NetworkCopy

open Duplex ByteRange

/-- The world of a lane: the hash function, the compressor, the measured decision
whether to compress a range of a file, how a file is read, the time that writes
stamp, and the text (`process ID` and clock) in the name of a reconstruction's
temporary file. -/
structure LaneEnv where
  blake3 : Bytes → Digest
  zstd : Zstd
  probe : FileNode → Nat → Nat → IoResult CompressionDecision
  reads : Bytes → List Bytes
  reads_of : ∀ content, ReadsOf content (reads content)
  readSizes : ReadSizes
  now : Nat
  uniqueText : String

/-- `COPY_BUFFER_BYTES`. -/
@[irreducible] def copyBufferBytes : Nat := 8 * 1024 * 1024

/-- `MESSAGE_FILE`. -/
def messageFile : UInt8 := 0x31

/-- `MESSAGE_FILE_STRIPE`. -/
def messageFileStripe : UInt8 := 0x34

/-- The sender of a lane may stop for any reason. -/
def AnyFault : Fault → Prop := fun _ => True

/-- Agreement of the two sides of a lane. -/
abbrev LaneAgree {α β : Type} (p : Party α) (q : Party β) (Q : α → β → Prop) : Prop :=
  Agree AnyFault Fault.IsDisk p q Q

theorem lane_attempt_left {α β γ : Type} {kind : IoError → Fault} {result : IoResult γ}
    {f : γ → Party α} {q : Party β} {Q : α → β → Prop}
    (h : ∀ a, result = .ok a → LaneAgree (f a) q Q) : LaneAgree (attempt kind result >>= f) q Q :=
  agree_attempt_left (fun _ _ => trivial) h

/-- The text of `Read::read_exact` for an early end. -/
def failedToFill : String := "failed to fill whole buffer"

/-- The text of `read_exact_at` for an early end. -/
def positionalReadEnded : String := "positional compression read ended unexpectedly"

/-- `validate_source_metadata`. -/
def validateSourceMetadata (file : FileNode) (entry : ManifestEntry) : IoResult Unit := do
  let currentSize := file.content.1.length
  let expectedSize := entry.fileSize
  ensure (currentSize = expectedSize)
    (.invalidData
      (s!"source size changed after scanning: expected {expectedSize} bytes, found " ++
        s!"{currentSize}: " ++ displayPath entry.relativePath))
  let currentTime := file.lastWriteTime
  let expectedTime := entry.lastWriteTime
  ensure (currentTime = expectedTime)
    (.invalidData
      (s!"source last-write time changed after scanning: expected {expectedTime}, found " ++
        s!"{currentTime}: " ++ displayPath entry.relativePath))

variable {entry : ManifestEntry}

theorem validateSourceMetadata_eq_ok {file : FileNode} {u : Unit} :
    validateSourceMetadata file entry = .ok u ↔
      file.content.1.length = entry.fileSize ∧ file.lastWriteTime = entry.lastWriteTime := by
  unfold validateSourceMetadata
  simp only [bind_eq_ok, ensure_eq_ok, exists_const]

/-! ## Whole files -/

/-- `send_whole_file` behind its message byte. -/
def sendFileRecord (env : LaneEnv) (source : FileTree) (fileId : Nat)
    (entry : ManifestEntry) : Party Bool := do
  let wireId ← attempt .refused
    (u64TryFrom fileId (.invalidInput "file ID cannot be represented"))
  writeU64 wireId
  writeU64 entry.fileSize
  let file ← attempt .disk (source.openFile entry.relativePath)
  attempt .refused (validateSourceMetadata file entry)
  let decision ← attempt .disk (env.probe file 0 entry.fileSize)
  let compressed ← sendPayload env.blake3 env.zstd
    (fun transferred requested => readExactAt failedToFill file (0 + transferred) requested)
    entry.fileSize copyBufferBytes decision
  attempt .refused (validateSourceMetadata file entry)
  return compressed

/-- `send_whole_file`. -/
def sendWholeFile (env : LaneEnv) (source : FileTree) (fileId : Nat)
    (entry : ManifestEntry) : Party Bool := do
  writeU8 messageFile
  sendFileRecord env source fileId entry

/-- `receive_file`.  The cleanup of the temporary file on an error is part of the
session model. -/
def receiveFile (env : LaneEnv) (files : FileTree) (fileId : Nat) (entry : ManifestEntry) :
    Party (Bool × FileTree) := do
  let temporary := temporaryPath entry.relativePath fileId
  let files ← attempt .disk (files.createNew temporary env.now)
  let files ← attempt .disk (files.setLen temporary entry.fileSize env.now)
  let received ← receivePayload env.blake3 env.zstd
    (fun files chunk transferred =>
      FileTree.writeAt files temporary (0 + transferred) chunk env.now)
    entry.fileSize copyBufferBytes
    (s!"file {fileId} (" ++ displayPath entry.relativePath ++ ")") files
  let files ← attempt .disk (received.2.replace temporary entry.relativePath)
  return (received.1, files)

/-- The part of `receive_lane` that reads the header of a whole file, behind its
message byte. -/
def receiveWholeFile (env : LaneEnv) (files : FileTree) (fileId : Nat)
    (entry : ManifestEntry) (message : UInt8) : Party (Bool × FileTree) := do
  attempt .protocol (ensure (message = messageFile)
    (.invalidData ("expected whole-file message, received 0x" ++ hexUpper 2 message.toNat)))
  let announcedFileId ← readU64
  attempt .protocol (ensure (announcedFileId = fileId)
    (.invalidData s!"received file ID {announcedFileId}, expected {fileId}"))
  let announcedSize ← readU64
  let expectedSize := entry.fileSize
  attempt .protocol (ensure (announcedSize = expectedSize)
    (.invalidData
      (s!"file {fileId} announced {announcedSize} bytes but manifest expects " ++
        s!"{expectedSize}")))
  receiveFile env files fileId entry

/-- The file at a path is the source's file, and nothing else has changed. -/
def Placed (source files files' : FileTree) (path : RelativePath) : Prop :=
  (source.contentAt path).isSome ∧ files'.contentAt path = source.contentAt path ∧
    FileTree.SameExcept [path] files files'

/-- Receiving a whole file places it. -/
theorem agree_receiveFile (env : LaneEnv) {source : FileTree} (files : FileTree) {fileId : Nat}
    {file : FileNode} (hfile : source.openFile entry.relativePath = .ok file)
    (hsize : file.content.1.length = entry.fileSize) (decision : CompressionDecision) :
    LaneAgree
      (sendPayload env.blake3 env.zstd
        (fun transferred requested =>
          readExactAt failedToFill file (0 + transferred) requested)
        entry.fileSize copyBufferBytes decision)
      (receiveFile env files fileId entry)
      (fun compressed received => received.1 = compressed ∧
        Placed source files received.2 entry.relativePath) := by
  have hbuffer : 0 < copyBufferBytes := by norm_num [copyBufferBytes]
  have hfill := fills_readExactAt failedToFill file 0 entry.fileSize (by omega)
  have hwhole : range file.content.1 0 entry.fileSize = file.content.1 := by
    rw [range, List.drop_zero, ← hsize, List.take_length]
  rw [hwhole] at hfill
  unfold receiveFile
  apply agree_attempt_right (fun _ _ => trivial)
  intro created hcreated
  obtain ⟨hfree, hempty, hframe₁⟩ := FileTree.createNew_eq_ok hcreated
  apply agree_attempt_right (fun _ _ => trivial)
  intro sized hsized
  obtain ⟨hresized, hframe₂⟩ := FileTree.setLen_eq_ok hempty hsized
  rw [← hsize] at hresized ⊢
  rw [← bind_pure (sendPayload _ _ _ _ _ _)]
  refine Agree.bind (agree_payload hfill hbuffer (by omega) (fun _ => trivial)
    (fun _ => trivial) decision _ sized) ?_
  rintro compressed ⟨compressed', written⟩ ⟨hsame, hdelivered⟩
  obtain ⟨hwritten, hframe₃⟩ := delivered_writeAt hdelivered hresized (by intro _; omega)
  have hcontent : overwrite 0 (resize 0 [] file.content.1.length) (0 + 0) file.content.1 =
      file.content.1 := overwrite_all 0 (by rw [resize_length])
  rw [hcontent] at hwritten
  apply agree_attempt_right (fun _ _ => trivial)
  intro placed hplaced
  obtain ⟨hfinal, hframe₄⟩ := FileTree.replace_eq_ok hwritten hplaced
  have hsource := FileTree.contentAt_of_openFile hfile
  refine Agree.ret ⟨hsame, by rw [hsource]; rfl, by rw [hfinal, hsource], ?_⟩
  have hsub : [temporaryPath entry.relativePath fileId] ⊆
      [temporaryPath entry.relativePath fileId, entry.relativePath] := by simp
  exact ((((hframe₁.trans hframe₂).trans hframe₃).mono hsub).trans hframe₄).drop hfree
    (FileTree.replace_frees (temporaryPath_ne _ _) hplaced)

/-- A whole-file record places the file; the two sides agree whether it was
compressed. -/
theorem agree_wholeFile (env : LaneEnv) (source files : FileTree) (fileId : Nat)
    (entry : ManifestEntry) :
    LaneAgree (sendFileRecord env source fileId entry)
      (receiveWholeFile env files fileId entry messageFile)
      (fun compressed received => received.1 = compressed ∧
        Placed source files received.2 entry.relativePath) := by
  unfold sendFileRecord receiveWholeFile
  apply agree_ensure_right rfl
  apply lane_attempt_left
  intro wireId hwireId
  obtain ⟨hlimit, rfl⟩ := u64TryFrom_eq_ok.mp hwireId
  apply agree_u64 hlimit
  apply agree_ensure_right rfl
  apply agree_u64 entry.fileSize_lt
  apply agree_ensure_right rfl
  apply lane_attempt_left
  intro file hfile
  apply lane_attempt_left
  intro _ hvalid
  have hsize := (validateSourceMetadata_eq_ok.mp hvalid).1
  apply lane_attempt_left
  intro decision _
  rw [← bind_pure (receiveFile env files wireId entry)]
  refine Agree.bind (agree_receiveFile env files hfile hsize decision) ?_
  intro compressed received hreceived
  apply lane_attempt_left
  intro _ _
  exact Agree.ret hreceived

/-! ## Stripes -/

/-- `validate_stripe`. -/
def validateStripe (entry : ManifestEntry) (offset length : Nat) : IoResult Unit := do
  ensure (entry.fileClass = .large) (.invalidData "stripe was assigned to a non-large file")
  let rangeEnd ← okOrElse (checkedAdd offset length) (.invalidData "stripe range overflowed")
  let fileSize := entry.fileSize
  ensure (¬ (length = 0 ∨ fileSize < rangeEnd))
    (.invalidData s!"stripe range {offset}..{rangeEnd} exceeds file length {fileSize}")

theorem validateStripe_eq_ok {offset length : Nat} {u : Unit}
    (h : validateStripe entry offset length = .ok u) :
    offset + length < u64Limit ∧ 0 < length ∧ offset + length ≤ entry.fileSize := by
  unfold validateStripe at h
  obtain ⟨_, h⟩ := bind_rest h
  obtain ⟨rangeEnd, hend, h⟩ := bind_eq_ok.mp h
  obtain ⟨hlimit, rfl⟩ := checkedAdd_eq_some.mp (okOrElse_eq_ok.mp hend)
  rw [ensure_eq_ok] at h
  omega

/-- `send_file_stripe`. -/
def sendFileStripe (env : LaneEnv) (source : FileTree) (entry : ManifestEntry)
    (fileId offset length : Nat) : Party Bool := do
  attempt .refused (validateStripe entry offset length)
  writeU8 messageFileStripe
  let wireId ← attempt .refused
    (u64TryFrom fileId (.invalidInput "striped file ID cannot be represented"))
  writeU64 wireId
  writeU64 offset
  writeU64 length
  let file ← attempt .disk (source.openFile entry.relativePath)
  attempt .refused (validateSourceMetadata file entry)
  let decision ← attempt .disk (env.probe file offset length)
  let _ ← attempt .refused
    (okOrElse (checkedAdd offset length) (.other "stripe description overflowed"))
  let compressed ← sendPayload env.blake3 env.zstd
    (fun transferred requested =>
      readExactAt positionalReadEnded file (offset + transferred) requested)
    length copyBufferBytes decision
  attempt .refused (validateSourceMetadata file entry)
  return compressed

/-- `receive_file_stripe`. -/
def receiveFileStripe (env : LaneEnv) (files : FileTree) (entry : ManifestEntry)
    (fileId offset length : Nat) : Party (Bool × FileTree) := do
  attempt .refused (validateStripe entry offset length)
  let temporary := temporaryPath entry.relativePath fileId
  let _ ← attempt .disk (files.openFile temporary)
  let stripeEnd ← attempt .refused
    (okOrElse (checkedAdd offset length) (.other "stripe description overflowed"))
  receivePayload env.blake3 env.zstd
    (fun files chunk transferred =>
      FileTree.writeAt files temporary (offset + transferred) chunk env.now)
    length copyBufferBytes
    (s!"file {fileId} stripe {offset}..{stripeEnd} (" ++ displayPath entry.relativePath ++
      ")") files

/-- The part of `receive_lane` that reads the header of a stripe. -/
def receiveStripe (env : LaneEnv) (files : FileTree) (manifest : Manifest)
    (fileId offset length : Nat) : Party (Bool × FileTree) := do
  let message ← readU8
  attempt .protocol (ensure (message = messageFileStripe)
    (.invalidData ("expected stripe message, received 0x" ++ hexUpper 2 message.toNat)))
  let announcedFileId ← readU64
  let announcedOffset ← readU64
  let announcedLength ← readU64
  attempt .protocol (ensure
    (¬ (announcedFileId ≠ fileId ∨ announcedOffset ≠ offset ∨ announcedLength ≠ length))
    (.invalidData
      (s!"received stripe ({announcedFileId}, {announcedOffset}, {announcedLength}), " ++
        s!"expected ({fileId}, {offset}, {length})")))
  let entry ← attempt .protocol (okOrElse manifest[fileId]?
    (.invalidData s!"received unknown striped file ID {fileId}"))
  receiveFileStripe env files entry fileId offset length

/-- The stripe's bytes stand at their offset of the temporary file, which was there
before and is otherwise as it was. -/
def Striped (source files files' : FileTree) (fileId offset length : Nat)
    (entry : ManifestEntry) : Prop :=
  0 < length ∧ ∃ sourceBytes before,
    source.contentAt entry.relativePath = some sourceBytes ∧
    offset + length ≤ sourceBytes.length ∧
    files.contentAt (temporaryPath entry.relativePath fileId) = some before ∧
    files'.contentAt (temporaryPath entry.relativePath fileId) =
      some (overwrite 0 before offset (range sourceBytes offset length)) ∧
    FileTree.SameExcept [temporaryPath entry.relativePath fileId] files files'

/-- A stripe record writes the stripe into the temporary file. -/
theorem agree_stripe (env : LaneEnv) (source files : FileTree) {manifest : Manifest}
    {fileId : Nat} (hentry : manifest[fileId]? = some entry) (offset length : Nat) :
    LaneAgree (sendFileStripe env source entry fileId offset length)
      (receiveStripe env files manifest fileId offset length)
      (fun compressed received => received.1 = compressed ∧
        Striped source files received.2 fileId offset length entry) := by
  unfold sendFileStripe receiveStripe receiveFileStripe
  apply lane_attempt_left
  intro _ hstripe
  obtain ⟨hlimit, hpositive, hinside⟩ := validateStripe_eq_ok hstripe
  apply agree_u8
  apply agree_ensure_right rfl
  apply lane_attempt_left
  intro wireId hwireId
  obtain ⟨hidLimit, rfl⟩ := u64TryFrom_eq_ok.mp hwireId
  apply agree_u64 hidLimit
  apply agree_u64 (by omega)
  apply agree_u64 (by omega)
  apply agree_ensure_right (by simp)
  rw [hentry, okOrElse_some, attempt_ok, Proc.ret_bind, hstripe, attempt_ok, Proc.ret_bind]
  apply agree_attempt_right (fun _ _ => trivial)
  intro opened hopened
  have hbefore := FileTree.contentAt_of_openFile hopened
  apply lane_attempt_left
  intro file hfile
  have hsource := FileTree.contentAt_of_openFile hfile
  apply lane_attempt_left
  intro _ hvalid
  have hsize := (validateSourceMetadata_eq_ok.mp hvalid).1
  apply lane_attempt_left
  intro decision _
  have hadd : checkedAdd offset length = some (offset + length) :=
    checkedAdd_eq_some.mpr ⟨hlimit, rfl⟩
  rw [hadd, okOrElse_some, attempt_ok, Proc.ret_bind, Proc.ret_bind]
  have hbuffer : 0 < copyBufferBytes := by norm_num [copyBufferBytes]
  have hrange : (range file.content.1 offset length).length = length :=
    range_length (by omega)
  have hfill := fills_readExactAt positionalReadEnded file offset length (by omega)
  -- The payload is the range of the source file, and its length is the stripe's.
  generalize hbytes : range file.content.1 offset length = bytes at hrange hfill
  subst hrange
  rw [← bind_pure (receivePayload _ _ _ _ _ _ _)]
  refine Agree.bind (agree_payload hfill hbuffer (by omega) (fun _ => trivial)
    (fun _ => trivial) decision _ files) ?_
  rintro compressed ⟨compressed', written⟩ ⟨hsame, hdelivered⟩
  have hne : bytes ≠ [] := by
    rintro rfl
    simp at hpositive
  obtain ⟨hwritten, hframe⟩ := delivered_writeAt hdelivered hbefore (fun h => absurd h hne)
  apply lane_attempt_left
  intro _ _
  refine Agree.ret ⟨hsame, hpositive, file.content.1, opened.content.1, hsource, ?_, hbefore,
    ?_, hframe⟩
  · rw [hsize]
    exact hinside
  · rw [hbytes]
    exact hwritten

end NetworkCopy
