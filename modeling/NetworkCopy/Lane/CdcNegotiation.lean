import NetworkCopy.Lane.Records
import NetworkCopy.Cdc.EndToEnd

/-!
# The per-file CDC negotiation

`cdc_lane.rs`: before a whole file is sent to a destination that has an older version
of it, the receiver offers an index of that version.  The sender answers with a
reconstruction plan, or declines when the plan would not pay off, and the file
travels as an ordinary record.  Both sides count what was exchanged.

The negotiation agrees whatever the destination holds: absent, too small, different
or usable.  BLAKE3 enters as a function; what the receiver reconstructs is the source
file unless two different chunks of the two files share a digest.
-/

namespace NetworkCopy

open Duplex ByteRange

/-- `MESSAGE_CDC_UNAVAILABLE`. -/
def messageCdcUnavailable : UInt8 := 0x38

/-- `MESSAGE_CDC_INDEX`. -/
def messageCdcIndex : UInt8 := 0x39

/-- `MESSAGE_CDC_FALLBACK`. -/
def messageCdcFallback : UInt8 := 0x3A

/-- `MESSAGE_CDC_PLAN`. -/
def messageCdcPlan : UInt8 := 0x3B

/-- `MINIMUM_FILE_BYTES`. -/
@[irreducible] def minimumFileBytes : Nat := 1024 * 1024

/-- `MAXIMUM_LITERAL_BYTES`. -/
@[irreducible] def maximumLiteralBytes : Nat := 16 * 1024 * 1024

/-- `MAXIMUM_INDEX_WIRE_BYTES`. -/
@[irreducible] def maximumIndexWireBytes : Nat := 4 * 1024 * 1024

/-- `MAXIMUM_PLAN_WIRE_BYTES`. -/
@[irreducible] def maximumPlanWireBytes : Nat := 20 * 1024 * 1024

/-- `CdcLaneDecision`. -/
structure CdcLaneDecision where
  completed : Bool
  stats : CdcLaneStats
  deriving DecidableEq

/-- The decision of both sides when no index was offered. -/
def unavailableDecision : CdcLaneDecision := { completed := false, stats := {} }

/-! ## Fields and files -/

/-- `read_payload`. -/
def readPayload (maximumBytes : Nat) (description : String) : Party Bytes := do
  let wireBytes ← readU64
  attempt .protocol (ensure (¬ (wireBytes = 0 ∨ maximumBytes < wireBytes))
    (.invalidData
      (description ++ s!" contains {wireBytes} bytes; supported range is " ++
        s!"1..={maximumBytes}")))
  Proc.read wireBytes

/-- `validate_file_id`. -/
def validateFileId (announced expected : Nat) (description : String) : IoResult Unit :=
  ensure (announced = expected)
    (.invalidData (description ++ s!" referenced file {announced}, expected {expected}"))

/-- `write_file_id`. -/
def writeFileId (fileId : Nat) : Party Unit := do
  let wireId ← attempt .refused
    (u64TryFrom fileId (.invalidInput "CDC file ID cannot be represented"))
  writeU64 wireId

/-- `validate_source` and `session_cdc_lane::validate_source_file`. -/
def validateSourceFile (description : String) (files : FileTree) (entry : ManifestEntry) :
    Party Unit :=
  let path := displayPath entry.relativePath
  match files entry.relativePath with
  | none => attempt .disk (.error (osError .notFound))
  | some .directory =>
      attempt .refused (.error (.invalidData
        (description ++ " is not a regular file: " ++ path)))
  | some (.file node) => do
      attempt .refused (ensure (node.isReparsePoint = false)
        (.invalidData (description ++ " is not a regular file: " ++ path)))
      let currentSize := node.content.1.length
      let expectedSize := entry.fileSize
      attempt .refused (ensure (currentSize = expectedSize)
        (.invalidData
          (description ++ s!" size changed after scanning: expected {expectedSize}, found " ++
            s!"{currentSize}: " ++ path)))
      let currentTime := node.lastWriteTime
      let expectedTime := entry.lastWriteTime
      attempt .refused (ensure (currentTime = expectedTime)
        (.invalidData
          (description ++ s!" last-write time changed after scanning: expected " ++
            s!"{expectedTime}, found {currentTime}: " ++ path)))

/-- `BasisFileIndex::build` with the default average. -/
def buildIndex (env : LaneEnv) (files : FileTree) (path : RelativePath) :
    IoResult BasisFileIndex := do
  let node ← files.openFile path
  BasisFileIndex.buildFromReader env.blake3 (env.reads node.content.1) node.content.1.length
    defaultAverageKib

/-- `ReconstructionPlan::build_bounded` on a file. -/
def buildPlan (env : LaneEnv) (files : FileTree) (path : RelativePath)
    (index : BasisFileIndex) : IoResult ReconstructionPlan := do
  let node ← files.openFile path
  ReconstructionPlan.buildBounded env.blake3 (env.reads node.content.1)
    node.content.1.length index maximumLiteralBytes

/-- `temporary_path` of `cdc_reconstruction_bench.rs`. -/
def reconstructionPath (env : LaneEnv) (outputPath : RelativePath) : RelativePath :=
  outputPath ++ utf16 (".ncs-cdc-part-" ++ env.uniqueText)

theorem reconstructionPath_ne (env : LaneEnv) (outputPath : RelativePath) :
    reconstructionPath env outputPath ≠ outputPath := by
  apply append_utf16_ne
  simp [utf16]

/-- `reconstruct_verified`. -/
def reconstructVerified (env : LaneEnv) (files : FileTree)
    (basisPath outputPath : RelativePath) (expectedBasisBytes : Nat)
    (plan : ReconstructionPlan) : Party FileTree := do
  let temporary := reconstructionPath env outputPath
  let basis ← attempt .disk (files.openFile basisPath)
  let actualBasisBytes := basis.content.1.length
  attempt .protocol (ensure (actualBasisBytes = expectedBasisBytes)
    (.invalidData
      (s!"basis file size changed: expected {expectedBasisBytes}, found " ++
        s!"{actualBasisBytes}")))
  let files ← attempt .disk (files.createNew temporary env.now)
  let output ← attempt .protocol
    (reconstruct env.blake3 env.readSizes basis.content.1 expectedBasisBytes plan)
  let files ← attempt .disk (files.writeAt temporary 0 output env.now)
  attempt .disk (files.replace temporary outputPath)

/-! ## The two sides -/

/-- `send_fallback`. -/
def sendFallback (fileId : Nat) (stats : CdcLaneStats) : Party CdcLaneDecision := do
  writeU8 messageCdcFallback
  writeFileId fileId
  return { completed := false, stats := { stats with fallbackFiles := 1 } }

/-- The answer of `sender_negotiate` to a valid index. -/
def answerIndex (env : LaneEnv) (source : FileTree) (fileId : Nat) (entry : ManifestEntry)
    (indexWireBytes : Nat) (index : BasisFileIndex) : Party CdcLaneDecision := do
  let stats : CdcLaneStats := { offeredFiles := 1, indexWireBytes }
  validateSourceFile "CDC source" source entry
  match buildPlan env source entry.relativePath index with
  | .error error =>
      if isLiteralLimitExceeded error then sendFallback fileId stats
      else attempt .refused (.error error)
  | .ok plan => do
      validateSourceFile "CDC source" source entry
      let planWire ← attempt .refused plan.encodeWire
      if maximumPlanWireBytes < planWire.length then sendFallback fileId stats
      else do
        let totalCdcWire ← attempt .refused
          (addCounter indexWireBytes planWire.length "CDC combined wire length overflowed")
        if entry.fileSize ≤ totalCdcWire then sendFallback fileId stats
        else do
          writeU8 messageCdcPlan
          writeFileId fileId
          writeU64 planWire.length
          Proc.write planWire
          return { completed := true
                   stats := { stats with
                     completedFiles := 1, logicalBytes := entry.fileSize
                     reusedBytes := plan.referencedBytes, literalBytes := plan.literalBytes
                     planWireBytes := planWire.length } }

/-- `sender_negotiate`. -/
def senderNegotiate (env : LaneEnv) (source : FileTree) (fileId : Nat)
    (entry : ManifestEntry) : Party CdcLaneDecision := do
  let message ← readU8
  if message = messageCdcUnavailable then do
    let announced ← readU64
    attempt .protocol (validateFileId announced fileId "CDC unavailable offer")
    return unavailableDecision
  else if message = messageCdcIndex then do
    let announced ← readU64
    attempt .protocol (validateFileId announced fileId "CDC index offer")
    let indexWire ← readPayload maximumIndexWireBytes "CDC index"
    let index ← attempt .protocol (BasisFileIndex.decodeWire indexWire)
    let offered := index.averageKib
    attempt .protocol (ensure (offered = defaultAverageKib)
      (.invalidData
        (s!"receiver offered CDC average {offered} KiB; this protocol slice requires " ++
          s!"{defaultAverageKib} KiB")))
    answerIndex env source fileId entry indexWire.length index
  else
    attempt .protocol (.error (.invalidData
      ("received unknown CDC offer message 0x" ++ hexUpper 2 message.toNat)))

/-- `send_unavailable`, with the decision that the receiver returns then. -/
def sendUnavailable (files : FileTree) (fileId : Nat) :
    Party (CdcLaneDecision × FileTree) := do
  writeU8 messageCdcUnavailable
  writeFileId fileId
  return (unavailableDecision, files)

/-- `eligible_basis`. -/
def eligibleBasis (files : FileTree) (path : RelativePath) : Bool :=
  match files path with
  | some (.file node) => decide (0 < node.content.1.length) && !node.isReparsePoint
  | _ => false

/-- The rest of `receiver_negotiate` behind the offer. -/
def receiveAnswer (env : LaneEnv) (files : FileTree) (fileId : Nat) (entry : ManifestEntry)
    (expectedBasisBytes indexWireBytes : Nat) : Party (CdcLaneDecision × FileTree) := do
  let response ← readU8
  let announced ← readU64
  attempt .protocol (validateFileId announced fileId "CDC sender response")
  let stats : CdcLaneStats := { offeredFiles := 1, indexWireBytes }
  if response = messageCdcFallback then
    return ({ completed := false, stats := { stats with fallbackFiles := 1 } }, files)
  else if response = messageCdcPlan then do
    let planWire ← readPayload maximumPlanWireBytes "CDC reconstruction plan"
    let plan ← attempt .protocol (ReconstructionPlan.decodeWire planWire)
    let targetBytes := plan.targetBytes
    let fileSize := entry.fileSize
    attempt .protocol (ensure (targetBytes = fileSize)
      (.invalidData
        (s!"CDC plan targets {targetBytes} bytes, but manifest file {fileId} requires " ++
          s!"{fileSize}")))
    attempt .protocol (ensure (plan.literalBytes ≤ maximumLiteralBytes)
      (.invalidData "CDC plan exceeds the negotiated literal staging limit"))
    let totalCdcWire ← attempt .protocol
      (addCounter indexWireBytes planWire.length "CDC combined wire length overflowed")
    attempt .protocol (ensure (totalCdcWire < fileSize)
      (.invalidData
        "sender selected CDC even though ordinary transfer would be smaller"))
    let files ← reconstructVerified env files entry.relativePath entry.relativePath
      expectedBasisBytes plan
    return ({ completed := true
              stats := { stats with
                completedFiles := 1, logicalBytes := fileSize
                reusedBytes := plan.referencedBytes, literalBytes := plan.literalBytes
                planWireBytes := planWire.length } }, files)
  else
    attempt .protocol (.error (.invalidData
      ("received unknown CDC sender response 0x" ++ hexUpper 2 response.toNat)))

/-- `receiver_negotiate`. -/
def receiverNegotiate (env : LaneEnv) (files : FileTree) (fileId : Nat)
    (entry : ManifestEntry) (enabled : Bool) : Party (CdcLaneDecision × FileTree) :=
  if enabled = false ∨ ¬ (entry.fileClass = .medium ∨ entry.fileClass = .large) ∨
      entry.fileSize < minimumFileBytes then
    sendUnavailable files fileId
  else if eligibleBasis files entry.relativePath = false then sendUnavailable files fileId
  else
    match buildIndex env files entry.relativePath with
    | .error _ => sendUnavailable files fileId
    | .ok index => do
        let indexWire ← attempt .refused index.encodeWire
        if maximumIndexWireBytes < indexWire.length then sendUnavailable files fileId
        else do
          writeU8 messageCdcIndex
          writeFileId fileId
          writeU64 indexWire.length
          Proc.write indexWire
          receiveAnswer env files fileId entry index.fileBytes indexWire.length

/-! ## Agreement -/

/-- The source file is the one that the manifest describes. -/
def SourceUnchanged (source : FileTree) (entry : ManifestEntry) : Prop :=
  ∃ node, source entry.relativePath = some (.file node) ∧ node.isReparsePoint = false ∧
    node.content.1.length = entry.fileSize ∧ node.lastWriteTime = entry.lastWriteTime

/-- A reconstruction can be published: its temporary name is free, and no directory
stands in its place. -/
def Publishable (env : LaneEnv) (files : FileTree) (outputPath : RelativePath) : Prop :=
  files (reconstructionPath env outputPath) = none ∧ files outputPath ≠ some .directory

section

variable {α β : Type} {L R : Fault → Prop} {Q : α → β → Prop} {env : LaneEnv}
  {source files : FileTree} {fileId : Nat} {entry : ManifestEntry}
variable {basisPath outputPath : RelativePath} {description : String} {f : Unit → Party α}

theorem fromAverageKib_default :
    ChunkConfig.fromAverageKib defaultAverageKib = .ok defaultChunkConfig := by
  decide +kernel

/-- Indexing a file computes the index of its content. -/
theorem buildIndex_eq (env : LaneEnv) {files : FileTree} {path : RelativePath}
    {node : FileNode} (hopen : files.openFile path = .ok node) :
    buildIndex env files path =
      .ok (indexOf env.blake3 defaultAverageKib defaultChunkConfig node.content.1) := by
  rw [buildIndex, hopen, ok_bind]
  exact BasisFileIndex.buildFromReader_eq env.blake3 fromAverageKib_default
    (env.reads_of _) (node.content.2.trans fileSizeLimit_lt)

/-- A source file that is unchanged passes the check; one that passes has the manifest's
size. -/
theorem agree_validateSourceFile {q : Party β}
    (hL : SourceUnchanged source entry ∨ ∀ fault, L fault)
    (h : ∀ node, source entry.relativePath = some (.file node) →
      node.content.1.length = entry.fileSize → Agree L R (f ()) q Q) :
    Agree L R (validateSourceFile description source entry >>= f) q Q := by
  unfold validateSourceFile
  rcases hL with ⟨node, hnode, hregular, hsize, htime⟩ | hL
  · rw [hnode]
    simp only [bind_assoc]
    apply agree_ensure_left hregular
    apply agree_ensure_left hsize
    apply agree_ensure_left htime
    exact h node hnode hsize
  · split
    · exact Agree.failLeft (hL _)
    · exact Agree.failLeft (hL _)
    · rename_i node hnode
      simp only [bind_assoc]
      apply agree_attempt_left (fun _ _ => hL _)
      intro _ _
      apply agree_attempt_left (fun _ _ => hL _)
      intro _ hsize
      apply agree_attempt_left (fun _ _ => hL _)
      intro _ _
      exact h node hnode (ensure_eq_ok.mp hsize)

theorem agree_fileId (hlimit : fileId < u64Limit) {g : Nat → Party β}
    (h : Agree L R (f ()) (g fileId) Q) :
    Agree L R (writeFileId fileId >>= f) (readU64 >>= g) Q := by
  rw [writeFileId, u64TryFrom, if_pos hlimit, attempt_ok, Proc.ret_bind]
  exact agree_u64 hlimit h

theorem agree_fileId_back (hlimit : fileId < u64Limit) {f : Nat → Party α}
    {g : Unit → Party β} (h : Agree L R (f fileId) (g ()) Q) :
    Agree L R (readU64 >>= f) (writeFileId fileId >>= g) Q :=
  (agree_fileId hlimit h.swap).swap

/-- Executing a usable plan reconstructs the source's file.  It fails only when it cannot
be published. -/
theorem reconstructVerified_eq {basis candidate : Bytes} {plan : ReconstructionPlan}
    (hbasis : files.contentAt basisPath = some basis)
    (hsource : source.contentAt outputPath = some candidate)
    (hplan : reconstruct env.blake3 env.readSizes basis basis.length plan = .ok candidate) :
    (∃ files', reconstructVerified env files basisPath outputPath basis.length plan =
        .ret files' ∧ Placed source files files' outputPath) ∨
      (¬ Publishable env files outputPath ∧ ∃ e,
        reconstructVerified env files basisPath outputPath basis.length plan =
          .fail (.disk e)) := by
  have hne := reconstructionPath_ne env outputPath
  obtain ⟨basisNode, hbasisNode, rfl⟩ := FileTree.contentAt_eq_some.mp hbasis
  obtain ⟨sourceNode, hsourceNode, rfl⟩ := FileTree.contentAt_eq_some.mp hsource
  unfold reconstructVerified
  rw [FileTree.openFile_eq_ok.mpr hbasisNode, attempt_ok, Proc.ret_bind]
  dsimp only
  rw [ensure, if_pos rfl, attempt_ok, Proc.ret_bind, hplan]
  cases hcreated : files.createNew (reconstructionPath env outputPath) env.now with
  | error e =>
    refine .inr ⟨?_, e, rfl⟩
    rintro ⟨hfree, _⟩
    obtain ⟨created, hok⟩ := FileTree.createNew_of_none hfree env.now
    rw [hcreated] at hok
    cases hok
  | ok created =>
    obtain ⟨hfree, hempty, hframe₁⟩ := FileTree.createNew_eq_ok hcreated
    have hall : overwrite 0 [] 0 sourceNode.content.1 = sourceNode.content.1 := by
      simp [overwrite, resize]
    obtain ⟨written, hwritten⟩ := FileTree.writeAt_of_contentAt hempty env.now
      (by rw [hall]; exact sourceNode.content.2)
    obtain ⟨hoverwritten, hframe₂⟩ := FileTree.writeAt_eq_ok hempty hwritten
    rw [hall] at hoverwritten
    have hkept := (hframe₁.trans hframe₂) outputPath (by simpa using hne.symm)
    simp only [attempt_ok, Proc.ret_bind, hwritten]
    cases hreplaced : written.replace (reconstructionPath env outputPath) outputPath with
    | error e =>
      refine .inr ⟨?_, e, rfl⟩
      rintro ⟨_, hplace⟩
      obtain ⟨replaced, hok⟩ := FileTree.replace_of_contentAt hoverwritten
        (by rw [hkept]; exact hplace)
      rw [hreplaced] at hok
      cases hok
    | ok replaced =>
      obtain ⟨hfinal, hframe₃⟩ := FileTree.replace_eq_ok hoverwritten hreplaced
      have hsub : [reconstructionPath env outputPath] ⊆
          [reconstructionPath env outputPath, outputPath] := by simp
      refine .inl ⟨replaced, rfl, by rw [hsource]; rfl, by rw [hfinal, hsource], ?_⟩
      exact (((hframe₁.trans hframe₂).mono hsub).trans hframe₃).drop hfree
        (FileTree.replace_frees hne hreplaced)

theorem agree_reconstructVerified {p : Party α} {g : FileTree → Party β}
    {basis candidate : Bytes} {plan : ReconstructionPlan}
    (hR : Publishable env files outputPath ∨ ∀ e, R (.disk e))
    (hbasis : files.contentAt basisPath = some basis)
    (hsource : source.contentAt outputPath = some candidate)
    (hplan : reconstruct env.blake3 env.readSizes basis basis.length plan = .ok candidate)
    (h : ∀ files', Placed source files files' outputPath → Agree L R p (g files') Q) :
    Agree L R p
      (reconstructVerified env files basisPath outputPath basis.length plan >>= g) Q := by
  rcases reconstructVerified_eq hbasis hsource hplan with
    ⟨files', hok, hplaced⟩ | ⟨hblocked, e, hfail⟩
  · rw [hok, Proc.ret_bind]
    exact h files' hplaced
  · rw [hfail, Proc.fail_bind]
    rcases hR with hpublishable | hR
    · exact absurd hpublishable hblocked
    · exact Agree.failRight (hR e)

/-- What both sides know after the negotiation of a file. -/
def Negotiated (source files : FileTree) (path : RelativePath)
    (sent : CdcLaneDecision) (received : CdcLaneDecision × FileTree) : Prop :=
  received.1 = sent ∧
    if sent.completed then Placed source files received.2 path
    else received.2 = files

/-- No index, no plan. -/
theorem agree_unavailable (env : LaneEnv) (source files : FileTree)
    (entry : ManifestEntry) (hlimit : fileId < u64Limit) :
    Agree L R (senderNegotiate env source fileId entry) (sendUnavailable files fileId)
      (Negotiated source files entry.relativePath) := by
  unfold senderNegotiate sendUnavailable
  apply agree_u8_back
  rw [if_pos rfl]
  apply agree_fileId_back hlimit
  apply agree_ensure_left rfl
  exact Agree.ret ⟨rfl, rfl⟩

/-- A declined plan. -/
theorem agree_fallback (env : LaneEnv) (source files : FileTree)
    (entry : ManifestEntry) (hlimit : fileId < u64Limit)
    (expectedBasisBytes indexWireBytes : Nat) :
    Agree L R (sendFallback fileId { offeredFiles := 1, indexWireBytes })
      (receiveAnswer env files fileId entry expectedBasisBytes indexWireBytes)
      (Negotiated source files entry.relativePath) := by
  unfold sendFallback receiveAnswer
  apply agree_u8
  apply agree_fileId hlimit
  apply agree_ensure_right rfl
  rw [if_pos rfl]
  exact Agree.ret ⟨rfl, rfl⟩

theorem agree_readPayload {bytes : Bytes} {maximumBytes : Nat} {g : Bytes → Party β}
    (hne : bytes ≠ []) (hlimit : bytes.length < u64Limit)
    (hmaximum : bytes.length ≤ maximumBytes) (h : Agree L R (f ()) (g bytes) Q) :
    Agree L R (writeU64 bytes.length >>= fun _ => Proc.write bytes >>= f)
      (readPayload maximumBytes description >>= g) Q := by
  have hpos := List.length_pos_of_ne_nil hne
  simp only [readPayload, bind_assoc]
  apply agree_u64 hlimit
  apply agree_ensure_right (by omega)
  exact agree_bytes rfl h

theorem agree_readPayload_back {bytes : Bytes} {maximumBytes : Nat} {f : Bytes → Party α}
    {g : Unit → Party β} (hne : bytes ≠ []) (hlimit : bytes.length < u64Limit)
    (hmaximum : bytes.length ≤ maximumBytes) (h : Agree L R (f bytes) (g ()) Q) :
    Agree L R (readPayload maximumBytes description >>= f)
      (writeU64 bytes.length >>= fun _ => Proc.write bytes >>= g) Q := by
  have hpos := List.length_pos_of_ne_nil hne
  simp only [readPayload, bind_assoc]
  apply agree_u64_back hlimit
  apply agree_ensure_left (by omega)
  exact agree_bytes_back rfl h

/-- No two different chunks of the two contents share a digest. -/
def NoChunkCollision (env : LaneEnv) (basis candidate : Bytes) : Prop :=
  CollisionFree env.blake3
    (chunksOf defaultChunkConfig basis ++ chunksOf defaultChunkConfig candidate)

theorem maximumPlanWireBytes_lt : maximumPlanWireBytes < u64Limit := by
  norm_num [maximumPlanWireBytes, u64Limit]

theorem maximumIndexWireBytes_lt : maximumIndexWireBytes < u64Limit := by
  norm_num [maximumIndexWireBytes, u64Limit]

theorem maximumWireBytes_add_lt :
    maximumIndexWireBytes + maximumPlanWireBytes < u64Limit := by
  norm_num [maximumIndexWireBytes, maximumPlanWireBytes, u64Limit]

/-- Planning a file against the index of a basis: a usable plan, or the literal limit. -/
theorem buildPlan_indexOf {path : RelativePath} {node : FileNode}
    (hopen : source.openFile path = .ok node) (basis : FileContent)
    (hfree : NoChunkCollision env basis.1 node.content.1) :
    (∃ plan wire, buildPlan env source path
        (indexOf env.blake3 defaultAverageKib defaultChunkConfig basis.1) = .ok plan ∧
      plan.Usable env.blake3 env.readSizes basis.1 node.content.1 maximumLiteralBytes wire) ∨
    buildPlan env source path
        (indexOf env.blake3 defaultAverageKib defaultChunkConfig basis.1) =
      .error (literalLimitExceeded maximumLiteralBytes) := by
  have hplan := buildBounded_indexOf env.readSizes fromAverageKib_default basis
    node.content (env.reads_of node.content.1) maximumLiteralBytes hfree
  rw [buildPlan, hopen, ok_bind]
  split at hplan
  · exact .inl hplan
  · exact .inr hplan

/-- The sender's answer to the index of the destination's file. -/
theorem agree_answerIndex {basis : FileNode} {indexWireBytes : Nat}
    (hlimit : fileId < u64Limit) (hindex : indexWireBytes ≤ maximumIndexWireBytes)
    (hL : SourceUnchanged source entry ∨ ∀ fault, L fault)
    (hR : Publishable env files entry.relativePath ∨ ∀ e, R (.disk e))
    (hbasis : files.contentAt entry.relativePath = some basis.content.1)
    (hfree : ∀ candidate, source.contentAt entry.relativePath = some candidate →
      NoChunkCollision env basis.content.1 candidate) :
    Agree L R
      (answerIndex env source fileId entry indexWireBytes
        (indexOf env.blake3 defaultAverageKib defaultChunkConfig basis.content.1))
      (receiveAnswer env files fileId entry basis.content.1.length indexWireBytes)
      (Negotiated source files entry.relativePath) := by
  unfold answerIndex
  apply agree_validateSourceFile hL
  intro node hnode hsize
  have hopen : source.openFile entry.relativePath = .ok node :=
    FileTree.openFile_eq_ok.mpr hnode
  have hsource := FileTree.contentAt_of_openFile hopen
  rcases buildPlan_indexOf hopen basis.content (hfree _ hsource) with
    ⟨plan, planWire, hok, husable⟩ | herror
  · rw [hok]
    show Agree L R (validateSourceFile "CDC source" source entry >>= _) _ _
    apply agree_validateSourceFile hL
    intro _ _ _
    rw [husable.encode, attempt_ok, Proc.ret_bind]
    by_cases hlong : maximumPlanWireBytes < planWire.length
    · rw [if_pos hlong]
      exact agree_fallback env source files entry hlimit _ _
    · rw [if_neg hlong]
      have htotal : addCounter indexWireBytes planWire.length
          "CDC combined wire length overflowed" = .ok (indexWireBytes + planWire.length) := by
        apply addCounter_of_lt
        have hsum := maximumWireBytes_add_lt
        omega
      rw [htotal, attempt_ok, Proc.ret_bind]
      by_cases hlarge : entry.fileSize ≤ indexWireBytes + planWire.length
      · rw [if_pos hlarge]
        exact agree_fallback env source files entry hlimit _ _
      · rw [if_neg hlarge]
        unfold receiveAnswer
        apply agree_u8
        apply agree_fileId hlimit
        apply agree_ensure_right rfl
        rw [if_neg (by decide), if_pos rfl]
        apply agree_readPayload husable.nonempty
          (lt_of_le_of_lt (by omega) maximumPlanWireBytes_lt) (by omega)
        rw [husable.decode, attempt_ok, Proc.ret_bind]
        apply agree_ensure_right (husable.target.trans hsize)
        apply agree_ensure_right husable.literals
        rw [htotal, attempt_ok, Proc.ret_bind]
        apply agree_ensure_right (by omega)
        apply agree_reconstructVerified hR hbasis hsource husable.reconstruct
        intro files' hfiles'
        exact Agree.ret ⟨rfl, hfiles'⟩
  · rw [herror]
    exact agree_fallback env source files entry hlimit _ _

/-- The negotiation of a file agrees, whatever the destination holds. -/
theorem agree_negotiate (env : LaneEnv) (source files : FileTree) {fileId : Nat}
    (entry : ManifestEntry) (enabled : Bool) (hlimit : fileId < u64Limit)
    (hL : SourceUnchanged source entry ∨ ∀ fault, L fault)
    (hR : Publishable env files entry.relativePath ∨ ∀ e, R (.disk e))
    (hfree : ∀ basis candidate, files.contentAt entry.relativePath = some basis →
      source.contentAt entry.relativePath = some candidate →
      NoChunkCollision env basis candidate) :
    Agree L R (senderNegotiate env source fileId entry)
      (receiverNegotiate env files fileId entry enabled)
      (Negotiated source files entry.relativePath) := by
  have hunavailable := agree_unavailable (L := L) (R := R) env source files entry hlimit
  unfold receiverNegotiate
  split_ifs with _ heligible
  · exact hunavailable
  · exact hunavailable
  rw [Bool.not_eq_false] at heligible
  unfold eligibleBasis at heligible
  split at heligible
  · rename_i basis hbasis
    have hopen : files.openFile entry.relativePath = .ok basis :=
      FileTree.openFile_eq_ok.mpr hbasis
    have hcontent := FileTree.contentAt_of_openFile hopen
    obtain ⟨indexWire, hencode, hdecode⟩ := BasisFileIndex.decodeWire_encodeWire env.blake3
      fromAverageKib_default basis.content
    rw [buildIndex_eq env hopen]
    show Agree L R _ (attempt .refused (BasisFileIndex.encodeWire _) >>= _) _
    rw [hencode, attempt_ok, Proc.ret_bind]
    by_cases hlong : maximumIndexWireBytes < indexWire.length
    · rw [if_pos hlong]
      exact hunavailable
    · rw [if_neg hlong]
      have hne : indexWire ≠ [] := by
        rintro rfl
        cases hdecode
      unfold senderNegotiate
      apply agree_u8_back
      rw [if_neg (by decide), if_pos rfl]
      apply agree_fileId_back hlimit
      apply agree_ensure_left rfl
      apply agree_readPayload_back hne
        (lt_of_le_of_lt (by omega) maximumIndexWireBytes_lt) (by omega)
      rw [hdecode, attempt_ok, Proc.ret_bind]
      apply agree_ensure_left rfl
      exact agree_answerIndex hlimit (by omega) hL hR hcontent
        (fun candidate => hfree _ candidate hcontent)
  · simp at heligible

end

end NetworkCopy
