import NetworkCopy.Lane.Completion
import NetworkCopy.Session.ControlArrival
import NetworkCopy.Reuse.Acceptance

/-!
# Wire sizes

The sizes that both sides of a session add up are computed by formulas that stand apart from the
encoders.  Each formula is the number of bytes that its encoder writes.  For the negotiation of a
large file it is what either side writes and reads of it.
-/

namespace NetworkCopy

open Duplex ByteOrder

/-! ## Sizes of large-file negotiations -/

/-- `LARGE_CDC_BEGIN_FIXED_WIRE_BYTES`. -/
def largeCdcBeginFixedWireBytes : Nat := 1 + 4

/-- `LARGE_CDC_FILE_ID_WIRE_BYTES`. -/
def largeCdcFileIdWireBytes : Nat := 8

/-- `CDC_UNAVAILABLE_WIRE_BYTES`. -/
def cdcUnavailableWireBytes : Nat := 1 + 8

/-- `CDC_INDEX_FIXED_WIRE_BYTES`. -/
def cdcIndexFixedWireBytes : Nat := 1 + 8 + 8

/-- `CDC_FALLBACK_WIRE_BYTES`. -/
def cdcFallbackWireBytes : Nat := 1 + 8

/-- `CDC_PLAN_FIXED_WIRE_BYTES`. -/
def cdcPlanFixedWireBytes : Nat := 1 + 8 + 8

/-- `large_cdc_begin_wire_bytes`. -/
def largeCdcBeginWireBytes (fileCount : Nat) : IoResult Nat := do
  let fileIdBytes ← okOrElse (checkedMul fileCount largeCdcFileIdWireBytes)
    (.other "large CDC candidate wire size overflowed")
  addCounter largeCdcBeginFixedWireBytes fileIdBytes "large CDC begin wire size overflowed"

/-- `large_cdc_decision_wire_bytes`. -/
def largeCdcDecisionWireBytes (decision : CdcLaneDecision) : IoResult Nat :=
  let stats := decision.stats
  match stats.offeredFiles, stats.completedFiles, stats.fallbackFiles, decision.completed with
  | 0, 0, 0, false => .ok cdcUnavailableWireBytes
  | 1, 1, 0, true =>
      okOrElse (((checkedAdd cdcIndexFixedWireBytes stats.indexWireBytes).bind
          (checkedAdd · cdcPlanFixedWireBytes)).bind (checkedAdd · stats.planWireBytes))
        (.other "completed large CDC wire size overflowed")
  | 1, 0, 1, false =>
      okOrElse ((checkedAdd cdcIndexFixedWireBytes stats.indexWireBytes).bind
          (checkedAdd · cdcFallbackWireBytes))
        (.other "large CDC fallback wire size overflowed")
  | _, _, _, _ =>
      .error (.invalidData "large CDC negotiation returned inconsistent statistics")

/-! ## Fields -/

section

variable {α γ : Type} {φ : α → Nat → Nat → Prop}
variable {f : Unit → Party α}

theorem exchanges_attempt {kind : IoError → Fault} {result : IoResult γ} {f : γ → Party α}
    (h : ∀ c, result = .ok c → (f c).Exchanges φ) : (attempt kind result >>= f).Exchanges φ := by
  cases result with
  | error e => trivial
  | ok c => exact h c rfl

theorem exchanges_writeU8 {value : UInt8}
    (h : (f ()).Exchanges (fun a sent received => φ a (1 + sent) received)) :
    (writeU8 value >>= f).Exchanges φ :=
  h

theorem exchanges_writeU32 {value : Nat}
    (h : (f ()).Exchanges (fun a sent received => φ a (4 + sent) received)) :
    (writeU32 value >>= f).Exchanges φ := by
  apply Proc.Exchanges.write_bind
  rw [beBytes_length]
  exact h

theorem exchanges_writeU64 {value : Nat}
    (h : (f ()).Exchanges (fun a sent received => φ a (8 + sent) received)) :
    (writeU64 value >>= f).Exchanges φ := by
  apply Proc.Exchanges.write_bind
  rw [beBytes_length]
  exact h

theorem exchanges_writeDigest {digest : Digest}
    (h : (f ()).Exchanges (fun a sent received => φ a (contentDigestBytes + sent) received)) :
    (writeDigest digest >>= f).Exchanges φ := by
  apply Proc.Exchanges.write_bind
  rw [digest.2]
  exact h

theorem exchanges_writeFileId {fileId : Nat}
    (h : (f ()).Exchanges (fun a sent received => φ a (8 + sent) received)) :
    (writeFileId fileId >>= f).Exchanges φ := by
  rw [writeFileId, bind_assoc]
  apply exchanges_attempt
  intro _ _
  exact exchanges_writeU64 h

theorem exchanges_readU8 {f : UInt8 → Party α}
    (h : ∀ value, (f value).Exchanges (fun a sent received => φ a sent (1 + received))) :
    (readU8 >>= f).Exchanges φ := by
  rw [readU8, bind_assoc]
  apply Proc.Exchanges.read_bind
  intro tokens _
  exact h _

theorem exchanges_readU64 {f : Nat → Party α}
    (h : ∀ value, (f value).Exchanges (fun a sent received => φ a sent (8 + received))) :
    (readU64 >>= f).Exchanges φ := by
  rw [readU64, bind_assoc]
  apply Proc.Exchanges.read_bind
  intro tokens _
  exact h _

/-- The length of a payload travels in front of it. -/
theorem exchanges_readPayload {maximumBytes : Nat} {description : String} {f : Bytes → Party α}
    (h : ∀ bytes : Bytes, bytes.length ≤ maximumBytes → (f bytes).Exchanges
      (fun a sent received => φ a sent (8 + (bytes.length + received)))) :
    (readPayload maximumBytes description >>= f).Exchanges φ := by
  rw [readPayload, bind_assoc]
  apply exchanges_readU64
  intro wireBytes
  rw [bind_assoc]
  apply exchanges_attempt
  intro _ hrange
  rw [ensure_eq_ok] at hrange
  apply Proc.Exchanges.read_bind
  intro tokens hcount
  rw [← hcount]
  exact h tokens (by omega)

theorem exchanges_validateSourceFile {description : String} {source : FileTree}
    {entry : ManifestEntry} (h : (f ()).Exchanges φ) :
    (validateSourceFile description source entry >>= f).Exchanges φ := by
  unfold validateSourceFile
  split
  · trivial
  · trivial
  · simp only [bind_assoc]
    apply exchanges_attempt
    intro _ _
    apply exchanges_attempt
    intro _ _
    apply exchanges_attempt
    intro _ _
    exact h

theorem exchanges_reconstructVerified {env : LaneEnv} {files : FileTree}
    {basisPath outputPath : RelativePath} {expectedBasisBytes : Nat} {plan : ReconstructionPlan}
    {f : FileTree → Party α} (h : ∀ files', (f files').Exchanges φ) :
    (reconstructVerified env files basisPath outputPath expectedBasisBytes plan >>=
      f).Exchanges φ := by
  unfold reconstructVerified
  simp only [bind_assoc]
  apply exchanges_attempt
  intro basis _
  apply exchanges_attempt
  intro _ _
  apply exchanges_attempt
  intro created _
  apply exchanges_attempt
  intro output _
  apply exchanges_attempt
  intro written _
  apply exchanges_attempt
  intro files' _
  exact h files'

end

/-! ## Negotiations -/

/-- The formula for a decision gives the bytes of both directions. -/
def DecisionBytes (decision : CdcLaneDecision) (sent received : Nat) : Prop :=
  largeCdcDecisionWireBytes decision = .ok (sent + received)

theorem maximumWireBytes_framed_lt :
    34 + (maximumIndexWireBytes + maximumPlanWireBytes) < u64Limit := by
  norm_num [maximumIndexWireBytes, maximumPlanWireBytes, u64Limit]

/-- An index of `indexWireBytes` bytes was offered; the rest of the negotiation takes `more`. -/
def AnswerBytes (indexWireBytes : Nat) (decision : CdcLaneDecision) (more : Nat) : Prop :=
  largeCdcDecisionWireBytes decision = .ok (1 + 8 + 8 + indexWireBytes + more)

theorem fallback_bytes {indexWireBytes : Nat} (h : indexWireBytes ≤ maximumIndexWireBytes) :
    AnswerBytes indexWireBytes
      { completed := false, stats := { offeredFiles := 1, indexWireBytes, fallbackFiles := 1 } }
      (1 + 8) := by
  have hlimit := maximumWireBytes_framed_lt
  show okOrElse ((checkedAdd 17 indexWireBytes).bind (checkedAdd · 9)) _ = _
  rw [checkedAdd_eq_some.mpr ⟨by omega, rfl⟩, Option.bind_some,
    checkedAdd_eq_some.mpr ⟨by omega, rfl⟩]
  rfl

theorem completed_bytes {indexWireBytes planWireBytes : Nat}
    (logicalBytes reusedBytes literalBytes : Nat) (hindex : indexWireBytes ≤ maximumIndexWireBytes)
    (hplan : planWireBytes ≤ maximumPlanWireBytes) :
    AnswerBytes indexWireBytes
      { completed := true
        stats := { offeredFiles := 1, indexWireBytes, completedFiles := 1, logicalBytes
                   reusedBytes, literalBytes, planWireBytes } }
      (1 + 8 + 8 + planWireBytes) := by
  have hlimit := maximumWireBytes_framed_lt
  show okOrElse (((checkedAdd 17 indexWireBytes).bind (checkedAdd · 17)).bind
    (checkedAdd · planWireBytes)) _ = _
  rw [checkedAdd_eq_some.mpr ⟨by omega, rfl⟩, Option.bind_some,
    checkedAdd_eq_some.mpr ⟨by omega, rfl⟩, Option.bind_some,
    checkedAdd_eq_some.mpr ⟨by omega, rfl⟩, okOrElse_some]
  congr 1
  omega

section

variable {env : LaneEnv} {source files : FileTree} {fileId : Nat} {entry : ManifestEntry}
  {indexWireBytes : Nat}

theorem exchanges_sendUnavailable :
    (sendUnavailable files fileId).Exchanges
      (fun result sent received => DecisionBytes result.1 sent received) := by
  unfold sendUnavailable
  apply exchanges_writeU8
  apply exchanges_writeFileId
  rfl

theorem exchanges_sendFallback (hindex : indexWireBytes ≤ maximumIndexWireBytes) :
    (sendFallback fileId { offeredFiles := 1, indexWireBytes }).Exchanges
      (fun decision sent received => AnswerBytes indexWireBytes decision (sent + received)) := by
  unfold sendFallback
  apply exchanges_writeU8
  apply exchanges_writeFileId
  exact fallback_bytes hindex

theorem exchanges_answerIndex (hindex : indexWireBytes ≤ maximumIndexWireBytes)
    (index : BasisFileIndex) :
    (answerIndex env source fileId entry indexWireBytes index).Exchanges
      (fun decision sent received => AnswerBytes indexWireBytes decision (sent + received)) := by
  have hfallback : (sendFallback fileId { offeredFiles := 1, indexWireBytes }).Exchanges
      (fun decision sent received => AnswerBytes indexWireBytes decision (sent + received)) :=
    exchanges_sendFallback hindex
  unfold answerIndex
  apply exchanges_validateSourceFile
  cases buildPlan env source entry.relativePath index with
  | error error =>
    dsimp only
    split_ifs
    · exact hfallback
    · trivial
  | ok plan =>
    dsimp only
    apply exchanges_validateSourceFile
    apply exchanges_attempt
    intro planWire _
    split_ifs with hlong
    · exact hfallback
    apply exchanges_attempt
    intro totalCdcWire _
    split_ifs with hlarge
    · exact hfallback
    apply exchanges_writeU8
    apply exchanges_writeFileId
    apply exchanges_writeU64
    apply Proc.Exchanges.write_bind
    have hbytes := completed_bytes entry.fileSize plan.referencedBytes plan.literalBytes hindex
      (Nat.le_of_not_lt hlong)
    show AnswerBytes indexWireBytes _ (1 + (8 + (8 + (planWire.length + 0))) + 0)
    convert hbytes using 1
    omega

theorem exchanges_receiveAnswer (hindex : indexWireBytes ≤ maximumIndexWireBytes)
    (expectedBasisBytes : Nat) :
    (receiveAnswer env files fileId entry expectedBasisBytes indexWireBytes).Exchanges
      (fun result sent received => AnswerBytes indexWireBytes result.1 (sent + received)) := by
  unfold receiveAnswer
  apply exchanges_readU8
  intro response
  apply exchanges_readU64
  intro announced
  apply exchanges_attempt
  intro _ _
  split_ifs
  · exact fallback_bytes hindex
  · apply exchanges_readPayload
    intro planWire hplan
    apply exchanges_attempt
    intro plan _
    apply exchanges_attempt
    intro _ _
    apply exchanges_attempt
    intro _ _
    apply exchanges_attempt
    intro totalCdcWire _
    apply exchanges_attempt
    intro _ _
    apply exchanges_reconstructVerified
    intro files'
    have hbytes := completed_bytes entry.fileSize plan.referencedBytes plan.literalBytes hindex
      hplan
    show AnswerBytes indexWireBytes _ (0 + (1 + (8 + (8 + (planWire.length + 0)))))
    convert hbytes using 1
    omega
  · trivial

/-- The decision of the sender accounts for all that it has written and read. -/
theorem exchanges_senderNegotiate :
    (senderNegotiate env source fileId entry).Exchanges DecisionBytes := by
  unfold senderNegotiate
  apply exchanges_readU8
  intro message
  split_ifs
  · apply exchanges_readU64
    intro announced
    apply exchanges_attempt
    intro _ _
    rfl
  · apply exchanges_readU64
    intro announced
    apply exchanges_attempt
    intro _ _
    apply exchanges_readPayload
    intro indexWire hindex
    apply exchanges_attempt
    intro index _
    apply exchanges_attempt
    intro _ _
    refine (exchanges_answerIndex hindex index).mono ?_
    intro decision sent received hbytes
    unfold AnswerBytes at hbytes
    unfold DecisionBytes
    rw [hbytes]
    congr 1
    omega
  · trivial

/-- So does the decision of the receiver. -/
theorem exchanges_receiverNegotiate {enabled : Bool} :
    (receiverNegotiate env files fileId entry enabled).Exchanges
      (fun result sent received => DecisionBytes result.1 sent received) := by
  unfold receiverNegotiate
  split_ifs
  · exact exchanges_sendUnavailable
  · exact exchanges_sendUnavailable
  cases buildIndex env files entry.relativePath with
  | error error => exact exchanges_sendUnavailable
  | ok index =>
    dsimp only
    apply exchanges_attempt
    intro indexWire _
    split_ifs with hlong
    · exact exchanges_sendUnavailable
    apply exchanges_writeU8
    apply exchanges_writeFileId
    apply exchanges_writeU64
    apply Proc.Exchanges.write_bind
    refine (exchanges_receiveAnswer (Nat.le_of_not_lt hlong) index.fileBytes).mono ?_
    intro result sent received hbytes
    unfold AnswerBytes at hbytes
    unfold DecisionBytes
    rw [hbytes]
    congr 1
    omega

end

/-! ## Records and messages -/

section

variable {env : LaneEnv} {source : FileTree} {manifest : Manifest}
variable (fileIds : List Nat)

theorem exchanges_readTinyFiles {α : Type} {φ : α → Nat → Nat → Prop}
    {f : Bytes × List Digest → Party α} (payload : Bytes) (digests : List Digest)
    (h : ∀ payload' digests', digests'.length = digests.length + fileIds.length →
      (f (payload', digests')).Exchanges φ) :
    (readTinyFiles env source manifest fileIds payload digests >>= f).Exchanges φ := by
  induction fileIds generalizing payload digests with
  | nil => exact h payload digests rfl
  | cons fileId rest ih =>
    simp only [readTinyFiles, bind_assoc]
    apply exchanges_attempt
    intro entry _
    apply exchanges_attempt
    intro rangeEnd _
    apply exchanges_attempt
    intro _ _
    apply exchanges_attempt
    intro file _
    apply exchanges_attempt
    intro _ _
    apply exchanges_attempt
    intro contents _
    apply exchanges_attempt
    intro _ _
    apply ih
    intro payload' digests' hlength
    apply h
    rw [hlength, List.length_append, List.length_singleton, List.length_cons]
    omega

theorem exchanges_writeMembers {α : Type} {φ : α → Nat → Nat → Prop} {f : Unit → Party α}
    (members : List (Nat × Digest))
    (h : (f ()).Exchanges (fun a sent received =>
      φ a (members.length * tinyPackFileMetadataWireBytes + sent) received)) :
    (writeMembers manifest members >>= f).Exchanges φ := by
  induction members generalizing φ with
  | nil =>
    refine h.mono ?_
    intro a sent received hφ
    rwa [List.length_nil, Nat.zero_mul, Nat.zero_add] at hφ
  | cons member rest ih =>
    simp only [writeMembers, bind_assoc]
    apply exchanges_attempt
    intro entry _
    apply exchanges_attempt
    intro wireId _
    apply exchanges_writeU64
    apply exchanges_writeU64
    apply exchanges_writeDigest
    apply ih
    refine h.mono ?_
    intro a sent received hφ
    have hsize : (member :: rest).length * tinyPackFileMetadataWireBytes + sent =
        8 + (8 + (contentDigestBytes +
          (rest.length * tinyPackFileMetadataWireBytes + sent))) := by
      rw [List.length_cons, Nat.succ_mul]
      unfold tinyPackFileMetadataWireBytes
      omega
    rwa [hsize] at hφ

theorem tinyPackRecordWireBytes_eq_ok {fileCount payloadBytes bytes : Nat}
    (h : tinyPackRecordWireBytes fileCount payloadBytes = .ok bytes) :
    bytes = tinyPackFixedWireBytes + fileCount * tinyPackFileMetadataWireBytes + payloadBytes := by
  unfold tinyPackRecordWireBytes at h
  simp only [bind_eq_ok, okOrElse_eq_ok, checkedMul_eq_some, checkedAdd_eq_some] at h
  obtain ⟨metadataBytes, ⟨_, hmetadata⟩, fixed, ⟨_, hfixed⟩, _, htotal⟩ := h
  omega

/-- The size of a tiny pack is what `send_tiny_pack` writes. -/
theorem exchanges_sendTinyPack (expectedTotalBytes : Nat) :
    (sendTinyPack env source manifest fileIds expectedTotalBytes).Exchanges
      (fun transfer sent received => received = 0 ∧ transfer.wireBytes = sent ∧
        ∃ payload encoded, encodeTinyPack env.zstd payload = .ok encoded ∧
          tinyPackRecordWireBytes fileIds.length encoded.2.length = .ok sent) := by
  unfold sendTinyPack
  apply exchanges_attempt
  intro summary _
  apply exchanges_attempt
  intro _ _
  apply exchanges_attempt
  intro _ _
  apply exchanges_readTinyFiles
  intro payload digests hdigests
  apply exchanges_attempt
  intro _ _
  apply exchanges_attempt
  intro encoded hencoded
  apply exchanges_attempt
  intro recordWireBytes hrecord
  apply exchanges_writeU8
  apply exchanges_attempt
  intro fileCount _
  apply exchanges_writeU32
  apply exchanges_writeU64
  apply exchanges_writeMembers
  apply exchanges_writeU8
  apply exchanges_attempt
  intro wireLength _
  apply exchanges_writeU64
  apply Proc.Exchanges.write_bind
  apply exchanges_writeDigest
  have hsize := tinyPackRecordWireBytes_eq_ok hrecord
  have hmembers : (fileIds.zip digests).length = fileIds.length := by
    rw [List.length_zip, hdigests, List.length_nil, Nat.zero_add, Nat.min_self]
  have hsent : 1 + (4 + (8 + ((fileIds.zip digests).length * tinyPackFileMetadataWireBytes +
      (1 + (8 + (encoded.2.length + (contentDigestBytes + 0))))))) = recordWireBytes := by
    rw [hsize, hmembers]
    unfold tinyPackFixedWireBytes
    omega
  refine ⟨rfl, hsent.symm, payload, encoded, hencoded, ?_⟩
  rw [hsent]
  exact hrecord

theorem exchanges_writeReuseEntries {α : Type} {φ : α → Nat → Nat → Prop} {f : Unit → Party α}
    (entries : List ExactFileReuse)
    (h : (f ()).Exchanges (fun a sent received =>
      φ a (entries.length * exactReuseRecordWireBytes + sent) received)) :
    (writeReuseEntries entries >>= f).Exchanges φ := by
  induction entries generalizing φ with
  | nil =>
    refine h.mono ?_
    intro a sent received hφ
    rwa [List.length_nil, Nat.zero_mul, Nat.zero_add] at hφ
  | cons entry rest ih =>
    simp only [writeReuseEntries, bind_assoc]
    apply exchanges_attempt
    intro basisFileId _
    apply exchanges_writeU64
    apply exchanges_attempt
    intro targetFileId _
    apply exchanges_writeU64
    apply exchanges_writeDigest
    apply ih
    refine h.mono ?_
    intro a sent received hφ
    have hsize : (entry :: rest).length * exactReuseRecordWireBytes + sent =
        8 + (8 + (contentDigestBytes + (rest.length * exactReuseRecordWireBytes + sent))) := by
      rw [List.length_cons, Nat.succ_mul]
      unfold exactReuseRecordWireBytes
      omega
    rwa [hsize] at hφ

/-- The size of an exact-reuse plan is what `write_exact_reuse_plan` writes. -/
theorem exchanges_writeExactReusePlan (plan : ExactReusePlan) :
    (writeExactReusePlan plan).Exchanges
      (fun _ sent _ => exactReusePlanWireBytes plan.entries.length = .ok sent) := by
  unfold writeExactReusePlan
  apply exchanges_attempt
  intro count hcount
  obtain ⟨_, hsame⟩ := u32TryFrom_eq_ok.mp hcount
  rw [hsame]
  apply exchanges_attempt
  intro _ hlimit
  apply exchanges_writeU8
  apply exchanges_writeU32
  rw [← bind_pure (writeReuseEntries plan.entries)]
  apply exchanges_writeReuseEntries
  show exactReusePlanWireBytes plan.entries.length =
    .ok (1 + (4 + (plan.entries.length * exactReuseRecordWireBytes + 0)))
  obtain ⟨wireBytes, hwireBytes⟩ := exactReusePlanWireBytes_ok (ensure_eq_ok.mp hlimit)
  rw [hwireBytes]
  unfold exactReusePlanWireBytes at hwireBytes
  obtain ⟨records, hrecords, htotal⟩ := bind_eq_ok.mp hwireBytes
  have hproduct := (checkedMul_eq_some.mp (okOrElse_eq_ok.mp hrecords)).2
  have hsum := addCounter_val htotal
  unfold exactReusePlanFixedWireBytes at hsum
  congr 1
  omega

theorem fileIdBytes_length :
    (fileIdBytes fileIds).length = fileIds.length * 8 := by
  induction fileIds with
  | nil => rfl
  | cons fileId rest ih =>
    have hcons : fileIdBytes (fileId :: rest) = beBytes 8 fileId ++ fileIdBytes rest := rfl
    rw [hcons, List.length_append, beBytes_length, ih, List.length_cons]
    omega

theorem countedFileIdBytes_length :
    (countedFileIdBytes fileIds).length = 4 + fileIds.length * 8 := by
  rw [countedFileIdBytes, List.length_append, beBytes_length, fileIdBytes_length]

/-- The size of the candidate list is what `write_large_cdc_begin` writes. -/
theorem largeCdcBeginWireBytes_of_emits {fileIds : List Nat} {w : Bytes}
    (h : Emits (writeLargeCdcBegin fileIds) w (.ok ())) :
    largeCdcBeginWireBytes fileIds.length = .ok w.length := by
  obtain ⟨⟨hcount, _⟩, hw⟩ := emits_writeLargeCdcBegin.mp h
  have hlength : w.length = 1 + (4 + fileIds.length * 8) := by
    rw [hw, List.length_append, countedFileIdBytes_length, List.length_singleton]
  unfold maxUnchangedOfferFiles at hcount
  have hlimit : fileIds.length * 8 + 5 < u64Limit := by
    unfold u64Limit
    omega
  have hproduct : checkedMul fileIds.length largeCdcFileIdWireBytes =
      some (fileIds.length * 8) :=
    checkedMul_eq_some.mpr ⟨by unfold largeCdcFileIdWireBytes; omega, rfl⟩
  rw [largeCdcBeginWireBytes, hproduct, okOrElse_some, ok_bind, addCounter_eq_ok, hlength]
  unfold largeCdcBeginFixedWireBytes
  constructor <;> omega

/-- The size of a commit is what `write_generation_commit` writes. -/
theorem generationCommitWireBytes_of_emits {commit : GenerationCommit} {w : Bytes}
    (h : Emits (writeGenerationCommit commit) w (.ok ())) :
    generationCommitWireBytes commit = .ok w.length := by
  obtain ⟨hcarried, hw⟩ := emits_writeGenerationCommit.mp h
  rw [generationCommitWireBytes_eq_ok]
  refine ⟨⟨hcarried.committed.limit, hcarried.published.limit, hcarried.evicted.limit⟩, ?_⟩
  rw [hw, commitBytes]
  simp only [List.length_append, List.length_singleton, beBytes_length,
    countedFileIdBytes_length]
  unfold generationCommitFixedWireBytes generationCommitFileIdWireBytes
  omega

end

end NetworkCopy
