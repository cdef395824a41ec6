import NetworkCopy.Lib.Traffic
import NetworkCopy.Lane.Agreement
import NetworkCopy.Cdc.WireForms

/-!
# Completed lanes

Whatever the source, the destination and the cache hold, and whichever side fails: a sender and a
receiver of a lane that both return have the same report.  The agreement of a lane also says when
neither fails and what is delivered, and needs the promises of `LaneReady` for it; what both sides
count does not depend on them.
-/

namespace NetworkCopy

open Duplex ByteRange

section

variable {α β γ : Type} {Q : α → β → Prop}

/-! ## Local steps -/

variable {f : Unit → Party α}

theorem meet_attempt_left {kind : IoError → Fault} {result : IoResult γ} {f : γ → Party α}
    {q : Party β} (h : ∀ a, result = .ok a → Meet (f a) q Q) :
    Meet (attempt kind result >>= f) q Q :=
  agree_attempt_left (fun _ _ => trivial) h

theorem meet_attempt_right {kind : IoError → Fault} {result : IoResult γ} {p : Party α}
    {g : γ → Party β} (h : ∀ b, result = .ok b → Meet p (g b) Q) :
    Meet p (attempt kind result >>= g) Q :=
  agree_attempt_right (fun _ _ => trivial) h

theorem meet_fileId {fileId : Nat} {g : Nat → Party β} (h : Meet (f ()) (g fileId) Q) :
    Meet (writeFileId fileId >>= f) (readU64 >>= g) Q := by
  rw [writeFileId, bind_assoc]
  apply meet_attempt_left
  intro wireId hwireId
  obtain ⟨hlimit, hsame⟩ := u64TryFrom_eq_ok.mp hwireId
  rw [hsame]
  exact agree_u64 hlimit h

theorem meet_fileId_back {fileId : Nat} {f : Nat → Party α} {g : Unit → Party β}
    (h : Meet (f fileId) (g ()) Q) : Meet (readU64 >>= f) (writeFileId fileId >>= g) Q :=
  (meet_fileId h.swap).swap

theorem meet_readPayload {bytes : Bytes} {maximumBytes : Nat} {description : String}
    {g : Bytes → Party β} (hlimit : bytes.length < u64Limit) (h : Meet (f ()) (g bytes) Q) :
    Meet (writeU64 bytes.length >>= fun _ => Proc.write bytes >>= f)
      (readPayload maximumBytes description >>= g) Q := by
  simp only [readPayload, bind_assoc]
  apply agree_u64 hlimit
  apply meet_attempt_right
  intro _ _
  exact agree_bytes rfl h

/-- A source file that passes the check can be opened. -/
theorem meet_validateSourceFile {description : String} {source : FileTree}
    {entry : ManifestEntry} {q : Party β} (h : Meet (f ()) q Q) :
    Meet (validateSourceFile description source entry >>= f) q Q :=
  agree_validateSourceFile (.inr (fun _ => trivial)) (fun _ _ _ => h)

end

/-! ## Plans -/

section

variable {α β : Type} {Q : α → β → Prop} {env : LaneEnv} {source files : FileTree}
  {manifest : Manifest}
variable {plan : ReconstructionPlan} {index : BasisFileIndex} {path : RelativePath}

/-- The index of a cache or of the peer. -/
def SoundIndex (env : LaneEnv) (index : BasisFileIndex) : Prop :=
  ReconstructionPlan.Obtained env.blake3 index

theorem soundIndex_of_buildIndex (h : buildIndex env source path = .ok index) :
    SoundIndex env index := by
  unfold buildIndex at h
  obtain ⟨node, _, hbuild⟩ := bind_eq_ok.mp h
  exact .built _ _ _ hbuild

/-- A plan that was built is decoded with the same counts. -/
theorem decodeWire_of_buildPlan {planWire : Bytes} (hindex : SoundIndex env index)
    (hplan : buildPlan env source path index = .ok plan)
    (hwire : plan.encodeWire = .ok planWire) :
    ∃ decoded, ReconstructionPlan.decodeWire planWire = .ok decoded ∧
      decoded.referencedBytes = plan.referencedBytes ∧
      decoded.literalBytes = plan.literalBytes := by
  unfold buildPlan at hplan
  obtain ⟨node, _, hbuild⟩ := bind_eq_ok.mp hplan
  obtain ⟨wire, hencode, _, hdecode⟩ :=
    ReconstructionPlan.decodeWire_of_built hindex node.content.2 hbuild
  rw [hwire] at hencode
  cases hencode
  exact ⟨_, hdecode, rfl, rfl⟩

/-- A reconstruction sends and receives nothing. -/
theorem meet_reconstructVerified {p : Party α} {g : FileTree → Party β}
    {basisPath outputPath : RelativePath} {expectedBasisBytes : Nat}
    (h : ∀ files', Meet p (g files') Q) :
    Meet p (reconstructVerified env files basisPath outputPath expectedBasisBytes plan >>= g)
      Q := by
  unfold reconstructVerified
  simp only [bind_assoc]
  apply meet_attempt_right
  intro basis _
  apply meet_attempt_right
  intro _ _
  apply meet_attempt_right
  intro created _
  apply meet_attempt_right
  intro output _
  apply meet_attempt_right
  intro written _
  apply meet_attempt_right
  intro files' _
  exact h files'

/-! ## The negotiation of a file -/

variable {fileId : Nat} {entry : ManifestEntry}

theorem meet_unavailable (env : LaneEnv) (source files : FileTree) (fileId : Nat)
    (entry : ManifestEntry) :
    Meet (senderNegotiate env source fileId entry) (sendUnavailable files fileId)
      (fun sent received => received.1 = sent) := by
  unfold senderNegotiate sendUnavailable
  apply agree_u8_back
  rw [if_pos rfl]
  apply meet_fileId_back
  apply agree_ensure_left rfl
  exact Agree.ret rfl

theorem meet_fallback (env : LaneEnv) (files : FileTree) (fileId : Nat) (entry : ManifestEntry)
    (expectedBasisBytes indexWireBytes : Nat) :
    Meet (sendFallback fileId { offeredFiles := 1, indexWireBytes })
      (receiveAnswer env files fileId entry expectedBasisBytes indexWireBytes)
      (fun sent received => received.1 = sent) := by
  unfold sendFallback receiveAnswer
  apply agree_u8
  apply meet_fileId
  apply agree_ensure_right rfl
  rw [if_pos rfl]
  exact Agree.ret rfl

/-- Whatever the index, both sides count the answer alike. -/
theorem meet_answerIndex (hindex : SoundIndex env index)
    (expectedBasisBytes indexWireBytes : Nat) :
    Meet (answerIndex env source fileId entry indexWireBytes index)
      (receiveAnswer env files fileId entry expectedBasisBytes indexWireBytes)
      (fun sent received => received.1 = sent) := by
  unfold answerIndex
  apply meet_validateSourceFile
  have hfallback := meet_fallback env files fileId entry expectedBasisBytes indexWireBytes
  cases hplan : buildPlan env source entry.relativePath index with
  | error error =>
    dsimp only
    split_ifs with hlimit
    · exact hfallback
    · exact Agree.failLeft trivial
  | ok plan =>
    dsimp only
    apply meet_validateSourceFile
    apply meet_attempt_left
    intro planWire hwire
    by_cases hlong : maximumPlanWireBytes < planWire.length
    · rw [if_pos hlong]
      exact hfallback
    rw [if_neg hlong]
    apply meet_attempt_left
    intro totalCdcWire _
    by_cases hlarge : entry.fileSize ≤ totalCdcWire
    · rw [if_pos hlarge]
      exact hfallback
    rw [if_neg hlarge]
    obtain ⟨decoded, hdecoded, hreferenced, hliterals⟩ :=
      decodeWire_of_buildPlan hindex hplan hwire
    unfold receiveAnswer
    apply agree_u8
    apply meet_fileId
    apply agree_ensure_right rfl
    rw [if_neg (by decide), if_pos rfl]
    apply meet_readPayload (lt_of_le_of_lt (by omega) maximumPlanWireBytes_lt)
    rw [hdecoded, attempt_ok, Proc.ret_bind]
    apply meet_attempt_right
    intro _ _
    apply meet_attempt_right
    intro _ _
    apply meet_attempt_right
    intro _ _
    apply meet_attempt_right
    intro _ _
    apply meet_reconstructVerified
    intro files'
    refine Agree.ret ?_
    rw [hreferenced, hliterals]

/-- Whatever the destination holds, both sides have the same decision. -/
theorem meet_negotiate (env : LaneEnv) (source files : FileTree) (fileId : Nat)
    (entry : ManifestEntry) (enabled : Bool) :
    Meet (senderNegotiate env source fileId entry)
      (receiverNegotiate env files fileId entry enabled)
      (fun sent received => received.1 = sent) := by
  have hunavailable := meet_unavailable env source files fileId entry
  unfold receiverNegotiate
  split_ifs with _ heligible
  · exact hunavailable
  · exact hunavailable
  cases hbuild : buildIndex env files entry.relativePath with
  | error error => exact hunavailable
  | ok index =>
    dsimp only
    apply meet_attempt_right
    intro indexWire _
    by_cases hlong : maximumIndexWireBytes < indexWire.length
    · rw [if_pos hlong]
      exact hunavailable
    rw [if_neg hlong]
    unfold senderNegotiate
    apply agree_u8_back
    rw [if_neg (by decide), if_pos rfl]
    apply meet_fileId_back
    apply agree_ensure_left rfl
    apply Agree.swap
    apply meet_readPayload (lt_of_le_of_lt (by omega) maximumIndexWireBytes_lt)
    apply Agree.swap
    apply meet_attempt_left
    intro decoded hdecoded
    apply meet_attempt_left
    intro _ _
    exact meet_answerIndex (.decoded _ hdecoded) index.fileBytes indexWire.length

/-! ## The reuse of a file of the session -/

variable {cached : Nat → Option BasisFileIndex}
variable {targetEntry : ManifestEntry}

/-- The cache of the sender holds indexes that were built. -/
def BuiltCache (env : LaneEnv) (cached : Nat → Option BasisFileIndex) : Prop :=
  ∀ basisFileId index, cached basisFileId = some index → SoundIndex env index

/-- What the sender knows of a plan that it sends, apart from what it is good for. -/
structure PlanBuilt (env : LaneEnv) (source : FileTree) (path : RelativePath)
    (indexBytes : Nat) (plan : ReconstructionPlan) (planWire : Bytes) : Prop where
  indexLimit : indexBytes < u64Limit
  built : ∃ index, SoundIndex env index ∧ buildPlan env source path index = .ok plan
  encoded : plan.encodeWire = .ok planWire
  wireLimit : planWire.length ≤ maximumPlanWireBytes

theorem meet_getOrBuild {f : BasisFileIndex → Party α} {q : Party β} {basisFileId : Nat}
    {basisEntry : ManifestEntry} (hcache : BuiltCache env cached)
    (h : ∀ index, SoundIndex env index → Meet (f index) q Q) :
    Meet (getOrBuild env source cached basisFileId basisEntry >>= f) q Q := by
  unfold getOrBuild
  split
  · rename_i index hindex
    exact h index (hcache basisFileId index hindex)
  · unfold buildVerifiedBasisIndex
    simp only [bind_assoc]
    apply meet_attempt_left
    intro index hindex
    apply meet_validateSourceFile
    apply meet_attempt_left
    intro _ _
    exact h index (soundIndex_of_buildIndex hindex)

/-- The sender's loop ends without a word, or with a plan that it has sent. -/
theorem meet_tryBases {f : CdcLaneDecision → Party α} {q : Party β} {targetFileId : Nat}
    (hcache : BuiltCache env cached) (hnone : Meet (f unavailableDecision) q Q)
    (hplan : ∀ basisFileId indexBytes plan planWire,
      PlanBuilt env source targetEntry.relativePath indexBytes plan planWire →
      Meet (sendSessionPlan targetFileId basisFileId indexBytes planWire >>= fun _ =>
        f (completedDecision targetEntry.fileSize plan planWire.length)) q Q)
    (remaining : List Nat) (considered : Nat) :
    Meet (tryBases env source manifest cached targetFileId targetEntry remaining considered >>= f)
      q Q := by
  induction remaining generalizing considered with
  | nil => exact hnone
  | cons basisFileId rest ih =>
    rw [tryBases]
    split_ifs with hself
    · exact ih considered
    rw [bind_assoc]
    apply meet_attempt_left
    intro basisEntry _
    split_ifs with heligible
    · exact ih considered
    rw [bind_assoc]
    apply meet_attempt_left
    intro considered' _
    split_ifs with hmany
    · exact hnone
    rw [bind_assoc]
    apply meet_validateSourceFile
    rw [bind_assoc]
    apply meet_attempt_left
    intro similar _
    split_ifs with hsimilar
    · exact ih considered'
    rw [bind_assoc]
    apply meet_getOrBuild hcache
    intro index hindex
    rw [bind_assoc]
    apply meet_validateSourceFile
    rw [bind_assoc]
    apply meet_attempt_left
    intro _ _
    cases hbuild : buildPlan env source targetEntry.relativePath index with
    | error error =>
      dsimp only
      split_ifs
      · exact ih considered'
      · exact Agree.failLeft trivial
    | ok plan =>
      dsimp only
      rw [bind_assoc]
      apply meet_validateSourceFile
      split_ifs with hreferences
      · exact ih considered'
      rw [bind_assoc]
      apply meet_attempt_left
      intro planWire hwire
      split_ifs with hlong
      · exact ih considered'
      rw [bind_assoc]
      apply meet_attempt_left
      intro totalWireBytes _
      split_ifs with hlarge
      · exact ih considered'
      rw [bind_assoc]
      exact hplan basisFileId index.fileBytes plan planWire
        { indexLimit := hindex.located.2, built := ⟨index, hindex, hbuild⟩
          encoded := hwire, wireLimit := by omega }

theorem meet_senderTryPlan {f : CdcLaneDecision → Party α} {q : Party β} {targetFileId : Nat}
    {basisFileIds : List Nat} (hcache : BuiltCache env cached)
    (hentry : manifest[targetFileId]? = some targetEntry)
    (hnone : Meet (f unavailableDecision) q Q) (hplan : ∀ basisFileId indexBytes plan planWire,
      PlanBuilt env source targetEntry.relativePath indexBytes plan planWire →
      Meet (sendSessionPlan targetFileId basisFileId indexBytes planWire >>= fun _ =>
        f (completedDecision targetEntry.fileSize plan planWire.length)) q Q) :
    Meet (senderTryPlan env source manifest cached targetFileId basisFileIds >>= f) q Q := by
  unfold senderTryPlan
  rw [hentry, okOrElse_some, attempt_ok, Proc.ret_bind]
  split_ifs with hineligible
  · exact hnone
  · rw [bind_assoc]
    apply meet_validateSourceFile
    exact meet_tryBases hcache hnone hplan basisFileIds.reverse 0

theorem meet_validateCommittedBasis {p : Party α} {g : Unit → Party β}
    {expectedBytes basisFileId : Nat} (h : Meet p (g ()) Q) :
    Meet p (validateCommittedBasis files path expectedBytes basisFileId >>= g) Q := by
  unfold validateCommittedBasis
  split
  · exact Agree.failRight trivial
  · exact Agree.failRight trivial
  · simp only [bind_assoc]
    apply meet_attempt_right
    intro _ _
    apply meet_attempt_right
    intro _ _
    exact h

/-- A plan that was sent is counted alike when the receiver applies it. -/
theorem meet_applyPlan {f : Unit → Party α} {g : CdcLaneDecision × FileTree → Party β}
    {other : UInt8 → Party β} {targetFileId basisFileId indexBytes : Nat}
    {basisFileIds : List Nat} {planWire : Bytes}
    (hentry : manifest[targetFileId]? = some targetEntry)
    (hbuilt : PlanBuilt env source targetEntry.relativePath indexBytes plan planWire)
    (h : ∀ files', Meet (f ())
      (g (completedDecision targetEntry.fileSize plan planWire.length, files')) Q) :
    Meet (sendSessionPlan targetFileId basisFileId indexBytes planWire >>= f)
      (readU8 >>= fun message => if message = messageSessionCdcPlan then
        receiverApplyPlan env manifest files targetFileId basisFileIds >>= g
        else other message) Q := by
  obtain ⟨index, hindex, hplan⟩ := hbuilt.built
  obtain ⟨decoded, hdecoded, hreferenced, hliterals⟩ :=
    decodeWire_of_buildPlan hindex hplan hbuilt.encoded
  have hsame : ∀ logicalBytes planWireBytes,
      completedDecision logicalBytes decoded planWireBytes =
        completedDecision logicalBytes plan planWireBytes := by
    intro logicalBytes planWireBytes
    rw [completedDecision, completedDecision, hreferenced, hliterals]
  unfold sendSessionPlan
  simp only [bind_assoc]
  apply agree_u8
  rw [if_pos rfl]
  unfold receiverApplyPlan
  rw [hentry, okOrElse_some, attempt_ok]
  simp only [Proc.ret_bind, bind_assoc]
  apply meet_attempt_right
  intro _ _
  apply meet_fileId
  apply agree_ensure_right rfl
  apply meet_fileId
  apply meet_attempt_right
  intro _ _
  apply meet_attempt_right
  intro _ _
  apply meet_attempt_right
  intro basisEntry _
  apply meet_attempt_right
  intro _ _
  apply agree_u64 hbuilt.indexLimit
  apply meet_attempt_right
  intro _ _
  apply meet_readPayload (lt_of_le_of_lt hbuilt.wireLimit maximumPlanWireBytes_lt)
  rw [hdecoded, attempt_ok, Proc.ret_bind]
  apply meet_attempt_right
  intro _ _
  apply meet_attempt_right
  intro _ _
  apply meet_attempt_right
  intro _ _
  apply meet_attempt_right
  intro _ _
  apply meet_attempt_right
  intro _ _
  apply meet_validateCommittedBasis
  apply meet_reconstructVerified
  intro files'
  rw [hsame]
  exact h files'

/-! ## Records and lanes -/

variable {basis : Option (List Nat)} {cdcEnabled : Bool}

theorem meet_completeReceivedCdcFile (report : LaneReport) (placed : FileTree)
    (entry : ManifestEntry) :
    Meet (attempt .refused (addLaneCounts report 1 entry.fileSize "sender CDC"))
      (completeReceivedCdcFile report placed entry) (fun sent received => received.1 = sent) := by
  unfold completeReceivedCdcFile
  apply meet_attempt_right
  intro restored _
  rw [← bind_pure (attempt _ _)]
  apply meet_attempt_left
  intro counted hcounted
  rw [addLaneCounts_side _ hcounted, attempt_ok, Proc.ret_bind]
  exact Agree.ret rfl

/-- A whole file, whether it is reconstructed or sent. -/
theorem meet_wholeFileTask (hcache : BuiltCache env cached) (report : LaneReport)
    (files : FileTree) {entry : ManifestEntry} (hentry : manifest[fileId]? = some entry) :
    Meet (sendTask env source manifest basis cached report (.wholeFile fileId))
      (receiveWholeFileTask env manifest basis cdcEnabled report files fileId)
      (fun sent received => received.1 = sent) := by
  rw [sendTask_wholeFile hentry, receiveWholeFileTask, hentry, okOrElse_some, attempt_ok,
    Proc.ret_bind]
  cases basis with
  | some basisFileIds =>
    apply meet_senderTryPlan hcache hentry
    · apply meet_attempt_left
      intro merged hmerged
      rw [if_neg (by simp [unavailableDecision]), mergeCdc_empty hmerged]
      refine (agree_ordinaryFile report files fileId entry ?_).meet.mono (fun _ _ h => h.1)
      rw [if_neg (by decide)]
    · intro basisFileId indexBytes plan planWire hbuilt
      apply meet_applyPlan hentry hbuilt
      intro placed
      apply meet_attempt_left
      intro merged hmerged
      have hcompleted : (completedDecision entry.fileSize plan planWire.length).completed =
          true := rfl
      rw [hmerged, attempt_ok, Proc.ret_bind, if_pos hcompleted]
      apply agree_ensure_right hcompleted
      exact meet_completeReceivedCdcFile merged placed entry
  | none =>
    refine Agree.bind (meet_negotiate env source files fileId entry cdcEnabled) ?_
    intro decision received hsame
    rw [hsame]
    apply meet_attempt_left
    intro merged hmerged
    rw [hmerged, attempt_ok, Proc.ret_bind]
    split_ifs with hcompleted
    · exact meet_completeReceivedCdcFile merged received.2 entry
    · exact (agree_ordinaryFile merged received.2 fileId entry rfl).meet.mono
        (fun _ _ h => h.1)

/-- A record of any kind. -/
theorem meet_record (hcache : BuiltCache env cached) (report : LaneReport) (files : FileTree)
    (task : TransferTask) :
    Meet (sendTask env source manifest basis cached report task)
      (receiveRecord env manifest basis cdcEnabled report files task)
      (fun sent received => received.1 = sent) := by
  cases task with
  | wholeFile fileId =>
    cases hentry : manifest[fileId]? with
    | none =>
      rw [sendTask, hentry]
      exact Agree.failLeft trivial
    | some entry => exact meet_wholeFileTask hcache report files hentry
  | tinyPack fileIds totalBytes =>
    refine Agree.bind (agree_tinyPack env source files manifest fileIds totalBytes).meet ?_
    intro transfer received hreceived
    rw [← hreceived.1, ← bind_pure (attempt _ (addTinyPack report _ "sender"))]
    apply meet_attempt_left
    intro counted hcounted
    rw [addTinyPack_side _ hcounted, attempt_ok, Proc.ret_bind]
    exact Agree.ret rfl
  | stripe fileId offset length =>
    cases hentry : manifest[fileId]? with
    | none =>
      rw [sendTask, hentry]
      exact Agree.failLeft trivial
    | some entry =>
      rw [sendTask, hentry, okOrElse_some, attempt_ok, Proc.ret_bind, receiveRecord]
      refine Agree.bind (agree_stripe env source files hentry offset length).meet ?_
      intro compressed received hreceived
      rw [← hreceived.1, ← bind_pure (attempt _ (addRecord report _ _ _ "sender"))]
      apply meet_attempt_left
      intro counted hcounted
      rw [addRecord_side _ hcounted, attempt_ok, Proc.ret_bind]
      exact Agree.ret rfl

theorem meet_checkpoint {p : Party α} {g : LaneState → Party β} {task : TransferTask}
    (state : LaneState) (h : ∀ state', Meet p (g state') Q) :
    Meet p (checkpointCompletedStripe state task >>= g) Q := by
  cases task with
  | wholeFile => exact h state
  | tinyPack => exact h state
  | stripe fileId offset length =>
    rw [checkpointCompletedStripe, bind_assoc]
    apply meet_attempt_right
    intro stripe _
    dsimp only
    split_ifs
    · rw [bind_assoc]
      apply meet_attempt_right
      intro saved _
      exact h _
    · exact h _

/-- The loops over the task list. -/
theorem meet_tasks (hcache : BuiltCache env cached) (tasks : List TransferTask)
    (report : LaneReport) (state : LaneState) :
    Meet (sendTasks env source manifest basis cached tasks report)
      (receiveTasks env manifest basis cdcEnabled tasks report state)
      (fun sent received => received.1 = sent) := by
  induction tasks generalizing report state with
  | nil => exact Agree.ret rfl
  | cons task rest ih =>
    rw [sendTasks, receiveTasks]
    refine Agree.bind (meet_record hcache report state.files task) ?_
    intro sent received hsame
    apply meet_checkpoint
    intro state'
    rw [hsame]
    exact ih sent state'

/-- When both sides of a lane return, their reports are equal, wire bytes included. -/
theorem meet_lane (hcache : BuiltCache env cached) (tasks : List TransferTask)
    (laneEnd : LaneEnd) (state : LaneState) :
    Meet (sendLane env source manifest basis cached tasks laneEnd)
      (receiveLane env manifest basis cdcEnabled tasks laneEnd state)
      (fun sent received => received.1 = sent) := by
  unfold sendLane receiveLane
  have hbody : Meet
      (sendTasks env source manifest basis cached tasks {} >>= fun report =>
        writeLaneEnd laneEnd >>= fun _ => pure report)
      (receiveTasks env manifest basis cdcEnabled tasks {} state >>= fun received =>
        readLaneEnd laneEnd >>= fun _ => pure received)
      (fun sent received => received.1 = sent) := by
    refine Agree.bind (meet_tasks hcache tasks {} state) ?_
    intro sent received hsame
    refine Agree.bind (agree_laneEnd laneEnd).meet ?_
    intro _ _ _
    exact Agree.ret hsame
  refine Agree.bind hbody.counted ?_
  intro sent received hcounted
  obtain ⟨hsame, hcross, hcross'⟩ := hcounted
  apply meet_attempt_left
  intro wireBytes hwireBytes
  have hadd : checkedAdd received.2.2 received.2.1 = some wireBytes := by
    rw [← hcross, ← hcross']
    exact okOrElse_eq_ok.mp hwireBytes
  rw [hadd, okOrElse_some, attempt_ok, Proc.ret_bind, hsame]
  exact Agree.ret rfl

end

end NetworkCopy
