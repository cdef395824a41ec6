import NetworkCopy.Lane.Transfer

/-!
# Both sides of a lane

What `send_lane` sends, `receive_lane` takes: every task writes the source's bytes,
and the two reports are equal.  The order is that of the source: first one record
(`agree_task`), then the task list (`agree_tasks`), then the lane with its end message
and its wire counters.

`TaskDone` says what one task did to the destination and `LaneDone` strings the tasks
together.  Later tasks keep what earlier ones wrote unless they write the same name
(`LaneDone.inPlace`).  The main result is `receiveLane_of_sendLane`: under every
schedule, once the sender has completed, the receiver completes with an equal report,
having taken every byte that was sent.
-/

namespace NetworkCopy

open Duplex ByteRange

/-! ## The lane's end -/

/-- The receiver accepts the end message that the sender writes. -/
theorem agree_laneEnd (laneEnd : LaneEnd) :
    LaneAgree (writeLaneEnd laneEnd) (readLaneEnd laneEnd) (fun _ _ => True) := by
  unfold readLaneEnd
  cases laneEnd with
  | generation index =>
    apply agree_u8
    apply agree_ensure_right rfl
    apply lane_attempt_left
    intro wireIndex hindex
    obtain ⟨hlimit, rfl⟩ := u64TryFrom_eq_ok.mp hindex
    show LaneAgree (writeU64 wireIndex >>= .ret) _ _
    apply agree_u64 hlimit
    rw [ensure, if_pos rfl, attempt_ok]
    exact Agree.ret trivial
  | stream =>
    show LaneAgree (writeU8 messageStreamEnd >>= .ret) _ _
    apply agree_u8
    simp only [ensure, if_true, attempt_ok]
    exact Agree.ret trivial

/-! ## Reports

The two sides count with the same functions; only the texts of their overflow errors
differ. -/

variable {report report' : LaneReport}
variable (other : String) {transfer : TinyPackTransferSummary} {side : String}

theorem addCounter_text {counter value total : Nat} {text : String}
    (h : addCounter counter value text = .ok total) :
    addCounter counter value other = .ok total := by
  rw [addCounter_eq_ok] at h ⊢
  exact h

theorem addLaneCounts_side {files bytes : Nat}
    (h : addLaneCounts report files bytes side = .ok report') :
    addLaneCounts report files bytes other = .ok report' := by
  unfold addLaneCounts at h ⊢
  obtain ⟨filesCopied, hfiles, h⟩ := bind_eq_ok.mp h
  obtain ⟨bytesCopied, hbytes, h⟩ := bind_eq_ok.mp h
  rw [addCounter_text _ hfiles, ok_bind, addCounter_text _ hbytes, ok_bind]
  exact h

theorem addRecord_side {files bytes : Nat} {compressed : Bool}
    (h : addRecord report files bytes compressed side = .ok report') :
    addRecord report files bytes compressed other = .ok report' := by
  unfold addRecord at h ⊢
  obtain ⟨counted, hcounted, h⟩ := bind_eq_ok.mp h
  rw [addLaneCounts_side other hcounted, ok_bind]
  exact h

theorem addTinyPackStats_side (h : addTinyPackStats report transfer side = .ok report') :
    addTinyPackStats report transfer other = .ok report' := by
  unfold addTinyPackStats at h ⊢
  obtain ⟨packs, hpacks, h⟩ := bind_eq_ok.mp h
  obtain ⟨compressedPacks, hcompressed, h⟩ := bind_eq_ok.mp h
  obtain ⟨rawPacks, hraw, h⟩ := bind_eq_ok.mp h
  obtain ⟨files, hfiles, h⟩ := bind_eq_ok.mp h
  obtain ⟨bytes, hbytes, h⟩ := bind_eq_ok.mp h
  obtain ⟨wireBytes, hwireBytes, h⟩ := bind_eq_ok.mp h
  rw [addCounter_text _ hpacks, ok_bind]
  cases hkind : transfer.compressed with
  | true =>
    rw [hkind, if_pos rfl] at hcompressed hraw
    rw [if_pos rfl, addCounter_text _ hcompressed, ok_bind, if_pos rfl, hraw, ok_bind,
      addCounter_text _ hfiles, ok_bind, addCounter_text _ hbytes, ok_bind,
      addCounter_text _ hwireBytes, ok_bind]
    exact h
  | false =>
    rw [hkind, if_neg Bool.false_ne_true] at hcompressed hraw
    rw [if_neg Bool.false_ne_true, hcompressed, ok_bind, if_neg Bool.false_ne_true,
      addCounter_text _ hraw, ok_bind,
      addCounter_text _ hfiles, ok_bind, addCounter_text _ hbytes, ok_bind,
      addCounter_text _ hwireBytes, ok_bind]
    exact h

theorem addTinyPack_side (h : addTinyPack report transfer side = .ok report') :
    addTinyPack report transfer other = .ok report' := by
  unfold addTinyPack at h ⊢
  obtain ⟨recorded, hrecorded, h⟩ := bind_eq_ok.mp h
  rw [addRecord_side other hrecorded, ok_bind]
  exact addTinyPackStats_side other h

/-- Merging empty statistics changes nothing. -/
theorem mergeCdc_empty (h : mergeCdc report {} = .ok report') : report' = report := by
  unfold mergeCdc at h
  obtain ⟨cdc, hcdc, h⟩ := bind_eq_ok.mp h
  have hsame : cdc = report.cdc := by
    unfold CdcLaneStats.merge at hcdc
    simp only [bind_eq_ok, addCounter_eq_ok, pure_eq_ok, Nat.add_zero] at hcdc
    obtain ⟨_, ⟨_, rfl⟩, _, ⟨_, rfl⟩, _, ⟨_, rfl⟩, _, ⟨_, rfl⟩, _, ⟨_, rfl⟩, _, ⟨_, rfl⟩,
      _, ⟨_, rfl⟩, _, ⟨_, rfl⟩, hcdc⟩ := hcdc
    cases hcdc
    rfl
  rw [hsame, pure_eq_ok] at h
  cases h
  rfl

/-! ## What the tasks do to the destination -/

/-- The final paths that a task writes. -/
def finalPaths (manifest : Manifest) : TransferTask → List RelativePath
  | .wholeFile fileId => memberPaths manifest [fileId]
  | .tinyPack fileIds _ => memberPaths manifest fileIds
  | .stripe .. => []

/-- The temporary paths that a task leaves behind. -/
def partPaths (manifest : Manifest) : TransferTask → List RelativePath
  | .stripe fileId _ _ =>
      (manifest[fileId]?.map (temporaryPath ·.relativePath fileId)).toList
  | _ => []

/-- The files that a task names. -/
def taskFileIds : TransferTask → List Nat
  | .wholeFile fileId => [fileId]
  | .tinyPack fileIds _ => fileIds
  | .stripe fileId _ _ => [fileId]

/-- The stripe of a task, if it is one, is written at its offset of the temporary
file. -/
def StripeWritten (source : FileTree) (manifest : Manifest) (files files' : FileTree) :
    TransferTask → Prop
  | .stripe fileId offset length => ∃ entry, manifest[fileId]? = some entry ∧
      Striped source files files' fileId offset length entry
  | _ => True

/-- A task was received. -/
structure TaskDone (source : FileTree) (manifest : Manifest) (task : TransferTask)
    (files files' : FileTree) : Prop where
  known : ∀ fileId ∈ taskFileIds task, ∃ entry, manifest[fileId]? = some entry
  placed : HoldsSource source files' (finalPaths manifest task)
  striped : StripeWritten source manifest files files' task
  frame : FileTree.SameExcept (finalPaths manifest task ++ partPaths manifest task) files files'

/-- The tasks of a lane were received one after the other. -/
inductive LaneDone (source : FileTree) (manifest : Manifest) :
    List TransferTask → FileTree → FileTree → Prop
  | nil (files : FileTree) : LaneDone source manifest [] files files
  | cons {task : TransferTask} {rest : List TransferTask} {files files' files'' : FileTree}
      (head : TaskDone source manifest task files files')
      (tail : LaneDone source manifest rest files' files'') :
      LaneDone source manifest (task :: rest) files files''

/-! ## One record -/

section

variable {env : LaneEnv} {source : FileTree} {manifest : Manifest}
  {basis : Option (List Nat)} {cached : Nat → Option BasisFileIndex} {cdcEnabled : Bool}
variable {entry : ManifestEntry}
variable {fileId : Nat}

/-- What the reuse of content for a whole file rests on.  With a basis list, the
destination holds the source's basis files and their chunks do not collide with the
target's; without one, the chunks of the file that stands at the destination do not. -/
def BasisReady (env : LaneEnv) (source : FileTree) (manifest : Manifest)
    (basis : Option (List Nat)) (files : FileTree) : TransferTask → Prop
  | .wholeFile fileId => ∀ entry, manifest[fileId]? = some entry →
      match basis with
      | some basisFileIds => BasisCommitted source files manifest basisFileIds ∧
          BasisCollisionFree env source manifest basisFileIds entry
      | none => ∀ old new, files.contentAt entry.relativePath = some old →
          source.contentAt entry.relativePath = some new → NoChunkCollision env old new
  | _ => True

/-- A file that was placed has its metadata restored, and counts as received. -/
theorem agree_completeReceivedCdcFile {report : LaneReport} {files placed : FileTree}
    (hplaced : Placed source files placed entry.relativePath) :
    LaneAgree (attempt .refused (addLaneCounts report 1 entry.fileSize "sender CDC"))
      (completeReceivedCdcFile report placed entry)
      (fun sent received => received.1 = sent ∧
        Placed source files received.2 entry.relativePath) := by
  obtain ⟨hsome, hcontent, hframe⟩ := hplaced
  unfold completeReceivedCdcFile
  apply agree_attempt_right (fun _ _ => trivial)
  intro restored hrestored
  obtain ⟨bytes, hbytes⟩ := Option.isSome_iff_exists.mp hsome
  rw [hbytes] at hcontent
  obtain ⟨hkept, hframe'⟩ := FileTree.restoreFile_eq_ok hcontent hrestored
  rw [← bind_pure (attempt _ _)]
  apply lane_attempt_left
  intro counted hcounted
  rw [addLaneCounts_side _ hcounted, attempt_ok, Proc.ret_bind]
  exact Agree.ret ⟨rfl, hsome, by rw [hkept, hbytes], hframe.trans hframe'⟩

/-- An ordinary whole-file record and its count, for any receiver that takes the
message byte of a file to `receiveOrdinaryFile`. -/
theorem agree_ordinaryFile (report : LaneReport) (files : FileTree) (fileId : Nat)
    (entry : ManifestEntry) {g : UInt8 → Party (LaneReport × FileTree)}
    (hg : g messageFile = receiveOrdinaryFile env report files fileId entry messageFile) :
    LaneAgree
      (sendWholeFile env source fileId entry >>= fun compressed =>
        attempt .refused (addRecord report 1 entry.fileSize compressed "sender"))
      (readU8 >>= g)
      (fun sent received => received.1 = sent ∧
        Placed source files received.2 entry.relativePath) := by
  unfold sendWholeFile
  simp only [bind_assoc]
  apply agree_u8
  rw [hg, receiveOrdinaryFile]
  refine Agree.bind (agree_wholeFile env source files fileId entry) ?_
  rintro compressed ⟨_, placed⟩ ⟨rfl, hplaced⟩
  rw [← bind_pure (attempt _ (addRecord report 1 entry.fileSize _ "sender"))]
  apply lane_attempt_left
  intro counted hcounted
  rw [addRecord_side _ hcounted, attempt_ok, Proc.ret_bind]
  exact Agree.ret ⟨rfl, hplaced⟩

/-- What the sender does behind its attempt to reuse content. -/
theorem sendTask_wholeFile {report : LaneReport} (hentry : manifest[fileId]? = some entry) :
    sendTask env source manifest basis cached report (.wholeFile fileId) =
      (senderCdc env source manifest basis cached fileId entry >>= fun decision =>
        attempt .refused (mergeCdc report decision.stats) >>= fun report =>
          if decision.completed then
            attempt .refused (addLaneCounts report 1 entry.fileSize "sender CDC")
          else sendWholeFile env source fileId entry >>= fun compressed =>
            attempt .refused (addRecord report 1 entry.fileSize compressed "sender")) := by
  rw [sendTask, hentry, okOrElse_some, attempt_ok, Proc.ret_bind]

/-- A whole file, whether it is reconstructed or sent. -/
theorem agree_wholeFileTask (hcache : CacheSound env source manifest cached)
    (hids : manifest.length ≤ u64Limit) (report : LaneReport) (files : FileTree)
    (hentry : manifest[fileId]? = some entry)
    (hready : BasisReady env source manifest basis files (.wholeFile fileId)) :
    LaneAgree (sendTask env source manifest basis cached report (.wholeFile fileId))
      (receiveWholeFileTask env manifest basis cdcEnabled report files fileId)
      (fun sent received => received.1 = sent ∧
        Placed source files received.2 entry.relativePath) := by
  have hready := hready entry hentry
  rw [sendTask_wholeFile hentry, receiveWholeFileTask, hentry, okOrElse_some, attempt_ok,
    Proc.ret_bind]
  cases basis with
  | some basisFileIds =>
    obtain ⟨hcommitted, hfree⟩ := hready
    apply agree_senderTryPlan hcache hentry hfree
    · apply lane_attempt_left
      intro merged hmerged
      rw [if_neg (by simp [unavailableDecision]), mergeCdc_empty hmerged]
      apply agree_ordinaryFile
      rw [if_neg (by decide)]
    · intro hclass hminimum basisFileId plan planWire sent
      apply agree_applyPlan hentry hclass hminimum hids (.inr fun _ => trivial) hcommitted sent
      intro placed hplaced
      apply lane_attempt_left
      intro merged hmerged
      have hcompleted : (completedDecision entry.fileSize plan planWire.length).completed =
          true := rfl
      rw [hmerged, attempt_ok, Proc.ret_bind, if_pos hcompleted]
      apply agree_ensure_right hcompleted
      exact agree_completeReceivedCdcFile hplaced
  | none =>
    have hid : fileId < manifest.length := (List.getElem?_eq_some_iff.mp hentry).1
    refine Agree.bind (agree_negotiate env source files entry cdcEnabled (by omega)
      (.inr fun _ => trivial) (.inr fun _ => trivial) hready) ?_
    rintro decision ⟨_, negotiated⟩ ⟨rfl, hnegotiated⟩
    apply lane_attempt_left
    intro merged hmerged
    rw [hmerged, attempt_ok, Proc.ret_bind]
    dsimp only at hnegotiated ⊢
    split_ifs at hnegotiated ⊢ with hcompleted
    · exact agree_completeReceivedCdcFile hnegotiated
    · rw [hnegotiated]
      exact agree_ordinaryFile _ _ _ _ rfl

theorem memberPaths_singleton (hentry : manifest[fileId]? = some entry) :
    memberPaths manifest [fileId] = [entry.relativePath] := by
  simp [memberPaths, hentry]

/-- A record of any kind. -/
theorem agree_record (hcache : CacheSound env source manifest cached)
    (hids : manifest.length ≤ u64Limit) (report : LaneReport) (files : FileTree)
    (task : TransferTask) (hready : BasisReady env source manifest basis files task) :
    LaneAgree (sendTask env source manifest basis cached report task)
      (receiveRecord env manifest basis cdcEnabled report files task)
      (fun sent received => received.1 = sent ∧
        TaskDone source manifest task files received.2) := by
  cases task with
  | wholeFile fileId =>
    cases hentry : manifest[fileId]? with
    | none =>
      rw [sendTask, hentry]
      exact Agree.failLeft trivial
    | some entry =>
      refine (agree_wholeFileTask hcache hids report files hentry hready).mono ?_
      rintro sent received ⟨hsame, hsome, hcontent, hframe⟩
      have hpaths : finalPaths manifest (.wholeFile fileId) = [entry.relativePath] :=
        memberPaths_singleton hentry
      refine ⟨hsame, ?_, ?_, trivial, ?_⟩
      · intro other hmem
        rw [List.mem_singleton.mp hmem]
        exact ⟨entry, hentry⟩
      · rw [hpaths]
        intro path hmem
        rw [List.mem_singleton.mp hmem]
        exact ⟨hsome, hcontent⟩
      · rw [hpaths]
        exact hframe
  | tinyPack fileIds totalBytes =>
    refine Agree.bind (agree_tinyPack env source files manifest fileIds totalBytes) ?_
    rintro transfer ⟨_, placed⟩ ⟨rfl, hknown, hholds, hframe⟩
    rw [← bind_pure (attempt _ (addTinyPack report _ "sender"))]
    apply lane_attempt_left
    intro counted hcounted
    rw [addTinyPack_side _ hcounted, attempt_ok, Proc.ret_bind]
    refine Agree.ret ⟨rfl, hknown, hholds, trivial, ?_⟩
    exact hframe.mono (List.subset_append_left _ _)
  | stripe fileId offset length =>
    cases hentry : manifest[fileId]? with
    | none =>
      rw [sendTask, hentry]
      exact Agree.failLeft trivial
    | some entry =>
      rw [sendTask, hentry, okOrElse_some, attempt_ok, Proc.ret_bind, receiveRecord]
      refine Agree.bind (agree_stripe env source files hentry offset length) ?_
      rintro compressed ⟨_, written⟩ ⟨rfl, hstriped⟩
      rw [← bind_pure (attempt _ (addRecord report _ _ _ "sender"))]
      apply lane_attempt_left
      intro counted hcounted
      rw [addRecord_side _ hcounted, attempt_ok, Proc.ret_bind]
      refine Agree.ret ⟨rfl, ?_, ?_, ⟨entry, hentry, hstriped⟩, ?_⟩
      · intro other hmem
        rw [List.mem_singleton.mp hmem]
        exact ⟨entry, hentry⟩
      · intro path hmem
        cases hmem
      · obtain ⟨_, _, _, _, _, _, _, hframe⟩ := hstriped
        refine hframe.mono ?_
        simp [partPaths, hentry]

/-! ## The task list -/

/-- The destination paths that the reuse of content for a task reads. -/
def basisPaths (manifest : Manifest) (basis : Option (List Nat)) :
    TransferTask → List RelativePath
  | .wholeFile fileId => memberPaths manifest (basis.getD [fileId])
  | _ => []

theorem mem_memberPaths {fileIds : List Nat} (hmem : fileId ∈ fileIds)
    (hentry : manifest[fileId]? = some entry) :
    entry.relativePath ∈ memberPaths manifest fileIds :=
  List.mem_filterMap.mpr ⟨fileId, hmem, by rw [hentry]; rfl⟩

/-- What the reuse of content rests on stays while the paths it reads do. -/
theorem BasisReady.frame {files files' : FileTree} {task : TransferTask}
    {paths : List RelativePath} (h : BasisReady env source manifest basis files task)
    (hframe : FileTree.SameExcept paths files files')
    (hapart : ∀ path ∈ basisPaths manifest basis task, path ∉ paths) :
    BasisReady env source manifest basis files' task := by
  cases task with
  | wholeFile fileId =>
    intro entry hentry
    have hready := h entry hentry
    cases basis with
    | some basisFileIds =>
      refine ⟨?_, hready.2⟩
      intro basisFileId hmem basisEntry hbasisEntry heligible
      rw [hframe _ (hapart _ (mem_memberPaths hmem hbasisEntry))]
      exact hready.1 basisFileId hmem basisEntry hbasisEntry heligible
    | none =>
      intro old new hold hnew
      have hpath : entry.relativePath ∉ paths :=
        hapart _ (mem_memberPaths (List.mem_singleton.mpr rfl) hentry)
      apply hready old new _ hnew
      rw [FileTree.contentAt, ← hframe _ hpath]
      exact hold
  | tinyPack => trivial
  | stripe => trivial

/-- The promises of the callers of a lane and of the hash function.  File IDs fit the
wire, the shared cache holds indexes of source files, the destination's basis files
are the committed ones, chunks do not collide, and no task writes a file that a later
one reads as a basis. -/
structure LaneReady (env : LaneEnv) (source : FileTree) (manifest : Manifest)
    (basis : Option (List Nat)) (cached : Nat → Option BasisFileIndex)
    (tasks : List TransferTask) (files : FileTree) : Prop where
  ids : manifest.length ≤ u64Limit
  cache : CacheSound env source manifest cached
  ready : ∀ task ∈ tasks, BasisReady env source manifest basis files task
  apart : tasks.Pairwise (fun earlier later => ∀ path ∈ basisPaths manifest basis later,
    path ∉ finalPaths manifest earlier ++ partPaths manifest earlier)

theorem LaneReady.tail {task : TransferTask} {rest : List TransferTask}
    {files files' : FileTree}
    (h : LaneReady env source manifest basis cached (task :: rest) files)
    (hdone : TaskDone source manifest task files files') :
    LaneReady env source manifest basis cached rest files' where
  ids := h.ids
  cache := h.cache
  ready := fun later hlater => (h.ready later (List.mem_cons_of_mem _ hlater)).frame
    hdone.frame ((List.pairwise_cons.mp h.apart).1 later hlater)
  apart := (List.pairwise_cons.mp h.apart).2

/-- The checkpoint behind a received task keeps the files. -/
theorem agree_checkpoint {α β : Type} {p : Party α} {g : LaneState → Party β}
    {Q : α → β → Prop} {task : TransferTask} {files : FileTree} (state : LaneState)
    (hdone : TaskDone source manifest task files state.files)
    (h : ∀ state', state'.files = state.files → LaneAgree p (g state') Q) :
    LaneAgree p (checkpointCompletedStripe state task >>= g) Q := by
  cases task with
  | wholeFile => exact h state rfl
  | tinyPack => exact h state rfl
  | stripe fileId offset length =>
    obtain ⟨entry, _, hpositive, _⟩ := hdone.striped
    have hstripe : ResumeStripe.new fileId offset length = .ok ⟨fileId, offset, length⟩ :=
      ResumeStripe.new_eq_ok.mpr ⟨hpositive, rfl⟩
    rw [checkpointCompletedStripe, hstripe, attempt_ok, Proc.ret_bind]
    dsimp only
    split_ifs
    · simp only [bind_assoc]
      apply agree_attempt_right (fun _ _ => trivial)
      intro saved _
      exact h _ rfl
    · exact h _ rfl

/-- The loops over the task list. -/
theorem agree_tasks (tasks : List TransferTask) (report : LaneReport) (state : LaneState)
    (hready : LaneReady env source manifest basis cached tasks state.files) :
    LaneAgree (sendTasks env source manifest basis cached tasks report)
      (receiveTasks env manifest basis cdcEnabled tasks report state)
      (fun sent received => received.1 = sent ∧
        LaneDone source manifest tasks state.files received.2.files) := by
  induction tasks generalizing report state with
  | nil => exact Agree.ret ⟨rfl, .nil _⟩
  | cons task rest ih =>
    rw [sendTasks, receiveTasks]
    refine Agree.bind (agree_record hready.cache hready.ids report state.files task
      (hready.ready task List.mem_cons_self)) ?_
    rintro sent ⟨_, files⟩ ⟨rfl, hdone⟩
    apply agree_checkpoint { state with files } hdone
    intro state' hfiles
    have hready' : LaneReady env source manifest basis cached rest state'.files := by
      rw [hfiles]
      exact hready.tail hdone
    refine (ih _ state' hready').mono ?_
    rintro sent' received ⟨hsame, hrest⟩
    refine ⟨hsame, .cons hdone ?_⟩
    rw [hfiles] at hrest
    exact hrest

/-- The whole lane: the reports are equal, wire bytes included. -/
theorem agree_lane (tasks : List TransferTask) (laneEnd : LaneEnd) (state : LaneState)
    (hready : LaneReady env source manifest basis cached tasks state.files) :
    LaneAgree (sendLane env source manifest basis cached tasks laneEnd)
      (receiveLane env manifest basis cdcEnabled tasks laneEnd state)
      (fun sent received => received.1 = sent ∧
        LaneDone source manifest tasks state.files received.2.files) := by
  unfold sendLane receiveLane
  have hbody : LaneAgree
      (sendTasks env source manifest basis cached tasks {} >>= fun report =>
        writeLaneEnd laneEnd >>= fun _ => pure report)
      (receiveTasks env manifest basis cdcEnabled tasks {} state >>= fun received =>
        readLaneEnd laneEnd >>= fun _ => pure received)
      (fun sent received => received.1 = sent ∧
        LaneDone source manifest tasks state.files received.2.files) := by
    refine Agree.bind (agree_tasks tasks {} state hready) ?_
    intro sent received hreceived
    refine Agree.bind (agree_laneEnd laneEnd) ?_
    intro _ _ _
    exact Agree.ret hreceived
  refine Agree.bind hbody.counted ?_
  rintro ⟨sent, written, read⟩ ⟨⟨_, state'⟩, written', read'⟩ ⟨⟨rfl, hdone⟩, hcross, hcross'⟩
  simp only at hcross hcross'
  subst hcross hcross'
  apply lane_attempt_left
  intro wireBytes hwireBytes
  obtain ⟨hlimit, rfl⟩ := checkedAdd_eq_some.mp (okOrElse_eq_ok.mp hwireBytes)
  have hadd : checkedAdd written read = some (written + read) :=
    checkedAdd_eq_some.mpr ⟨hlimit, rfl⟩
  rw [hadd, okOrElse_some, attempt_ok, Proc.ret_bind]
  exact Agree.ret ⟨rfl, hdone⟩

end

/-! ## The destination at the end of a lane -/

section

variable {source : FileTree} {manifest : Manifest}
variable {files files' : FileTree}

/-- The bytes of a task stand at the destination. -/
def InPlace (source : FileTree) (manifest : Manifest) (files : FileTree) :
    TransferTask → Prop
  | .stripe fileId offset length => ∃ entry sourceBytes content,
      manifest[fileId]? = some entry ∧
      source.contentAt entry.relativePath = some sourceBytes ∧
      files.contentAt (temporaryPath entry.relativePath fileId) = some content ∧
      offset + length ≤ content.length ∧
      range content offset length = range sourceBytes offset length
  | task => HoldsSource source files (finalPaths manifest task)

/-- Two tasks write one name with different content: a stripe's temporary file is the
final file of the other task, or two stripes of one temporary file overlap. -/
def Clash (manifest : Manifest) (earlier later : TransferTask) : Prop :=
  (∃ path ∈ finalPaths manifest earlier, path ∈ partPaths manifest later) ∨
  (∃ path ∈ partPaths manifest earlier, path ∈ finalPaths manifest later) ∨
  match earlier, later with
  | .stripe fileId offset length, .stripe fileId' offset' length' =>
      (∃ path ∈ partPaths manifest (.stripe fileId offset length),
        path ∈ partPaths manifest (.stripe fileId' offset' length')) ∧
      offset < offset' + length' ∧ offset' < offset + length
  | _, _ => False

/-- A task that was received is in place. -/
theorem TaskDone.inPlace {task : TransferTask} (h : TaskDone source manifest task files files') :
    InPlace source manifest files' task := by
  cases task with
  | wholeFile => exact h.placed
  | tinyPack => exact h.placed
  | stripe fileId offset length =>
    obtain ⟨entry, hentry, _, sourceBytes, before, hsource, hinside, _, hafter, _⟩ :=
      h.striped
    have hlength : (range sourceBytes offset length).length = length := range_length hinside
    refine ⟨entry, sourceBytes, _, hentry, hsource, hafter, ?_, ?_⟩
    · rw [overwrite_length_le, hlength]
      exact le_max_right _ _
    · have hread := range_overwrite_same 0 before (range sourceBytes offset length) offset
      rw [hlength] at hread
      exact hread

/-- Final files stay the source's files: a later task that writes the same name writes
the same bytes. -/
theorem TaskDone.keeps_final {later : TransferTask} {paths : List RelativePath}
    (h : TaskDone source manifest later files files') (hholds : HoldsSource source files paths)
    (hpart : ∀ path ∈ paths, path ∉ partPaths manifest later) :
    HoldsSource source files' paths := by
  intro path hmem
  by_cases hfinal : path ∈ finalPaths manifest later
  · exact h.placed path hfinal
  · obtain ⟨hsome, hcontent⟩ := hholds path hmem
    refine ⟨hsome, ?_⟩
    rw [← hcontent, FileTree.contentAt, FileTree.contentAt,
      h.frame path (by simp [hfinal, hpart path hmem])]

/-- A later task that does not clash keeps an earlier one in place. -/
theorem TaskDone.keeps {earlier later : TransferTask}
    (h : TaskDone source manifest later files files')
    (hplace : InPlace source manifest files earlier) (hclash : ¬ Clash manifest earlier later) :
    InPlace source manifest files' earlier := by
  have hpart : ∀ path ∈ finalPaths manifest earlier, path ∉ partPaths manifest later :=
    fun path hmem hmem' => hclash (.inl ⟨path, hmem, hmem'⟩)
  have hfinal : ∀ path ∈ partPaths manifest earlier, path ∉ finalPaths manifest later :=
    fun path hmem hmem' => hclash (.inr (.inl ⟨path, hmem, hmem'⟩))
  cases earlier with
  | wholeFile => exact h.keeps_final hplace hpart
  | tinyPack => exact h.keeps_final hplace hpart
  | stripe fileId offset length =>
    obtain ⟨entry, sourceBytes, content, hentry, hsource, hcontent, hinside, hrange⟩ := hplace
    have hname : temporaryPath entry.relativePath fileId ∈
        partPaths manifest (.stripe fileId offset length) := by
      simp [partPaths, hentry]
    by_cases hsame : temporaryPath entry.relativePath fileId ∈ partPaths manifest later
    · -- Another stripe of the same temporary file.
      cases later with
      | wholeFile => cases hsame
      | tinyPack => cases hsame
      | stripe fileId' offset' length' =>
        obtain ⟨entry', hentry', _, sourceBytes', before, _, hinside', hbefore, hafter, _⟩ :=
          h.striped
        have hpath : temporaryPath entry.relativePath fileId =
            temporaryPath entry'.relativePath fileId' := by
          simpa [partPaths, hentry'] using hsame
        rw [← hpath, hcontent] at hbefore
        cases hbefore
        rw [← hpath] at hafter
        have hlength : (range sourceBytes' offset' length').length = length' :=
          range_length hinside'
        have hapart : ¬ (offset < offset' + length' ∧ offset' < offset + length) :=
          fun hoverlap => hclash (.inr (.inr ⟨⟨_, hname, hsame⟩, hoverlap⟩))
        refine ⟨entry, sourceBytes, _, hentry, hsource, hafter, ?_, ?_⟩
        · rw [overwrite_length_le]
          exact hinside.trans (le_max_left _ _)
        · rw [range_overwrite_disjoint 0 hinside (by omega)]
          exact hrange
    · refine ⟨entry, sourceBytes, content, hentry, hsource, ?_, hinside, hrange⟩
      rw [← hcontent, FileTree.contentAt, FileTree.contentAt,
        h.frame _ (by simp [hfinal _ hname, hsame])]

theorem LaneDone.keeps {earlier : TransferTask} {tasks : List TransferTask}
    (h : LaneDone source manifest tasks files files')
    (hplace : InPlace source manifest files earlier)
    (hclash : ∀ later ∈ tasks, ¬ Clash manifest earlier later) :
    InPlace source manifest files' earlier := by
  induction h with
  | nil => exact hplace
  | cons head _ ih =>
    refine ih (head.keeps hplace (hclash _ List.mem_cons_self)) ?_
    intro later hlater
    exact hclash later (List.mem_cons_of_mem _ hlater)

/-- At the end of the lane every task is in place that no later one clashes with. -/
theorem LaneDone.inPlace {before after : List TransferTask} {task : TransferTask}
    (h : LaneDone source manifest (before ++ task :: after) files files')
    (hclash : ∀ later ∈ after, ¬ Clash manifest task later) :
    InPlace source manifest files' task := by
  induction before generalizing files with
  | nil =>
    cases h with
    | cons head tail => exact tail.keeps head.inPlace hclash
  | cons _ _ ih =>
    cases h with
    | cons _ tail => exact ih tail

end

/-- A Zstandard encoder that stores: one raw block, for contents below 32 bytes. -/
def storedZstd : Zstd where
  compress raw :=
    if raw.length < 32 then
      .ok ([0x28, 0xb5, 0x2f, 0xfd, 0x20, UInt8.ofNat raw.length,
        UInt8.ofNat (8 * raw.length + 1), 0x00, 0x00] ++ raw)
    else .error "content is not stored"
  decompress frame capacity :=
    if (frame.drop 9).length ≤ capacity then .ok (frame.drop 9)
    else .error "Destination buffer is too small"
  decompress_compress := by
    intro raw frame capacity hframe hcapacity
    split at hframe
    · cases hframe
      exact if_pos hcapacity
    · cases hframe
  frame_ne_nil := by
    intro raw frame hframe
    split at hframe
    · cases hframe
      simp
    · cases hframe

/-- A world in which nothing is worth compressing. -/
def storingEnv : LaneEnv where
  blake3 := blake3OfAbc
  zstd := storedZstd
  probe := fun _ _ _ => .ok .sendRaw
  reads := fun content => if content = [] then [] else [content]
  reads_of := by
    intro content
    by_cases h : content = []
    · rw [if_pos h]
      exact ⟨h.symm, by simp⟩
    · rw [if_neg h]
      exact ⟨by simp, by simpa using h⟩
  readSizes := .full
  now := 0
  uniqueText := "1-1"

/-- The entry of a file `abc` under a one-letter name. -/
def abcEntry (name : UInt16) : ManifestEntry where
  relativePath := [name]
  fileSize := 3
  fileSize_lt := by norm_num [u64Limit]
  lastWriteTime := 7
  lastWriteTime_lt := by norm_num [u64Limit]
  fileAttributes := 0x20
  fileClass := .tiny

/-- Two files with the content `abc`. -/
def abcSource : FileTree := fun path =>
  if path = [0x61] ∨ path = [0x62] then
    some (.file { content := abcContent, lastWriteTime := 7, fileAttributes := 0x20 })
  else none

end NetworkCopy
