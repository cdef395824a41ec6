import NetworkCopy.IocpCopy
import NetworkCopy.Lib.Covering

/-!
# What an overlapped copy guarantees

An operation belongs to Windows from its submission until its completion is taken out of the port.
`InFlight` says that the function keeps to this, whatever fails.  `Sound` speaks of the copies in
which nothing has failed yet: every chunk that was handed out is being read, being written or
written, and the bytes that it stands for are in the buffer or in the destination.
-/

namespace NetworkCopy

open ByteRange Covering

/-! ## The configuration -/

theorem requestSize_of_lt {fileLen offset chunkBytes : Nat} (hoffset : offset < fileLen)
    (hchunk : chunkBytes < 2 ^ 32) :
    requestSize fileLen offset chunkBytes = .ok (min (fileLen - offset) chunkBytes) := by
  have hmin : min (fileLen - offset) chunkBytes < 2 ^ 32 := by omega
  simp only [requestSize, ensure, if_pos (Nat.le_of_lt hoffset), if_pos hmin, ok_bind]

/-- What `validate_config` and the type of a file length promise. -/
structure CopyEnv.Admitted (env : CopyEnv) : Prop where
  chunk_pos : 0 < env.chunkBytes
  chunk_lt : env.chunkBytes < 2 ^ 32
  source_lt : env.sourceLen < u64Limit

theorem validateConfig_chunk {chunkMib operationCount chunkBytes poolBytes : Nat}
    (h : validateConfig chunkMib operationCount = .ok (chunkBytes, poolBytes)) :
    0 < chunkBytes ∧ chunkBytes < 2 ^ 32 := by
  simp only [validateConfig, bufferBytesFromMib, bind_eq_ok, ensure_eq_ok, okOrElse_eq_ok,
    checkedMul_eq_some, Except.ok.injEq, Prod.mk.injEq] at h
  obtain ⟨chunkBytes, ⟨_, hmib, _, hchunk⟩, _, _, _, _, _, _, _, _, rfl, _⟩ := h
  unfold maxBufferMib at hmib
  omega

/-- A copy that reaches its loops is admitted. -/
theorem CopySetup.prepare_admitted {setup : CopySetup} {chunkMib operationCount : Nat}
    {env : CopyEnv} (h : setup.prepare chunkMib operationCount = .ok env) : env.Admitted := by
  simp only [CopySetup.prepare, bind_eq_ok, ensure_eq_ok, Except.ok.injEq] at h
  obtain ⟨⟨chunkBytes, poolBytes⟩, hconfig, _, _, _, _, source, _, _, _, _, _, _, _, _, _, _, _,
    _, _, rfl⟩ := h
  have hchunk := validateConfig_chunk hconfig
  exact {
    chunk_pos := hchunk.1
    chunk_lt := hchunk.2
    source_lt := source.length_lt }

/-- Both halves of an offset reach Windows. -/
theorem OffsetOverlapped.position_new {offset : Nat} (h : offset < u64Limit) :
    (OffsetOverlapped.new offset).position = offset := by
  unfold u64Limit at h
  simp only [OffsetOverlapped.new, OffsetOverlapped.position]
  omega

/-! ## Operations in flight -/

/-- The operations that Windows has. -/
def CopyState.busy (s : CopyState) : List Nat := s.inFlight.map (·.overlapped)

/-- The function knows how many operations are in flight and submits none of them. -/
structure CopyState.InFlight (s : CopyState) : Prop where
  outstanding : s.outstanding = s.inFlight.length
  distinct : s.busy.Nodup
  reused : s.reused = false

/-- What a part of the function may do to the operations in flight, when it holds one of the pool:
nothing, or submit this one. -/
structure Issues (place : Nat) (s s' : CopyState) : Prop where
  phase : s'.phase = s.phase
  flight : (s'.inFlight = s.inFlight ∧ s'.outstanding = s.outstanding) ∨
    ∃ request : IoRequest, request.overlapped = place ∧ s'.inFlight = s.inFlight ++ [request] ∧
      s'.outstanding = s.outstanding + 1
  reused : place ∉ s.busy → s.reused = false → s'.reused = false

theorem Issues.inFlight {place : Nat} {s s' : CopyState} (h : Issues place s s')
    (hs : s.InFlight) (hfree : place ∉ s.busy) : s'.InFlight := by
  have hreused := h.reused hfree hs.reused
  rcases h.flight with ⟨hsame, hcount⟩ | ⟨request, hplace, hmore, hcount⟩
  · exact {
      outstanding := by rw [hcount, hsame, hs.outstanding]
      distinct := by rw [CopyState.busy, hsame]; exact hs.distinct
      reused := hreused }
  · have hdistinct : (s.busy ++ [place]).Nodup := by
      rw [← List.concat_eq_append]
      exact hs.distinct.concat hfree
    exact {
      outstanding := by rw [hcount, hmore, hs.outstanding, List.length_append]; rfl
      distinct := by
        rw [CopyState.busy, hmore, List.map_append, List.map_singleton, hplace]
        exact hdistinct
      reused := hreused }

namespace CopyState

theorem issues_refl (place : Nat) (s : CopyState) : Issues place s s where
  phase := rfl
  flight := .inl ⟨rfl, rfl⟩
  reused := fun _ h => h

theorem issues_recordFailure (place : Nat) (s : CopyState) (error : IoError) :
    Issues place s (s.recordFailure error) where
  phase := rfl
  flight := .inl ⟨rfl, rfl⟩
  reused := fun _ h => h

variable {operation : IoOperation}

/-- The monitor stays off when a free operation is submitted. -/
theorem submit_reused {s : CopyState} {place key : Nat} {kind : IoKind}
    {answer : IoResult Submission} (hfree : place ∉ s.busy) (hreused : s.reused = false) :
    (s.submit place key kind operation answer).reused = false := by
  have hnot : place ∉ s.inFlight.map (·.overlapped) := hfree
  simp only [submit, hreused, Bool.false_or, decide_eq_false hnot]

/-- A submission and the count that follows it. -/
theorem issues_submit {s s' : CopyState} {place : Nat} (key : Nat) (kind : IoKind)
    (operation : IoOperation) (answer : IoResult Submission) (hphase : s'.phase = s.phase)
    (hflight : s'.inFlight = (s.submit place key kind operation answer).inFlight)
    (hcount : s'.outstanding = s.outstanding + (if answer.isOk then 1 else 0))
    (hreused : s'.reused = (s.submit place key kind operation answer).reused) :
    Issues place s s' where
  phase := hphase
  flight := by
    cases answer with
    | error error => exact .inl ⟨hflight, hcount⟩
    | ok submission => exact .inr ⟨_, rfl, hflight, hcount⟩
  reused := by
    intro hfree hold
    rw [hreused]
    exact submit_reused hfree hold

variable {packet : CompletionPacket} {call : SubmitCall}

theorem issues_readCompleted {env : CopyEnv} {s s' : CopyState}
    (h : s.readCompleted env operation packet call = .ok s') :
    Issues packet.overlapped s s' := by
  unfold readCompleted at h
  split at h
  · cases h
    exact issues_recordFailure _ s _
  split at h
  · cases h
    exact issues_recordFailure _ s _
  obtain ⟨bytesRead, _, h⟩ := bind_eq_ok.mp h
  unfold submitWrite at h
  cases hanswer : parseSubmissionResult env call with
  | ok submission =>
    simp only [hanswer] at h
    cases h
    exact issues_submit _ _ _ (.ok submission) rfl rfl rfl rfl
  | error error =>
    simp only [hanswer] at h
    cases h
    exact issues_submit destinationCompletionKey .write operation (.error error) rfl rfl rfl rfl

theorem issues_writeCompleted {env : CopyEnv} {s s' : CopyState}
    (h : s.writeCompleted env operation packet call = .ok s') :
    Issues packet.overlapped s s' := by
  unfold writeCompleted at h
  split at h
  · cases h
    exact issues_recordFailure _ s _
  split at h
  · cases h
    exact issues_recordFailure _ s _
  obtain ⟨bytesWritten, _, h⟩ := bind_eq_ok.mp h
  dsimp only at h
  split at h
  · obtain ⟨requestedBytes, _, h⟩ := bind_eq_ok.mp h
    unfold submitRead at h
    cases hanswer : parseSubmissionResult env call with
    | ok submission =>
      simp only [hanswer] at h
      cases h
      exact issues_submit _ _ _ (.ok submission) rfl rfl rfl rfl
    | error error =>
      simp only [hanswer] at h
      cases h
      exact issues_submit sourceCompletionKey .read operation (.error error) rfl rfl rfl rfl
  · cases h
    exact ⟨rfl, .inl ⟨rfl, rfl⟩, fun _ h => h⟩

/-- The second loop submits no operation but the one whose packet it has taken. -/
theorem issues_handlePacket {env : CopyEnv} {s s' : CopyState}
    (h : s.handlePacket env packet call = .ok s') :
    Issues packet.overlapped s s' := by
  unfold handlePacket at h
  split at h
  · cases h
    exact issues_refl _ s
  split at h
  · cases h
    exact issues_recordFailure _ s _
  split at h
  · cases h
    exact issues_recordFailure _ s _
  split at h
  · exact issues_readCompleted h
  · exact issues_writeCompleted h
  · cases h
    exact issues_recordFailure _ s _

end CopyState

/-- What a step of Windows leaves alone. -/
structure CopyState.Keeps (s s' : CopyState) : Prop where
  outstanding : s'.outstanding = s.outstanding
  firstError : s'.firstError = s.firstError
  phase : s'.phase = s.phase
  reused : s'.reused = s.reused

theorem CopyState.moveBytes_keeps (s : CopyState) (env : CopyEnv) (request : IoRequest)
    (count : Nat) : s.Keeps (s.moveBytes env request count) := by
  unfold moveBytes
  split
  · exact ⟨rfl, rfl, rfl, rfl⟩
  · split <;> exact ⟨rfl, rfl, rfl, rfl⟩

theorem CopyState.report_keeps (s : CopyState) (rest : List IoRequest) (request : IoRequest)
    (outcome : TransferOutcome) : s.Keeps (s.report rest request outcome) := by
  unfold report
  dsimp only
  split <;> exact ⟨rfl, rfl, rfl, rfl⟩

@[simp] theorem CopyState.report_inFlight (s : CopyState) (rest : List IoRequest)
    (request : IoRequest) (outcome : TransferOutcome) :
    (s.report rest request outcome).inFlight = rest := by
  unfold report
  dsimp only
  split <;> rfl

/-! ## Copies in which nothing has failed -/

/-- The stage of an operation that waits for a request of this kind. -/
def IoKind.stage : IoKind → OperationStage
  | .read => .reading
  | .write => .writing

/-- The key of the handle that requests of this kind go to. -/
def IoKind.key : IoKind → Nat
  | .read => sourceCompletionKey
  | .write => destinationCompletionKey

/-- What a request is to move. -/
def IoRequest.block (request : IoRequest) : MovedBlock where
  overlapped := request.overlapped
  position := request.position
  bytes := request.bytes

/-- All bytes of the request have been moved. -/
def IoRequest.Complete (request : IoRequest) : Prop :=
  request.outcome = some ⟨request.bytes, none⟩

theorem IoRequest.bytes_of_complete {request : IoRequest} {outcome : TransferOutcome}
    (h : { request with outcome := some outcome : IoRequest }.Complete) :
    outcome.bytesTransferred = request.bytes := by
  rw [Option.some.inj h]

/-- An operation waits for a request: the function knows what it has asked for, and the buffer has
the bytes of the source as soon as they are to be written. -/
structure Serves (env : CopyEnv) (operation : IoOperation) (request : IoRequest) : Prop where
  stage : operation.stage = request.kind.stage
  key : request.key = request.kind.key
  position : request.position = operation.fileOffset
  bytes : request.bytes = operation.requestedBytes
  fits : request.bytes ≤ env.chunkBytes
  buffer : request.kind = .write ∨ request.Complete →
    operation.buffer.take request.bytes = range env.source request.position request.bytes

/-- Every request has an operation that waits for it. -/
def Served (env : CopyEnv) (operations : List IoOperation) (requests : List IoRequest) : Prop :=
  ∀ request ∈ requests, ∃ operation, operations[request.overlapped]? = some operation ∧
    Serves env operation request

/-- The bytes of a block are in the destination. -/
def CopyState.Arrived (env : CopyEnv) (s : CopyState) (block : MovedBlock) : Prop :=
  range s.destination block.position block.bytes = range env.source block.position block.bytes

/-- The pieces that the chunks are, for the covering of the file. -/
abbrev BlockTiles : List MovedBlock → Nat → Prop := Tiles (·.position) (·.bytes)

/-- Every chunk that was handed out is in flight or written, and what was read is being written or
written. -/
structure CopyState.Sound (env : CopyEnv) (s : CopyState) : Prop where
  pool : ∀ operation ∈ s.operations, operation.buffer.length = env.chunkBytes
  served : Served env s.operations s.inFlight
  tiles : BlockTiles (s.inFlight.map (·.block) ++ s.writes) s.nextOffset
  next_le : s.nextOffset ≤ env.sourceLen
  paired : s.reads.Perm
    ((s.inFlight.filter (fun request => request.kind = .write)).map (·.block) ++ s.writes)
  bytesRead : s.bytesRead = (s.reads.map (·.bytes)).sum
  bytesWritten : s.bytesWritten = (s.writes.map (·.bytes)).sum
  length : s.destination.length = env.sourceLen
  written : ∀ block ∈ s.writes, s.Arrived env block
  landed : ∀ request ∈ s.inFlight, request.kind = .write → request.Complete →
    s.Arrived env request.block

variable {env : CopyEnv} {s : CopyState} {operations : List IoOperation}
  {before after requests : List IoRequest} {request : IoRequest} {operation : IoOperation}
  {place : Nat}

/-- The counters of the report say nothing about the bytes. -/
theorem CopyState.Sound.congr (h : s.Sound env) {t : CopyState}
    (hoperations : t.operations = s.operations) (hflight : t.inFlight = s.inFlight)
    (hnext : t.nextOffset = s.nextOffset) (hreads : t.reads = s.reads)
    (hwrites : t.writes = s.writes) (hread : t.bytesRead = s.bytesRead)
    (hwritten : t.bytesWritten = s.bytesWritten) (hdestination : t.destination = s.destination) :
    t.Sound env where
  pool := by rw [hoperations]; exact h.pool
  served := by rw [hoperations, hflight]; exact h.served
  tiles := by rw [hflight, hwrites, hnext]; exact h.tiles
  next_le := by rw [hnext]; exact h.next_le
  paired := by rw [hreads, hflight, hwrites]; exact h.paired
  bytesRead := by rw [hread, hreads]; exact h.bytesRead
  bytesWritten := by rw [hwritten, hwrites]; exact h.bytesWritten
  length := by rw [hdestination]; exact h.length
  written := by
    rw [hwrites]
    intro block hblock
    rw [CopyState.Arrived, hdestination]
    exact h.written block hblock
  landed := by
    rw [hflight]
    intro request hrequest hkind hcomplete
    rw [CopyState.Arrived, hdestination]
    exact h.landed request hrequest hkind hcomplete

/-- An operation that no request waits for may be changed. -/
theorem Served.set (h : Served env operations requests)
    (hfree : place ∉ requests.map (·.overlapped)) :
    Served env (operations.set place operation) requests := by
  intro request hrequest
  obtain ⟨served, hserved, hserves⟩ := h request hrequest
  have hne : place ≠ request.overlapped := by
    rintro rfl
    exact hfree (List.mem_map_of_mem hrequest)
  exact ⟨served, by rw [List.getElem?_set_ne hne, hserved], hserves⟩

theorem Served.append (h : Served env operations requests)
    (hoperation : operations[request.overlapped]? = some operation)
    (hserves : Serves env operation request) : Served env operations (requests ++ [request]) := by
  intro other hother
  cases List.mem_append.mp hother with
  | inl hold => exact h other hold
  | inr hnew =>
    rw [List.mem_singleton.mp hnew]
    exact ⟨operation, hoperation, hserves⟩

theorem Served.mono (h : Served env operations requests) {requests' : List IoRequest}
    (hsub : ∀ request ∈ requests', request ∈ requests) : Served env operations requests' :=
  fun request hrequest => h request (hsub request hrequest)

/-- The buffers keep their size. -/
theorem pool_set (h : ∀ operation ∈ operations, operation.buffer.length = env.chunkBytes)
    (hsize : operation.buffer.length = env.chunkBytes) :
    ∀ operation' ∈ operations.set place operation, operation'.buffer.length = env.chunkBytes := by
  intro operation' hmem
  cases List.mem_or_eq_of_mem_set hmem with
  | inl hold => exact h operation' hold
  | inr hnew => rw [hnew]; exact hsize

/-- What stands in a place after it was set. -/
theorem getElem?_set_place (h : operations[place]? = some operation) (operation' : IoOperation) :
    (operations.set place operation')[place]? = some operation' := by
  obtain ⟨hlt, _⟩ := List.getElem?_eq_some_iff.mp h
  exact List.getElem?_set_self hlt

/-- A failure is remembered. -/
theorem CopyState.recordFailure_ne (s : CopyState) (error : IoError) :
    (s.recordFailure error).firstError ≠ none := by
  cases hfirst : s.firstError <;> simp [recordFailure, hfirst]

namespace CopyState.Sound

theorem start (env : CopyEnv) : env.start.Sound env where
  pool := by
    intro operation hoperation
    rw [List.eq_of_mem_replicate hoperation]
    exact List.length_replicate
  served := by simp [Served, CopyEnv.start]
  tiles := Tiles.nil
  next_le := Nat.zero_le _
  paired := List.Perm.refl _
  bytesRead := rfl
  bytesWritten := rfl
  length := List.length_replicate
  written := by simp [CopyEnv.start]
  landed := by simp [CopyEnv.start]

/-- The chunks in flight and written lie inside the source. -/
theorem inside (h : s.Sound env) {block : MovedBlock}
    (hblock : block ∈ s.inFlight.map (·.block) ++ s.writes) :
    block.position + block.bytes ≤ env.sourceLen :=
  Nat.le_trans (h.tiles.inside hblock) h.next_le

/-- The next chunk is handed to a free operation. -/
theorem nextRead (h : s.Sound env) (henv : env.Admitted)
    (hfree : place ∉ s.inFlight.map (·.overlapped))
    (hoperation : s.operations[place]? = some operation) (hmore : s.nextOffset < env.sourceLen)
    {requestedBytes : Nat}
    (hsize : requestedBytes = min (env.sourceLen - s.nextOffset) env.chunkBytes)
    (submission : Submission) :
    ((s.submit place sourceCompletionKey .read
      (operation.prepare .reading s.nextOffset requestedBytes) (.ok submission)).readSubmitted
        requestedBytes submission).Sound env := by
  have hchunk := henv.chunk_pos
  have hposition : (OffsetOverlapped.new s.nextOffset).position = s.nextOffset :=
    OffsetOverlapped.position_new (Nat.lt_trans hmore henv.source_lt)
  have hbuffer : (operation.prepare .reading s.nextOffset requestedBytes).buffer.length =
      env.chunkBytes := h.pool operation (List.mem_of_getElem? hoperation)
  have hnew : BlockTiles (⟨place, s.nextOffset, requestedBytes⟩ ::
      (s.inFlight.map (·.block) ++ s.writes)) (s.nextOffset + requestedBytes) :=
    h.tiles.cons rfl (by dsimp only; omega)
  exact {
    pool := pool_set h.pool hbuffer
    served := by
      refine Served.append (h.served.set hfree) (getElem?_set_place hoperation _) ?_
      exact {
        stage := rfl
        key := rfl
        position := hposition
        bytes := rfl
        fits := by
          simp only [IoOperation.prepare]
          omega
        buffer := by
          rintro (hkind | hcomplete)
          · cases hkind
          · cases hcomplete }
    tiles := by
      refine hnew.perm ?_
      simp only [submit, readSubmitted, IoOperation.prepare, List.map_append, List.map_cons,
        List.map_nil, IoRequest.block, hposition, List.append_assoc, List.singleton_append]
      exact List.perm_middle.symm
    next_le := by
      simp only [submit, readSubmitted]
      omega
    paired := by
      simp only [submit, readSubmitted, List.filter_append]
      simpa using h.paired
    bytesRead := h.bytesRead
    bytesWritten := h.bytesWritten
    length := h.length
    written := h.written
    landed := by
      intro request hrequest hkind hcomplete
      cases List.mem_append.mp hrequest with
      | inl hold => exact h.landed request hold hkind hcomplete
      | inr hnew =>
        rw [List.mem_singleton.mp hnew] at hkind
        cases hkind }

/-- The chunks of the requests around one of them, and this one. -/
theorem blocks_perm (before after : List IoRequest) (request : IoRequest)
    (writes : List MovedBlock) :
    ((before ++ request :: after).map (·.block) ++ writes).Perm
      (request.block :: ((before ++ after).map (·.block) ++ writes)) := by
  simp only [List.map_append, List.map_cons, List.append_assoc, List.cons_append]
  exact List.perm_middle

/-- The operation of a request and what it waits for. -/
theorem operation_of (h : s.Sound env) (hflight : s.inFlight = before ++ request :: after) :
    ∃ operation, s.operations[request.overlapped]? = some operation ∧
      Serves env operation request := by
  apply h.served request
  rw [hflight]
  exact List.mem_append_right before List.mem_cons_self

/-- The requests beside one of them do not use its operation. -/
theorem free_of_nodup (hdistinct : s.busy.Nodup)
    (hflight : s.inFlight = before ++ request :: after) :
    request.overlapped ∉ (before ++ after).map (·.overlapped) := by
  rw [CopyState.busy, hflight, List.map_append, List.map_cons, List.nodup_middle,
    List.nodup_cons] at hdistinct
  rw [List.map_append]
  exact hdistinct.1

theorem mem_beside {request' other : IoRequest} (h : other ∈ before ++ request' :: after) :
    other = request' ∨ other ∈ before ++ after := by
  rw [List.mem_append, List.mem_cons] at h
  rw [List.mem_append]
  tauto

theorem mem_of_mem_rest (hflight : s.inFlight = before ++ request :: after) {other : IoRequest}
    (hother : other ∈ before ++ after) : other ∈ s.inFlight := by
  rw [hflight]
  exact List.mem_append.mpr
    ((List.mem_append.mp hother).imp id (List.mem_cons_of_mem request))

/-- The buffer of a completed read is on its way to the destination. -/
theorem readDone (h : s.Sound env) (henv : env.Admitted)
    (hdistinct : s.busy.Nodup) (hflight : s.inFlight = before ++ request :: after)
    (hoperation : s.operations[request.overlapped]? = some operation)
    (hkind : request.kind = .read) (hcomplete : request.Complete)
    (hserves : Serves env operation request) :
    { s with
      operations := s.operations.set request.overlapped
        (operation.prepare .writing operation.fileOffset request.bytes)
      inFlight := before ++ after ++ [⟨request.overlapped, destinationCompletionKey, .write,
        (OffsetOverlapped.new operation.fileOffset).position, request.bytes, none⟩]
      reads := request.block :: s.reads
      bytesRead := s.bytesRead + request.bytes : CopyState }.Sound env := by
  have hfree := free_of_nodup hdistinct hflight
  have hblock : request.block ∈ s.inFlight.map (·.block) ++ s.writes := by
    rw [hflight]
    exact (blocks_perm before after request s.writes).mem_iff.mpr List.mem_cons_self
  have hinside : request.position + request.bytes ≤ env.sourceLen := h.inside hblock
  have hposition : (OffsetOverlapped.new operation.fileOffset).position = request.position := by
    rw [hserves.position]
    apply OffsetOverlapped.position_new
    rw [← hserves.position]
    exact Nat.lt_of_le_of_lt (Nat.le_trans (Nat.le_add_right _ _) hinside) henv.source_lt
  exact {
    pool := pool_set h.pool (h.pool operation (List.mem_of_getElem? hoperation))
    served := by
      refine Served.append ((h.served.mono fun other => mem_of_mem_rest hflight).set hfree)
        (getElem?_set_place hoperation _) ?_
      exact {
        stage := rfl
        key := rfl
        position := by rw [hposition, hserves.position]; rfl
        bytes := rfl
        fits := hserves.fits
        buffer := by
          intro _
          rw [hposition]
          exact hserves.buffer (.inr hcomplete) }
    tiles := by
      refine h.tiles.perm ?_
      rw [hflight]
      refine (blocks_perm before after request s.writes).trans ?_
      rw [hposition]
      simp only [List.map_append, List.map_cons, List.map_nil, List.append_assoc,
        List.singleton_append]
      rw [← List.append_assoc, ← List.append_assoc]
      exact List.perm_middle.symm
    next_le := h.next_le
    paired := by
      have hold := h.paired
      rw [hflight, List.filter_append, List.filter_cons_of_neg (by simp [hkind]),
        ← List.filter_append] at hold
      rw [List.filter_append, hposition]
      simp only [List.map_append, List.filter_cons, List.filter_nil, decide_true, if_true,
        List.map_cons, List.map_nil, List.append_assoc, List.singleton_append]
      exact (hold.cons request.block).trans List.perm_middle.symm
    bytesRead := by
      rw [List.map_cons, List.sum_cons, h.bytesRead]
      exact Nat.add_comm _ _
    bytesWritten := h.bytesWritten
    length := h.length
    written := h.written
    landed := by
      intro other hother hwrite hdone
      cases List.mem_append.mp hother with
      | inl hold => exact h.landed other (mem_of_mem_rest hflight hold) hwrite hdone
      | inr hnew =>
        rw [List.mem_singleton.mp hnew] at hdone
        cases hdone }

/-- The chunk of a completed write has arrived, and its operation is free. -/
theorem writeDone (h : s.Sound env) (hdistinct : s.busy.Nodup)
    (hflight : s.inFlight = before ++ request :: after)
    (hoperation : s.operations[request.overlapped]? = some operation)
    (hkind : request.kind = .write) (hcomplete : request.Complete) :
    { s with
      operations := s.operations.set request.overlapped { operation with stage := .idle }
      inFlight := before ++ after
      writes := request.block :: s.writes
      bytesWritten := s.bytesWritten + request.bytes : CopyState }.Sound env := by
  have hfree := free_of_nodup hdistinct hflight
  exact {
    pool := pool_set h.pool (h.pool operation (List.mem_of_getElem? hoperation))
    served := (h.served.mono fun other => mem_of_mem_rest hflight).set hfree
    tiles := by
      refine h.tiles.perm ?_
      rw [hflight]
      exact (blocks_perm before after request s.writes).trans List.perm_middle.symm
    next_le := h.next_le
    paired := by
      have hold := h.paired
      rw [hflight, List.filter_append, List.filter_cons_of_pos (by simp [hkind]),
        List.map_append, List.map_cons, List.append_assoc, List.cons_append] at hold
      refine hold.trans (List.perm_middle.trans ?_)
      rw [List.filter_append, List.map_append, ← List.append_assoc]
      exact List.perm_middle.symm
    bytesRead := h.bytesRead
    bytesWritten := by
      rw [List.map_cons, List.sum_cons, h.bytesWritten]
      exact Nat.add_comm _ _
    length := h.length
    written := by
      intro block hblock
      cases List.mem_cons.mp hblock with
      | inl hnew =>
        rw [hnew]
        refine h.landed request ?_ hkind hcomplete
        rw [hflight]
        exact List.mem_append_right before List.mem_cons_self
      | inr hold => exact h.written block hold
    landed := fun other hother => h.landed other (mem_of_mem_rest hflight hother) }

variable {outcome : TransferOutcome}

/-- Windows fills the buffer of a read. -/
theorem moveRead (h : s.Sound env) (hdistinct : s.busy.Nodup)
    (hflight : s.inFlight = before ++ request :: after)
    (hoperation : s.operations[request.overlapped]? = some operation)
    (hkind : request.kind = .read) (hserves : Serves env operation request)
    (hcount : outcome.bytesTransferred ≤ request.bytes) :
    { s with
      operations := s.operations.set request.overlapped { operation with
        buffer := overwrite 0 operation.buffer 0
          (range env.source request.position outcome.bytesTransferred) }
      inFlight := before ++ { request with outcome := some outcome } :: after :
      CopyState }.Sound env := by
  have hfree := free_of_nodup hdistinct hflight
  have hblock : request.block ∈ s.inFlight.map (·.block) ++ s.writes := by
    rw [hflight]
    exact (blocks_perm before after request s.writes).mem_iff.mpr List.mem_cons_self
  have hinside : request.position + request.bytes ≤ env.source.length := h.inside hblock
  have hdata : (range env.source request.position outcome.bytesTransferred).length =
      outcome.bytesTransferred := range_length (by omega)
  have hsize := h.pool operation (List.mem_of_getElem? hoperation)
  have hfits := hserves.fits
  exact {
    pool := by
      refine pool_set h.pool ?_
      rw [overwrite_length_le, hdata, hsize]
      omega
    served := by
      intro other hother
      cases mem_beside hother with
      | inr hrest =>
        exact (h.served.mono fun other => mem_of_mem_rest hflight).set hfree other hrest
      | inl hthis =>
        rw [hthis]
        refine ⟨_, getElem?_set_place hoperation _, ?_⟩
        exact {
          stage := hserves.stage
          key := hserves.key
          position := hserves.position
          bytes := hserves.bytes
          fits := hserves.fits
          buffer := by
            rintro (hwrite | hcomplete)
            · rw [hkind] at hwrite
              cases hwrite
            · have hall := IoRequest.bytes_of_complete hcomplete
              have hread := range_overwrite_same 0 operation.buffer
                (range env.source request.position outcome.bytesTransferred) 0
              rw [hdata, hall] at hread
              rw [hall]
              exact hread }
    tiles := by
      refine h.tiles.perm ?_
      rw [hflight]
      exact (blocks_perm before after request s.writes).trans
        (blocks_perm before after { request with outcome := some outcome } s.writes).symm
    next_le := h.next_le
    paired := by
      have hold := h.paired
      rw [hflight, List.filter_append, List.filter_cons_of_neg (by simp [hkind])] at hold
      rw [List.filter_append, List.filter_cons_of_neg (by simp [hkind])]
      exact hold
    bytesRead := h.bytesRead
    bytesWritten := h.bytesWritten
    length := h.length
    written := h.written
    landed := by
      intro other hother hwrite hdone
      cases mem_beside hother with
      | inr hrest => exact h.landed other (mem_of_mem_rest hflight hrest) hwrite hdone
      | inl hthis =>
        rw [hthis, hkind] at hwrite
        cases hwrite }

/-- Windows writes a buffer into its part of the destination. -/
theorem moveWrite (h : s.Sound env) (hflight : s.inFlight = before ++ request :: after)
    (hoperation : s.operations[request.overlapped]? = some operation)
    (hkind : request.kind = .write) (hserves : Serves env operation request)
    (hcount : outcome.bytesTransferred ≤ request.bytes) :
    { s with
      destination := overwrite 0 s.destination request.position
        (operation.buffer.take outcome.bytesTransferred)
      inFlight := before ++ { request with outcome := some outcome } :: after :
      CopyState }.Sound env := by
  have htiles : BlockTiles (request.block :: ((before ++ after).map (·.block) ++ s.writes))
      s.nextOffset := by
    refine h.tiles.perm ?_
    rw [hflight]
    exact blocks_perm before after request s.writes
  have hinside : request.position + request.bytes ≤ env.sourceLen :=
    Nat.le_trans (htiles.inside List.mem_cons_self) h.next_le
  have hlength := h.length
  have hdata : (operation.buffer.take outcome.bytesTransferred).length =
      outcome.bytesTransferred := by
    have hsize := h.pool operation (List.mem_of_getElem? hoperation)
    have hfits := hserves.fits
    rw [List.length_take, hsize]
    omega
  have hbeside : ∀ block ∈ (before ++ after).map (·.block) ++ s.writes, s.Arrived env block →
      range (overwrite 0 s.destination request.position
        (operation.buffer.take outcome.bytesTransferred)) block.position block.bytes =
      range env.source block.position block.bytes := by
    intro block hblock harrived
    have hwithin := Nat.le_trans (htiles.inside (List.mem_cons_of_mem _ hblock)) h.next_le
    have hapart : request.position + request.bytes ≤ block.position ∨
        block.position + block.bytes ≤ request.position := htiles.apart hblock
    rw [range_overwrite_disjoint 0 (by rw [hlength]; exact hwithin) (by rw [hdata]; omega)]
    exact harrived
  exact {
    pool := h.pool
    served := by
      intro other hother
      cases mem_beside hother with
      | inr hrest => exact h.served other (mem_of_mem_rest hflight hrest)
      | inl hthis =>
        rw [hthis]
        exact ⟨operation, hoperation, {
          stage := hserves.stage
          key := hserves.key
          position := hserves.position
          bytes := hserves.bytes
          fits := hserves.fits
          buffer := fun _ => hserves.buffer (.inl hkind) }⟩
    tiles := htiles.perm
      (blocks_perm before after { request with outcome := some outcome } s.writes).symm
    next_le := h.next_le
    paired := by
      have hold := h.paired
      rw [hflight, List.filter_append, List.filter_cons_of_pos (by simp [hkind]), List.map_append,
        List.map_cons] at hold
      rw [List.filter_append, List.filter_cons_of_pos (by simp [hkind]), List.map_append,
        List.map_cons]
      exact hold
    bytesRead := h.bytesRead
    bytesWritten := h.bytesWritten
    length := by
      rw [overwrite_length_le, hdata, hlength]
      omega
    written := fun block hblock =>
      hbeside block (List.mem_append_right _ hblock) (h.written block hblock)
    landed := by
      intro other hother hwrite hdone
      cases mem_beside hother with
      | inr hrest =>
        exact hbeside other.block (List.mem_append_left _ (List.mem_map_of_mem hrest))
          (h.landed other (mem_of_mem_rest hflight hrest) hwrite hdone)
      | inl hthis =>
        rw [hthis] at hdone ⊢
        have hall := IoRequest.bytes_of_complete hdone
        rw [CopyState.Arrived]
        have hwritten := range_overwrite_same 0 s.destination
          (operation.buffer.take outcome.bytesTransferred) request.position
        rw [hdata, hall, hserves.buffer (.inl hkind)] at hwritten
        rw [hall, hserves.buffer (.inl hkind)]
        exact hwritten }

/-- The counters never exceed the chunks that were handed out. -/
theorem counters_le (h : s.Sound env) :
    s.bytesRead ≤ env.sourceLen ∧ s.bytesWritten ≤ env.sourceLen := by
  have hblocks : ∀ blocks : List MovedBlock,
      blocks.Sublist (s.inFlight.map (·.block) ++ s.writes) →
      (blocks.map (·.bytes)).sum ≤ env.sourceLen := by
    intro blocks hsub
    refine Nat.le_trans ?_ h.next_le
    rw [← h.tiles.sum]
    exact (hsub.map _).sum_le_sum (fun _ _ => Nat.zero_le _)
  constructor
  · rw [h.bytesRead, (h.paired.map (·.bytes)).sum_eq]
    exact hblocks _ ((List.filter_sublist.map _).append (List.Sublist.refl _))
  · rw [h.bytesWritten]
    exact hblocks _ (List.sublist_append_right _ _)

/-- The counter takes what it was shown to hold. -/
theorem okOrElse_checkedAdd {a b total : Nat} (error : IoError) (hsum : a + b ≤ total)
    (htotal : total < u64Limit) : okOrElse (checkedAdd a b) error = .ok (a + b) := by
  have hadd : checkedAdd a b = some (a + b) :=
    checkedAdd_eq_some.mpr ⟨Nat.lt_of_le_of_lt hsum htotal, rfl⟩
  rw [hadd, okOrElse_some]

/-- The arm of a completed read does not return, and what it does is sound. -/
theorem readCompleted (h : s.Sound env) (henv : env.Admitted) (hdistinct : s.busy.Nodup)
    (hflight : s.inFlight = before ++ request :: after)
    (hoperation : s.operations[request.overlapped]? = some operation)
    (hserves : Serves env operation request) (hkind : request.kind = .read)
    (hdone : request.outcome = some outcome) (hgood : outcome.errorCode = none) (count : Nat)
    (call : SubmitCall) :
    ∃ t, { s.report (before ++ after) request outcome with
        outstanding := count : CopyState }.readCompleted env operation (request.packet outcome)
        call = .ok t ∧ (t.firstError = none → t.Sound env) := by
  rw [CopyState.readCompleted]
  split
  · exact ⟨_, rfl, fun hnone => absurd hnone (recordFailure_ne _ _)⟩
  split
  · exact ⟨_, rfl, fun hnone => absurd hnone (recordFailure_ne _ _)⟩
  rename_i _ hshort
  have hbytes : outcome.bytesTransferred = request.bytes := by
    rw [hserves.bytes]
    exact not_not.mp hshort
  have hcomplete : request.Complete := by
    rw [IoRequest.Complete, hdone, ← hbytes, ← hgood]
  have hnext := h.readDone henv hdistinct hflight hoperation hkind hcomplete hserves
  have hadd := okOrElse_checkedAdd (.other "read byte count overflowed") hnext.counters_le.1
    henv.source_lt
  have hreport : s.report (before ++ after) request outcome =
      { s with inFlight := before ++ after, reads := request.block :: s.reads } := by
    simp only [report, hkind, IoRequest.packet, CompletionPacket.block, hbytes, IoRequest.block]
  simp only [hreport, IoRequest.packet, hbytes, hadd, ok_bind, submitWrite]
  cases parseSubmissionResult env call with
  | error error => exact ⟨_, rfl, fun hnone => absurd hnone (recordFailure_ne _ _)⟩
  | ok submission => exact ⟨_, rfl, fun _ => hnext.congr rfl rfl rfl rfl rfl rfl rfl rfl⟩

/-- The arm of a completed write does not return, and what it does is sound. -/
theorem writeCompleted (h : s.Sound env) (henv : env.Admitted) (hdistinct : s.busy.Nodup)
    (hflight : s.inFlight = before ++ request :: after)
    (hoperation : s.operations[request.overlapped]? = some operation)
    (hserves : Serves env operation request) (hkind : request.kind = .write)
    (hdone : request.outcome = some outcome) (hgood : outcome.errorCode = none) (count : Nat)
    (call : SubmitCall) :
    ∃ t, { s.report (before ++ after) request outcome with
        outstanding := count : CopyState }.writeCompleted env operation (request.packet outcome)
        call = .ok t ∧ (t.firstError = none → t.Sound env) := by
  rw [CopyState.writeCompleted]
  split
  · exact ⟨_, rfl, fun hnone => absurd hnone (recordFailure_ne _ _)⟩
  split
  · exact ⟨_, rfl, fun hnone => absurd hnone (recordFailure_ne _ _)⟩
  rename_i _ hshort
  have hbytes : outcome.bytesTransferred = request.bytes := by
    rw [hserves.bytes]
    exact not_not.mp hshort
  have hcomplete : request.Complete := by
    rw [IoRequest.Complete, hdone, ← hbytes, ← hgood]
  have hfree := free_of_nodup hdistinct hflight
  have hidle := h.writeDone hdistinct hflight hoperation hkind hcomplete
  have hadd := okOrElse_checkedAdd (.other "written byte count overflowed") hidle.counters_le.2
    henv.source_lt
  have hreport : s.report (before ++ after) request outcome =
      { s with inFlight := before ++ after, writes := request.block :: s.writes } := by
    simp only [report, hkind, IoRequest.packet, CompletionPacket.block, hbytes, IoRequest.block]
  simp only [hreport, IoRequest.packet, hbytes, hadd, ok_bind]
  split
  · rename_i hmore
    have hnext := hidle.nextRead henv hfree (getElem?_set_place hoperation _) hmore rfl
    simp only [requestSize_of_lt hmore henv.chunk_lt, ok_bind, submitRead]
    cases parseSubmissionResult env call with
    | error error => exact ⟨_, rfl, fun hnone => absurd hnone (recordFailure_ne _ _)⟩
    | ok submission =>
      exact ⟨_, rfl, fun _ => (hnext submission).congr rfl rfl rfl rfl rfl rfl rfl rfl⟩
  · exact ⟨_, rfl, fun _ => hidle.congr rfl rfl rfl rfl rfl rfl rfl rfl⟩

/-- Whatever packet the second loop takes, its body does not return. -/
theorem handlePacket (h : s.Sound env) (henv : env.Admitted) (hdistinct : s.busy.Nodup)
    (hnone : s.firstError = none) (hflight : s.inFlight = before ++ request :: after)
    (hdone : request.outcome = some outcome) (count : Nat) (call : SubmitCall) :
    ∃ t, { s.report (before ++ after) request outcome with
        outstanding := count : CopyState }.handlePacket env (request.packet outcome)
        call = .ok t ∧ (t.firstError = none → t.Sound env) := by
  obtain ⟨operation, hoperation, hserves⟩ := h.operation_of hflight
  have hfirst : (s.report (before ++ after) request outcome).firstError = none := by
    rw [report]
    split <;> exact hnone
  have hpool : (s.report (before ++ after) request outcome).operations = s.operations := by
    rw [report]
    split <;> rfl
  rw [CopyState.handlePacket]
  simp only [hfirst, Option.isSome_none, Bool.false_eq_true, if_false, hpool]
  cases hcode : outcome.errorCode with
  | some errorCode =>
    simp only [IoRequest.packet, hcode]
    exact ⟨_, rfl, fun hnone => absurd hnone (recordFailure_ne _ _)⟩
  | none =>
    cases hkind : request.kind with
    | read =>
      have hstage : operation.stage = .reading := by rw [hserves.stage, hkind]; rfl
      have hread := h.readCompleted henv hdistinct hflight hoperation hserves hkind hdone
        hcode count call
      simp only [IoRequest.packet, hcode, hfirst, hpool, hoperation, hstage] at hread ⊢
      exact hread
    | write =>
      have hstage : operation.stage = .writing := by rw [hserves.stage, hkind]; rfl
      have hwrite := h.writeCompleted henv hdistinct hflight hoperation hserves hkind hdone
        hcode count call
      simp only [IoRequest.packet, hcode, hfirst, hpool, hoperation, hstage] at hwrite ⊢
      exact hwrite

end CopyState.Sound

/-! ## Every step -/

/-- What holds in every state of a copy. -/
structure CopyState.Invariant (env : CopyEnv) (s : CopyState) : Prop where
  flight : s.InFlight
  sound : s.firstError = none → s.Sound env
  /-- The operations behind the place of the first loop are free, and nothing has failed there. -/
  filling : ∀ place, s.phase = .filling place →
    s.firstError = none ∧ ∀ busy ∈ s.busy, busy < place
  returned : ∀ result, s.phase = .returned result → s.inFlight = []
  succeeded : ∀ report, s.phase = .returned (.ok report) →
    s.firstError = none ∧ s.bytesWritten = env.sourceLen

namespace CopyState.Invariant

theorem start (env : CopyEnv) : env.start.Invariant env where
  flight := ⟨rfl, List.nodup_nil, rfl⟩
  sound := fun _ => Sound.start env
  filling := by
    intro place hphase
    exact ⟨rfl, by simp [CopyState.busy, CopyEnv.start]⟩
  returned := fun _ _ => rfl
  succeeded := by
    intro report hphase
    cases hphase

/-- In the second loop nothing else has to be known. -/
theorem of_draining (hflight : s.InFlight) (hsound : s.firstError = none → s.Sound env)
    (hphase : s.phase = .draining) : s.Invariant env where
  flight := hflight
  sound := hsound
  filling := by
    intro place hfilling
    rw [hphase] at hfilling
    cases hfilling
  returned := by
    intro result hreturned
    rw [hphase] at hreturned
    cases hreturned
  succeeded := by
    intro report hreturned
    rw [hphase] at hreturned
    cases hreturned

/-- A step of the first loop submits the next operation, or ends the loop. -/
theorem fillStep (h : s.Invariant env) (henv : env.Admitted) (hphase : s.phase = .filling place)
    (call : SubmitCall) : (s.fillStep env place call).Invariant env := by
  obtain ⟨hnone, hbelow⟩ := h.filling place hphase
  have hfree : place ∉ s.busy := fun hmem => Nat.lt_irrefl _ (hbelow place hmem)
  have hends : { s with phase := .draining : CopyState }.Invariant env :=
    of_draining ⟨h.flight.outstanding, h.flight.distinct, h.flight.reused⟩
      (fun hnone => (h.sound hnone).congr rfl rfl rfl rfl rfl rfl rfl rfl) rfl
  rw [CopyState.fillStep]
  cases hoperation : s.operations[place]? with
  | none => exact hends
  | some operation =>
    dsimp only
    split
    · exact hends
    rename_i hmore
    rw [Nat.not_le] at hmore
    simp only [requestSize_of_lt hmore henv.chunk_lt, submitRead]
    cases hanswer : parseSubmissionResult env call with
    | error error =>
      have hissue : Issues place s ((s.submit place sourceCompletionKey .read
          (operation.prepare .reading s.nextOffset
            (min (env.sourceLen - s.nextOffset) env.chunkBytes)) (.error error)).recordFailure
          error) :=
        issues_submit sourceCompletionKey .read operation (.error error) rfl rfl rfl rfl
      have hflight := hissue.inFlight h.flight hfree
      exact of_draining ⟨hflight.outstanding, hflight.distinct, hflight.reused⟩
        (fun hnone => absurd hnone (recordFailure_ne _ _)) rfl
    | ok submission =>
      have hissue : Issues place s ((s.submit place sourceCompletionKey .read
          (operation.prepare .reading s.nextOffset
            (min (env.sourceLen - s.nextOffset) env.chunkBytes)) (.ok submission)).readSubmitted
          (min (env.sourceLen - s.nextOffset) env.chunkBytes) submission) :=
        issues_submit _ _ _ (.ok submission) rfl rfl rfl rfl
      have hflight := hissue.inFlight h.flight hfree
      have hsound := (h.sound hnone).nextRead henv hfree hoperation hmore rfl submission
      exact {
        flight := ⟨hflight.outstanding, hflight.distinct, hflight.reused⟩
        sound := fun _ => hsound.congr rfl rfl rfl rfl rfl rfl rfl rfl
        filling := by
          intro next hphase
          cases hphase
          refine ⟨hnone, fun busy hbusy => ?_⟩
          have hmem : busy ∈ s.busy ++ [place] := by
            simpa [CopyState.busy, submit, readSubmitted] using hbusy
          cases List.mem_append.mp hmem with
          | inl hold => exact Nat.lt_succ_of_lt (hbelow busy hold)
          | inr hnew => rw [List.mem_singleton.mp hnew]; exact Nat.lt_succ_self place
        returned := by
          intro result hphase
          cases hphase
        succeeded := by
          intro report hphase
          cases hphase }

/-- Windows moves bytes and nothing else. -/
theorem moveStep (h : s.Invariant env) {outcome : TransferOutcome}
    (hflight : s.inFlight = before ++ request :: after)
    (hcount : outcome.bytesTransferred ≤ request.bytes) :
    { s.moveBytes env request outcome.bytesTransferred with
      inFlight := before ++ { request with outcome := some outcome } :: after :
      CopyState }.Invariant env := by
  have hbusy : (before ++ { request with outcome := some outcome } :: after).map (·.overlapped) =
      s.busy := by
    rw [CopyState.busy, hflight, List.map_append, List.map_append]
    rfl
  have hlength : (before ++ { request with outcome := some outcome } :: after).length =
      s.inFlight.length := by
    rw [hflight, List.length_append, List.length_append]
    rfl
  have hkeeps := s.moveBytes_keeps env request outcome.bytesTransferred
  exact {
    flight := {
      outstanding := by rw [hlength]; exact hkeeps.outstanding.trans h.flight.outstanding
      distinct := by rw [CopyState.busy, hbusy]; exact h.flight.distinct
      reused := hkeeps.reused.trans h.flight.reused }
    sound := by
      intro hnone
      have hsound := h.sound (hkeeps.firstError.symm.trans hnone)
      obtain ⟨operation, hoperation, hserves⟩ := hsound.operation_of hflight
      simp only [moveBytes, hoperation]
      cases hkind : request.kind with
      | read =>
        have hmoved := hsound.moveRead h.flight.distinct hflight hoperation hkind hserves hcount
        simp only [hkind] at hmoved ⊢
        exact hmoved
      | write =>
        have hmoved := hsound.moveWrite hflight hoperation hkind hserves hcount
        simp only [hkind] at hmoved ⊢
        exact hmoved
    filling := by
      intro place hphase
      obtain ⟨hnone, hbelow⟩ := h.filling place (hkeeps.phase.symm.trans hphase)
      refine ⟨hkeeps.firstError.trans hnone, ?_⟩
      rw [CopyState.busy, hbusy]
      exact hbelow
    returned := by
      intro result hphase
      have hempty := h.returned result (hkeeps.phase.symm.trans hphase)
      rw [hflight] at hempty
      exact absurd hempty (by simp)
    succeeded := by
      intro report hphase
      have hempty := h.returned _ (hkeeps.phase.symm.trans hphase)
      rw [hflight] at hempty
      exact absurd hempty (by simp) }

/-- A packet is taken out of the port. -/
theorem drainStep (h : s.Invariant env) (henv : env.Admitted) (hphase : s.phase = .draining)
    (hflight : s.inFlight = before ++ request :: after) {outcome : TransferOutcome}
    (hdone : request.outcome = some outcome) (call : SubmitCall) :
    ((s.report (before ++ after) request outcome).drainStep env (request.packet outcome)
      call).Invariant env := by
  have hfree := Sound.free_of_nodup h.flight.distinct hflight
  have hreport := s.report_keeps (before ++ after) request outcome
  have hlast : { s.report (before ++ after) request outcome with
      outstanding := (s.report (before ++ after) request outcome).outstanding - 1 :
      CopyState }.InFlight := by
    have hcount := h.flight.outstanding
    have hdistinct := h.flight.distinct
    rw [hflight, List.length_append, List.length_cons] at hcount
    rw [CopyState.busy, hflight, List.map_append, List.map_cons, List.nodup_middle,
      ← List.map_append, List.nodup_cons] at hdistinct
    exact {
      outstanding := by
        dsimp only
        rw [hreport.outstanding, report_inFlight, List.length_append]
        omega
      distinct := by
        rw [CopyState.busy, report_inFlight]
        exact hdistinct.2
      reused := hreport.reused.trans h.flight.reused }
  have hplace : request.overlapped ∉ { s.report (before ++ after) request outcome with
      outstanding := (s.report (before ++ after) request outcome).outstanding - 1 :
      CopyState }.busy := by
    rw [CopyState.busy, report_inFlight]
    exact hfree
  have hhandled : ∃ t, { s.report (before ++ after) request outcome with
      outstanding := (s.report (before ++ after) request outcome).outstanding - 1 :
      CopyState }.handlePacket env (request.packet outcome) call = .ok t ∧
      (t.firstError = none → t.Sound env) := by
    cases hfirst : s.firstError with
    | none =>
      exact (h.sound hfirst).handlePacket henv h.flight.distinct hfirst hflight hdone _ call
    | some error =>
      have hsome := hreport.firstError.trans hfirst
      rw [CopyState.handlePacket, if_pos (by rw [hsome]; rfl)]
      refine ⟨_, rfl, fun hnone => ?_⟩
      rw [hsome] at hnone
      cases hnone
  obtain ⟨t, hok, hsound⟩ := hhandled
  have hissue := issues_handlePacket hok
  rw [CopyState.drainStep]
  simp only [hok]
  exact of_draining (hissue.inFlight hlast hplace) hsound
    (hissue.phase.trans (hreport.phase.trans hphase))

/-- The function reports success only when every chunk is written. -/
theorem finishStep (h : s.Invariant env) (hidle : s.outstanding = 0) (flush : IoResult Unit) :
    { s with phase := .returned (s.finish env flush) : CopyState }.Invariant env where
  flight := ⟨h.flight.outstanding, h.flight.distinct, h.flight.reused⟩
  sound := fun hnone => (h.sound hnone).congr rfl rfl rfl rfl rfl rfl rfl rfl
  filling := by
    intro place hphase
    cases hphase
  returned := by
    intro result _
    apply List.eq_nil_of_length_eq_zero
    rw [← h.flight.outstanding, hidle]
  succeeded := by
    intro report hphase
    have hfinish : s.finish env flush = .ok report := CopyPhase.returned.inj hphase
    cases hfirst : s.firstError with
    | some error =>
      simp only [finish, hfirst] at hfinish
      cases hfinish
    | none =>
      simp only [finish, hfirst, bind_eq_ok, ensure_eq_ok] at hfinish
      obtain ⟨_, _, _, _, _, hwritten, _⟩ := hfinish
      exact ⟨rfl, hwritten⟩

theorem step (h : s.Invariant env) (henv : env.Admitted) {s' : CopyState}
    (hstep : CopyStep env s s') : s'.Invariant env := by
  cases hstep with
  | fill call hphase => exact h.fillStep henv hphase call
  | move outcome hflight hopen hcount => exact h.moveStep hflight hcount
  | drain call hphase hbusy hflight hdone => exact h.drainStep henv hphase hflight hdone call
  | finish flush hphase hidle => exact h.finishStep hidle flush
  | waitFailed error hphase hbusy =>
    exact {
      flight := ⟨h.flight.outstanding, h.flight.distinct, h.flight.reused⟩
      sound := fun hnone => (h.sound hnone).congr rfl rfl rfl rfl rfl rfl rfl rfl
      filling := by
        intro place hphase
        cases hphase
      returned := by
        intro result hphase
        cases hphase
      succeeded := by
        intro report hphase
        cases hphase }

theorem steps (h : s.Invariant env) (henv : env.Admitted) {s' : CopyState}
    (hsteps : CopySteps env s s') : s'.Invariant env := by
  induction hsteps with
  | refl => exact h
  | tail _ hstep ih => exact ih.step henv hstep

end CopyState.Invariant

/-! ## The copy -/

/-- The offset lies in one reported read and in one reported write, and these have moved the same
bytes, at the same offset, through the buffer of the same operation. -/
def CopyState.CopiedOnce (s : CopyState) (offset : Nat) : Prop :=
  ∃ block, piecesAt MovedBlock.position MovedBlock.bytes offset s.reads = [block] ∧
    piecesAt MovedBlock.position MovedBlock.bytes offset s.writes = [block]

namespace CopyState.Sound

/-- With nothing in flight and as much written as the source has, every chunk is written. -/
theorem tiles_done (h : s.Sound env) (hidle : s.inFlight = [])
    (hwritten : s.bytesWritten = env.sourceLen) : BlockTiles s.writes env.sourceLen := by
  have htiles := h.tiles
  rw [hidle, List.map_nil, List.nil_append] at htiles
  have hnext : s.nextOffset = env.sourceLen := by
    rw [← htiles.sum, ← hwritten, h.bytesWritten]
  rw [← hnext]
  exact htiles

theorem copiedOnce (h : s.Sound env) (hidle : s.inFlight = [])
    (hwritten : s.bytesWritten = env.sourceLen) {offset : Nat} (hoffset : offset < env.sourceLen) :
    s.CopiedOnce offset := by
  have hpaired := h.paired
  rw [hidle, List.filter_nil, List.map_nil, List.nil_append] at hpaired
  obtain ⟨block, hblock⟩ := (h.tiles_done hidle hwritten).piece_at hoffset
  exact ⟨block, piecesAt_perm hpaired.symm hblock, hblock⟩

/-- Every byte of the source has arrived. -/
theorem destination_eq (h : s.Sound env) (hidle : s.inFlight = [])
    (hwritten : s.bytesWritten = env.sourceLen) : s.destination = env.source := by
  have hlength := h.length
  apply List.ext_getElem?
  intro offset
  by_cases hoffset : offset < env.sourceLen
  · obtain ⟨block, hblock⟩ := (h.tiles_done hidle hwritten).piece_at hoffset
    have hmem : block ∈ piecesAt MovedBlock.position MovedBlock.bytes offset s.writes := by
      rw [hblock]
      exact List.mem_singleton_self block
    obtain ⟨hwrite, hlow, hhigh⟩ := mem_piecesAt.mp hmem
    have harrived := congrArg (fun bytes => bytes[offset - block.position]?)
      (h.written block hwrite)
    simp only [range, List.getElem?_take, List.getElem?_drop] at harrived
    rw [if_pos (by omega), if_pos (by omega), Nat.add_sub_cancel' hlow] at harrived
    exact harrived
  · have hsource : env.source.length ≤ offset := Nat.not_lt.mp hoffset
    rw [List.getElem?_eq_none (by omega), List.getElem?_eq_none hsource]

end CopyState.Sound

/-- Whatever Windows answers and in whatever order it reports the transfers, an operation that is
in flight is not submitted, the function knows how many are in flight, it leaves none behind unless
waiting itself has failed, and it succeeds only with a destination equal to the source, of which
every offset was read once and written once. -/
theorem CopySetup.run_safe {setup : CopySetup} {chunkMib operationCount : Nat} {env : CopyEnv}
    (hprepare : setup.prepare chunkMib operationCount = .ok env) {s : CopyState}
    (hrun : CopySteps env env.start s) :
    s.reused = false ∧ s.outstanding = s.inFlight.length ∧
      (∀ result, s.phase.result = some result →
        s.inFlight = [] ∨ ∃ error, s.phase = .abandoned error) ∧
      ∀ report, s.phase.result = some (.ok report) →
        (∀ offset < env.sourceLen, s.CopiedOnce offset) ∧ s.destination = env.source := by
  have h := (CopyState.Invariant.start env).steps (CopySetup.prepare_admitted hprepare) hrun
  refine ⟨h.flight.reused, h.flight.outstanding, fun result hresult => ?_,
    fun report hresult => ?_⟩
  · cases hphase : s.phase with
    | filling place => rw [hphase] at hresult; cases hresult
    | draining => rw [hphase] at hresult; cases hresult
    | returned result' => exact .inl (h.returned result' hphase)
    | abandoned error => exact .inr ⟨error, rfl⟩
  · have hphase : s.phase = .returned (.ok report) := by
      cases hphase : s.phase with
      | filling place => rw [hphase] at hresult; cases hresult
      | draining => rw [hphase] at hresult; cases hresult
      | returned result' =>
          rw [hphase] at hresult
          rw [Option.some.inj hresult]
      | abandoned error => rw [hphase] at hresult; cases hresult
    obtain ⟨hnone, hwritten⟩ := h.succeeded report hphase
    have hidle := h.returned _ hphase
    have hsound := h.sound hnone
    exact ⟨fun offset hoffset => hsound.copiedOnce hidle hwritten hoffset,
      hsound.destination_eq hidle hwritten⟩

/-! A copy of one byte: the read is finished at once, the write is not. -/

/-- A source of one byte. -/
def oneByteSetup : CopySetup where
  sourceName := "source.bin"
  overlappedLayout := .ok ()
  sameFile := .ok ()
  openSource := .ok {
    isFile := true
    content := [7]
    length_lt := by
      unfold u64Limit
      decide }
  openDestination := .ok ()
  setLen := .ok ()
  completionPort := .ok ()
  associateSource := .ok ()
  associateDestination := .ok ()
  fromRawOsError := fun code => .other s!"os error {code}"

def oneByteEnv : CopyEnv where
  source := [7]
  chunkBytes := 1024 * 1024
  operationCount := 1
  poolBytes := 1024 * 1024
  fromRawOsError := fun code => .other s!"os error {code}"

def oneByteRequest (kind : IoKind) : IoRequest where
  overlapped := 0
  key := kind.key
  kind := kind
  position := 0
  bytes := 1
  outcome := none

/-- Windows moves the byte of the only request. -/
def CopyState.moveOne (s : CopyState) (kind : IoKind) : CopyState :=
  { s.moveBytes oneByteEnv (oneByteRequest kind) 1 with
    inFlight := [{ oneByteRequest kind with outcome := some ⟨1, none⟩ }] }

/-- The packet of this request is handled. -/
def CopyState.serveOne (s : CopyState) (kind : IoKind) (call : SubmitCall) : CopyState :=
  let done := { oneByteRequest kind with outcome := some ⟨1, none⟩ }
  ((s.moveOne kind).report [] done ⟨1, none⟩).drainStep oneByteEnv (done.packet ⟨1, none⟩) call

theorem CopyState.serveOne_steps {s : CopyState} {kind : IoKind} (call : SubmitCall)
    (hphase : s.phase = .draining) (hbusy : 0 < s.outstanding)
    (hflight : s.inFlight = [oneByteRequest kind]) :
    CopySteps oneByteEnv s (s.serveOne kind call) := by
  have hkeeps := s.moveBytes_keeps oneByteEnv (oneByteRequest kind) 1
  have hfirst : s.inFlight = [] ++ oneByteRequest kind :: [] := hflight
  have hmove : CopyStep oneByteEnv s (s.moveOne kind) :=
    .move ⟨1, none⟩ hfirst rfl (Nat.le_refl 1)
  have hcalled : (s.moveOne kind).phase = .draining := hkeeps.phase.trans hphase
  have hcount : 0 < (s.moveOne kind).outstanding :=
    Nat.lt_of_lt_of_eq hbusy hkeeps.outstanding.symm
  have hmoved : (s.moveOne kind).inFlight =
      [] ++ { oneByteRequest kind with outcome := some ⟨1, none⟩ } :: [] := rfl
  exact .tail (.single hmove) (.drain call hcalled hcount hmoved rfl)

def oneByteRead : CopyState :=
  (oneByteEnv.start.fillStep oneByteEnv 0 ⟨1, 0⟩).fillStep oneByteEnv 1 ⟨1, 0⟩

def oneByteWritten : CopyState := (oneByteRead.serveOne .read ⟨0, 997⟩).serveOne .write ⟨1, 0⟩

theorem oneByte_steps : CopySteps oneByteEnv oneByteEnv.start
    { oneByteWritten with phase := .returned (oneByteWritten.finish oneByteEnv (.ok ())) } := by
  have hfill : CopySteps oneByteEnv oneByteEnv.start oneByteRead :=
    .tail (.single (.fill ⟨1, 0⟩ rfl)) (.fill ⟨1, 0⟩ rfl)
  have hread : CopySteps oneByteEnv oneByteRead (oneByteRead.serveOne .read ⟨0, 997⟩) :=
    CopyState.serveOne_steps ⟨0, 997⟩ rfl (by decide) rfl
  have hwrite : CopySteps oneByteEnv (oneByteRead.serveOne .read ⟨0, 997⟩) oneByteWritten := by
    apply CopyState.serveOne_steps ⟨1, 0⟩
    · with_unfolding_all rfl
    · with_unfolding_all decide
    · with_unfolding_all rfl
  refine .tail ((hfill.trans hread).trans hwrite) (.finish (.ok ()) ?_ ?_)
  · with_unfolding_all rfl
  · with_unfolding_all rfl

theorem CopySetup.run_safe_oneByte : ∃ s report, CopySteps oneByteEnv oneByteEnv.start s ∧
    s.phase.result = some (.ok report) ∧ s.CopiedOnce 0 ∧ s.destination = [7] := by
  have hprepare : oneByteSetup.prepare 1 1 = .ok oneByteEnv := by with_unfolding_all rfl
  have hfinish : oneByteWritten.finish oneByteEnv (.ok ()) =
      .ok ⟨1, 1024 * 1024, 1, 1024 * 1024, 1, 1, 1, 0⟩ := by with_unfolding_all rfl
  have hresult : ({ oneByteWritten with
      phase := .returned (oneByteWritten.finish oneByteEnv (.ok ())) } : CopyState).phase.result =
      some (.ok ⟨1, 1024 * 1024, 1, 1024 * 1024, 1, 1, 1, 0⟩) := congrArg some hfinish
  obtain ⟨_, _, _, hsucceeds⟩ := CopySetup.run_safe hprepare oneByte_steps
  obtain ⟨honce, hequal⟩ := hsucceeds _ hresult
  exact ⟨_, _, oneByte_steps, hresult, honce 0 (by decide), hequal⟩

end NetworkCopy
