import NetworkCopy.Management.WireCodecs

/-!
# The control server of an agent

`serve_forever` takes one connection after the other.  An error of `handle_client` ends the loop
and with it the process, and a connection that does not send a frame is such an error.  What a
request asks for can fail in every way; the error goes into the response.
-/

namespace NetworkCopy

open ByteOrder ByteReader

/-- `ManagementControlServer`.  `local_hostname` has checked the name. -/
structure ManagementControlServer where
  hostname : String
  hostname_fits : TextFits hostname maxHostnameBytes false
  capabilities : AgentCapabilities
  agentInstanceId : AgentInstanceId

/-- What a connection meets outside the registry. -/
structure ClientOutcomes where
  /-- `list_roots`. -/
  listRoots : IoResult (List ManagementRoot)
  /-- `management_directory::enumerate`. -/
  enumerate : String → IoResult (List ManagementDirectoryEntry)
  /-- `is_current_desktop_path`. -/
  isCurrentDesktopPath : String → IoResult Bool
  start : StartOutcomes
  stored : IoResult (Option Nat)
  progress : ProgressCounter → ProgressSnapshot

/-- A connection: what the other threads do to the registry before its request is handled, the
calls on the socket, and the bytes that the client sends before it closes or the read times
out. -/
structure Client where
  meanwhile : ManagementJobRegistry SocketAddr → ManagementJobRegistry SocketAddr
  /-- `accept` and the two timeouts. -/
  accepted : IoResult Unit
  sent : List UInt8
  outcomes : ClientOutcomes
  /-- The calls that write the response. -/
  written : IoResult Unit

/-- A response before it is framed. -/
abbrev Response := ManagementMessageKind × List UInt8

/-- `error_response`. -/
def errorResponse (message : String) : Response := (.errorResponse, stringBytes message)

/-- `match result { Ok(payload) => .., Err(error) => error_response(..) }`. -/
def respondWith (kind : ManagementMessageKind) (failure : String)
    (result : IoResult (List UInt8)) : Response :=
  match result with
  | .ok payload => (kind, payload)
  | .error error => errorResponse (failure ++ error.message)

namespace ManagementControlServer

variable (texts : TextSupport SocketAddr) (isAbsolute : String → Bool)

/-- The branch of `PrepareReceiveRequest`. -/
def prepareReceive (registry : ManagementJobRegistry SocketAddr) (payload : List UInt8)
    (outcomes : ClientOutcomes) : IoResult (List UInt8) × ManagementJobRegistry SocketAddr :=
  match (readPrepareRequest texts isAbsolute).run' payload with
  | .error error => (.error error, registry)
  | .ok prepared =>
      let (job, registry) := registry.prepareReceiveOnConfigured prepared outcomes.start
      (job >>= encodePreparedResponse isAbsolute, registry)

/-- The branch of `StartSendRequest`. -/
def startSend (registry : ManagementJobRegistry SocketAddr) (payload : List UInt8)
    (outcomes : ClientOutcomes) : IoResult (List UInt8) × ManagementJobRegistry SocketAddr :=
  match (readStartSendRequest texts isAbsolute).run' payload with
  | .error error => (.error error, registry)
  | .ok started =>
      let (job, registry) := registry.startSendWithDesktopLayout started outcomes.start
      (job >>= encodeStartedSendResponse texts isAbsolute, registry)

/-- The branch of `CancelJobRequest`. -/
def cancelJob (registry : ManagementJobRegistry SocketAddr) (payload : List UInt8)
    (outcomes : ClientOutcomes) : IoResult (List UInt8) × ManagementJobRegistry SocketAddr :=
  match readCancelRequest.run' payload with
  | .error error => (.error error, registry)
  | .ok jobId =>
      let (cancelled, registry) := registry.cancel jobId.toNat outcomes.stored
      (cancelled >>= fun jobId => encodeCancelRequest (UInt64.ofNat jobId), registry)

/-- The branch of `ListDirectoryRequest`. -/
def listDirectory (payload : List UInt8) (outcomes : ClientOutcomes) : IoResult (List UInt8) := do
  let path ← (readDirectoryRequest texts).run' payload
  let entries ← outcomes.enumerate path
  encodeDirectoryResponse entries

/-- The branch of `IsDesktopPathRequest`. -/
def isDesktopPath (payload : List UInt8) (outcomes : ClientOutcomes) : IoResult (List UInt8) := do
  let path ← (readDirectoryRequest texts).run' payload
  let isDesktop ← outcomes.isCurrentDesktopPath path
  return encodeDesktopPathResponse isDesktop

/-- The state that a hello payload shows. -/
def agentState (registry : ManagementJobRegistry SocketAddr) : AgentState :=
  if registry.isBusy then .busy else .idle

/-- The `match` over the kind of the request. -/
def answer (server : ManagementControlServer) (registry : ManagementJobRegistry SocketAddr)
    (request : ManagementFrame) (outcomes : ClientOutcomes) :
    IoResult Response × ManagementJobRegistry SocketAddr :=
  match request.kind with
  | .helloRequest =>
      if request.payload = [] then
        (do
          let payload ←
            encodeHelloPayload server.hostname (agentState registry) server.capabilities
          return (.helloResponse, payload), registry)
      else (.ok (errorResponse "HelloRequest payload must be empty"), registry)
  | .listRootsRequest =>
      if request.payload = [] then
        (.ok (respondWith .listRootsResponse "failed to enumerate Windows drive roots: "
          (outcomes.listRoots >>= encodeRootsPayload)), registry)
      else (.ok (errorResponse "ListRootsRequest payload must be empty"), registry)
  | .listDirectoryRequest =>
      (.ok (respondWith .listDirectoryResponse "failed to enumerate remote directory: "
        (listDirectory texts request.payload outcomes)), registry)
  | .isDesktopPathRequest =>
      (.ok (respondWith .isDesktopPathResponse "failed to classify remote Desktop path: "
        (isDesktopPath texts request.payload outcomes)), registry)
  | .prepareReceiveRequest =>
      let (result, registry) := prepareReceive texts isAbsolute registry request.payload outcomes
      (.ok (respondWith .prepareReceiveResponse "failed to prepare receiver job: " result),
        registry)
  | .startSendRequest =>
      let (result, registry) := startSend texts isAbsolute registry request.payload outcomes
      (.ok (respondWith .startSendResponse "failed to start sender job: " result), registry)
  | .jobStatusRequest =>
      if request.payload = [] then
        (.ok (respondWith .jobStatusResponse "failed to read management job status: "
          (encodeStatus isAbsolute registry.status)), registry)
      else (.ok (errorResponse "JobStatusRequest payload must be empty"), registry)
  | .agentSnapshotRequest =>
      if request.payload = [] then
        (.ok (respondWith .agentSnapshotResponse "failed to read management agent snapshot: "
          (encodeSnapshot texts (registrySnapshot server.agentInstanceId registry.inner
            outcomes.progress))), registry)
      else (.ok (errorResponse "AgentSnapshotRequest payload must be empty"), registry)
  | .cancelJobRequest =>
      let (result, registry) := cancelJob registry request.payload outcomes
      (.ok (respondWith .cancelJobResponse "failed to cancel management job: " result), registry)
  | _ => (.ok (errorResponse "management command is not implemented yet"), registry)

/-- `handle_client`, with the `accept` of `serve_one` in front. -/
def handleClient (server : ManagementControlServer) (registry : ManagementJobRegistry SocketAddr)
    (client : Client) : IoResult Unit × ManagementJobRegistry SocketAddr :=
  match client.accepted >>= fun _ => readFrame.run' client.sent with
  | .error error => (.error error, registry)
  | .ok request =>
      let (answered, registry) := server.answer texts isAbsolute registry request client.outcomes
      (do
        let (kind, payload) ← answered
        let response ← ManagementFrame.new request.requestId kind payload
        let _ ← writeFrame response
        client.written, registry)

/-- `serve_forever` over the connections that come: it is still accepting, or it has ended with an
error. -/
def serveForever (server : ManagementControlServer)
    (registry : ManagementJobRegistry SocketAddr) :
    List Client → IoResult Unit × ManagementJobRegistry SocketAddr
  | [] => (.ok (), registry)
  | client :: rest =>
      match server.handleClient texts isAbsolute (client.meanwhile registry) client with
      | (.error error, registry) => (.error error, registry)
      | (.ok (), registry) => server.serveForever registry rest

end ManagementControlServer


/-! ## The responses -/

section

variable {texts : TextSupport SocketAddr} {isAbsolute : String → Bool}
variable {payload : List UInt8}

/-- A payload fits a frame. -/
def FitsFrame (payload : List UInt8) : Prop := payload.length ≤ maxManagementPayloadBytes

theorem encodeStatus_fitsFrame {status : ManagementJobRegistry.ManagementJobStatus}
    (hencode : encodeStatus isAbsolute status = .ok payload) :
    FitsFrame payload := by
  obtain ⟨hfits, hpayload⟩ := encodeStatus_eq_ok.mp hencode
  have hmax := maxManagementPayloadBytes_eq
  have hroot : (status.destinationRoot.getD "").utf8ByteSize ≤ 32768 := by
    obtain ⟨phase, jobId, transferPort, destinationRoot, updateExisting⟩ := status
    cases phase with
    | idle =>
      cases hfits
      exact Nat.zero_le _
    | receiverPrepared =>
      obtain ⟨_, _, root, _, _, _, hroot, hstatus⟩ := hfits
      cases hstatus
      have hsize := hroot.2.1
      simp only [maxDestinationPathBytes] at hsize
      exact hsize
    | senderRunning =>
      obtain ⟨_, _, hstatus⟩ := hfits
      cases hstatus
      exact Nat.zero_le _
  subst hpayload
  unfold FitsFrame
  simp only [statusLayout, List.length_append, leBytes_length, stringBytes_length]
  omega

theorem encodeStarted_fitsFrame {job : StartedSendJob SocketAddr}
    (hencode : encodeStartedSendResponse texts isAbsolute job = .ok payload) :
    FitsFrame payload := by
  obtain ⟨⟨_, hsend⟩, hpayload⟩ := encodeStartedSendResponse_eq_ok.mp hencode
  have hmax := maxManagementPayloadBytes_eq
  have hsource := hsend.source.2.1
  have hendpoint := hsend.endpoint
  simp only [maxSourcePathBytes] at hsource
  simp only [maxReceiverEndpointBytes] at hendpoint
  subst hpayload
  unfold FitsFrame
  simp only [startedHeader, startSendLayout, StartedSendJob.request, List.length_append,
    leBytes_length, stringBytes_length]
  have hwidth : forcedWidth startSendRequestVersion = 4 := rfl
  omega

theorem encodeHello_fitsFrame {hostname : String} {state : AgentState}
    {capabilities : AgentCapabilities}
    (hencode : encodeHelloPayload hostname state capabilities = .ok payload) :
    FitsFrame payload := by
  obtain ⟨hhostname, hpayload⟩ := encodeHelloPayload_eq_ok.mp hencode
  have hmax := maxManagementPayloadBytes_eq
  have hsize := hhostname.2
  have hversion := cargoPkgVersion_fits.2
  simp only [maxHostnameBytes] at hsize
  simp only [maxApplicationVersionBytes] at hversion
  subst hpayload
  unfold FitsFrame
  simp only [helloLayout, ownHello, List.length_append, leBytes_length, stringBytes_length]
  omega

theorem encodeRoots_fitsFrame {roots : List ManagementRoot}
    (hencode : encodeRootsPayload roots = .ok payload) : FitsFrame payload := by
  obtain ⟨⟨hcount, hroots⟩, hpayload⟩ := encodeRootsPayload_eq_ok.mp hencode
  have hmax := maxManagementPayloadBytes_eq
  have hlength : ∀ roots : List ManagementRoot, (∀ root ∈ roots, RootPathFits root) →
      (roots.flatMap rootLayout).length ≤ 1026 * roots.length := by
    intro roots
    induction roots with
    | nil => exact fun _ => Nat.le_refl _
    | cons root roots ih =>
      intro hfits
      have hroot := (hfits root (List.mem_cons_self ..)).2
      have hrest := ih fun other hmem => hfits other (List.mem_cons_of_mem _ hmem)
      simp only [maxRootPathBytes] at hroot
      rw [List.flatMap_cons, List.length_append, List.length_cons]
      simp only [rootLayout, List.length_append, leBytes_length, stringBytes_length]
      omega
  have hbytes := hlength roots hroots
  simp only [maxRoots] at hcount
  subst hpayload
  unfold FitsFrame
  rw [rootsLayout, List.length_append]
  simp only [List.length_append, leBytes_length]
  omega

theorem encodeDirectory_fitsFrame {entries : List ManagementDirectoryEntry}
    (hencode : encodeDirectoryResponse entries = .ok payload) : FitsFrame payload := by
  obtain ⟨_, hlength, hpayload⟩ := encodeDirectoryResponse_eq_ok.mp hencode
  subst hpayload
  exact (directoryLayout_length entries).trans_le hlength

theorem encodeSnapshot_fitsFrame {snapshot : ManagementAgentSnapshot}
    (hencode : encodeSnapshot texts snapshot = .ok payload) : FitsFrame payload := by
  unfold encodeSnapshot at hencode
  obtain ⟨active, _, hencode⟩ := bind_eq_ok.mp hencode
  obtain ⟨result, _, hencode⟩ := bind_eq_ok.mp hencode
  obtain ⟨_, hlength, hpayload⟩ := bind_eq_ok.mp hencode
  cases hpayload
  have hfits := ensure_eq_ok.mp hlength
  exact hfits

theorem encodeDesktop_fitsFrame (isDesktop : Bool) :
    FitsFrame (encodeDesktopPathResponse isDesktop) := by
  unfold FitsFrame
  simp [encodeDesktopPathResponse, maxManagementPayloadBytes]

theorem encodeCancel_fitsFrame {jobId : UInt64}
    (hencode : encodeCancelRequest jobId = .ok payload) : FitsFrame payload := by
  unfold encodeCancelRequest at hencode
  obtain ⟨_, _, hpayload⟩ := bind_eq_ok.mp hencode
  cases hpayload
  unfold FitsFrame
  simp [maxManagementPayloadBytes]

/-- What a branch encodes fits a frame; only the text of an error may not. -/
theorem respondWith_fitsFrame {kind : ManagementMessageKind} {failure : String}
    {result : IoResult (List UInt8)}
    (hresult : ∀ payload, result = .ok payload → FitsFrame payload)
    (hne : (respondWith kind failure result).1 ≠ .errorResponse) :
    FitsFrame (respondWith kind failure result).2 := by
  cases result with
  | ok payload => exact hresult payload rfl
  | error error => exact absurd rfl hne

namespace ManagementControlServer

variable {server : ManagementControlServer} {registry : ManagementJobRegistry SocketAddr}
variable (sent : List UInt8)
variable (outcomes : ClientOutcomes)

theorem prepareReceive_fitsFrame :
    ∀ payload, (prepareReceive texts isAbsolute registry sent outcomes).1 = .ok payload →
      FitsFrame payload := by
  intro payload hresult
  unfold prepareReceive at hresult
  split at hresult
  · cases hresult
  · obtain ⟨job, _, hencode⟩ := bind_eq_ok.mp hresult
    exact encodeStatus_fitsFrame hencode

theorem startSend_fitsFrame :
    ∀ payload, (startSend texts isAbsolute registry sent outcomes).1 = .ok payload →
      FitsFrame payload := by
  intro payload hresult
  unfold startSend at hresult
  split at hresult
  · cases hresult
  · obtain ⟨job, _, hencode⟩ := bind_eq_ok.mp hresult
    exact encodeStarted_fitsFrame hencode

theorem cancelJob_fitsFrame :
    ∀ payload, (cancelJob registry sent outcomes).1 = .ok payload → FitsFrame payload := by
  intro payload hresult
  unfold cancelJob at hresult
  split at hresult
  · cases hresult
  · obtain ⟨jobId, _, hencode⟩ := bind_eq_ok.mp hresult
    exact encodeCancel_fitsFrame hencode

theorem listDirectory_fitsFrame :
    ∀ payload, listDirectory texts sent outcomes = .ok payload → FitsFrame payload := by
  intro payload hresult
  unfold listDirectory at hresult
  obtain ⟨path, _, hresult⟩ := bind_eq_ok.mp hresult
  obtain ⟨entries, _, hencode⟩ := bind_eq_ok.mp hresult
  exact encodeDirectory_fitsFrame hencode

theorem isDesktopPath_fitsFrame :
    ∀ payload, isDesktopPath texts sent outcomes = .ok payload → FitsFrame payload := by
  intro payload hresult
  unfold isDesktopPath at hresult
  obtain ⟨path, _, hresult⟩ := bind_eq_ok.mp hresult
  obtain ⟨isDesktop, _, hencode⟩ := bind_eq_ok.mp hresult
  cases hencode
  exact encodeDesktop_fitsFrame isDesktop

/-- Every request is answered, and the answer fits a frame unless it is the text of an error. -/
theorem answer_eq_ok (request : ManagementFrame) (outcomes : ClientOutcomes) :
    ∃ response after, server.answer texts isAbsolute registry request outcomes =
        (.ok response, after) ∧
      (response.1 ≠ .errorResponse → FitsFrame response.2) := by
  have herror : ∀ message, (errorResponse message).1 ≠ .errorResponse →
      FitsFrame (errorResponse message).2 := fun _ hne => absurd rfl hne
  unfold answer
  split
  case h_1 =>
    split
    · have hencode : encodeHelloPayload server.hostname (agentState registry)
          server.capabilities = .ok _ :=
        encodeHelloPayload_eq_ok.mpr ⟨server.hostname_fits, rfl⟩
      rw [hencode]
      exact ⟨_, _, rfl, fun _ => encodeHello_fitsFrame hencode⟩
    · exact ⟨_, _, rfl, herror _⟩
  case h_2 =>
    split
    · refine ⟨_, _, rfl, respondWith_fitsFrame fun payload hresult => ?_⟩
      obtain ⟨roots, _, hencode⟩ := bind_eq_ok.mp hresult
      exact encodeRoots_fitsFrame hencode
    · exact ⟨_, _, rfl, herror _⟩
  case h_3 => exact ⟨_, _, rfl, respondWith_fitsFrame (listDirectory_fitsFrame _ _)⟩
  case h_4 => exact ⟨_, _, rfl, respondWith_fitsFrame (isDesktopPath_fitsFrame _ _)⟩
  case h_5 => exact ⟨_, _, rfl, respondWith_fitsFrame (prepareReceive_fitsFrame _ _)⟩
  case h_6 => exact ⟨_, _, rfl, respondWith_fitsFrame (startSend_fitsFrame _ _)⟩
  case h_7 =>
    split
    · exact ⟨_, _, rfl, respondWith_fitsFrame fun payload hencode => encodeStatus_fitsFrame hencode⟩
    · exact ⟨_, _, rfl, herror _⟩
  case h_8 =>
    split
    · exact ⟨_, _, rfl,
        respondWith_fitsFrame fun payload hencode => encodeSnapshot_fitsFrame hencode⟩
    · exact ⟨_, _, rfl, herror _⟩
  case h_9 => exact ⟨_, _, rfl, respondWith_fitsFrame (cancelJob_fitsFrame _ _)⟩
  case h_10 => exact ⟨_, _, rfl, herror _⟩

/-! ## The loop -/

/-- A connection that the loop survives: it is accepted, sends a frame, the text of an error
response fits a frame, and the response can be written. -/
structure Serves (texts : TextSupport SocketAddr) (isAbsolute : String → Bool)
    (server : ManagementControlServer) (registry : ManagementJobRegistry SocketAddr)
    (client : Client) : Prop where
  accepted : client.accepted = .ok ()
  framed : ∃ request rest, readFrame.run client.sent = .ok (request, rest)
  short : ∀ request rest, readFrame.run client.sent = .ok (request, rest) →
    ∀ payload, (server.answer texts isAbsolute registry request client.outcomes).1 =
      .ok (.errorResponse, payload) → FitsFrame payload
  written : client.written = .ok ()

theorem newFrame_eq_ok {requestId : UInt64} {kind : ManagementMessageKind} {payload : List UInt8}
    {frame : ManagementFrame} : ManagementFrame.new requestId kind payload = .ok frame ↔
      FitsFrame payload ∧ frame = ⟨requestId, kind, payload⟩ := by
  unfold ManagementFrame.new validatePayloadLength FitsFrame
  simp only [bind_eq_ok, ensure_eq_ok, pure_eq_ok, Except.ok.injEq, exists_const]
  exact and_congr_right fun _ => eq_comm

/-- `handle_client` returns without an error exactly for such connections. -/
theorem handleClient_eq_ok (client : Client) :
    (server.handleClient texts isAbsolute registry client).1 = .ok () ↔
      Serves texts isAbsolute server registry client := by
  cases hrun : client.accepted >>= fun _ => readFrame.run' client.sent with
  | error error =>
    unfold handleClient
    rw [hrun]
    simp only [reduceCtorEq, false_iff]
    intro hserves
    obtain ⟨request, rest, hread⟩ := hserves.framed
    have hread' : readFrame.run' client.sent = .ok request := run'_eq_ok.mpr ⟨rest, hread⟩
    rw [hserves.accepted, ok_bind, hread'] at hrun
    cases hrun
  | ok request =>
    obtain ⟨_, haccepted, hread'⟩ := bind_eq_ok.mp hrun
    obtain ⟨rest, hread⟩ := run'_eq_ok.mp hread'
    obtain ⟨⟨kind, payload⟩, after, hanswer, hpayload⟩ : ∃ response after,
        server.answer texts isAbsolute registry request client.outcomes =
          (.ok response, after) ∧ (response.1 ≠ .errorResponse → FitsFrame response.2) :=
      answer_eq_ok request client.outcomes
    unfold handleClient
    rw [hrun]
    simp only [hanswer, ok_bind, bind_eq_ok, newFrame_eq_ok, writeFrame_eq_ok]
    constructor
    · intro ⟨_, ⟨hfits, _⟩, _, _, hwritten⟩
      refine ⟨haccepted, ⟨request, rest, hread⟩, fun other left hother found hfound => ?_,
        hwritten⟩
      rw [hread] at hother
      cases hother
      rw [hanswer] at hfound
      cases hfound
      exact hfits
    · intro hserves
      have hfits : FitsFrame payload := by
        by_cases hkind : kind = .errorResponse
        · subst hkind
          refine hserves.short request rest hread payload ?_
          rw [hanswer]
        · exact hpayload hkind
      exact ⟨_, ⟨hfits, rfl⟩, _, ⟨hfits, rfl⟩, hserves.written⟩

/-- A connection that sends a whole request for a job: to prepare a receiver, to start a sender,
or to cancel. -/
def Requests (texts : TextSupport SocketAddr) (isAbsolute : String → Bool) (client : Client) :
    Prop :=
  ∃ request rest, readFrame.run client.sent = .ok (request, rest) ∧
    ((request.kind = .prepareReceiveRequest ∧
        ∃ prepared, (readPrepareRequest texts isAbsolute).run' request.payload = .ok prepared) ∨
      (request.kind = .startSendRequest ∧
        ∃ started, (readStartSendRequest texts isAbsolute).run' request.payload = .ok started) ∨
      (request.kind = .cancelJobRequest ∧
        ∃ jobId, readCancelRequest.run' request.payload = .ok jobId))

theorem prepareReceive_registry {sent : List UInt8}
    (hnot : ¬ ∃ prepared, (readPrepareRequest texts isAbsolute).run' sent = .ok prepared) :
    (prepareReceive texts isAbsolute registry sent outcomes).2 = registry := by
  unfold prepareReceive
  split
  · rfl
  · rename_i prepared hprepared
    exact absurd ⟨prepared, hprepared⟩ hnot

theorem startSend_registry {sent : List UInt8}
    (hnot : ¬ ∃ started, (readStartSendRequest texts isAbsolute).run' sent = .ok started) :
    (startSend texts isAbsolute registry sent outcomes).2 = registry := by
  unfold startSend
  split
  · rfl
  · rename_i started hstarted
    exact absurd ⟨started, hstarted⟩ hnot

theorem cancelJob_registry {sent : List UInt8}
    (hnot : ¬ ∃ jobId, readCancelRequest.run' sent = .ok jobId) :
    (cancelJob registry sent outcomes).2 = registry := by
  unfold cancelJob
  split
  · rfl
  · rename_i jobId hjobId
    exact absurd ⟨jobId, hjobId⟩ hnot

/-- Every other connection leaves the registry as it is. -/
theorem handleClient_registry {client : Client} (hnot : ¬ Requests texts isAbsolute client) :
    (server.handleClient texts isAbsolute registry client).2 = registry := by
  cases hrun : client.accepted >>= fun _ => readFrame.run' client.sent with
  | error error =>
    unfold handleClient
    rw [hrun]
  | ok request =>
    obtain ⟨_, _, hread'⟩ := bind_eq_ok.mp hrun
    obtain ⟨rest, hread⟩ := run'_eq_ok.mp hread'
    have hanswer : (server.answer texts isAbsolute registry request client.outcomes).2 =
        registry := by
      unfold answer
      split
      case h_5 hkind =>
        exact prepareReceive_registry client.outcomes fun hprepared =>
          hnot ⟨request, rest, hread, .inl ⟨hkind, hprepared⟩⟩
      case h_6 hkind =>
        exact startSend_registry client.outcomes fun hstarted =>
          hnot ⟨request, rest, hread, .inr (.inl ⟨hkind, hstarted⟩)⟩
      case h_9 hkind =>
        exact cancelJob_registry client.outcomes fun hjobId =>
          hnot ⟨request, rest, hread, .inr (.inr ⟨hkind, hjobId⟩)⟩
      all_goals first | rfl | (split <;> rfl)
    unfold handleClient
    rw [hrun]
    exact hanswer

/-- Every connection of a sequence is one that the loop survives, in the registry that it
meets. -/
def ServesAll (texts : TextSupport SocketAddr) (isAbsolute : String → Bool)
    (server : ManagementControlServer) (registry : ManagementJobRegistry SocketAddr) :
    List Client → Prop
  | [] => True
  | client :: rest =>
      Serves texts isAbsolute server (client.meanwhile registry) client ∧
        ServesAll texts isAbsolute server
          (server.handleClient texts isAbsolute (client.meanwhile registry) client).2 rest

end ManagementControlServer

end

/-- The agent of the tests. -/
def exampleServer : ManagementControlServer where
  hostname := "DESKTOP-1"
  hostname_fits := ⟨.inr (by decide), by decide⟩
  capabilities := ⟨3, AgentCapabilities.three_pos, AgentCapabilities.three_lt⟩
  agentInstanceId := firstInstance

/-- A client that connects and closes, as a port scan does. -/
def silentClient : Client where
  meanwhile := id
  accepted := .ok ()
  sent := []
  outcomes := {
    listRoots := .ok []
    enumerate := fun _ => .ok []
    isCurrentDesktopPath := fun _ => .ok false
    start := ⟨.ok (), .ok 0, .ok ()⟩
    stored := .ok none
    progress := startedProgress }
  written := .ok ()

end NetworkCopy
