import NetworkCopy.Management.ControlServer

/-!
# The remote calls of a manager

The client side of `management_control.rs`.  `exchange` opens a connection, sends one frame and
reads one back.  A connection can break at any byte in either direction, and the calls on the
socket can fail at any point.  Whatever happens, the three calls that a start consists of are
exchanges of an `AgentNetwork` with some delivery, so what holds of `start_transfer_with` for every
delivery holds of it over connections.
-/

namespace NetworkCopy

open ByteReader ManagementControlServer

/-- `{kind:?}`. -/
def ManagementMessageKind.debug : ManagementMessageKind → String
  | .helloRequest => "HelloRequest"
  | .helloResponse => "HelloResponse"
  | .listRootsRequest => "ListRootsRequest"
  | .listRootsResponse => "ListRootsResponse"
  | .listDirectoryRequest => "ListDirectoryRequest"
  | .listDirectoryResponse => "ListDirectoryResponse"
  | .isDesktopPathRequest => "IsDesktopPathRequest"
  | .isDesktopPathResponse => "IsDesktopPathResponse"
  | .prepareReceiveRequest => "PrepareReceiveRequest"
  | .prepareReceiveResponse => "PrepareReceiveResponse"
  | .startSendRequest => "StartSendRequest"
  | .startSendResponse => "StartSendResponse"
  | .cancelJobRequest => "CancelJobRequest"
  | .cancelJobResponse => "CancelJobResponse"
  | .jobStatusRequest => "JobStatusRequest"
  | .jobStatusResponse => "JobStatusResponse"
  | .agentSnapshotRequest => "AgentSnapshotRequest"
  | .agentSnapshotResponse => "AgentSnapshotResponse"
  | .errorResponse => "ErrorResponse"

/-- A connection of a client: the agent at its other end, how the calls on the socket end, and how
many bytes of the request and of the response get through. -/
structure AgentConnection where
  texts : TextSupport SocketAddr
  isAbsolute : String → Bool
  server : ManagementControlServer
  registry : ManagementJobRegistry SocketAddr
  outcomes : ClientOutcomes
  /-- `connect_timeout` and the two timeouts. -/
  opened : IoResult Unit
  written : IoResult Unit
  arrived : Nat
  returned : Nat
  /-- What `from_utf8_lossy` makes of bytes that are not UTF-8. -/
  replaced : List UInt8 → String

/-- A network whose agent at an address has not changed. -/
theorem AgentNetwork.setRegistry_self (network : AgentNetwork) (endpoint : SocketAddr) :
    network.setRegistry endpoint (network.registry endpoint) = network := by
  simp [setRegistry, registry]

namespace AgentConnection

variable (conn : AgentConnection) (requestId : UInt64)

/-- `handle_client` on the bytes that arrive: what it writes, and the registry after it. -/
def served (sent : List UInt8) : IoResult (List UInt8) × ManagementJobRegistry SocketAddr :=
  match readFrame.run' (sent.take conn.arrived) with
  | .error error => (.error error, conn.registry)
  | .ok request =>
      let (answered, registry) := conn.server.answer conn.texts conn.isAbsolute conn.registry
        request conn.outcomes
      (do
        let (kind, payload) ← answered
        let response ← ManagementFrame.new request.requestId kind payload
        writeFrame response, registry)

theorem handleClient_eq_served {client : Client} (haccepted : client.accepted = .ok ())
    {sent : List UInt8} (hsent : client.sent = sent.take conn.arrived)
    (houtcomes : client.outcomes = conn.outcomes) :
    conn.server.handleClient conn.texts conn.isAbsolute conn.registry client =
      ((conn.served sent).1 >>= fun _ => client.written,
        (conn.served sent).2) := by
  unfold handleClient served
  rw [haccepted, hsent, houtcomes, ok_bind]
  cases readFrame.run' (sent.take conn.arrived) with
  | error error => rfl
  | ok request => simp only [bind_assoc]

/-- The bytes that come back. -/
def answered (sent : List UInt8) : List UInt8 :=
  match (conn.served sent).1 with
  | .ok reply => reply.take conn.returned
  | .error _ => []

/-- The registry after a request. -/
def after (request : IoResult ManagementFrame) : ManagementJobRegistry SocketAddr :=
  match conn.opened >>= fun _ => request >>= writeFrame with
  | .ok sent => (conn.served sent).2
  | .error _ => conn.registry

/-! ## The client -/

/-- `String::from_utf8_lossy`. -/
def fromUtf8Lossy (bytes : List UInt8) : String :=
  (String.fromUTF8? bytes.toByteArray).getD (conn.replaced bytes)

/-- `exchange`. -/
def exchange (requestKind : ManagementMessageKind) (payload : List UInt8) :
    IoResult ManagementFrame := do
  conn.opened
  let request ← ManagementFrame.new requestId requestKind payload
  let sent ← writeFrame request
  conn.written
  let response ← readFrame.run' (conn.answered sent)
  let responseId := response.requestId
  ensure (responseId = requestId) (.invalidData
    s!"management response request ID was {responseId}, expected {requestId}")
  let message := conn.fromUtf8Lossy response.payload
  ensure (response.kind ≠ .errorResponse)
    (.other ("management agent rejected " ++ requestKind.debug ++ ": " ++ message))
  return response

/-- What the calls have in common. -/
def call {α : Type} (requestKind responseKind : ManagementMessageKind)
    (encoded : IoResult (List UInt8)) (reader : ByteReader IoError α) : IoResult α := do
  let payload ← encoded
  let response ← conn.exchange requestId requestKind payload
  ensure (response.kind = responseKind) (.invalidData
    ("management agent returned unexpected message " ++ response.kind.debug ++ " for " ++
      requestKind.debug))
  reader.run' response.payload

/-- `prepare_receive_configured`. -/
def prepareReceiveConfigured (request : PrepareReceiveRequest) : IoResult PreparedReceiveJob :=
  conn.call requestId .prepareReceiveRequest .prepareReceiveResponse
    (encodePrepareRequest conn.isAbsolute request) (readPreparedResponse conn.texts conn.isAbsolute)

/-- `start_send_with_stream_count_and_desktop_layout`. -/
def startSend (request : StartSendRequest SocketAddr) : IoResult (StartedSendJob SocketAddr) :=
  conn.call requestId .startSendRequest .startSendResponse
    (encodeStartSendRequest conn.texts conn.isAbsolute request)
    (readStartedSendResponse conn.texts conn.isAbsolute)

/-- `cancel_job`. -/
def cancelJob (jobId : UInt64) : IoResult UInt64 :=
  conn.call requestId .cancelJobRequest .cancelJobResponse
    (encodeCancelRequest jobId) readCancelRequest

/-- The request is written, and a frame comes back. -/
structure Answered (request : IoResult ManagementFrame) : Prop where
  opened : conn.opened = .ok ()
  written : conn.written = .ok ()
  found : ∃ sent response, (request >>= writeFrame) = .ok sent ∧
    readFrame.run' (conn.answered sent) = .ok response

/-- A call is an exchange with an agent: with some delivery, whatever becomes of the connection, and
delivered when a response comes back. -/
def Refines {α : Type} (request : IoResult ManagementFrame)
    (exchange : Delivery → IoResult α × AgentNetwork) (result : IoResult α)
    (next : ManagementJobRegistry SocketAddr → AgentNetwork) : Prop :=
  ∃ delivery, exchange delivery = (result, next (conn.after request)) ∧
    (conn.Answered request → delivery = .delivered)

/-! ## Every connection -/

/-- The text with which a client reports what an agent has refused. -/
def rejected (kind : ManagementMessageKind) (failure : String) : String :=
  "management agent rejected " ++ kind.debug ++ ": " ++ failure

theorem fromUtf8Lossy_stringBytes (text : String) :
    conn.fromUtf8Lossy (stringBytes text) = text := by
  unfold fromUtf8Lossy
  rw [fromUTF8_stringBytes]
  rfl

theorem readFrame_layout {frame : ManagementFrame} (hfits : FitsFrame frame.payload) :
    readFrame.run' (frameLayout frame) = .ok frame :=
  run'_eq_ok.mpr ⟨[], readFrame_eq_ok.mpr ⟨hfits, (List.append_nil _).symm⟩⟩

/-- Of a frame, only the whole can be read. -/
theorem readFrame_take {frame found : ManagementFrame} {count : Nat}
    (hfits : FitsFrame frame.payload)
    (h : readFrame.run' ((frameLayout frame).take count) = .ok found) : found = frame := by
  obtain ⟨rest, hrun⟩ := run'_eq_ok.mp h
  obtain ⟨hlength, htake⟩ := readFrame_eq_ok.mp hrun
  have hwhole : frameLayout frame =
      frameLayout found ++ (rest ++ (frameLayout frame).drop count) := by
    rw [← List.append_assoc, ← htake, List.take_append_drop]
  have hfound := run'_eq_ok.mpr ⟨_, readFrame_eq_ok.mpr ⟨hlength, hwhole⟩⟩
  cases hfound.symm.trans (readFrame_layout hfits)
  rfl

variable {conn requestId}

theorem framed_eq_ok {kind : ManagementMessageKind} {payload bytes : List UInt8} :
    (ManagementFrame.new requestId kind payload >>= writeFrame) = .ok bytes ↔
      FitsFrame payload ∧ bytes = frameLayout ⟨requestId, kind, payload⟩ := by
  simp only [bind_eq_ok, newFrame_eq_ok, writeFrame_eq_ok]
  constructor
  · rintro ⟨_, ⟨hfits, rfl⟩, _, hbytes⟩
    exact ⟨hfits, hbytes⟩
  · rintro ⟨hfits, hbytes⟩
    exact ⟨_, ⟨hfits, rfl⟩, hfits, hbytes⟩

section

variable {kind : ManagementMessageKind} {payload : List UInt8} {response : Response}
variable {next : ManagementJobRegistry SocketAddr}
variable (hanswer : conn.server.answer conn.texts conn.isAbsolute conn.registry
  ⟨requestId, kind, payload⟩ conn.outcomes = (.ok response, next))

include hanswer

/-- The response to a request that was read. -/
theorem served_of_read (hread : readFrame.run' ((frameLayout ⟨requestId, kind, payload⟩).take
    conn.arrived) = .ok ⟨requestId, kind, payload⟩) :
    conn.served (frameLayout ⟨requestId, kind, payload⟩) =
      (ManagementFrame.new requestId response.1 response.2 >>= writeFrame, next) := by
  unfold served
  rw [hread]
  simp only [hanswer, ok_bind]

/-- What a client reads is the response to its request, and the agent has read all of that. -/
theorem read_answered (hfits : FitsFrame payload) {found : ManagementFrame}
    (h : readFrame.run' (conn.answered
      (frameLayout ⟨requestId, kind, payload⟩)) = .ok found) :
    found = ⟨requestId, response.1, response.2⟩ ∧ readFrame.run' ((frameLayout
      ⟨requestId, kind, payload⟩).take conn.arrived) = .ok ⟨requestId, kind, payload⟩ := by
  unfold answered at h
  cases hreply : (conn.served
      (frameLayout ⟨requestId, kind, payload⟩)).1 with
  | error error =>
    rw [hreply] at h
    obtain ⟨rest, hrun⟩ := run'_eq_ok.mp h
    have hempty := (readFrame_eq_ok.mp hrun).2
    simp [frameLayout, managementMagic] at hempty
  | ok reply =>
    rw [hreply] at h
    cases hsent : readFrame.run'
        ((frameLayout ⟨requestId, kind, payload⟩).take conn.arrived) with
    | error error =>
      unfold served at hreply
      rw [hsent] at hreply
      cases hreply
    | ok request =>
      cases readFrame_take hfits hsent
      rw [served_of_read hanswer hsent] at hreply
      obtain ⟨hresponse, rfl⟩ := framed_eq_ok.mp hreply
      exact ⟨readFrame_take hresponse h, rfl⟩

/-- The agent that has read a request is left as its method leaves it. -/
theorem after_of_read (hopened : conn.opened = .ok ()) (hfits : FitsFrame payload)
    (hread : readFrame.run' ((frameLayout ⟨requestId, kind, payload⟩).take conn.arrived) =
      .ok ⟨requestId, kind, payload⟩) :
    conn.after (ManagementFrame.new requestId kind payload) = next := by
  unfold after
  rw [hopened, ok_bind, framed_eq_ok.mpr ⟨hfits, rfl⟩]
  exact congrArg Prod.snd (served_of_read hanswer hread)

/-- Otherwise nothing has changed. -/
theorem after_cases :
    conn.after (ManagementFrame.new requestId kind payload) =
        conn.registry ∨
      conn.after (ManagementFrame.new requestId kind payload) = next := by
  cases hwritten : conn.opened >>= fun _ =>
      ManagementFrame.new requestId kind payload >>= writeFrame with
  | error error =>
    left
    unfold after
    rw [hwritten]
  | ok bytes =>
    obtain ⟨_, hopened, hframed⟩ := bind_eq_ok.mp hwritten
    obtain ⟨hfits, rfl⟩ := framed_eq_ok.mp hframed
    cases hsent : readFrame.run'
        ((frameLayout ⟨requestId, kind, payload⟩).take conn.arrived) with
    | error error =>
      left
      unfold after served
      rw [hwritten]
      simp only [hsent]
    | ok found =>
      cases readFrame_take hfits hsent
      exact .inr (after_of_read hanswer hopened hfits hsent)

end

section

variable {α : Type} {kind responseKind : ManagementMessageKind} {failure : String}
variable {encode : α → IoResult (List UInt8)} {reader : ByteReader IoError α}
variable {ran : IoResult α × ManagementJobRegistry SocketAddr}

section

variable {payload : List UInt8}
variable (hresponse : responseKind ≠ .errorResponse)
variable (hback : ∀ value, ran.1 = .ok value → ∃ bytes, encode value = .ok bytes ∧
  reader.run bytes = .ok (value, []))
variable (hanswer : conn.server.answer conn.texts conn.isAbsolute conn.registry
  ⟨requestId, kind, payload⟩ conn.outcomes =
    (.ok (respondWith responseKind failure (ran.1 >>= encode)), ran.2))

/-- A call that succeeds has read the response. -/
theorem answered_of_call {value : α} (h : conn.call requestId kind
    responseKind (.ok payload) reader = .ok value) :
    conn.Answered (ManagementFrame.new requestId kind payload) := by
  unfold call exchange at h
  simp only [bind_assoc, ok_bind, bind_eq_ok, newFrame_eq_ok, writeFrame_eq_ok] at h
  obtain ⟨_, hopened, _, ⟨hfits, rfl⟩, _, ⟨-, rfl⟩, _, hwritten, found, hread, -⟩ := h
  exact ⟨hopened, hwritten, _, found, framed_eq_ok.mpr ⟨hfits, rfl⟩, hread⟩

include hresponse hback

/-- A call whose response is read. -/
theorem call_of_read (hopened : conn.opened = .ok ()) (hwritten : conn.written = .ok ())
    (hfits : FitsFrame payload) (hread : readFrame.run' (conn.answered
      (frameLayout ⟨requestId, kind, payload⟩)) = .ok ⟨requestId,
        (respondWith responseKind failure (ran.1 >>= encode)).1,
        (respondWith responseKind failure (ran.1 >>= encode)).2⟩) :
    conn.call requestId kind responseKind (.ok payload) reader =
      ran.1.mapError fun error => .other (rejected kind failure ++ error.message) := by
  have hwrite : writeFrame ⟨requestId, kind, payload⟩ =
      .ok (frameLayout ⟨requestId, kind, payload⟩) := writeFrame_eq_ok.mpr ⟨hfits, rfl⟩
  unfold call exchange
  rw [ok_bind, hopened, ok_bind, newFrame_eq_ok.mpr ⟨hfits, rfl⟩, ok_bind, hwrite, ok_bind,
    hwritten, ok_bind, hread, ok_bind]
  cases hran : ran.1 with
  | error error =>
    have htext : "management agent rejected " ++ kind.debug ++ ": " ++ (failure ++ error.message) =
        rejected kind failure ++ error.message := (String.append_assoc ..).symm
    simp only [error_bind, respondWith, errorResponse, ensure, if_true, ok_bind, ne_eq, not_true,
      if_false, fromUtf8Lossy_stringBytes, htext, Except.mapError]
  | ok value =>
    obtain ⟨bytes, hbytes, hrun⟩ := hback value hran
    have hvalue : reader.run' bytes = .ok value := run'_eq_ok.mpr ⟨[], hrun⟩
    simp only [ok_bind, hbytes, respondWith, ensure, if_true, ne_eq, hresponse, not_false_eq_true,
      pure_eq_ok, hvalue, Except.mapError]

include hanswer

/-- A call whose response comes back. -/
theorem call_of_answered
    (h : conn.Answered (ManagementFrame.new requestId kind payload)) :
    conn.call requestId kind responseKind (.ok payload) reader =
        ran.1.mapError (fun error => .other (rejected kind failure ++ error.message)) ∧
      conn.after (ManagementFrame.new requestId kind payload) = ran.2 := by
  obtain ⟨hopened, hwritten, _, found, hframed, hread⟩ := h
  obtain ⟨hfits, rfl⟩ := framed_eq_ok.mp hframed
  obtain ⟨rfl, hsent⟩ := read_answered hanswer hfits hread
  exact ⟨call_of_read hresponse hback hopened hwritten hfits hread,
    after_of_read hanswer hopened hfits hsent⟩

end

variable (encode failure) in
/-- Whatever becomes of the connection, a call is an exchange with the agent. -/
theorem call_refines (hresponse : responseKind ≠ .errorResponse)
    {encoded : IoResult (List UInt8)} {network : AgentNetwork} {endpoint : SocketAddr}
    {method : ManagementJobRegistry SocketAddr → IoResult α × ManagementJobRegistry SocketAddr}
    (hregistry : conn.registry = network.registry endpoint)
    (hback : ∀ payload, encoded = .ok payload → ∀ value,
      (method conn.registry).1 = .ok value →
        ∃ bytes, encode value = .ok bytes ∧ reader.run bytes = .ok (value, []))
    (hanswer : ∀ payload, encoded = .ok payload →
      conn.server.answer conn.texts conn.isAbsolute conn.registry ⟨requestId, kind, payload⟩
        conn.outcomes = (.ok (respondWith responseKind failure
          ((method conn.registry).1 >>= encode)), (method conn.registry).2)) :
    conn.Refines (encoded >>= ManagementFrame.new requestId kind)
      (fun delivery => network.exchange endpoint delivery (rejected kind failure) method)
      (conn.call requestId kind responseKind encoded reader)
      (network.setRegistry endpoint) := by
  cases hencoded : encoded with
  | error error =>
    refine ⟨.requestLost error, ?_, ?_⟩
    · have hafter : conn.after
          (.error error >>= ManagementFrame.new requestId kind) = conn.registry := by
        unfold after
        cases conn.opened <;> rfl
      rw [hafter, hregistry, network.setRegistry_self]
      rfl
    · rintro ⟨_, _, _, _, hframed, _⟩
      cases hframed
  | ok payload =>
    have hanswer := hanswer payload hencoded
    rw [ok_bind]
    by_cases hanswered :
        conn.Answered (ManagementFrame.new requestId kind payload)
    · obtain ⟨hcall, hafter⟩ :=
        call_of_answered hresponse (hback payload hencoded) hanswer hanswered
      refine ⟨.delivered, ?_, fun _ => rfl⟩
      rw [hcall, hafter, hregistry]
      rfl
    · cases hcall : conn.call requestId kind responseKind (.ok payload)
          reader with
      | ok value => exact absurd (answered_of_call hcall) hanswered
      | error error =>
        have hnot : ∀ delivery, conn.Answered (ManagementFrame.new requestId kind payload) →
            delivery = Delivery.delivered := fun _ h => absurd h hanswered
        obtain hafter | hafter := after_cases hanswer
        · refine ⟨.requestLost error, ?_, hnot _⟩
          rw [hafter, hregistry, network.setRegistry_self]
          rfl
        · refine ⟨.replyLost error, ?_, hnot _⟩
          rw [hafter, hregistry]
          rfl

end

end AgentConnection

/-! ## The calls of a start -/

/-- A job that was started has the ID that was next, and the port that was opened. -/
theorem ManagementJobRegistry.startJob_ok {Address Job : Type}
    {registry : ManagementJobRegistry Address} {wrap : Job → ManagedJob Address}
    {makeJob : Nat → Nat → Job} {checkPort : Nat → IoResult Unit} {outcomes : StartOutcomes}
    {job : Job} (h : (registry.startJob wrap makeJob checkPort outcomes).1 = .ok job) :
    registry.nextJobId ≠ 0 ∧ ∃ port, outcomes.opened = .ok port ∧ checkPort port = .ok () ∧
      job = makeJob registry.nextJobId port := by
  by_cases haccepts : registry.Accepts checkPort outcomes
  · obtain ⟨port, hopened, hport, hrun⟩ := startJob_accepted haccepts
    rw [hrun] at h
    exact ⟨haccepts.numbered, port, hopened, hport, (Except.ok.inj h).symm⟩
  · obtain ⟨error, _, hrun, -⟩ := startJob_refused haccepts
    rw [hrun] at h
    cases h

theorem ManagementJobRegistry.cancel_ok {registry : ManagementJobRegistry SocketAddr}
    {jobId value : Nat} {stored : IoResult (Option Nat)}
    (h : (registry.cancel jobId stored).1 = .ok value) : value = jobId := by
  unfold cancel at h
  split at h
  · cases h
  · split at h
    · cases h
    · exact (Except.ok.inj h).symm

/-- Over any connection, each of the three remote calls of `start_transfer_with` is an exchange of
the network. -/
theorem remoteCalls_refine (conn : AgentConnection) (hparsed : ∀ text address,
      conn.texts.fromStr text = .ok address → PrintsBack conn.texts address)
    {network : AgentNetwork} {endpoint : SocketAddr}
    (hregistry : conn.registry = network.registry endpoint)
    (hnumbered : conn.registry.nextJobId < 2 ^ 64)
    (hport : ∀ port, conn.outcomes.start.opened = .ok port → port < 2 ^ 16)
    (requestId : UInt64) :
    (∀ request, conn.Refines
      (encodePrepareRequest conn.isAbsolute request >>=
        ManagementFrame.new requestId .prepareReceiveRequest)
      (fun delivery => network.exchange endpoint delivery
        "management agent rejected PrepareReceiveRequest: failed to prepare receiver job: "
        fun registry => registry.prepareReceiveOnConfigured request conn.outcomes.start)
      (conn.prepareReceiveConfigured requestId request)
      (network.setRegistry endpoint)) ∧
    (∀ request, PrintsBack conn.texts request.receiverAddress → conn.Refines
      (encodeStartSendRequest conn.texts conn.isAbsolute request >>=
        ManagementFrame.new requestId .startSendRequest)
      (fun delivery => network.exchange endpoint delivery
        "management agent rejected StartSendRequest: failed to start sender job: "
        fun registry => registry.startSendWithDesktopLayout request conn.outcomes.start)
      (conn.startSend requestId request)
      (network.setRegistry endpoint)) ∧
    ∀ jobId : UInt64, conn.Refines
      (encodeCancelRequest jobId >>= ManagementFrame.new requestId .cancelJobRequest)
      (fun delivery => network.exchange endpoint delivery
        "management agent rejected CancelJobRequest: failed to cancel management job: "
        fun registry => (registry.cancel jobId.toNat conn.outcomes.stored).map
          (Except.map UInt64.ofNat) id)
      (conn.cancelJob requestId jobId) (network.setRegistry endpoint) := by
  refine ⟨fun request => ?_, fun request hprints => ?_, fun jobId => ?_⟩
  · refine AgentConnection.call_refines "failed to prepare receiver job: "
      (encodePreparedResponse conn.isAbsolute) ?_ hregistry ?_ ?_
    · decide
    · intro payload hencoded job hrun
      obtain ⟨hzero, port, hopened, hcheck, hjob⟩ := ManagementJobRegistry.startJob_ok hrun
      have hroot := (encodePrepareRequest_eq_ok.mp hencoded).1
      have hfits : StatusFits conn.isAbsolute job.status := by
        rw [hjob]
        exact ⟨_, _, _, _, hzero, ensure_eq_ok.mp hcheck, hroot, rfl⟩
      have htyped : StatusTyped job.status := by
        rw [hjob]
        exact ⟨hnumbered, hport port hopened⟩
      have hbytes := encodeStatus_eq_ok.mpr ⟨hfits, rfl⟩
      exact ⟨_, hbytes, preparedResponse_agree.readBack _ _ htyped hbytes⟩
    · intro payload hencoded
      have hread : (readPrepareRequest conn.texts conn.isAbsolute).run' payload = .ok request :=
        run'_eq_ok.mpr ⟨[], prepareRequest_agree.readBack _ _ trivial hencoded⟩
      simp only [answer, ManagementControlServer.prepareReceive, hread]
  · refine AgentConnection.call_refines "failed to start sender job: "
      (encodeStartedSendResponse conn.texts conn.isAbsolute) ?_ hregistry ?_ ?_
    · decide
    · intro payload hencoded job hrun
      obtain ⟨hzero, _, _, _, hjob⟩ := ManagementJobRegistry.startJob_ok hrun
      have hsend := (encodeStartSendRequest_eq_ok.mp hencoded).1.send
      have hfits : StartedFits conn.texts conn.isAbsolute job := by
        rw [hjob]
        exact ⟨hzero, hsend⟩
      have htyped : job.jobId < 2 ^ 64 ∧ PrintsBack conn.texts job.receiverAddress := by
        rw [hjob]
        exact ⟨hnumbered, hprints⟩
      have hbytes := encodeStartedSendResponse_eq_ok.mpr ⟨hfits, rfl⟩
      exact ⟨_, hbytes, (startedSendResponse_agree hparsed).readBack _ _ htyped hbytes⟩
    · intro payload hencoded
      have hread : (readStartSendRequest conn.texts conn.isAbsolute).run' payload = .ok request :=
        run'_eq_ok.mpr ⟨[], (startSendRequest_agree hparsed).readBack _ _ hprints hencoded⟩
      simp only [answer, ManagementControlServer.startSend, hread]
  · refine AgentConnection.call_refines "failed to cancel management job: "
      encodeCancelRequest ?_ hregistry ?_ ?_
    · decide
    · intro payload hencoded value hrun
      cases hcancel : (conn.registry.cancel jobId.toNat conn.outcomes.stored).1 with
      | error error =>
        rw [Prod.map_fst, hcancel] at hrun
        cases hrun
      | ok found =>
        cases ManagementJobRegistry.cancel_ok hcancel
        rw [Prod.map_fst, hcancel] at hrun
        obtain rfl : jobId = value := by simpa [Except.map] using hrun
        exact ⟨_, hencoded, cancelRequest_agree.readBack _ _ trivial hencoded⟩
    · intro payload hencoded
      have hread : readCancelRequest.run' payload = .ok jobId :=
        run'_eq_ok.mpr ⟨[], cancelRequest_agree.readBack _ _ trivial hencoded⟩
      simp only [answer, ManagementControlServer.cancelJob, hread, Prod.map_fst, Prod.map_snd, id]
      cases (conn.registry.cancel jobId.toNat conn.outcomes.stored).1 <;> rfl

/-- A connection to the link-local receiver on which nothing is lost. -/
def openConnection : AgentConnection where
  texts := linkLocalTexts
  isAbsolute := onDrive
  server := exampleServer
  registry := {}
  outcomes := { silentClient.outcomes with start := ⟨.ok (), .ok 50000, .ok ()⟩ }
  opened := .ok ()
  written := .ok ()
  arrived := 1000
  returned := 1000
  replaced _ := ""

/-- The request of the link-local transfer. -/
def linkLocalPrepare : PrepareReceiveRequest := ⟨"D:\\Destination", true, false⟩

theorem remoteCalls_refine_link_local :
    openConnection.Refines (encodePrepareRequest onDrive linkLocalPrepare >>=
        ManagementFrame.new 7 .prepareReceiveRequest)
      (fun delivery => linkLocalNetwork.exchange (linkLocal 7342 0) delivery
        "management agent rejected PrepareReceiveRequest: failed to prepare receiver job: "
        fun registry => registry.prepareReceiveOnConfigured linkLocalPrepare
          ⟨.ok (), .ok 50000, .ok ()⟩)
      (openConnection.prepareReceiveConfigured 7 linkLocalPrepare)
      (linkLocalNetwork.setRegistry (linkLocal 7342 0)) :=
  (remoteCalls_refine openConnection linkLocalTexts_printsBack rfl (by decide)
    (fun port hport => by cases hport; decide) 7).1 linkLocalPrepare

end NetworkCopy
