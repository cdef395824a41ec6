import NetworkCopy.Management.JobExclusion
import NetworkCopy.Management.Persistence

/-!
# Starting a managed transfer

`start_transfer_with` prepares the receiver, starts the sender, and cancels the receiver when the
sender could not be started.  Each of the three is one exchange with an agent.  An exchange can
lose its request, or its reply; the manager sees an error either way and cannot tell which.

An agent is its job registry.  The methods are the ones of `JobSystem`, run in one go: what comes
between their sections (path checks, the bind of the listener, the start of the thread) has an
outcome that is an argument.
-/

namespace NetworkCopy

open JobRegistryInner

/-! ## Addresses -/

/-- `SocketAddr`. -/
inductive SocketAddr where
  | v4 (ip : BitVec 32) (port : UInt16)
  | v6 (ip : BitVec 128) (port : UInt16) (flowinfo scopeId : UInt32)
  deriving DecidableEq, Repr

/-- `SocketAddr::port`. -/
def SocketAddr.port : SocketAddr → UInt16
  | .v4 _ port => port
  | .v6 _ port _ _ => port

/-- The flow info, which an IPv4 address does not have. -/
def SocketAddr.flowinfo : SocketAddr → UInt32
  | .v4 _ _ => 0
  | .v6 _ _ flowinfo _ => flowinfo

/-- The address that the text of an address names: no text has flow info. -/
def SocketAddr.withoutFlowinfo : SocketAddr → SocketAddr
  | .v4 ip port => .v4 ip port
  | .v6 ip port _ scopeId => .v6 ip port 0 scopeId

/-- `payload_endpoint`. -/
def payloadEndpoint (controlEndpoint : SocketAddr) (transferPort : UInt16) : SocketAddr :=
  match controlEndpoint with
  | .v4 ip _ => .v4 ip transferPort
  | .v6 ip _ flowinfo scopeId => .v6 ip transferPort flowinfo scopeId

/-! ## The methods of an agent -/

section

variable {Address : Type}

/-- What a method that starts a job meets outside the registry: the check of its arguments, the
file-system calls with the port of the listener, and the start of the thread. -/
structure StartOutcomes where
  validated : IoResult Unit
  opened : IoResult Nat
  spawned : IoResult Unit

/-- A method that starts a job, without interference.  `wrap` says which slot the job takes. -/
def ManagementJobRegistry.startJob {Job : Type} (registry : ManagementJobRegistry Address)
    (wrap : Job → ManagedJob Address) (makeJob : Nat → Nat → Job)
    (checkPort : Nat → IoResult Unit) (outcomes : StartOutcomes) :
    IoResult Job × ManagementJobRegistry Address :=
  let opened : IoResult Nat := do
    outcomes.validated
    registry.inner.checkIdle
    let port ← outcomes.opened
    checkPort port
    return port
  match opened with
  | .error error => (.error error, registry)
  | .ok port =>
      let (jobId, registry) := registry.fetchAdd
      if jobId = 0 then
        (.error (.other "management job ID counter wrapped to zero"), registry)
      else
        let job := makeJob jobId port
        match registry.inner.fill (wrap job) ⟨jobId⟩ with
        | .error error => (.error error, registry)
        | .ok inner =>
            match outcomes.spawned with
            | .ok () => (.ok job, { registry with inner })
            | .error error => (.error error, { registry with inner := inner.clear (wrap job) })

/-- `prepare_receive_on_configured`. -/
def ManagementJobRegistry.prepareReceiveOnConfigured (registry : ManagementJobRegistry Address)
    (request : PrepareReceiveRequest) (outcomes : StartOutcomes) :
    IoResult PreparedReceiveJob × ManagementJobRegistry Address :=
  registry.startJob .receive
    (fun jobId transferPort => {
      jobId
      transferPort
      destinationRoot := request.destinationRoot
      updateExisting := request.updateExisting })
    (fun port => ensure (port ≠ 0) (.other "managed receiver obtained transfer port zero"))
    outcomes

/-- `start_send_with_desktop_layout`.  It opens no port. -/
def ManagementJobRegistry.startSendWithDesktopLayout (registry : ManagementJobRegistry Address)
    (request : StartSendRequest Address) (outcomes : StartOutcomes) :
    IoResult (StartedSendJob Address) × ManagementJobRegistry Address :=
  registry.startJob .send
    (fun jobId _ => {
      jobId
      receiverAddress := request.receiverAddress
      sourceRoot := request.sourceRoot
      workerCount := request.workerCount
      calibrationMib := request.calibrationMib })
    (fun _ => .ok ()) outcomes

/-- `cancel`, with the stream count that the journal of the destination holds. -/
def ManagementJobRegistry.cancel (registry : ManagementJobRegistry Address) (jobId : Nat)
    (stored : IoResult (Option Nat)) : IoResult Nat × ManagementJobRegistry Address :=
  if jobId = 0 then
    (.error (.invalidInput "management job ID must not be zero"), registry)
  else
    match registry.inner.takeCancelled jobId with
    | .error error => (.error error, registry)
    | .ok (cancelled, inner) =>
        let dataStreamCount := cancelled.resumeDestination.elim 0 fun _ => resumeStreamCount stored
        let result := JobRegistryInner.cancelledResult jobId cancelled.role dataStreamCount
        (.ok jobId, { registry with inner := inner.publishCancelled result })

end

/-! ## Exchanges -/

/-- What becomes of an exchange: `requestLost` stands for every error before the agent has run
the method, and `replyLost` for every error after it. -/
inductive Delivery where
  | delivered
  | requestLost (error : IoError)
  | replyLost (error : IoError)

/-- The request arrives. -/
def Delivery.Executed : Delivery → Prop
  | .requestLost _ => False
  | _ => True

/-- The agents, and which of them answers at an address. -/
structure AgentNetwork where
  route : SocketAddr → Nat
  registries : Nat → ManagementJobRegistry SocketAddr

namespace AgentNetwork

/-- The registry at an address. -/
def registry (network : AgentNetwork) (address : SocketAddr) : ManagementJobRegistry SocketAddr :=
  network.registries (network.route address)

/-- `exchange`: the method of the agent at the endpoint.  `rejection` is the text of the error
reply. -/
def exchange {α : Type} (network : AgentNetwork) (endpoint : SocketAddr) (delivery : Delivery)
    (rejection : String)
    (method : ManagementJobRegistry SocketAddr → IoResult α × ManagementJobRegistry SocketAddr) :
    IoResult α × AgentNetwork :=
  let (result, registry) := method (network.registry endpoint)
  let executed := { network with
    registries := Function.update network.registries (network.route endpoint) registry }
  match delivery with
  | .requestLost error => (.error error, network)
  | .replyLost error => (.error error, executed)
  | .delivered =>
      (result.mapError fun error => .other (rejection ++ error.message), executed)

end AgentNetwork

/-- `ManagedTransferRequest`. -/
structure ManagedTransferRequest where
  senderAgent : SocketAddr
  receiverAgent : SocketAddr
  sourceRoot : String
  destinationRoot : String
  updateExisting : Bool
  workerCount : UInt64
  calibrationMib : UInt64

/-- The options of the two remote methods: `resume` is the stream count of `resume_transfer`. -/
structure StartOptions where
  resume : Option Nat
  preserveDesktopLayout : Bool

/-- What the three exchanges of a start meet. -/
structure StartCalls where
  prepare : Delivery
  prepareOutcomes : StartOutcomes
  start : Delivery
  startOutcomes : StartOutcomes
  cancel : Delivery
  stored : IoResult (Option Nat)

/-- `prepare_receive` and `prepare_receive_resume`. -/
def prepareReceive (network : AgentNetwork) (request : ManagedTransferRequest)
    (options : StartOptions) (calls : StartCalls) : IoResult PreparedReceiveJob × AgentNetwork :=
  network.exchange request.receiverAgent calls.prepare
    "management agent rejected PrepareReceiveRequest: failed to prepare receiver job: "
    fun registry => registry.prepareReceiveOnConfigured {
      destinationRoot := request.destinationRoot
      updateExisting := request.updateExisting
      resume := options.resume.isSome } calls.prepareOutcomes

/-- `start_send_with_stream_count_and_desktop_layout`.  The address travels as text. -/
def startSend (network : AgentNetwork) (request : ManagedTransferRequest)
    (options : StartOptions) (receiverPayload : SocketAddr) (calls : StartCalls) :
    IoResult (StartedSendJob SocketAddr) × AgentNetwork :=
  network.exchange request.senderAgent calls.start
    "management agent rejected StartSendRequest: failed to start sender job: "
    fun registry => registry.startSendWithDesktopLayout {
      receiverAddress := receiverPayload.withoutFlowinfo
      sourceRoot := request.sourceRoot
      workerCount := request.workerCount.toNat
      calibrationMib := request.calibrationMib.toNat
      forcedDataStreamCount := options.resume
      preserveDesktopLayout := options.preserveDesktopLayout } calls.startOutcomes

/-- `cancel_job`. -/
def cancelJob (network : AgentNetwork) (endpoint : SocketAddr) (jobId : Nat)
    (calls : StartCalls) : IoResult Nat × AgentNetwork :=
  network.exchange endpoint calls.cancel
    "management agent rejected CancelJobRequest: failed to cancel management job: "
    fun registry => registry.cancel jobId calls.stored

/-- `rollback_receiver`. -/
def rollbackReceiver (network : AgentNetwork) (receiverAgent : SocketAddr) (receiverJobId : Nat)
    (senderError : IoError) (calls : StartCalls) : IoError × AgentNetwork :=
  let (result, network) := cancelJob network receiverAgent receiverJobId calls
  let started := s!"failed to start sender after receiver job {receiverJobId} was prepared"
  let sender := senderError.message
  let error : IoError :=
    match result with
    | .ok cancelledJobId =>
        if cancelledJobId = receiverJobId then
          ⟨senderError.kind, s!"{started}; receiver job was rolled back: {sender}", none⟩
        else
          .other s!"{started}; rollback returned unexpected job ID {cancelledJobId}: {sender}"
    | .error rollbackError =>
        let rollback := rollbackError.message
        .other s!"{started}: {sender}; receiver rollback also failed: {rollback}"
  (error, network)

/-- `start_transfer_with`. -/
def startTransferWith (network : AgentNetwork) (request : ManagedTransferRequest)
    (options : StartOptions) (calls : StartCalls) :
    IoResult (ManagedTransferRecord SocketAddr) × AgentNetwork :=
  if request.senderAgent = request.receiverAgent then
    (.error (.invalidInput "paired management transfer requires two different agents"), network)
  else
    let (prepared, network) := prepareReceive network request options calls
    match prepared with
    | .error error => (.error error, network)
    | .ok receiverJob =>
        let receiverPayload :=
          payloadEndpoint request.receiverAgent (UInt16.ofNat receiverJob.transferPort)
        let (started, network) := startSend network request options receiverPayload calls
        match started with
        | .error senderError =>
            let (error, network) :=
              rollbackReceiver network request.receiverAgent receiverJob.jobId senderError calls
            (.error error, network)
        | .ok senderJob =>
            (.ok {
              senderAgent := request.senderAgent
              senderJobId := UInt64.ofNat senderJob.jobId
              receiverAgent := request.receiverAgent
              receiverJobId := UInt64.ofNat receiverJob.jobId
              receiverPayload
              sourceRoot := senderJob.sourceRoot
              destinationRoot := receiverJob.destinationRoot
              updateExisting := receiverJob.updateExisting
              workerCount := UInt64.ofNat senderJob.workerCount
              calibrationMib := UInt64.ofNat senderJob.calibrationMib }, network)

/-! ## What the methods do to the slot -/

section

variable {Address : Type}

/-- The same jobs are active. -/
def ManagementJobRegistry.SameJobs (before after : ManagementJobRegistry Address) : Prop :=
  after.inner.activeReceive = before.inner.activeReceive ∧
    after.inner.activeSend = before.inner.activeSend

/-- The agent starts the job: its checks pass, it is idle, and the thread can be made. -/
structure ManagementJobRegistry.Accepts (registry : ManagementJobRegistry Address)
    (checkPort : Nat → IoResult Unit) (outcomes : StartOutcomes) : Prop where
  validated : outcomes.validated = .ok ()
  idle : registry.inner.active = none
  opened : ∃ port, outcomes.opened = .ok port ∧ checkPort port = .ok ()
  numbered : registry.nextJobId ≠ 0
  spawned : outcomes.spawned = .ok ()

namespace ManagementJobRegistry

variable {Job : Type} {registry : ManagementJobRegistry Address} {wrap : Job → ManagedJob Address}
  {makeJob : Nat → Nat → Job} {checkPort : Nat → IoResult Unit} {outcomes : StartOutcomes}

/-- An accepted job is in the slot under the ID that was next. -/
theorem startJob_accepted (haccepts : registry.Accepts checkPort outcomes) :
    ∃ port, outcomes.opened = .ok port ∧ checkPort port = .ok () ∧
      registry.startJob wrap makeJob checkPort outcomes =
        (.ok (makeJob registry.nextJobId port),
          { registry.fetchAdd.2 with
            inner := registry.inner.put
              ⟨wrap (makeJob registry.nextJobId port), ⟨registry.nextJobId⟩⟩ }) := by
  obtain ⟨port, hopened, hport⟩ := haccepts.opened
  have hidle : registry.inner.checkIdle = .ok () :=
    checkIdle_eq_ok.mpr haccepts.idle
  have hfill : registry.inner.fill (wrap (makeJob registry.nextJobId port))
      ⟨registry.nextJobId⟩ = .ok (registry.inner.put
        ⟨wrap (makeJob registry.nextJobId port), ⟨registry.nextJobId⟩⟩) :=
    fill_eq_ok.mpr ⟨haccepts.idle, rfl⟩
  refine ⟨port, hopened, hport, ?_⟩
  unfold startJob
  simp only [haccepts.validated, hidle, hopened, hport, ok_bind, pure_eq_ok, fetchAdd,
    if_neg haccepts.numbered, hfill, haccepts.spawned]

/-- A job that is not accepted leaves no trace in the slot. -/
theorem startJob_refused (hrefuses : ¬ registry.Accepts checkPort outcomes) :
    ∃ error registry', registry.startJob wrap makeJob checkPort outcomes =
      (.error error, registry') ∧ registry.SameJobs registry' := by
  let opened : IoResult Nat := do
    outcomes.validated
    registry.inner.checkIdle
    let port ← outcomes.opened
    checkPort port
    return port
  cases hopened : opened with
  | error error =>
    refine ⟨error, registry, ?_, rfl, rfl⟩
    unfold startJob
    rw [show (outcomes.validated >>= fun _ => _) = Except.error error from hopened]
  | ok port =>
    obtain ⟨_, hvalidated, hopened⟩ := bind_eq_ok.mp hopened
    obtain ⟨_, hidle, hopened⟩ := bind_eq_ok.mp hopened
    obtain ⟨found, hfound, hopened⟩ := bind_eq_ok.mp hopened
    obtain ⟨_, hport, hopened⟩ := bind_eq_ok.mp hopened
    cases hopened
    have hactive := checkIdle_eq_ok.mp hidle
    have hfill : registry.inner.fill (wrap (makeJob registry.nextJobId port))
        ⟨registry.nextJobId⟩ = .ok (registry.inner.put
          ⟨wrap (makeJob registry.nextJobId port), ⟨registry.nextJobId⟩⟩) :=
      fill_eq_ok.mpr ⟨hactive, rfl⟩
    by_cases hzero : registry.nextJobId = 0
    · have hrun : registry.startJob wrap makeJob checkPort outcomes =
          (.error (.other "management job ID counter wrapped to zero"), registry.fetchAdd.2) := by
        unfold startJob
        simp only [hvalidated, hidle, hfound, hport, ok_bind, pure_eq_ok, fetchAdd]
        exact if_pos hzero
      exact ⟨_, _, hrun, rfl, rfl⟩
    cases hspawned : outcomes.spawned with
    | ok _ =>
      exact absurd ⟨hvalidated, hactive, ⟨port, hfound, hport⟩, hzero, hspawned⟩ hrefuses
    | error error =>
      have hrun : registry.startJob wrap makeJob checkPort outcomes =
          (.error error, { registry.fetchAdd.2 with
            inner := (registry.inner.put
              ⟨wrap (makeJob registry.nextJobId port), ⟨registry.nextJobId⟩⟩).clear
                (wrap (makeJob registry.nextJobId port)) }) := by
        unfold startJob
        simp only [hvalidated, hidle, hfound, hport, ok_bind, pure_eq_ok, fetchAdd,
          if_neg hzero, hfill, hspawned]
      refine ⟨error, _, hrun, ?_⟩
      obtain ⟨hreceive, hsend⟩ := active_eq_none.mp hactive
      unfold SameJobs
      generalize wrap (makeJob registry.nextJobId port) = job
      cases job with
      | receive job =>
        simp [put, clear, matchesJob,
          takeSlot, hreceive, hsend]
      | send job =>
        simp [put, clear, matchesJob,
          takeSlot, hreceive, hsend]

/-- `cancel` empties the slot of a receiver. -/
theorem cancel_receive {job : PreparedReceiveJob} {progress : ProgressCounter}
    (hjob : registry.inner.activeReceive = some ⟨job, progress⟩) (hid : job.jobId ≠ 0)
    (stored : IoResult (Option Nat)) :
    ∃ registry', registry.cancel job.jobId stored = (.ok job.jobId, registry') ∧
      registry'.inner.activeReceive = none ∧
      registry'.inner.activeSend = registry.inner.activeSend := by
  have htake : registry.inner.takeCancelled job.jobId =
      .ok (⟨progress, .receiver, some job.destinationRoot⟩,
        { registry.inner with activeReceive := none }) := by
    have hactive : registry.inner.activeJobId = some job.jobId := by
      simp [activeJobId, hjob]
    unfold takeCancelled
    rw [hactive, hjob]
    simp [ensure]
  unfold cancel
  rw [if_neg hid, htake]
  exact ⟨_, rfl, rfl, rfl⟩

theorem SameJobs.refl (registry : ManagementJobRegistry Address) : registry.SameJobs registry :=
  ⟨rfl, rfl⟩

/-- The agent runs one job, a receiver with the ID. -/
def OnlyReceives (registry : ManagementJobRegistry Address) (jobId : UInt64) : Prop :=
  registry.inner.activeReceive.map (fun active => UInt64.ofNat active.job.jobId) = some jobId ∧
    registry.inner.activeSend = none

/-- The agent runs one job, a sender with the ID. -/
def OnlySends (registry : ManagementJobRegistry Address) (jobId : UInt64) : Prop :=
  registry.inner.activeReceive = none ∧
    registry.inner.activeSend.map (fun active => UInt64.ofNat active.job.jobId) = some jobId

end ManagementJobRegistry

end

namespace AgentNetwork

/-- The same jobs are active on every agent. -/
def SameJobs (before after : AgentNetwork) : Prop :=
  after.route = before.route ∧
    ∀ agent, (before.registries agent).SameJobs (after.registries agent)

/-- The network with another registry at an address. -/
def setRegistry (network : AgentNetwork) (endpoint : SocketAddr)
    (registry : ManagementJobRegistry SocketAddr) : AgentNetwork :=
  { network with
    registries := Function.update network.registries (network.route endpoint) registry }

theorem sameJobs_setRegistry {network : AgentNetwork} {endpoint : SocketAddr}
    {registry : ManagementJobRegistry SocketAddr}
    (h : (network.registry endpoint).SameJobs registry) :
    network.SameJobs (network.setRegistry endpoint registry) := by
  refine ⟨rfl, fun agent => ?_⟩
  by_cases hagent : agent = network.route endpoint
  · subst hagent
    simpa [setRegistry, AgentNetwork.registry] using h
  · simp [setRegistry, Function.update_of_ne hagent, ManagementJobRegistry.SameJobs.refl]

section

variable {Job : Type} {network : AgentNetwork} {endpoint : SocketAddr} {delivery : Delivery}
  {rejection : String} {wrap : Job → ManagedJob SocketAddr} {makeJob : Nat → Nat → Job}
  {checkPort : Nat → IoResult Unit} {outcomes : StartOutcomes}

/-- An exchange that starts no job. -/
theorem exchange_refused
    (hnot : ¬ (delivery.Executed ∧ (network.registry endpoint).Accepts checkPort outcomes)) :
    ∃ error network', network.exchange endpoint delivery rejection
      (fun registry => registry.startJob wrap makeJob checkPort outcomes) =
        (.error error, network') ∧ network.SameJobs network' := by
  have hsame : network.SameJobs network := ⟨rfl, fun agent => .refl _⟩
  by_cases haccepts : (network.registry endpoint).Accepts checkPort outcomes
  · cases delivery with
    | requestLost error => exact ⟨error, network, rfl, hsame⟩
    | delivered => exact absurd ⟨trivial, haccepts⟩ hnot
    | replyLost error => exact absurd ⟨trivial, haccepts⟩ hnot
  · obtain ⟨error, registry', hrun, hjobs⟩ : ∃ error registry',
        (network.registry endpoint).startJob wrap makeJob checkPort outcomes =
          (.error error, registry') ∧ (network.registry endpoint).SameJobs registry' :=
      ManagementJobRegistry.startJob_refused haccepts
    have hexecuted := sameJobs_setRegistry hjobs
    unfold exchange
    simp only [hrun]
    cases delivery with
    | requestLost lost => exact ⟨lost, network, rfl, hsame⟩
    | delivered => exact ⟨_, _, rfl, hexecuted⟩
    | replyLost lost => exact ⟨lost, _, rfl, hexecuted⟩

/-- An exchange that starts a job; its reply may be lost. -/
theorem exchange_accepted (hexecuted : delivery.Executed)
    (haccepts : (network.registry endpoint).Accepts checkPort outcomes) :
    ∃ port registry' result, network.exchange endpoint delivery rejection
        (fun registry => registry.startJob wrap makeJob checkPort outcomes) =
          (result, network.setRegistry endpoint registry') ∧
      registry'.inner = (network.registry endpoint).inner.put
        ⟨wrap (makeJob (network.registry endpoint).nextJobId port),
          ⟨(network.registry endpoint).nextJobId⟩⟩ ∧
      (delivery = .delivered →
        result = .ok (makeJob (network.registry endpoint).nextJobId port)) ∧
      (delivery ≠ .delivered → ∃ error, result = .error error) := by
  obtain ⟨port, -, -, hrun⟩ : ∃ port, outcomes.opened = .ok port ∧ checkPort port = .ok () ∧
      (network.registry endpoint).startJob wrap makeJob checkPort outcomes =
        (.ok (makeJob (network.registry endpoint).nextJobId port),
          { (network.registry endpoint).fetchAdd.2 with
            inner := (network.registry endpoint).inner.put
              ⟨wrap (makeJob (network.registry endpoint).nextJobId port),
                ⟨(network.registry endpoint).nextJobId⟩⟩ }) :=
    ManagementJobRegistry.startJob_accepted haccepts
  unfold exchange
  simp only [hrun]
  cases delivery with
  | requestLost error => exact hexecuted.elim
  | delivered => exact ⟨port, _, _, rfl, rfl, fun _ => rfl, fun h => absurd rfl h⟩
  | replyLost error => exact ⟨port, _, _, rfl, rfl, fun h => (by cases h), fun _ => ⟨error, rfl⟩⟩

end

theorem registry_setRegistry (network : AgentNetwork) (endpoint : SocketAddr)
    (registry : ManagementJobRegistry SocketAddr) :
    (network.setRegistry endpoint registry).registry endpoint = registry := by
  simp [setRegistry, AgentNetwork.registry]

theorem registry_setRegistry_of_ne (network : AgentNetwork) {endpoint other : SocketAddr}
    (hne : network.route other ≠ network.route endpoint)
    (registry : ManagementJobRegistry SocketAddr) :
    (network.setRegistry endpoint registry).registry other = network.registry other := by
  simp [setRegistry, AgentNetwork.registry, Function.update_of_ne hne]

end AgentNetwork

/-! ## All or nothing -/

variable {calls : StartCalls}

/-- The listener of a receiver must have a port. -/
abbrev checkReceiverPort (port : Nat) : IoResult Unit :=
  ensure (port ≠ 0) (.other "managed receiver obtained transfer port zero")

/-- A sender has no listener. -/
abbrev checkSenderPort (_ : Nat) : IoResult Unit := .ok ()

/-- What a start should do: on success both agents run the recorded job and no other; after an
error the agents run what they ran before. -/
def AllOrNothing (request : ManagedTransferRequest) (before : AgentNetwork) :
    IoResult (ManagedTransferRecord SocketAddr) × AgentNetwork → Prop
  | (.ok record, after) =>
      (after.registry request.receiverAgent).OnlyReceives record.receiverJobId ∧
        (after.registry request.senderAgent).OnlySends record.senderJobId
  | (.error _, after) => before.SameJobs after

/-- The receiver would start its job. -/
def ReceiverAccepts (network : AgentNetwork) (request : ManagedTransferRequest)
    (calls : StartCalls) : Prop :=
  (network.registry request.receiverAgent).Accepts checkReceiverPort calls.prepareOutcomes

/-- The sender would start its job: it is another agent, which accepts. -/
def SenderAccepts (network : AgentNetwork) (request : ManagedTransferRequest)
    (calls : StartCalls) : Prop :=
  network.route request.senderAgent ≠ network.route request.receiverAgent ∧
    (network.registry request.senderAgent).Accepts checkSenderPort calls.startOutcomes

/-- No reply to a job that was started is lost, and when the sender has not started, the request
to cancel the receiver arrives. -/
def StartSettles (network : AgentNetwork) (request : ManagedTransferRequest)
    (calls : StartCalls) : Prop :=
  request.senderAgent = request.receiverAgent ∨
  ¬ (calls.prepare.Executed ∧ ReceiverAccepts network request calls) ∨
  (calls.prepare = .delivered ∧
    (calls.start.Executed ∧ SenderAccepts network request calls → calls.start = .delivered) ∧
    (¬ (calls.start.Executed ∧ SenderAccepts network request calls) → calls.cancel.Executed))

/-- The roll-back: it empties the slot of the receiver exactly when its request arrives. -/
theorem rollbackReceiver_cases {network : AgentNetwork} {receiverAgent : SocketAddr}
    {job : PreparedReceiveJob} {progress : ProgressCounter} {senderError : IoError}
    (hjob : (network.registry receiverAgent).inner.activeReceive = some ⟨job, progress⟩)
    (hid : job.jobId ≠ 0) :
    ∃ error after, rollbackReceiver network receiverAgent job.jobId senderError calls =
        (error, after) ∧
      (¬ calls.cancel.Executed → after = network) ∧
      (calls.cancel.Executed → ∃ registry', after = network.setRegistry receiverAgent registry' ∧
        registry'.inner.activeReceive = none ∧
        registry'.inner.activeSend = (network.registry receiverAgent).inner.activeSend) := by
  obtain ⟨registry', hrun, hreceive, hsend⟩ :=
    ManagementJobRegistry.cancel_receive hjob hid calls.stored
  unfold rollbackReceiver cancelJob AgentNetwork.exchange
  simp only [hrun]
  cases hcancel : calls.cancel with
  | requestLost error =>
    exact ⟨_, _, rfl, fun _ => rfl, fun h => h.elim⟩
  | replyLost error =>
    exact ⟨_, _, rfl, fun h => absurd trivial h, fun _ => ⟨registry', rfl, hreceive, hsend⟩⟩
  | delivered =>
    exact ⟨_, _, rfl, fun h => absurd trivial h, fun _ => ⟨registry', rfl, hreceive, hsend⟩⟩

section

variable {network prepared started : AgentNetwork} {request : ManagedTransferRequest}
  {options : StartOptions} {calls : StartCalls}

theorem startTransferWith_prepare_error (hagents : request.senderAgent ≠ request.receiverAgent)
    {error : IoError} (hprepare : prepareReceive network request options calls =
      (.error error, prepared)) :
    startTransferWith network request options calls = (.error error, prepared) := by
  unfold startTransferWith
  rw [if_neg hagents, hprepare]

theorem startTransferWith_start_error (hagents : request.senderAgent ≠ request.receiverAgent)
    {job : PreparedReceiveJob}
    (hprepare : prepareReceive network request options calls = (.ok job, prepared))
    {error : IoError} (hstart : startSend prepared request options
      (payloadEndpoint request.receiverAgent (UInt16.ofNat job.transferPort)) calls =
        (.error error, started)) :
    startTransferWith network request options calls =
      (.error (rollbackReceiver started request.receiverAgent job.jobId error calls).1,
        (rollbackReceiver started request.receiverAgent job.jobId error calls).2) := by
  unfold startTransferWith
  rw [if_neg hagents, hprepare]
  simp only [hstart]

theorem startTransferWith_ok (hagents : request.senderAgent ≠ request.receiverAgent)
    {job : PreparedReceiveJob}
    (hprepare : prepareReceive network request options calls = (.ok job, prepared))
    {senderJob : StartedSendJob SocketAddr} (hstart : startSend prepared request options
      (payloadEndpoint request.receiverAgent (UInt16.ofNat job.transferPort)) calls =
        (.ok senderJob, started)) :
    ∃ record, startTransferWith network request options calls = (.ok record, started) ∧
      record.receiverJobId = UInt64.ofNat job.jobId ∧
      record.senderJobId = UInt64.ofNat senderJob.jobId := by
  unfold startTransferWith
  rw [if_neg hagents, hprepare]
  simp only [hstart]
  exact ⟨_, rfl, rfl, rfl⟩

end

/-- A receiver that was prepared is the only job of its agent. -/
theorem prepareReceive_accepted {network : AgentNetwork} {request : ManagedTransferRequest}
    (options : StartOptions) (hexecuted : calls.prepare.Executed)
    (haccepts : ReceiverAccepts network request calls) :
    ∃ job receiver result, prepareReceive network request options calls =
        (result, network.setRegistry request.receiverAgent receiver) ∧
      receiver.inner.activeReceive = some ⟨job, ⟨job.jobId⟩⟩ ∧
      receiver.inner.activeSend = none ∧ job.jobId ≠ 0 ∧
      (calls.prepare = .delivered → result = .ok job) ∧
      (calls.prepare ≠ .delivered → ∃ error, result = .error error) := by
  obtain ⟨port, receiver, result, hrun, hreceiver, hdelivered, hlost⟩ :
      ∃ port receiver result, prepareReceive network request options calls =
          (result, network.setRegistry request.receiverAgent receiver) ∧
        receiver.inner = (network.registry request.receiverAgent).inner.put
          ⟨.receive ⟨(network.registry request.receiverAgent).nextJobId, port,
            request.destinationRoot, request.updateExisting⟩,
            ⟨(network.registry request.receiverAgent).nextJobId⟩⟩ ∧
        (calls.prepare = .delivered → result = .ok
          ⟨(network.registry request.receiverAgent).nextJobId, port,
            request.destinationRoot, request.updateExisting⟩) ∧
        (calls.prepare ≠ .delivered → ∃ error, result = .error error) :=
    AgentNetwork.exchange_accepted hexecuted haccepts
  obtain ⟨_, hsend⟩ := active_eq_none.mp haccepts.idle
  refine ⟨_, receiver, result, hrun, ?_, ?_, haccepts.numbered, hdelivered, hlost⟩
  · rw [hreceiver]
    rfl
  · rw [hreceiver]
    exact hsend

/-- A sender that was started is the only job of its agent. -/
theorem startSend_accepted {network : AgentNetwork} {request : ManagedTransferRequest}
    (options : StartOptions) (payload : SocketAddr) (hexecuted : calls.start.Executed)
    (haccepts : (network.registry request.senderAgent).Accepts checkSenderPort
      calls.startOutcomes) :
    ∃ job sender result, startSend network request options payload calls =
        (result, network.setRegistry request.senderAgent sender) ∧
      sender.inner.activeReceive = none ∧
      sender.inner.activeSend = some ⟨job, ⟨job.jobId⟩⟩ ∧
      job.receiverAddress = payload.withoutFlowinfo ∧
      (calls.start = .delivered → result = .ok job) ∧
      (calls.start ≠ .delivered → ∃ error, result = .error error) := by
  obtain ⟨port, sender, result, hrun, hsender, hdelivered, hlost⟩ :
      ∃ (port : Nat) (sender : ManagementJobRegistry SocketAddr)
        (result : IoResult (StartedSendJob SocketAddr)),
        startSend network request options payload calls =
          (result, network.setRegistry request.senderAgent sender) ∧
        sender.inner = (network.registry request.senderAgent).inner.put
          ⟨.send ⟨(network.registry request.senderAgent).nextJobId, payload.withoutFlowinfo,
            request.sourceRoot, request.workerCount.toNat, request.calibrationMib.toNat⟩,
            ⟨(network.registry request.senderAgent).nextJobId⟩⟩ ∧
        (calls.start = .delivered → result = .ok
          ⟨(network.registry request.senderAgent).nextJobId, payload.withoutFlowinfo,
            request.sourceRoot, request.workerCount.toNat, request.calibrationMib.toNat⟩) ∧
        (calls.start ≠ .delivered → ∃ error, result = .error error) :=
    AgentNetwork.exchange_accepted hexecuted haccepts
  obtain ⟨hreceive, _⟩ := active_eq_none.mp haccepts.idle
  refine ⟨_, sender, result, hrun, ?_, ?_, rfl, hdelivered, hlost⟩
  · rw [hsender]
    exact hreceive
  · rw [hsender]
    rfl

/-- A start is all or nothing exactly when it settles. -/
theorem start_all_or_nothing_iff (network : AgentNetwork) (request : ManagedTransferRequest)
    (options : StartOptions) (calls : StartCalls) :
    AllOrNothing request network (startTransferWith network request options calls) ↔
      StartSettles network request calls := by
  by_cases hagents : request.senderAgent = request.receiverAgent
  · unfold startTransferWith
    rw [if_pos hagents]
    exact ⟨fun _ => .inl hagents, fun _ => ⟨rfl, fun agent => .refl _⟩⟩
  by_cases hprepared : calls.prepare.Executed ∧ ReceiverAccepts network request calls
  case neg =>
    obtain ⟨error, after, hrun, hsame⟩ : ∃ error after,
        prepareReceive network request options calls = (.error error, after) ∧
          network.SameJobs after := AgentNetwork.exchange_refused hprepared
    rw [startTransferWith_prepare_error hagents hrun]
    exact ⟨fun _ => .inr (.inl hprepared), fun _ => hsame⟩
  obtain ⟨hexecuted, haccepts⟩ := hprepared
  have hidle := JobRegistryInner.active_eq_none.mp haccepts.idle
  obtain ⟨job, receiver, result, hrun, hreceive, hsend, hid, hdelivered, hlost⟩ :=
    prepareReceive_accepted options hexecuted haccepts
  have hsettles : StartSettles network request calls ↔ calls.prepare = .delivered ∧
      (calls.start.Executed ∧ SenderAccepts network request calls →
        calls.start = .delivered) ∧
      (¬ (calls.start.Executed ∧ SenderAccepts network request calls) →
        calls.cancel.Executed) := by
    unfold StartSettles
    constructor
    · intro h
      rcases h with hsame | hnot | hreply
      · exact absurd hsame hagents
      · exact absurd ⟨hexecuted, haccepts⟩ hnot
      · exact hreply
    · exact fun h => .inr (.inr h)
  rw [hsettles]
  -- As long as the receiver is in its slot, the agents do not run what they ran before.
  have hholds : ∀ after : AgentNetwork, after.route = network.route →
      (after.registry request.receiverAgent).inner.activeReceive ≠ none →
      ¬ network.SameJobs after := by
    intro after hroute hafter hsame
    have hjobs := (hsame.2 (network.route request.receiverAgent)).1
    rw [← hroute] at hjobs
    exact hafter (hjobs.trans (by rw [hroute]; exact hidle.1))
  by_cases hreply : calls.prepare = .delivered
  case neg =>
    obtain ⟨error, hresult⟩ := hlost hreply
    subst hresult
    rw [startTransferWith_prepare_error hagents hrun]
    refine ⟨fun hall => absurd hall (hholds _ rfl ?_), fun h => absurd h.1 hreply⟩
    rw [network.registry_setRegistry, hreceive]
    exact Option.some_ne_none _
  rw [hdelivered hreply] at hrun
  let payload := payloadEndpoint request.receiverAgent (UInt16.ofNat job.transferPort)
  let prepared := network.setRegistry request.receiverAgent receiver
  have hpreparedReceiver : prepared.registry request.receiverAgent = receiver :=
    network.registry_setRegistry _ _
  -- An agent with a job does not start another one, so the sender is a second agent.
  have hsender : (prepared.registry request.senderAgent).Accepts checkSenderPort
      calls.startOutcomes ↔ SenderAccepts network request calls := by
    unfold SenderAccepts
    by_cases hroute : network.route request.senderAgent = network.route request.receiverAgent
    · have hsame : prepared.registry request.senderAgent = receiver := by
        rw [← hpreparedReceiver]
        show prepared.registries _ = prepared.registries _
        exact congrArg _ hroute
      rw [hsame]
      refine ⟨fun h => ?_, fun h => absurd hroute h.1⟩
      have hfree := (JobRegistryInner.active_eq_none.mp h.idle).1
      rw [hreceive] at hfree
      cases hfree
    · have hsame : prepared.registry request.senderAgent = network.registry request.senderAgent :=
        network.registry_setRegistry_of_ne hroute _
      rw [hsame]
      exact ⟨fun h => ⟨hroute, h⟩, fun h => h.2⟩
  by_cases hstarted : calls.start.Executed ∧ SenderAccepts network request calls
  · obtain ⟨senderJob, sender, sent, hstart, hsenderReceive, hsenderSend, _, hok, herror⟩ :=
      startSend_accepted options payload hstarted.1 (hsender.mpr hstarted.2)
    have hroute : network.route request.senderAgent ≠ network.route request.receiverAgent :=
      hstarted.2.1
    by_cases hstartReply : calls.start = .delivered
    · rw [hok hstartReply] at hstart
      obtain ⟨record, hrecord, hreceiverId, hsenderId⟩ :=
        startTransferWith_ok hagents hrun hstart
      rw [hrecord]
      refine ⟨fun _ => ⟨hreply, fun _ => hstartReply, fun h => absurd hstarted h⟩, fun _ => ?_⟩
      have hother : (prepared.setRegistry request.senderAgent sender).registry
          request.receiverAgent = prepared.registry request.receiverAgent :=
        prepared.registry_setRegistry_of_ne (fun h => hroute h.symm) sender
      have hreceiver := hother.trans hpreparedReceiver
      have hsenderRegistry : (prepared.setRegistry request.senderAgent sender).registry
          request.senderAgent = sender := prepared.registry_setRegistry _ _
      refine ⟨?_, ?_⟩
      · rw [hreceiver, hreceiverId]
        exact ⟨by rw [hreceive]; rfl, hsend⟩
      · rw [hsenderRegistry, hsenderId]
        exact ⟨hsenderReceive, by rw [hsenderSend]; rfl⟩
    · -- The sender runs, and nothing cancels it.
      obtain ⟨error, hsent⟩ := herror hstartReply
      rw [hsent] at hstart
      rw [startTransferWith_start_error hagents hrun hstart]
      refine ⟨fun hall => ?_, fun h => absurd (h.2.1 hstarted) hstartReply⟩
      have hother : (prepared.setRegistry request.senderAgent sender).registry
          request.receiverAgent = prepared.registry request.receiverAgent :=
        prepared.registry_setRegistry_of_ne (fun h => hroute h.symm) sender
      have hjob := congrArg (fun registry => registry.inner.activeReceive)
        (hother.trans hpreparedReceiver)
      obtain ⟨_, after, hrollback, hlostCancel, hcancel⟩ :=
        rollbackReceiver_cases (hjob.trans hreceive) hid
      rw [hrollback] at hall
      have hafter : after.registry request.senderAgent = sender := by
        by_cases hexecutedCancel : calls.cancel.Executed
        · obtain ⟨registry', rfl, _⟩ := hcancel hexecutedCancel
          have hkept := (prepared.setRegistry request.senderAgent sender).registry_setRegistry_of_ne
            hroute registry'
          rw [hkept]
          exact prepared.registry_setRegistry _ _
        · rw [hlostCancel hexecutedCancel]
          exact prepared.registry_setRegistry _ _
      have hjobs := (hall.2 (network.route request.senderAgent)).2
      rw [← hall.1] at hjobs
      have hfree := (JobRegistryInner.active_eq_none.mp hstarted.2.2.idle).2
      have hsome : (after.registry request.senderAgent).inner.activeSend = none :=
        hjobs.trans (by rw [hall.1]; exact hfree)
      rw [hafter, hsenderSend] at hsome
      cases hsome
  · have hrefused : ¬ (calls.start.Executed ∧ (prepared.registry request.senderAgent).Accepts
        checkSenderPort calls.startOutcomes) := by
      rw [hsender]
      exact hstarted
    obtain ⟨error, started, hstart, hsame⟩ : ∃ error started,
        startSend prepared request options payload calls = (.error error, started) ∧
          prepared.SameJobs started := AgentNetwork.exchange_refused hrefused
    rw [startTransferWith_start_error hagents hrun hstart]
    have hstartedReceiver := hsame.2 (network.route request.receiverAgent)
    have hroute : started.route = network.route := hsame.1
    have hjobs : receiver.SameJobs (started.registry request.receiverAgent) := by
      have hsameReceiver := hsame.2 (network.route request.receiverAgent)
      rw [← hpreparedReceiver]
      show (prepared.registries (network.route request.receiverAgent)).SameJobs
        (started.registries (started.route request.receiverAgent))
      rw [hroute]
      exact hsameReceiver
    obtain ⟨_, after, hrollback, hlostCancel, hcancel⟩ :=
      rollbackReceiver_cases (hjobs.1.trans hreceive) hid
    rw [hrollback]
    by_cases hexecutedCancel : calls.cancel.Executed
    · refine ⟨fun _ => ⟨hreply, fun h => absurd h hstarted, fun _ => hexecutedCancel⟩, fun _ => ?_⟩
      obtain ⟨registry', hafter, hnoReceive, hnoSend⟩ := hcancel hexecutedCancel
      subst hafter
      refine ⟨hroute, fun agent => ?_⟩
      by_cases hagent : agent = network.route request.receiverAgent
      · subst hagent
        have hregistry : (started.setRegistry request.receiverAgent registry').registries
            (network.route request.receiverAgent) = registry' := by
          rw [← hroute]
          exact started.registry_setRegistry _ _
        rw [hregistry]
        exact ⟨hnoReceive.trans hidle.1.symm,
          hnoSend.trans (hjobs.2.trans (hsend.trans hidle.2.symm))⟩
      · have hother : (started.setRegistry request.receiverAgent registry').registries agent =
            started.registries agent := by
          refine Function.update_of_ne ?_ _ _
          rw [hroute]
          exact hagent
        have hprepared : prepared.registries agent = network.registries agent :=
          Function.update_of_ne hagent _ _
        rw [hother, ← hprepared]
        exact hsame.2 agent
    · refine ⟨fun hall => ?_, fun h => absurd (h.2.2 hstarted) hexecutedCancel⟩
      rw [hlostCancel hexecutedCancel] at hall
      refine absurd hall (hholds started hroute ?_)
      rw [hjobs.1, hreceive]
      exact Option.some_ne_none _

/-- Two idle agents on one machine, told apart by their ports. -/
def loopbackNetwork : AgentNetwork where
  route address := address.port.toNat
  registries _ := {}

/-- A transfer between them. -/
def loopbackRequest : ManagedTransferRequest where
  senderAgent := .v4 0x7F000001 7341
  receiverAgent := .v4 0x7F000001 7342
  sourceRoot := "C:\\Source"
  destinationRoot := "D:\\Destination"
  updateExisting := true
  workerCount := 4
  calibrationMib := 8

/-- The receiver is prepared, and its reply is lost. -/
def lostPrepareReply : StartCalls where
  prepare := .replyLost (.other "connection reset")
  prepareOutcomes := ⟨.ok (), .ok 50000, .ok ()⟩
  start := .delivered
  startOutcomes := ⟨.ok (), .ok 0, .ok ()⟩
  cancel := .delivered
  stored := .ok none

/-- The receiver is left with a job that no manager knows. -/
theorem lost_prepare_reply_leaves_receiver :
    ¬ AllOrNothing loopbackRequest loopbackNetwork
      (startTransferWith loopbackNetwork loopbackRequest ⟨none, false⟩ lostPrepareReply) := by
  intro hall
  have hsame : loopbackNetwork.SameJobs
      (startTransferWith loopbackNetwork loopbackRequest ⟨none, false⟩ lostPrepareReply).2 := hall
  have hjobs := (hsame.2 7342).1
  have hsome : ((startTransferWith loopbackNetwork loopbackRequest ⟨none, false⟩
      lostPrepareReply).2.registries 7342).inner.activeReceive.isSome = true := by decide
  rw [hjobs] at hsome
  cases hsome

end NetworkCopy
