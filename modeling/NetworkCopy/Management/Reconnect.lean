import NetworkCopy.Management.SnapshotRoundTrip

/-!
# Reconnecting to a transfer

`reconstruct_active_transfer` puts the record of a transfer together from the snapshots of its
two agents.  The snapshot of the sender has the address of the receiver as text, which does not
show flow info, and the address that it is compared with has the flow info of the agent.
-/

namespace NetworkCopy

/-! ## The snapshot of a registry -/

/-- `ProgressSnapshot`, and the flag of `is_cancelled`. -/
structure ProgressSnapshot where
  label : String
  completed : UInt64
  total : UInt64
  cancelled : Bool

/-- `build_active_snapshot`. -/
def buildActiveSnapshot (role : ManagementJobRole) (jobId : Nat) (progress : ProgressSnapshot)
    (details : ManagementActiveJobDetails) : ManagementActiveJobSnapshot where
  role
  jobId := UInt64.ofNat jobId
  phase := progress.label
  completed := progress.completed
  total := progress.total
  cancelRequested := progress.cancelled
  details

instance (result : ManagementJobResult) : Decidable result.Fits :=
  decidable_of_iff (result.jobId < 2 ^ 64 ∧ result.files < 2 ^ 64 ∧
      result.logicalBytes < 2 ^ 64 ∧ result.wireBytes < 2 ^ 64 ∧ result.dataStreamCount < 2 ^ 32)
    ⟨fun h => ⟨h.1, h.2.1, h.2.2.1, h.2.2.2.1, h.2.2.2.2⟩,
      fun h => ⟨h.jobId, h.files, h.logicalBytes, h.wireBytes, h.dataStreamCount⟩⟩

/-- `latest_result` with its counters as values of their types, which they are. -/
def typedResult (latestResult : Option ManagementJobResult) :
    Option { result : ManagementJobResult // result.Fits } :=
  latestResult.bind fun result => if h : result.Fits then some ⟨result, h⟩ else none

/-- The active part of `snapshot`.  `progress` is what the counter of a job shows. -/
def activeSnapshot (inner : JobRegistryInner SocketAddr)
    (progress : ProgressCounter → ProgressSnapshot) : Option ManagementActiveJobSnapshot :=
  match inner.activeReceive with
  | some active =>
      some (buildActiveSnapshot .receiver active.job.jobId (progress active.progress)
        (.receiver (UInt16.ofNat active.job.transferPort) active.job.destinationRoot
          active.job.updateExisting))
  | none => inner.activeSend.map fun active =>
      buildActiveSnapshot .sender active.job.jobId (progress active.progress)
        (.sender active.job.receiverAddress active.job.sourceRoot
          (UInt64.ofNat active.job.workerCount) (UInt64.ofNat active.job.calibrationMib))

/-- `snapshot`. -/
def registrySnapshot (agentInstanceId : AgentInstanceId) (inner : JobRegistryInner SocketAddr)
    (progress : ProgressCounter → ProgressSnapshot) : ManagementAgentSnapshot where
  agentInstanceId
  active := activeSnapshot inner progress
  latestResult := typedResult inner.latestResult

/-! ## Reconstruction -/

/-- The parts of the details of a sender. -/
def ManagementActiveJobDetails.senderParts :
    ManagementActiveJobDetails → IoResult (SocketAddr × String × UInt64 × UInt64)
  | .sender receiverAddress sourceRoot workerCount calibrationMib =>
      .ok (receiverAddress, sourceRoot, workerCount, calibrationMib)
  | .receiver .. => .error (.invalidData "sender snapshot contained receiver details")

/-- The parts of the details of a receiver. -/
def ManagementActiveJobDetails.receiverParts :
    ManagementActiveJobDetails → IoResult (UInt16 × String × Bool)
  | .receiver transferPort destinationRoot updateExisting =>
      .ok (transferPort, destinationRoot, updateExisting)
  | .sender .. => .error (.invalidData "receiver snapshot contained sender details")

/-- `reconstruct_active_transfer`. -/
def reconstructActiveTransfer (texts : TextSupport SocketAddr)
    (senderAgent receiverAgent : SocketAddr)
    (senderSnapshot receiverSnapshot : ManagementAgentSnapshot) :
    IoResult (ManagedTransferRecord SocketAddr) := do
  ensure (senderAgent ≠ receiverAgent)
    (.invalidInput "active transfer reconnection requires two different agents")
  let sender ← okOrElse senderSnapshot.active
    ⟨.notFound, "selected sender agent has no active job", none⟩
  ensure (sender.role = .sender)
    (.invalidData "selected sender agent is not running a sender job")
  let (receiverAddress, sourceRoot, workerCount, calibrationMib) ← sender.details.senderParts
  let receiver ← okOrElse receiverSnapshot.active
    ⟨.notFound, "selected receiver agent has no active job", none⟩
  ensure (receiver.role = .receiver)
    (.invalidData "selected receiver agent is not running a receiver job")
  let (transferPort, destinationRoot, updateExisting) ← receiver.details.receiverParts
  let expectedReceiverAddress := payloadEndpoint receiverAgent transferPort
  let shown := texts.display receiverAddress
  let expected := texts.display expectedReceiverAddress
  ensure (receiverAddress = expectedReceiverAddress) (.invalidData
    s!"sender targets {shown}, but selected receiver advertises {expected}")
  return {
    senderAgent
    senderJobId := sender.jobId
    receiverAgent
    receiverJobId := receiver.jobId
    receiverPayload := receiverAddress
    sourceRoot
    destinationRoot
    updateExisting
    workerCount
    calibrationMib }

/-! ## What a start leaves -/

section

variable {network prepared started : AgentNetwork} {request : ManagedTransferRequest}
  {options : StartOptions} {calls : StartCalls}

theorem prepareReceive_ok {job : PreparedReceiveJob}
    (hrun : prepareReceive network request options calls = (.ok job, prepared)) :
    ∃ receiver, prepared = network.setRegistry request.receiverAgent receiver ∧
      receiver.inner.activeReceive = some ⟨job, ⟨job.jobId⟩⟩ ∧
      receiver.inner.activeSend = none := by
  by_cases hprepared : calls.prepare.Executed ∧ ReceiverAccepts network request calls
  case neg =>
    obtain ⟨error, after, hrefused, _⟩ : ∃ error after,
        prepareReceive network request options calls = (.error error, after) ∧
          network.SameJobs after := AgentNetwork.exchange_refused hprepared
    rw [hrefused] at hrun
    cases hrun
  obtain ⟨found, receiver, result, haccepted, hreceive, hsend, _, hdelivered, hlost⟩ :=
    prepareReceive_accepted options hprepared.1 hprepared.2
  rw [haccepted] at hrun
  by_cases hreply : calls.prepare = .delivered
  · rw [hdelivered hreply] at hrun
    cases hrun
    exact ⟨receiver, rfl, hreceive, hsend⟩
  · obtain ⟨error, hresult⟩ := hlost hreply
    rw [hresult] at hrun
    cases hrun

theorem startSend_ok {payload : SocketAddr} {job : StartedSendJob SocketAddr}
    (hrun : startSend network request options payload calls = (.ok job, started)) :
    (network.registry request.senderAgent).inner.active = none ∧
      ∃ sender, started = network.setRegistry request.senderAgent sender ∧
        sender.inner.activeReceive = none ∧
        sender.inner.activeSend = some ⟨job, ⟨job.jobId⟩⟩ ∧
        job.receiverAddress = payload.withoutFlowinfo := by
  by_cases hstarted : calls.start.Executed ∧ (network.registry request.senderAgent).Accepts
      checkSenderPort calls.startOutcomes
  case neg =>
    obtain ⟨error, after, hrefused, _⟩ : ∃ error after,
        startSend network request options payload calls = (.error error, after) ∧
          network.SameJobs after := AgentNetwork.exchange_refused hstarted
    rw [hrefused] at hrun
    cases hrun
  obtain ⟨found, sender, result, haccepted, hreceive, hsend, haddress, hdelivered, hlost⟩ :=
    startSend_accepted options payload hstarted.1 hstarted.2
  rw [haccepted] at hrun
  by_cases hreply : calls.start = .delivered
  · rw [hdelivered hreply] at hrun
    cases hrun
    exact ⟨hstarted.2.idle, sender, rfl, hreceive, hsend, haddress⟩
  · obtain ⟨error, hresult⟩ := hlost hreply
    rw [hresult] at hrun
    cases hrun

/-- After a start both agents run their jobs, and the record says what they do. -/
theorem startTransferWith_jobs {record : ManagedTransferRecord SocketAddr}
    (hrun : startTransferWith network request options calls = (.ok record, started)) :
    request.senderAgent ≠ request.receiverAgent ∧
      ∃ (receiverJob : PreparedReceiveJob) (senderJob : StartedSendJob SocketAddr),
        (started.registry request.receiverAgent).inner.activeReceive =
          some ⟨receiverJob, ⟨receiverJob.jobId⟩⟩ ∧
        (started.registry request.senderAgent).inner.activeReceive = none ∧
        (started.registry request.senderAgent).inner.activeSend =
          some ⟨senderJob, ⟨senderJob.jobId⟩⟩ ∧
        senderJob.receiverAddress = record.receiverPayload.withoutFlowinfo ∧
        record = {
          senderAgent := request.senderAgent
          senderJobId := UInt64.ofNat senderJob.jobId
          receiverAgent := request.receiverAgent
          receiverJobId := UInt64.ofNat receiverJob.jobId
          receiverPayload :=
            payloadEndpoint request.receiverAgent (UInt16.ofNat receiverJob.transferPort)
          sourceRoot := senderJob.sourceRoot
          destinationRoot := receiverJob.destinationRoot
          updateExisting := receiverJob.updateExisting
          workerCount := UInt64.ofNat senderJob.workerCount
          calibrationMib := UInt64.ofNat senderJob.calibrationMib } := by
  unfold startTransferWith at hrun
  by_cases hagents : request.senderAgent = request.receiverAgent
  · rw [if_pos hagents] at hrun
    cases hrun
  rw [if_neg hagents] at hrun
  rcases hprepare : prepareReceive network request options calls with ⟨result, prepared⟩
  rw [hprepare] at hrun
  cases result with
  | error error => cases hrun
  | ok receiverJob =>
    simp only at hrun
    obtain ⟨receiver, hprepared, hreceive, _⟩ := prepareReceive_ok hprepare
    rcases hstart : startSend prepared request options
      (payloadEndpoint request.receiverAgent (UInt16.ofNat receiverJob.transferPort)) calls
      with ⟨result, after⟩
    rw [hstart] at hrun
    cases result with
    | error error => cases hrun
    | ok senderJob =>
      cases hrun
      obtain ⟨hidle, sender, hafter, hsenderReceive, hsenderSend, haddress⟩ :=
        startSend_ok hstart
      have hreceiver : prepared.registry request.receiverAgent = receiver := by
        rw [hprepared]
        exact network.registry_setRegistry _ _
      -- The sender was idle, so it is not the agent of the receiver.
      have hroute : prepared.route request.receiverAgent ≠
          prepared.route request.senderAgent := by
        intro hsame
        have hregistry : prepared.registry request.senderAgent = receiver := by
          rw [← hreceiver]
          exact congrArg prepared.registries hsame.symm
        rw [hregistry] at hidle
        have hnone := (JobRegistryInner.active_eq_none.mp hidle).1
        rw [hreceive] at hnone
        cases hnone
      subst hafter
      refine ⟨hagents, receiverJob, senderJob, ?_, ?_, ?_, haddress, rfl⟩
      · rw [prepared.registry_setRegistry_of_ne hroute, hreceiver]
        exact hreceive
      · rw [prepared.registry_setRegistry]
        exact hsenderReceive
      · rw [prepared.registry_setRegistry]
        exact hsenderSend

end

/-! ## Reconnecting -/

variable (texts : TextSupport SocketAddr)
variable (flowinfo : UInt32)

/-- A snapshot as the manager receives it. -/
def throughWire (snapshot : ManagementAgentSnapshot) : IoResult ManagementAgentSnapshot := do
  let payload ← encodeSnapshot texts snapshot
  decodeSnapshot texts payload

/-- A snapshot whose address prints and parses back arrives as it is. -/
theorem throughWire_eq {snapshot received : ManagementAgentSnapshot}
    (hparses : snapshot.Parses texts (snapshot.endpoint texts))
    (hreceived : throughWire texts snapshot = .ok received) : received = snapshot := by
  obtain ⟨payload, hencode, hdecode⟩ := bind_eq_ok.mp hreceived
  obtain ⟨hfits, hlayout⟩ := (encodeSnapshot_eq_ok texts).mp hencode
  have hback : decodeSnapshot texts payload = .ok snapshot :=
    (decodeSnapshot_eq_ok texts).mpr ⟨_, hparses, hfits, hlayout⟩
  rw [hback] at hdecode
  cases hdecode
  rfl

/-- A payload address equals its text's address when the agent has no flow info. -/
theorem payloadEndpoint_withoutFlowinfo (agent : SocketAddr) (port : UInt16) :
    (payloadEndpoint agent port).withoutFlowinfo = payloadEndpoint agent port ↔
      agent.flowinfo = 0 := by
  cases agent with
  | v4 ip port => simp [payloadEndpoint, SocketAddr.withoutFlowinfo, SocketAddr.flowinfo]
  | v6 ip port flowinfo scopeId =>
    simp [payloadEndpoint, SocketAddr.withoutFlowinfo, SocketAddr.flowinfo, eq_comm]

/-- A snapshot that fits and whose address prints and parses back passes the wire. -/
theorem throughWire_of_fits {snapshot : ManagementAgentSnapshot}
    (hparses : snapshot.Parses texts (snapshot.endpoint texts))
    (hfits : snapshot.Fits (snapshot.endpoint texts)) :
    throughWire texts snapshot = .ok snapshot := by
  unfold throughWire
  rw [(encodeSnapshot_eq_ok texts).mpr ⟨hfits, rfl⟩]
  exact (decodeSnapshot_eq_ok texts).mpr ⟨_, hparses, hfits, rfl⟩

/-- `fe80::1` in the zone 42, at a port and with flow info. -/
def linkLocal (port : UInt16) (flowinfo : UInt32) : SocketAddr :=
  .v6 0xFE800000000000000000000000000001 port flowinfo 42

/-- The texts of the link-local receiver. -/
def linkLocalTexts : TextSupport SocketAddr where
  display _ := "[fe80::1%42]:50000"
  fromStr text :=
    if text = "[fe80::1%42]:50000" then .ok (linkLocal 50000 0)
    else .error "invalid socket address syntax"
  debug text := (String.ofList text).quote
  utf8Error _ := "invalid utf-8 sequence"

theorem linkLocalTexts_fromStr :
    linkLocalTexts.fromStr "[fe80::1%42]:50000" = .ok (linkLocal 50000 0) := by
  simp [linkLocalTexts]

/-- A transfer to a link-local receiver. -/
def linkLocalRequest (flowinfo : UInt32) : ManagedTransferRequest :=
  { loopbackRequest with receiverAgent := linkLocal 7342 flowinfo }

/-- The agents of the transfer: the sender has the IPv4 address. -/
def linkLocalNetwork : AgentNetwork where
  route
    | .v4 _ _ => 0
    | .v6 _ _ _ _ => 1
  registries _ := {}

/-- Nothing is lost. -/
def deliveredCalls : StartCalls :=
  { lostPrepareReply with prepare := .delivered }

/-- The record and the agents after the start. -/
def linkLocalStart (flowinfo : UInt32) :
    IoResult (ManagedTransferRecord SocketAddr) × AgentNetwork :=
  startTransferWith linkLocalNetwork (linkLocalRequest flowinfo) ⟨none, false⟩ deliveredCalls

/-- The record of the start. -/
def linkLocalRecord (flowinfo : UInt32) : ManagedTransferRecord SocketAddr where
  senderAgent := .v4 0x7F000001 7341
  senderJobId := 1
  receiverAgent := linkLocal 7342 flowinfo
  receiverJobId := 1
  receiverPayload := linkLocal 50000 flowinfo
  sourceRoot := "C:\\Source"
  destinationRoot := "D:\\Destination"
  updateExisting := true
  workerCount := 4
  calibrationMib := 8

theorem linkLocalStart_eq :
    linkLocalStart flowinfo = (.ok (linkLocalRecord flowinfo), (linkLocalStart flowinfo).2) := by
  refine Prod.ext ?_ rfl
  rfl

/-- The progress of a job that has just started. -/
def startedProgress (_ : ProgressCounter) : ProgressSnapshot := ⟨"Scanning", 0, 0, false⟩

/-- The ID of both agents. -/
def firstInstance : AgentInstanceId := ⟨1, by decide, by decide⟩

/-- The snapshot of an agent after the start. -/
def linkLocalSnapshot (flowinfo : UInt32) (address : SocketAddr) : ManagementAgentSnapshot :=
  registrySnapshot firstInstance ((linkLocalStart flowinfo).2.registry address).inner
    startedProgress

theorem linkLocalSnapshot_sender :
    linkLocalSnapshot flowinfo (.v4 0x7F000001 7341) =
      ⟨firstInstance, some ⟨.sender, 1, "Scanning", 0, 0, false,
        .sender (linkLocal 50000 0) "C:\\Source" 4 8⟩, none⟩ := rfl

theorem linkLocalSnapshot_receiver :
    linkLocalSnapshot flowinfo (linkLocal 7342 flowinfo) =
      ⟨firstInstance, some ⟨.receiver, 1, "Scanning", 0, 0, false,
        .receiver 50000 "D:\\Destination" true⟩, none⟩ := rfl

theorem linkLocalSnapshot_wire :
    throughWire linkLocalTexts (linkLocalSnapshot flowinfo (.v4 0x7F000001 7341)) =
      .ok (linkLocalSnapshot flowinfo (.v4 0x7F000001 7341)) ∧
    throughWire linkLocalTexts (linkLocalSnapshot flowinfo (linkLocal 7342 flowinfo)) =
      .ok (linkLocalSnapshot flowinfo (linkLocal 7342 flowinfo)) := by
  rw [linkLocalSnapshot_sender, linkLocalSnapshot_receiver]
  have hlabel : TextFits "Scanning" maxPhaseBytes false := ⟨.inr (by decide), by decide⟩
  have hsource : TextFits "C:\\Source" maxActivePathBytes false :=
    ⟨.inr (by decide), by simp only [maxActivePathBytes]; decide⟩
  have hdestination : TextFits "D:\\Destination" maxActivePathBytes false :=
    ⟨.inr (by decide), by simp only [maxActivePathBytes]; decide⟩
  have hendpoint : TextFits "[fe80::1%42]:50000" maxReceiverEndpointBytes false :=
    ⟨.inr (by decide), by decide⟩
  refine ⟨throughWire_of_fits _ ?_ ⟨?_, ?_⟩, throughWire_of_fits _ ?_ ⟨?_, ?_⟩⟩
  · intro active hactive
    cases hactive
    exact linkLocalTexts_fromStr
  · intro active hactive
    cases hactive
    exact ⟨by decide, hlabel, rfl, by decide, by decide, by decide, by decide, hsource, hendpoint⟩
  · intro result hresult
    cases hresult
  · intro active hactive
    cases hactive
    rfl
  · intro active hactive
    cases hactive
    exact ⟨by decide, hlabel, rfl, by decide, hdestination⟩
  · intro result hresult
    cases hresult

end NetworkCopy
