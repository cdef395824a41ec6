import NetworkCopy.DesktopLayout
import NetworkCopy.Management.PersistenceSize
import NetworkCopy.Management.Reconnect

/-!
# Which snapshots can be reported

The encoder of a snapshot has a limit for every text.  The requests of jobs are validated
against the same limits, and the labels of the progress are short.  The message of a terminal
result is the text of whatever error ended the transfer, and nothing bounds it.
-/

namespace NetworkCopy

open JobSystem

/-! ## Progress labels -/

/-- `encode_utf16().count()` of a character. -/
def utf16Units (c : Char) : Nat := if c.toNat < 0x10000 then 1 else 2

/-- The labels that the transfer code sets. -/
inductive ProgressLabel where
  | waitingForManagedSender
  | startingManagedSender
  | waitingForResumedTransfer
  | capturingDesktopLayout
  | scanningSource
  | scanningSequential
  | scanningResumed (dataStreamCount : UInt64)
  | connectingCalibration
  | calibrationSend (dataStreamCount : UInt64)
  | calibrationReceive (expectedStreamCount : UInt64)
  | waitingForCalibration
  | waitingForTransfer
  | receivingFolder (name : SourceDirectoryName)
  | transferSend
  | transferReceive
  | waitingForFinalization
  | finalizingDestination
  | verifyingSource
  | verifyingInterrupted
  | verifyingDestination
  | planningCdc
  | findingDuplicates
  | complete

/-- The text of a label. -/
def ProgressLabel.text : ProgressLabel → String
  | .waitingForManagedSender => "Waiting for managed sender"
  | .startingManagedSender => "Starting managed sender"
  | .waitingForResumedTransfer => "Waiting for resumed transfer"
  | .capturingDesktopLayout => "Capturing Desktop layout"
  | .scanningSource => "Scanning source"
  | .scanningSequential => "Scanning source - HDD sequential mode"
  | .scanningResumed dataStreamCount =>
      "Scanning source - resuming with " ++ toString dataStreamCount ++ " streams"
  | .connectingCalibration => "Connecting calibration"
  | .calibrationSend dataStreamCount =>
      "Calibration send - " ++ toString dataStreamCount ++ " streams"
  | .calibrationReceive expectedStreamCount =>
      "Calibration receive - " ++ toString expectedStreamCount ++ " streams"
  | .waitingForCalibration => "Waiting for calibration"
  | .waitingForTransfer => "Waiting for transfer"
  | .receivingFolder name => "Receiving source folder " ++ name.value
  | .transferSend => "Transfer send"
  | .transferReceive => "Transfer receive"
  | .waitingForFinalization => "Waiting for receiver finalization"
  | .finalizingDestination => "Finalizing destination"
  | .verifyingSource => "Verifying source files"
  | .verifyingInterrupted => "Verifying interrupted transfer"
  | .verifyingDestination => "Verifying destination files"
  | .planningCdc => "Planning large-file CDC"
  | .findingDuplicates => "Finding exact duplicates"
  | .complete => "Complete"

/-- A UTF-16 unit takes at most three bytes of UTF-8. -/
theorem utf8Size_le_units (c : Char) : c.utf8Size ≤ 3 * utf16Units c := by
  unfold utf16Units
  have hsize := c.utf8Size_le_four
  split
  case isTrue hsmall =>
    unfold Char.utf8Size
    have hval : c.val.toNat = c.toNat := rfl
    simp only [UInt32.le_iff_toNat_le, hval]
    split <;> try split <;> try split
    all_goals first | omega | skip
    rename_i hlarge
    change ¬ c.toNat ≤ 0xFFFF at hlarge
    omega
  case isFalse => omega

theorem utf8ByteSize_le_units (value : String) :
    value.utf8ByteSize ≤ 3 * (value.toList.map utf16Units).sum := by
  have hlist : ∀ text : List Char, byteCount text ≤ 3 * (text.map utf16Units).sum := by
    intro text
    induction text with
    | nil => exact Nat.le_refl _
    | cons c rest ih =>
      have hsize := utf8Size_le_units c
      rw [byteCount_cons, List.map_cons, List.sum_cons]
      omega
  have htext := hlist value.toList
  rw [byteCount, ← utf8ByteSize_ofList, String.ofList_toList] at htext
  exact htext

/-- The decimal digits of a `u64`. -/
theorem utf8ByteSize_uint64 (value : UInt64) : (toString value).utf8ByteSize ≤ 20 := by
  have hdigits : (Nat.toDigits 10 value.toNat).length ≤ 20 :=
    Nat.toDigits_length 10 value.toNat 20 (by omega) (by have := value.toNat_lt; omega)
  show (String.ofList (Nat.toDigits 10 value.toNat)).utf8ByteSize ≤ 20
  rw [utf8ByteSize_ofList]
  exact (byteCount_digits value.toNat).trans_le hdigits

/-- A label with a part in the middle of it. -/
theorem labelFits_around {before middle after : String} {room : Nat} (hbefore : before ≠ "")
    (hmiddle : middle.utf8ByteSize ≤ room)
    (hroom : before.utf8ByteSize + room + after.utf8ByteSize ≤ maxPhaseBytes) :
    TextFits (before ++ middle ++ after) maxPhaseBytes false := by
  refine ⟨.inr fun hempty => hbefore ?_, ?_⟩
  · have hlist := congrArg String.toList hempty
    simp only [String.toList_append, List.append_assoc] at hlist
    exact String.toList_eq_nil_iff.mp (List.append_eq_nil_iff.mp hlist).1
  · rw [String.utf8ByteSize_append, String.utf8ByteSize_append]
    omega

/-- A label fits the snapshot. -/
theorem ProgressLabel.fits (label : ProgressLabel) : TextFits label.text maxPhaseBytes false := by
  cases label with
  | scanningResumed dataStreamCount | calibrationSend dataStreamCount
  | calibrationReceive dataStreamCount =>
    exact labelFits_around (by decide) (utf8ByteSize_uint64 dataStreamCount) (by decide)
  | receivingFolder name =>
    have hname := utf8ByteSize_le_units name.value
    have hunits : (name.value.toList.map utf16Units).sum ≤ 255 := name.valid.units
    have hfits : TextFits ("Receiving source folder " ++ name.value ++ "") maxPhaseBytes false :=
      labelFits_around (by decide) (show name.value.utf8ByteSize ≤ 765 by omega) (by decide)
    rwa [String.append_empty] at hfits
  | _ => exact ⟨.inr (by decide), by decide⟩

/-! ## Jobs -/

section

variable (texts : TextSupport SocketAddr)

/-- An address that prints and parses back. -/
structure PrintsBack (address : SocketAddr) : Prop where
  fits : TextFits (texts.display address) maxReceiverEndpointBytes false
  parses : texts.fromStr (texts.display address) = .ok address

/-- What the validation of a request admits: `validate_destination_path`, or
`validate_send_parameters`. -/
def JobRequest.Admitted : JobRequest SocketAddr → Prop
  | .prepareReceive request => TextFits request.destinationRoot maxActivePathBytes false
  | .startSend request =>
      request.receiverAddress.port ≠ 0 ∧ PrintsBack texts request.receiverAddress ∧
        TextFits request.sourceRoot maxActivePathBytes false ∧
        (1 ≤ request.workerCount ∧ request.workerCount ≤ 64) ∧
        request.calibrationMib ≠ 0 ∧ request.calibrationMib < 2 ^ 64

/-- The IDs of jobs are positive and below the limit of their type. -/
def ValidJobId (jobId : Nat) : Prop := jobId ≠ 0 ∧ jobId < 2 ^ 64

/-- A job that the snapshot can show. -/
def ManagedJob.Showable : ManagedJob SocketAddr → Prop
  | .receive job =>
      ValidJobId job.jobId ∧ (job.transferPort ≠ 0 ∧ job.transferPort < 2 ^ 16) ∧
        TextFits job.destinationRoot maxActivePathBytes false
  | .send job =>
      ValidJobId job.jobId ∧ job.receiverAddress.port ≠ 0 ∧ PrintsBack texts job.receiverAddress ∧
        TextFits job.sourceRoot maxActivePathBytes false ∧
        (1 ≤ job.workerCount ∧ job.workerCount ≤ 64) ∧
        job.calibrationMib ≠ 0 ∧ job.calibrationMib < 2 ^ 64

theorem ManagedJob.Showable.validJobId {texts : TextSupport SocketAddr}
    {job : ManagedJob SocketAddr} (h : job.Showable texts) : ValidJobId job.jobId := by
  cases job with
  | receive job => exact h.1
  | send job => exact h.1

theorem JobRequest.Admitted.makeJob {texts : TextSupport SocketAddr}
    {request : JobRequest SocketAddr} (h : request.Admitted texts) {jobId port : Nat}
    (hjobId : ValidJobId jobId) (hport : port < 2 ^ 16)
    (hchecked : request.checkPort port = .ok ()) :
    (request.makeJob jobId port).Showable texts := by
  cases request with
  | prepareReceive request =>
    have hzero : port ≠ 0 := by simpa [JobRequest.checkPort] using hchecked
    exact ⟨hjobId, ⟨hzero, hport⟩, h⟩
  | startSend request =>
    obtain ⟨haddress, hprints, hsource, hworkers, hcalibration⟩ := h
    exact ⟨hjobId, haddress, hprints, hsource, hworkers, hcalibration⟩

/-- A result that the snapshot can show, but for its message. -/
structure ManagementJobResult.Counted (result : ManagementJobResult) : Prop where
  jobId : result.jobId ≠ 0
  fits : result.Fits

/-- The counters of a report are values of their types. -/
structure TransferReport.Fits (report : TransferReport) : Prop where
  files : report.files < 2 ^ 64
  bytes : report.bytes < 2 ^ 64
  wireBytes : report.wireBytes < 2 ^ 64

theorem streamCountU32_lt (streamCount : Nat) : streamCountU32 streamCount < 2 ^ 32 := by
  unfold streamCountU32
  split <;> omega

theorem resumeStreamCount_lt (stored : IoResult (Option Nat)) :
    resumeStreamCount stored < 2 ^ 32 := by
  unfold resumeStreamCount
  split
  · exact streamCountU32_lt _
  · decide

theorem buildErrorResult_counted {jobId : Nat} (hjobId : ValidJobId jobId)
    (role : ManagementJobRole) (error : IoError) : (buildErrorResult role jobId error).Counted :=
  ⟨hjobId.1, ⟨hjobId.2, Nat.two_pow_pos _, Nat.two_pow_pos _, Nat.two_pow_pos _,
    Nat.two_pow_pos _⟩⟩

/-- The result of a worker can be shown, but for its message. -/
theorem ManagedJob.terminalResult_counted {job : ManagedJob SocketAddr}
    (hjobId : ValidJobId job.jobId) (stored : IoResult (Option Nat))
    {outcome : IoResult TransferReport} (houtcome : ∀ report, outcome = .ok report → report.Fits) :
    (job.terminalResult stored outcome).Counted := by
  cases outcome with
  | ok report =>
    have hreport := houtcome report rfl
    cases job with
    | receive job =>
      exact ⟨hjobId.1, ⟨hjobId.2, hreport.files, hreport.bytes, Nat.two_pow_pos _,
        streamCountU32_lt _⟩⟩
    | send job =>
      exact ⟨hjobId.1, ⟨hjobId.2, hreport.files, hreport.bytes, hreport.wireBytes,
        streamCountU32_lt _⟩⟩
  | error error =>
    cases job with
    | receive job =>
      obtain ⟨hzero, hfits⟩ := buildErrorResult_counted hjobId .receiver error
      exact ⟨hzero, ⟨hfits.jobId, hfits.files, hfits.logicalBytes, hfits.wireBytes,
        resumeStreamCount_lt stored⟩⟩
    | send job => exact buildErrorResult_counted hjobId .sender error

/-- The message of the result of a worker is the text of its error. -/
theorem ManagedJob.terminalResult_message (job : ManagedJob SocketAddr)
    (stored : IoResult (Option Nat)) (outcome : IoResult TransferReport) :
    (job.terminalResult stored outcome).message =
      match outcome with
      | .ok _ => ""
      | .error error => error.message := by
  cases job <;> cases outcome <;> rfl

end

/-! ## Runs -/

namespace JobSystem

/-- What the code promises of a step: a request has passed its validation, ports and counters
are values of their types, and `Message` holds of the text of every error of a worker. -/
def Admitted (texts : TextSupport SocketAddr) (Message : String → Prop)
    (_ : JobSystem SocketAddr) : JobAction SocketAddr → Prop
  | .submit _ request => request.Admitted texts
  | .draw _ outcome => ∀ port, outcome = .ok port → port < 2 ^ 16
  | .finish _ _ outcome => (∀ report, outcome = .ok report → report.Fits) ∧
      ∀ error, outcome = .error error → Message error.message
  | _ => True

variable {texts : TextSupport SocketAddr} {Message : String → Prop}

/-- The registry holds what a snapshot can show, but for the message of the result. -/
structure InnerSound (texts : TextSupport SocketAddr) (Message : String → Prop)
    (inner : JobRegistryInner SocketAddr) : Prop where
  receive : ∀ active ∈ inner.activeReceive, (ManagedJob.receive active.job).Showable texts
  send : ∀ active ∈ inner.activeSend, (ManagedJob.send active.job).Showable texts
  latest : ∀ result ∈ inner.latestResult, result.Counted ∧ Message result.message

/-- The place of a connection holds what the registry may take. -/
def PlaceSound (texts : TextSupport SocketAddr) : Request SocketAddr → Prop
  | .checked request => request.Admitted texts
  | .drawn job _ | .spawning job _ => job.Showable texts
  | .cancelling jobId _ => ValidJobId jobId
  | .publishing jobId _ dataStreamCount => ValidJobId jobId ∧ dataStreamCount < 2 ^ 32
  | .idle | .clearing _ => True

/-- Everything that may come into the registry can be shown. -/
structure Sound (texts : TextSupport SocketAddr) (Message : String → Prop)
    (s : JobSystem SocketAddr) : Prop where
  limit : s.registry.nextJobId < u64Limit
  places : ∀ connection, PlaceSound texts (s.requests connection)
  inner : InnerSound texts Message s.inner
  workers : ∀ worker ∈ s.workers, worker.job.Showable texts

variable {inner : JobRegistryInner SocketAddr}
variable {worker : Worker SocketAddr}

theorem InnerSound.active (h : InnerSound texts Message inner)
    (hactive : inner.active = some worker) : worker.job.Showable texts := by
  unfold JobRegistryInner.active at hactive
  cases hreceive : inner.activeReceive with
  | some active =>
    rw [hreceive] at hactive
    cases hactive
    exact h.receive active hreceive
  | none =>
    rw [hreceive] at hactive
    obtain ⟨active, hsend, hworker⟩ := Option.map_eq_some_iff.mp hactive
    subst hworker
    exact h.send active hsend

theorem InnerSound.put (h : InnerSound texts Message inner) (hjob : worker.job.Showable texts) :
    InnerSound texts Message (inner.put worker) := by
  obtain ⟨job, progress⟩ := worker
  cases job with
  | receive job =>
    refine ⟨fun active hactive => ?_, h.send, h.latest⟩
    cases hactive
    exact hjob
  | send job =>
    refine ⟨h.receive, fun active hactive => ?_, h.latest⟩
    cases hactive
    exact hjob

theorem InnerSound.takeSlot (h : InnerSound texts Message inner) (job : ManagedJob SocketAddr) :
    InnerSound texts Message (inner.takeSlot job) := by
  cases job with
  | receive job => exact ⟨fun _ hnone => (by cases hnone), h.send, h.latest⟩
  | send job => exact ⟨h.receive, fun _ hnone => (by cases hnone), h.latest⟩

theorem InnerSound.result (h : InnerSound texts Message inner) {result : ManagementJobResult}
    (hcounted : result.Counted) (hmessage : Message result.message) :
    InnerSound texts Message { inner with latestResult := some result } := by
  refine ⟨h.receive, h.send, fun found hfound => ?_⟩
  cases hfound
  exact ⟨hcounted, hmessage⟩

theorem InnerSound.clear (h : InnerSound texts Message inner) (job : ManagedJob SocketAddr) :
    InnerSound texts Message (inner.clear job) := by
  unfold JobRegistryInner.clear
  split
  · exact h.takeSlot job
  · exact h

theorem InnerSound.finish (h : InnerSound texts Message inner) (job : ManagedJob SocketAddr)
    {result : ManagementJobResult} (hcounted : result.Counted)
    (hmessage : Message result.message) : InnerSound texts Message (inner.finish job result) := by
  unfold JobRegistryInner.finish
  split
  · exact (h.takeSlot job).result hcounted hmessage
  · exact h

variable {s next : JobSystem SocketAddr}

theorem Sound.init : Sound texts Message init :=
  ⟨by simp [JobSystem.init, u64Limit], fun _ => trivial, ⟨by simp [JobSystem.init, JobSystem.inner],
    by simp [JobSystem.init, JobSystem.inner], by simp [JobSystem.init, JobSystem.inner]⟩,
    by simp [JobSystem.init]⟩

theorem Sound.goto (h : Sound texts Message s) (connection : Nat) {place : Request SocketAddr}
    (hplace : PlaceSound texts place) : Sound texts Message (s.goto connection place) := by
  refine ⟨h.limit, fun other => ?_, h.inner, h.workers⟩
  rw [goto_requests]
  split
  · exact hplace
  · exact h.places other

theorem Sound.setInner (h : Sound texts Message s)
    (hinner : InnerSound texts Message inner) : Sound texts Message (s.setInner inner) :=
  ⟨h.limit, h.places, hinner, h.workers⟩

theorem Sound.place (h : Sound texts Message s) {connection : Nat} {place : Request SocketAddr}
    (hplace : s.requests connection = place) : PlaceSound texts place :=
  hplace ▸ h.places connection

theorem Sound.submit (h : Sound texts Message s) (connection : Nat)
    {request : JobRequest SocketAddr} (hrequest : request.Admitted texts) :
    Sound texts Message (s.submit connection request) := by
  unfold JobSystem.submit
  split
  · exact h
  · exact h.goto connection hrequest

/-- A job gets its ID from the counter, which stays below the limit. -/
theorem Sound.draw (h : Sound texts Message s) (connection : Nat)
    {request : JobRequest SocketAddr} (hrequest : request.Admitted texts)
    {outcome : IoResult Nat} (hports : ∀ port, outcome = .ok port → port < 2 ^ 16) :
    Sound texts Message (s.draw connection request outcome) := by
  unfold JobSystem.draw
  split
  case h_1 => exact h.goto connection trivial
  case h_2 port hport =>
    obtain ⟨found, hfound, hrest⟩ := bind_eq_ok.mp hport
    obtain ⟨_, hchecked, hsame⟩ := bind_eq_ok.mp hrest
    cases hsame
    have hlimit : (s.registry.nextJobId + 1) % u64Limit < u64Limit :=
      Nat.mod_lt _ (by simp [u64Limit])
    have hregistry : Sound texts Message { s with registry := s.registry.fetchAdd.2 } :=
      ⟨hlimit, h.places, h.inner, h.workers⟩
    by_cases hzero : s.registry.nextJobId = 0
    · show Sound texts Message (if s.registry.nextJobId = 0 then _ else _)
      rw [if_pos hzero]
      exact hregistry.goto connection trivial
    · show Sound texts Message (if s.registry.nextJobId = 0 then _ else _)
      rw [if_neg hzero]
      have hbelow : s.registry.nextJobId < 2 ^ 64 := by simpa [u64Limit] using h.limit
      have hjob := hrequest.makeJob ⟨hzero, hbelow⟩ (hports port hfound) hchecked
      have hdrawn := hregistry.goto connection
        (show PlaceSound texts (.drawn _ ⟨s.counters + 1⟩) from hjob)
      exact ⟨hdrawn.limit, hdrawn.places, hdrawn.inner, hdrawn.workers⟩

theorem Sound.fill (h : Sound texts Message s) (connection : Nat) {job : ManagedJob SocketAddr}
    {progress : ProgressCounter} (hjob : job.Showable texts) :
    Sound texts Message (s.fill connection job progress) := by
  unfold JobSystem.fill
  split
  case h_1 => exact h.goto connection trivial
  case h_2 filled hfilled =>
    obtain ⟨_, hput⟩ := JobRegistryInner.fill_eq_ok.mp hfilled
    subst hput
    have hput : InnerSound texts Message (s.inner.put ⟨job, progress⟩) := h.inner.put hjob
    have hspawning := (h.setInner hput).goto connection
      (show PlaceSound texts (.spawning job progress) from hjob)
    exact ⟨hspawning.limit, hspawning.places, hspawning.inner, hspawning.workers⟩

theorem Sound.spawn (h : Sound texts Message s) (connection : Nat) {job : ManagedJob SocketAddr}
    {progress : ProgressCounter} (hjob : job.Showable texts) (outcome : IoResult Unit) :
    Sound texts Message (s.spawn connection job progress outcome) := by
  unfold JobSystem.spawn
  split
  · exact h.goto connection trivial
  · have hidle := h.goto connection (show PlaceSound texts .idle from trivial)
    refine ⟨hidle.limit, hidle.places, hidle.inner, fun worker hworker => ?_⟩
    rcases List.mem_append.mp hworker with hold | hnew
    · exact h.workers worker hold
    · rw [List.mem_singleton.mp hnew]
      exact hjob

theorem Sound.cancel (h : Sound texts Message s) (connection jobId : Nat) :
    Sound texts Message (s.cancel connection jobId) := by
  unfold JobSystem.cancel
  split
  case isTrue => exact h
  split
  case h_1 => exact h
  case h_2 cancelled after htaken =>
    obtain ⟨worker, hactive, hid, -, hafter⟩ := JobRegistryInner.takeCancelled_eq_ok htaken
    subst hid hafter
    exact (h.setInner (h.inner.takeSlot worker.job)).goto connection
      (h.inner.active hactive).validJobId

theorem Sound.interrupt (h : Sound texts Message s) (connection : Nat) {jobId : Nat}
    (hjobId : ValidJobId jobId) (cancelled : JobRegistryInner.CancelledJob)
    (stored : IoResult (Option Nat)) :
    Sound texts Message (s.interrupt connection jobId cancelled stored) := by
  have hcount : (cancelled.resumeDestination.elim 0 fun _ => resumeStreamCount stored) < 2 ^ 32 := by
    cases cancelled.resumeDestination with
    | none => exact Nat.two_pow_pos _
    | some destination => exact resumeStreamCount_lt stored
  have hpublishing := h.goto connection
    (show PlaceSound texts (.publishing jobId cancelled.role _) from ⟨hjobId, hcount⟩)
  exact ⟨hpublishing.limit, hpublishing.places, hpublishing.inner, hpublishing.workers⟩

theorem Sound.publish (h : Sound texts Message s) (connection : Nat) {jobId : Nat}
    (hjobId : ValidJobId jobId) (role : ManagementJobRole) {dataStreamCount : Nat}
    (hcount : dataStreamCount < 2 ^ 32) (hmessage : Message "cancelled by management request") :
    Sound texts Message (s.publish connection jobId role dataStreamCount) := by
  have hcounted : (JobRegistryInner.cancelledResult jobId role dataStreamCount).Counted :=
    ⟨hjobId.1, ⟨hjobId.2, Nat.two_pow_pos _, Nat.two_pow_pos _, Nat.two_pow_pos _, hcount⟩⟩
  have hidle := (h.setInner (h.inner.result hcounted hmessage)).goto connection
    (show PlaceSound texts .idle from trivial)
  exact ⟨hidle.limit, hidle.places, hidle.inner, hidle.workers⟩

theorem Sound.finish (h : Sound texts Message s) {index : Nat}
    (hworker : s.workers[index]? = some worker) (stored : IoResult (Option Nat))
    {outcome : IoResult TransferReport}
    (houtcome : ∀ report, outcome = .ok report → report.Fits) (hempty : Message "")
    (herror : ∀ error, outcome = .error error → Message error.message) :
    Sound texts Message (s.finish index worker stored outcome) := by
  have hjob := h.workers worker (List.mem_of_getElem? hworker)
  have hcounted := ManagedJob.terminalResult_counted hjob.validJobId stored houtcome
  have hmessage : Message (worker.job.terminalResult stored outcome).message := by
    rw [ManagedJob.terminalResult_message]
    cases outcome with
    | ok report => exact hempty
    | error error => exact herror error rfl
  have hended : Sound texts Message
      { s.setInner (s.inner.finish worker.job (worker.job.terminalResult stored outcome)) with
        workers := s.workers.eraseIdx index } :=
    ⟨h.limit, h.places, h.inner.finish worker.job hcounted hmessage,
      fun other hother => h.workers other (List.mem_of_mem_eraseIdx hother)⟩
  unfold JobSystem.finish
  dsimp only
  split
  · exact ⟨hended.limit, hended.places, hended.inner, hended.workers⟩
  · exact hended

/-- Every step keeps what the registry holds within the limits. -/
theorem Sound.step {action : JobAction SocketAddr} (h : Sound texts Message s)
    (hempty : Message "") (hcancelled : Message "cancelled by management request")
    (hadmitted : s.Admitted texts Message action) (hstep : s.step action = some next) :
    Sound texts Message next := by
  cases action with
  | submit connection request =>
    cases hplace : s.requests connection <;>
      simp only [JobSystem.step, hplace, reduceCtorEq, Option.some.injEq] at hstep
    subst hstep
    exact h.submit connection hadmitted
  | draw connection outcome =>
    cases hplace : s.requests connection <;>
      simp only [JobSystem.step, hplace, reduceCtorEq, Option.some.injEq] at hstep
    subst hstep
    exact h.draw connection (h.place hplace) hadmitted
  | fill connection =>
    cases hplace : s.requests connection <;>
      simp only [JobSystem.step, hplace, reduceCtorEq, Option.some.injEq] at hstep
    subst hstep
    exact h.fill connection (h.place hplace)
  | spawn connection outcome =>
    cases hplace : s.requests connection <;>
      simp only [JobSystem.step, hplace, reduceCtorEq, Option.some.injEq] at hstep
    subst hstep
    exact h.spawn connection (h.place hplace) outcome
  | clear connection =>
    cases hplace : s.requests connection <;>
      simp only [JobSystem.step, hplace, reduceCtorEq, Option.some.injEq] at hstep
    subst hstep
    exact (h.setInner (h.inner.clear _)).goto connection trivial
  | cancel connection jobId =>
    cases hplace : s.requests connection <;>
      simp only [JobSystem.step, hplace, reduceCtorEq, Option.some.injEq] at hstep
    subst hstep
    exact h.cancel connection jobId
  | interrupt connection stored =>
    cases hplace : s.requests connection <;>
      simp only [JobSystem.step, hplace, reduceCtorEq, Option.some.injEq] at hstep
    subst hstep
    exact h.interrupt connection (h.place hplace) _ stored
  | publish connection =>
    cases hplace : s.requests connection <;>
      simp only [JobSystem.step, hplace, reduceCtorEq, Option.some.injEq] at hstep
    subst hstep
    obtain ⟨hjobId, hcount⟩ := h.place hplace
    exact h.publish connection hjobId _ hcount hcancelled
  | query connection =>
    cases hplace : s.requests connection <;>
      simp only [JobSystem.step, hplace, reduceCtorEq, Option.some.injEq] at hstep
    exact hstep ▸ h
  | finish index stored outcome =>
    cases hworker : s.workers[index]? <;>
      simp only [JobSystem.step, hworker, reduceCtorEq, Option.some.injEq] at hstep
    subst hstep
    exact h.finish hworker stored hadmitted.1 hempty hadmitted.2

theorem reaches_sound (hempty : Message "") (hcancelled : Message "cancelled by management request")
    (h : Reaches (Admitted texts Message) s) : Sound texts Message s := by
  induction h with
  | init => exact .init
  | step action _ hadmitted hstep ih => exact ih.step hempty hcancelled hadmitted hstep

end JobSystem

/-! ## Reports -/

/-- The registry can be reported: for every ID of the agent and every progress that the transfer
code sets, the snapshot is encoded and decoded back. -/
def Reportable (texts : TextSupport SocketAddr) (inner : JobRegistryInner SocketAddr) : Prop :=
  ∀ (agentInstanceId : AgentInstanceId) (progress : ProgressCounter → ProgressSnapshot),
    (∀ counter, ∃ label : ProgressLabel, (progress counter).label = label.text) →
    ∃ payload, encodeSnapshot texts (registrySnapshot agentInstanceId inner progress) =
        .ok payload ∧
      decodeSnapshot texts payload = .ok (registrySnapshot agentInstanceId inner progress)

/-- A message within `MAX_MESSAGE_BYTES`. -/
def ShortMessage (message : String) : Prop := message.utf8ByteSize ≤ maxMessageBytes

/-- Any message. -/
def AnyMessage (_ : String) : Prop := True

section

variable {texts : TextSupport SocketAddr} {Message : String → Prop}
  {inner : JobRegistryInner SocketAddr} {agentInstanceId : AgentInstanceId}
  {progress : ProgressCounter → ProgressSnapshot}

theorem typedResult_eq_some {result : ManagementJobResult} (hfits : result.Fits) :
    typedResult (some result) = some ⟨result, hfits⟩ := by
  unfold typedResult
  rw [Option.bind_some, dif_pos hfits]

/-- The active part of a snapshot fits the format, and its address is read back. -/
theorem activeSnapshot_fits (h : InnerSound texts Message inner)
    (hlabels : ∀ counter, ∃ label : ProgressLabel, (progress counter).label = label.text)
    {active : ManagementActiveJobSnapshot} (hactive : activeSnapshot inner progress = some active) :
    active.Fits (active.details.endpoint texts) ∧
      active.details.Parses texts (active.details.endpoint texts) := by
  have hlabel : ∀ counter, TextFits (progress counter).label maxPhaseBytes false := by
    intro counter
    obtain ⟨label, hlabel⟩ := hlabels counter
    exact hlabel ▸ label.fits
  have hjobId : ∀ jobId, ValidJobId jobId → UInt64.ofNat jobId ≠ 0 := by
    intro jobId ⟨hzero, hlimit⟩ heq
    have hvalue : (UInt64.ofNat jobId).toNat = jobId :=
      UInt64.toNat_ofNat_of_lt (by simp only [UInt64.size]; omega)
    rw [heq] at hvalue
    exact hzero hvalue.symm
  unfold activeSnapshot at hactive
  cases hreceive : inner.activeReceive with
  | some found =>
    rw [hreceive] at hactive
    cases hactive
    obtain ⟨hid, ⟨hport, hportLt⟩, hdestination⟩ := h.receive found hreceive
    have hportNe : UInt16.ofNat found.job.transferPort ≠ 0 := by
      intro heq
      have hvalue : (UInt16.ofNat found.job.transferPort).toNat = found.job.transferPort :=
        UInt16.toNat_ofNat_of_lt (by simp only [UInt16.size]; omega)
      rw [heq] at hvalue
      exact hport hvalue.symm
    exact ⟨⟨hjobId _ hid, hlabel _, rfl, hportNe, hdestination⟩, rfl⟩
  | none =>
    rw [hreceive] at hactive
    obtain ⟨found, hsend, hfound⟩ := Option.map_eq_some_iff.mp hactive
    subst hfound
    obtain ⟨hid, hport, hprints, hsource, ⟨hpositive, hworkers⟩, hcalibration, hcalibrationLt⟩ :=
      h.send found hsend
    have hworkersNat : (UInt64.ofNat found.job.workerCount).toNat = found.job.workerCount :=
      UInt64.toNat_ofNat_of_lt (by simp only [UInt64.size]; omega)
    refine ⟨⟨hjobId _ hid, hlabel _, rfl, hport, ?_, ?_, hjobId _ ⟨hcalibration, hcalibrationLt⟩,
      hsource, hprints.fits⟩, hprints.parses⟩
    · exact hjobId _ ⟨by omega, by omega⟩
    · rw [hworkersNat]
      omega

/-- A registry whose result has a short message can be reported. -/
theorem reportable_of_short (h : InnerSound texts Message inner)
    (hshort : ∀ result ∈ inner.latestResult, ShortMessage result.message) :
    Reportable texts inner := by
  intro agentInstanceId progress hlabels
  let snapshot := registrySnapshot agentInstanceId inner progress
  have hactive : ∀ active ∈ snapshot.active, active.Fits (snapshot.endpoint texts) ∧
      active.details.Parses texts (snapshot.endpoint texts) := by
    intro active hmem
    have hendpoint : snapshot.endpoint texts = active.details.endpoint texts := by
      unfold ManagementAgentSnapshot.endpoint
      rw [Option.mem_def.mp hmem]
      rfl
    rw [hendpoint]
    exact activeSnapshot_fits h hlabels hmem
  have hresult : ∀ result ∈ snapshot.latestResult, WireResultFits result.val := by
    intro result hmem
    cases hlatest : inner.latestResult with
    | none =>
      rw [show snapshot.latestResult = typedResult inner.latestResult from rfl, hlatest] at hmem
      cases hmem
    | some found =>
      obtain ⟨hcounted, _⟩ := h.latest found hlatest
      rw [show snapshot.latestResult = typedResult inner.latestResult from rfl, hlatest,
        typedResult_eq_some hcounted.fits] at hmem
      cases hmem
      exact ⟨hcounted.jobId, .inl rfl, hshort found hlatest⟩
  have hfits : snapshot.Fits (snapshot.endpoint texts) :=
    ⟨fun active hmem => (hactive active hmem).1, hresult⟩
  have hparses : snapshot.Parses texts (snapshot.endpoint texts) :=
    fun active hmem => (hactive active hmem).2
  exact ⟨_, (encodeSnapshot_eq_ok texts).mpr ⟨hfits, rfl⟩,
    (decodeSnapshot_eq_ok texts).mpr ⟨_, hparses, hfits, rfl⟩⟩

/-- A snapshot with a long message is refused. -/
theorem short_of_reportable (h : InnerSound texts Message inner)
    (hreportable : Reportable texts inner) :
    ∀ result ∈ inner.latestResult, ShortMessage result.message := by
  intro result hresult
  obtain ⟨payload, hencode, -⟩ := hreportable firstInstance
    (fun _ => ⟨ProgressLabel.complete.text, 0, 0, false⟩) (fun _ => ⟨.complete, rfl⟩)
  obtain ⟨hcounted, _⟩ := h.latest result hresult
  have hlatest : (registrySnapshot firstInstance inner
      fun _ => ⟨ProgressLabel.complete.text, 0, 0, false⟩).latestResult =
        some ⟨result, hcounted.fits⟩ := by
    show typedResult inner.latestResult = _
    rw [Option.mem_def.mp hresult, typedResult_eq_some hcounted.fits]
  exact (((encodeSnapshot_eq_ok texts).mp hencode).1.latestResult _ hlatest).2.2

end

/-- A reachable registry can be reported exactly when its result has a short message; so it
always can in a run in which no worker fails with a longer text. -/
theorem registry_reportable_iff (texts : TextSupport SocketAddr) (s : JobSystem SocketAddr)
    (h : JobSystem.Reaches (JobSystem.Admitted texts AnyMessage) s) :
    (Reportable texts s.inner ↔
      ∀ result ∈ s.inner.latestResult, ShortMessage result.message) ∧
    (JobSystem.Reaches (JobSystem.Admitted texts ShortMessage) s → Reportable texts s.inner) := by
  have hsound : JobSystem.Sound texts AnyMessage s := JobSystem.reaches_sound trivial trivial h
  refine ⟨⟨short_of_reportable hsound.inner, reportable_of_short hsound.inner⟩, fun hshort => ?_⟩
  have hempty : ShortMessage "" := by
    show "".utf8ByteSize ≤ maxMessageBytes
    decide
  have hcancelled : ShortMessage "cancelled by management request" := by
    show "cancelled by management request".utf8ByteSize ≤ maxMessageBytes
    decide
  have hinner := (JobSystem.reaches_sound hempty hcancelled hshort).inner
  exact reportable_of_short hinner fun result hresult => (hinner.latest result hresult).2

/-- A request to send to the link-local receiver. -/
def linkLocalSend : JobRequest SocketAddr :=
  .startSend ⟨linkLocal 50000 0, "C:\\Source", 4, 8, none, false⟩

/-- The sender, as far as the slot. -/
def linkLocalSender : List (JobAction SocketAddr) :=
  [.submit 0 linkLocalSend, .draw 0 (.ok 0), .fill 0]

theorem along_linkLocalSender (Message : String → Prop) :
    init.Along (Admitted linkLocalTexts Message) linkLocalSender := by
  have hsource : TextFits "C:\\Source" maxActivePathBytes false :=
    ⟨.inr (by decide), by simp only [maxActivePathBytes]; decide⟩
  have hprints : PrintsBack linkLocalTexts (linkLocal 50000 0) :=
    ⟨⟨.inr (by decide), by decide⟩, linkLocalTexts_fromStr⟩
  have hrequest : linkLocalSend.Admitted linkLocalTexts :=
    ⟨by decide, hprints, hsource, by decide, by decide, by decide⟩
  have hport : ∀ port, (Except.ok 0 : IoResult Nat) = .ok port → port < 2 ^ 16 := by
    intro port hport
    cases hport
    decide
  exact ⟨hrequest, hport, trivial, trivial⟩

theorem registry_reportable_iff_link_local :
    ∃ s, JobSystem.init.run linkLocalSender = some s ∧ s.inner.activeSend.isSome ∧
      Reportable linkLocalTexts s.inner := by
  have hrun : JobSystem.init.run linkLocalSender = some _ := rfl
  have hreaches := fun Message =>
    JobSystem.Reaches.init.run hrun (along_linkLocalSender Message)
  exact ⟨_, rfl, rfl, (registry_reportable_iff linkLocalTexts _ (hreaches AnyMessage)).2
    (hreaches ShortMessage)⟩

/-- The error of a restart in which the files with these IDs fail their verification. -/
def restartVerificationFailed (failedFileIds : List Nat) : IoError :=
  .invalidData ("BLAKE3 restart verification failed for journaled committed file IDs [" ++
    (", ".intercalate (failedFileIds.map toString) ++ "]"))

/-- Every ID but the first has a comma and a blank before it. -/
theorem intercalate_size (first : String) (rest : List String) :
    2 * rest.length ≤ (", ".intercalate (first :: rest)).utf8ByteSize := by
  induction rest generalizing first with
  | nil => exact Nat.zero_le _
  | cons next rest ih =>
    have hrest := ih next
    have hcomma : (", " : String).utf8ByteSize = 2 := by decide
    rw [String.intercalate_cons_cons, String.utf8ByteSize_append, String.utf8ByteSize_append,
      hcomma, List.length_cons]
    omega

theorem restartVerificationFailed_long {failedFileIds : List Nat}
    (hmany : maxMessageBytes < 2 * (failedFileIds.length - 1)) :
    ¬ ShortMessage (restartVerificationFailed failedFileIds).message := by
  cases failedFileIds with
  | nil => simp at hmany
  | cons first rest =>
    have hsize := intercalate_size (toString first) (rest.map toString)
    rw [List.length_map] at hsize
    rw [List.length_cons, Nat.add_sub_cancel] at hmany
    show ¬ (_ ++ (_ ++ _) : String).utf8ByteSize ≤ maxMessageBytes
    rw [String.utf8ByteSize_append, String.utf8ByteSize_append, List.map_cons]
    omega

/-- A receiver whose worker fails with a list of 2050 file IDs. -/
def longErrorRun : List (JobAction SocketAddr) :=
  [.submit 0 (.prepareReceive ⟨"D:\\Destination", false, true⟩), .draw 0 (.ok 50000), .fill 0,
    .spawn 0 (.ok ()),
    .finish 0 (.ok none) (.error (restartVerificationFailed (List.range 2050)))]

theorem along_longErrorRun :
    init.Along (Admitted linkLocalTexts AnyMessage) longErrorRun := by
  have hdestination : TextFits "D:\\Destination" maxActivePathBytes false :=
    ⟨.inr (by decide), by simp only [maxActivePathBytes]; decide⟩
  have hport : ∀ port, (Except.ok 50000 : IoResult Nat) = .ok port → port < 2 ^ 16 := by
    intro port hport
    cases hport
    decide
  exact ⟨hdestination, hport, trivial, trivial,
    ⟨fun report hreport => (by cases hreport), fun _ _ => trivial⟩, trivial⟩

/-- The list of the file IDs does not fit the message, and the agent cannot be read. -/
theorem long_error_unreportable :
    ∃ s, JobSystem.init.run longErrorRun = some s ∧
      JobSystem.Reaches (JobSystem.Admitted linkLocalTexts AnyMessage) s ∧
      ¬ Reportable linkLocalTexts s.inner := by
  have hrun : JobSystem.init.run longErrorRun = some _ := rfl
  have hreaches := JobSystem.Reaches.init.run hrun along_longErrorRun
  refine ⟨_, rfl, hreaches, fun hreportable => ?_⟩
  have hinner := (JobSystem.reaches_sound trivial trivial hreaches).inner
  refine restartVerificationFailed_long ?_ (short_of_reportable hinner hreportable _ rfl)
  rw [List.length_range]
  decide

end NetworkCopy
