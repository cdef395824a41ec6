import NetworkCopy.Management.ControlCodecsRoundTrip
import NetworkCopy.Management.JobCodecsRoundTrip

/-!
# The wire codecs of the management protocol

Encoder and decoder of every payload agree, with two exceptions that lie in what a payload says.
A hello payload carries the application version of the agent that encodes it, so the hello of an
agent of another version does not come back.  The decoder of a directory has no limit of its own
for the whole payload; a frame has.
-/

namespace NetworkCopy

open ByteReader

section

variable {texts : TextSupport SocketAddr} {isAbsolute : String → Bool}

/-- The address of a sender in a snapshot prints and parses back. -/
def SnapshotPrintsBack (texts : TextSupport SocketAddr) (snapshot : ManagementAgentSnapshot) :
    Prop :=
  snapshot.Parses texts (snapshot.endpoint texts)

/-- A snapshot that was read fits with the text that its address prints as. -/
theorem snapshot_own_text
    (hparsed : ∀ text address, texts.fromStr text = .ok address → PrintsBack texts address)
    {snapshot : ManagementAgentSnapshot} {text : String} (hparses : snapshot.Parses texts text)
    (hfits : snapshot.Fits text) :
    SnapshotPrintsBack texts snapshot ∧ snapshot.Fits (snapshot.endpoint texts) := by
  obtain ⟨id, active, latestResult⟩ := snapshot
  cases active with
  | none =>
    exact ⟨fun _ hnone => (by cases hnone), fun _ hnone => (by cases hnone),
      hfits.latestResult⟩
  | some active =>
    have hactive := hfits.active active rfl
    have hparsesActive := hparses active rfl
    obtain ⟨role, jobId, phase, completed, total, cancelRequested, details⟩ := active
    cases details with
    | sender receiverAddress sourceRoot workerCount calibrationMib =>
      have hprints := hparsed text receiverAddress hparsesActive
      obtain ⟨hjobId, hphase, hrole, hport, hworkers, hworkersLt, hcalibration, hsource, _⟩ :=
        hactive
      refine ⟨fun _ hsome => ?_, fun _ hsome => ?_, hfits.latestResult⟩
      · cases hsome
        exact hprints.parses
      · cases hsome
        exact ⟨hjobId, hphase, hrole, hport, hworkers, hworkersLt, hcalibration, hsource,
          hprints.fits⟩
    | receiver transferPort destinationRoot updateExisting =>
      refine ⟨fun _ hsome => ?_, fun _ hsome => ?_, hfits.latestResult⟩
      · cases hsome
        rfl
      · cases hsome
        exact ⟨hactive.jobId, hactive.phase, hactive.details⟩

/-- The snapshot of an agent. -/
theorem snapshot_agree
    (hparsed : ∀ text address, texts.fromStr text = .ok address → PrintsBack texts address) :
    Agree (SnapshotPrintsBack texts) (fun snapshot => snapshot.Fits (snapshot.endpoint texts))
      (encodeSnapshot texts) (readSnapshot texts) := by
  have hread : ∀ payload snapshot rest, (readSnapshot texts).run payload = .ok (snapshot, rest) ↔
      rest = [] ∧ snapshot.Fits (snapshot.endpoint texts) ∧ ∃ text,
        snapshot.Parses texts text ∧ snapshot.Fits text ∧ payload = snapshot.layout text := by
    intro payload snapshot rest
    rw [readSnapshot_eq_ok]
    constructor
    · intro ⟨hrest, text, hparses, hfits, hpayload⟩
      exact ⟨hrest, (snapshot_own_text hparsed hparses hfits).2, text, hparses, hfits, hpayload⟩
    · intro ⟨hrest, _, haccepted⟩
      exact ⟨hrest, haccepted⟩
  exact Agree.of_layout (fun _ _ _ => encodeSnapshot_eq_ok texts) hread
    (fun _ hparses hfits => ⟨_, hparses, hfits, rfl⟩)
    (fun _ _ _ ⟨_, hparses, hfits, _⟩ => (snapshot_own_text hparsed hparses hfits).1)

end

/-- What holds of the codecs together. -/
structure WireCodecs (texts : TextSupport SocketAddr) (isAbsolute : String → Bool) : Prop where
  /-- A frame is read back, and the bytes behind it stay. -/
  frame : ∀ frame bytes following, writeFrame frame = .ok bytes →
    readFrame.run (bytes ++ following) = .ok (frame, following)
  /-- A frame that is read is within the limit, and is written again. -/
  readFrame : ∀ frame bytes following, readFrame.run bytes = .ok (frame, following) →
    frame.payload.length ≤ maxManagementPayloadBytes ∧
      ∃ again, writeFrame frame = .ok again ∧ bytes = again ++ following
  snapshot : Agree (SnapshotPrintsBack texts)
    (fun snapshot => snapshot.Fits (snapshot.endpoint texts)) (encodeSnapshot texts)
    (readSnapshot texts)
  prepareRequest : Agree (fun _ => True) (PrepareFits isAbsolute)
    (encodePrepareRequest isAbsolute) (readPrepareRequest texts isAbsolute)
  preparedResponse : Agree (fun job => StatusTyped job.status)
    (fun job => StatusFits isAbsolute job.status) (encodePreparedResponse isAbsolute)
    (readPreparedResponse texts isAbsolute)
  startSendRequest : Agree (fun request => PrintsBack texts request.receiverAddress)
    (StartSendFits texts isAbsolute) (encodeStartSendRequest texts isAbsolute)
    (readStartSendRequest texts isAbsolute)
  startedSendResponse : Agree
    (fun job => job.jobId < 2 ^ 64 ∧ PrintsBack texts job.receiverAddress)
    (StartedFits texts isAbsolute) (encodeStartedSendResponse texts isAbsolute)
    (readStartedSendResponse texts isAbsolute)
  status : Agree StatusTyped (StatusFits isAbsolute) (encodeStatus isAbsolute)
    (readStatus texts isAbsolute)
  cancelRequest : Agree (fun _ => True) (· ≠ 0) encodeCancelRequest readCancelRequest
  directoryRequest : Agree (fun _ => True) (fun path => TextFits path maxRemotePathBytes false)
    encodeDirectoryRequest (readDirectoryRequest texts)
  directory : ∀ entries payload, (∀ entry ∈ entries, KnownTime entry) →
    encodeDirectoryResponse entries = .ok payload →
    (readDirectoryResponse texts).run payload = .ok (entries, [])
  /-- A directory that is read from the payload of a frame is encoded again. -/
  readDirectory : ∀ payload entries rest,
    (readDirectoryResponse texts).run payload = .ok (entries, rest) →
    rest = [] ∧ DirectoryFits entries ∧ (∀ entry ∈ entries, KnownTime entry) ∧
      (payload.length ≤ maxManagementPayloadBytes →
        ∃ again, encodeDirectoryResponse entries = .ok again ∧
          (readDirectoryResponse texts).run again = .ok (entries, []))
  desktopPath : Agree (fun _ => True) (fun _ => True)
    (fun isDesktop => (.ok (encodeDesktopPathResponse isDesktop) : IoResult (List UInt8)))
    readDesktopPathResponse
  roots : Agree (fun _ => True) RootsFit encodeRootsPayload (readRootsPayload texts)
  hello : ∀ hostname state capabilities payload,
    encodeHelloPayload hostname state capabilities = .ok payload →
    (readHelloPayload texts).run payload = .ok (ownHello hostname state capabilities, [])
  /-- A hello that is read comes back with the application version of the encoder. -/
  readHello : ∀ payload hello rest, (readHelloPayload texts).run payload = .ok (hello, rest) →
    rest = [] ∧ HelloFits hello ∧
      ∃ again, encodeHelloPayload hello.hostname hello.state hello.capabilities = .ok again ∧
        (readHelloPayload texts).run again =
          .ok ({ hello with applicationVersion := cargoPkgVersion }, [])

/-- The codecs of the management protocol agree, when every address that is parsed prints and
parses back. -/
theorem wire_codecs (texts : TextSupport SocketAddr) (isAbsolute : String → Bool)
    (hparsed : ∀ text address, texts.fromStr text = .ok address → PrintsBack texts address) :
    WireCodecs texts isAbsolute where
  frame frame bytes following hwrite := by
    obtain ⟨hlength, hbytes⟩ := writeFrame_eq_ok.mp hwrite
    subst hbytes
    exact readFrame_eq_ok.mpr ⟨hlength, rfl⟩
  readFrame frame bytes following hread := by
    obtain ⟨hlength, hbytes⟩ := readFrame_eq_ok.mp hread
    exact ⟨hlength, _, writeFrame_eq_ok.mpr ⟨hlength, rfl⟩, hbytes⟩
  snapshot := snapshot_agree hparsed
  prepareRequest := prepareRequest_agree
  preparedResponse := preparedResponse_agree
  startSendRequest := startSendRequest_agree hparsed
  startedSendResponse := startedSendResponse_agree hparsed
  status := status_agree
  cancelRequest := cancelRequest_agree
  directoryRequest := directoryRequest_agree
  directory entries payload htimes hencode := by
    obtain ⟨hfits, _, hpayload⟩ := encodeDirectoryResponse_eq_ok.mp hencode
    exact readDirectoryResponse_eq_ok.mpr ⟨rfl, hfits, htimes, hpayload⟩
  readDirectory payload entries rest hread := by
    obtain ⟨hrest, hfits, htimes, hpayload⟩ := readDirectoryResponse_eq_ok.mp hread
    refine ⟨hrest, hfits, htimes, fun hlength => ?_⟩
    rw [hpayload, directoryLayout_length] at hlength
    exact ⟨_, encodeDirectoryResponse_eq_ok.mpr ⟨hfits, hlength, rfl⟩,
      readDirectoryResponse_eq_ok.mpr ⟨rfl, hfits, htimes, rfl⟩⟩
  desktopPath := desktopPath_agree
  roots := roots_agree
  hello _ _ _ _ hencode := readHello_ownHello hencode
  readHello payload hello rest hread := by
    obtain ⟨hrest, hfits, _⟩ := readHelloPayload_eq_ok.mp hread
    have hencode : encodeHelloPayload hello.hostname hello.state hello.capabilities =
        .ok (helloLayout (ownHello hello.hostname hello.state hello.capabilities)) :=
      encodeHelloPayload_eq_ok.mpr ⟨hfits.hostname, rfl⟩
    have hown : { hello with applicationVersion := cargoPkgVersion } =
        ownHello hello.hostname hello.state hello.capabilities := by
      rw [hfits.protocolVersion]
      rfl
    refine ⟨hrest, hfits, _, hencode, ?_⟩
    rw [hown]
    exact readHello_ownHello hencode

/-- A path with a drive letter and a separator is absolute. -/
def onDrive (path : String) : Bool :=
  match path.toList with
  | _ :: ':' :: '\\' :: _ => true
  | _ => false

theorem linkLocalTexts_printsBack (text : String) (address : SocketAddr)
    (hparse : linkLocalTexts.fromStr text = .ok address) : PrintsBack linkLocalTexts address := by
  have haddress : address = linkLocal 50000 0 := by
    simp only [linkLocalTexts] at hparse
    by_cases htext : text = "[fe80::1%42]:50000"
    · rw [if_pos htext] at hparse
      cases hparse
      rfl
    · rw [if_neg htext] at hparse
      cases hparse
  subst haddress
  exact ⟨⟨.inr (by decide), by decide⟩, linkLocalTexts_fromStr⟩

theorem wire_codecs_link_local : WireCodecs linkLocalTexts onDrive :=
  wire_codecs linkLocalTexts onDrive linkLocalTexts_printsBack

/-- The hello of an agent of another version. -/
def olderHello : ManagementHello :=
  ⟨"DESKTOP-1", "2.6.0", managementProtocolVersion, .idle,
    ⟨3, AgentCapabilities.three_pos, AgentCapabilities.three_lt⟩⟩

/-- A file name of 1000 bytes. -/
@[irreducible] def longName : String := String.ofList (List.replicate 1000 'a')

theorem utf8ByteSize_longName : longName.utf8ByteSize = 1000 := by
  unfold longName
  rw [utf8ByteSize_ofList, textBytes_length, List.length_replicate]
  intro c hc
  rw [List.eq_of_mem_replicate hc]
  decide

/-- A directory of 1100 files with names of 1000 bytes. -/
def wideDirectory : List ManagementDirectoryEntry :=
  List.replicate 1100 ⟨longName, .file, 0, none⟩

theorem wideDirectory_fits : DirectoryFits wideDirectory := by
  constructor
  · rw [wideDirectory, List.length_replicate]
    simp [maxDirectoryEntries]
  · intro entry hmem
    have hsize := utf8ByteSize_longName
    rw [List.eq_of_mem_replicate hmem]
    refine ⟨.inr fun hempty => ?_, ?_⟩
    · have hempty : longName = "" := hempty
      rw [hempty] at hsize
      cases hsize
    · show longName.utf8ByteSize ≤ maxEntryNameBytes
      simp only [maxEntryNameBytes]
      omega

theorem wideDirectory_length : maxManagementPayloadBytes < directoryPayloadLength wideDirectory := by
  have hmax := maxManagementPayloadBytes_eq
  have hsize := utf8ByteSize_longName
  rw [hmax, directoryPayloadLength, wideDirectory, List.map_replicate, List.sum_replicate, hsize]
  decide

/-- The hello of another version and the large directory are read, but do not come back. -/
theorem hello_and_directory_not_again :
    (∃ payload, (readHelloPayload linkLocalTexts).run payload = .ok (olderHello, []) ∧
      ¬ ∃ again, encodeHelloPayload olderHello.hostname olderHello.state olderHello.capabilities =
          .ok again ∧ (readHelloPayload linkLocalTexts).run again = .ok (olderHello, [])) ∧
    ∃ payload, (readDirectoryResponse linkLocalTexts).run payload = .ok (wideDirectory, []) ∧
      ¬ ∃ again, encodeDirectoryResponse wideDirectory = .ok again := by
  constructor
  · have hfits : HelloFits olderHello :=
      ⟨⟨.inr (by decide), by decide⟩, ⟨.inr (by decide), by decide⟩, rfl⟩
    refine ⟨_, readHelloPayload_eq_ok.mpr ⟨rfl, hfits, rfl⟩, ?_⟩
    intro ⟨again, hencode, hread⟩
    have hown : (readHelloPayload linkLocalTexts).run again =
        .ok (ownHello olderHello.hostname olderHello.state olderHello.capabilities, []) :=
      readHello_ownHello hencode
    rw [hread] at hown
    have hversion := congrArg ManagementHello.applicationVersion
      (Prod.mk.inj (Except.ok.inj hown)).1
    exact absurd hversion (show ¬ "2.6.0" = "2.7.0-dev" by decide)
  · refine ⟨_, readDirectoryResponse_eq_ok.mpr ⟨rfl, wideDirectory_fits, ?_, rfl⟩, ?_⟩
    · intro entry hmem
      rw [List.eq_of_mem_replicate hmem]
      exact fun _ hnone => by cases hnone
    · intro ⟨again, hencode⟩
      have hlength := (encodeDirectoryResponse_eq_ok.mp hencode).2.1
      exact absurd wideDirectory_length (by omega)

end NetworkCopy
