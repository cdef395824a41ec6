import NetworkCopy.Management.JobCodecs
import NetworkCopy.Management.Reportable

/-!
# What the codecs of jobs accept

For every payload of the job requests and responses one lemma says what the encoder writes and
one which bytes the reader accepts.  Only a request to start a sender is read from more than its
own bytes: from three versions, and from every text of its endpoint.
-/

namespace NetworkCopy

open ByteOrder ByteReader ManagementJobRegistry

/-! ## Checks -/

/-- A root that its check admits. -/
def RootFits (isAbsolute : String → Bool) (maximumBytes : Nat) (root : String) : Prop :=
  root ≠ "" ∧ root.utf8ByteSize ≤ maximumBytes ∧ isAbsolute root = true

section

variable {texts : TextSupport SocketAddr} {isAbsolute : String → Bool}

theorem validateRootPath_eq_ok {description : String} {maximumBytes : Nat} {root : String}
    {u : Unit} : validateRootPath isAbsolute description maximumBytes root = .ok u ↔
      RootFits isAbsolute maximumBytes root := by
  unfold validateRootPath RootFits
  simp [bind_eq_ok]

theorem decodeUtf8_eq_ok {bytes : List UInt8} {description value : String} :
    decodeUtf8 texts bytes description = .ok value ↔ bytes = stringBytes value := by
  unfold decodeUtf8
  rw [okOrElse_eq_ok, fromUTF8_eq_some]

theorem decodeDestinationPath_eq_ok {bytes : List UInt8} {root : String} :
    decodeDestinationPath texts isAbsolute bytes = .ok root ↔
      bytes = stringBytes root ∧ RootFits isAbsolute maxDestinationPathBytes root := by
  unfold decodeDestinationPath validateDestinationPath
  simp only [bind_eq_ok, decodeUtf8_eq_ok, invalidData_eq_ok, validateRootPath_eq_ok, pure_eq_ok,
    Except.ok.injEq, exists_const]
  constructor
  · intro ⟨found, hbytes, hfits, hroot⟩
    subst hroot
    exact ⟨hbytes, hfits⟩
  · intro ⟨hbytes, hfits⟩
    exact ⟨root, hbytes, hfits, rfl⟩

theorem RootFits.size_lt {root : String} (h : RootFits isAbsolute maxDestinationPathBytes root) :
    root.utf8ByteSize < 2 ^ 32 := by
  have hsize := h.2.1
  simp only [maxDestinationPathBytes] at hsize
  omega

/-! ## Prepare -/

theorem decodePrepareFlags_eq_ok {flags : Nat} {updateExisting resume : Bool} :
    decodePrepareFlags flags = .ok (updateExisting, resume) ↔
      flags = updateExisting.toNat + 2 * resume.toNat := by
  unfold decodePrepareFlags
  simp only [bind_eq_ok, ensure_eq_ok, pure_eq_ok, Except.ok.injEq, Prod.mk.injEq, exists_const]
  constructor
  · intro ⟨hlt, hupdate, hresume⟩
    subst hupdate hresume
    match flags, hlt with
    | 0, _ | 1, _ | 2, _ | 3, _ => rfl
  · intro hflags
    subst hflags
    cases updateExisting <;> cases resume <;> decide

/-- The bytes of a request to prepare a receiver. -/
def prepareLayout (request : PrepareReceiveRequest) : List UInt8 :=
  leBytes 2 prepareRequestVersion ++
    leBytes 1 (request.updateExisting.toNat + 2 * request.resume.toNat) ++ leBytes 1 0 ++
    leBytes 4 request.destinationRoot.utf8ByteSize ++ stringBytes request.destinationRoot

/-- The request fits the format. -/
def PrepareFits (isAbsolute : String → Bool) (request : PrepareReceiveRequest) : Prop :=
  RootFits isAbsolute maxDestinationPathBytes request.destinationRoot

theorem encodePrepareRequest_eq_ok {request : PrepareReceiveRequest} {payload : List UInt8} :
    encodePrepareRequest isAbsolute request = .ok payload ↔
      PrepareFits isAbsolute request ∧ payload = prepareLayout request := by
  unfold encodePrepareRequest validateDestinationPath
  simp only [bind_eq_ok, validateRootPath_eq_ok, ensure_eq_ok, pure_eq_ok, Except.ok.injEq,
    exists_const]
  constructor
  · intro ⟨hfits, _, hpayload⟩
    exact ⟨hfits, hpayload.symm⟩
  · intro ⟨hfits, hpayload⟩
    exact ⟨hfits, hfits.size_lt, hpayload.symm⟩

theorem readPrepareRequest_eq_ok {payload rest : List UInt8} {request : PrepareReceiveRequest} :
    (readPrepareRequest texts isAbsolute).run payload = .ok (request, rest) ↔
      rest = [] ∧ PrepareFits isAbsolute request ∧ payload = prepareLayout request := by
  unfold readPrepareRequest
  simp only [run_need_bind, headerField_bind, run_check_bind, run_lift_bind, run_exactly_bind,
    run_takeAll_bind, run_pure_eq_ok, decodeDestinationPath_eq_ok]
  constructor
  · rintro ⟨_, version, _, _, hpayload, hversion, flags, _, _, hmore, ⟨updateExisting, resume⟩,
      hflags, reserved, _, _, hmore2, hreserved, _, _, _, hmore3, hlength, root,
      ⟨hroot, hfits⟩, hrequest, hrest⟩
    rw [decodePrepareFlags_eq_ok] at hflags
    subst hrequest hroot hlength hflags hversion hreserved
    refine ⟨hrest, hfits, ?_⟩
    rw [hpayload, hmore, hmore2, hmore3]
    simp only [prepareLayout, stringBytes_length, List.append_assoc]
  · rintro ⟨hrest, hfits, hpayload⟩
    subst hpayload
    obtain ⟨root, updateExisting, resume⟩ := request
    have hflags : updateExisting.toNat + 2 * resume.toNat < 256 ^ 1 := by
      cases updateExisting <;> cases resume <;> decide
    have hsize : root.utf8ByteSize < 256 ^ 4 := hfits.size_lt
    refine ⟨?_, prepareRequestVersion, _, by decide, by
      simp only [prepareLayout, List.append_assoc], rfl, _, _, hflags, rfl,
      (updateExisting, resume), decodePrepareFlags_eq_ok.mpr rfl, 0, _, by decide, rfl, rfl,
      root.utf8ByteSize, stringBytes root, hsize, rfl, stringBytes_length _, root, ⟨rfl, hfits⟩,
      rfl, hrest⟩
    simp [prepareLayout, prepareRequestHeaderBytes]
    omega

theorem prepareRequest_agree : Agree (fun _ => True) (PrepareFits isAbsolute)
    (encodePrepareRequest isAbsolute) (readPrepareRequest texts isAbsolute) :=
  Agree.of_layout (fun _ _ _ => encodePrepareRequest_eq_ok)
    (fun _ _ _ => readPrepareRequest_eq_ok) (fun _ _ _ => rfl) (fun _ _ _ _ => trivial)

end

/-! ## Cancel -/

theorem readCancelRequest_eq_ok {payload rest : List UInt8} {jobId : UInt64} :
    readCancelRequest.run payload = .ok (jobId, rest) ↔
      rest = [] ∧ jobId ≠ 0 ∧
        payload = leBytes 2 cancelRequestVersion ++ leBytes 2 0 ++ leBytes 8 jobId.toNat := by
  unfold readCancelRequest
  simp only [run_exactly_bind, headerField_bind, run_check_bind, run_pure_eq_ok]
  constructor
  · rintro ⟨hlength, version, _, _, hpayload, hversion, reserved, _, _, hmore, hreserved, value,
      left, hvalueLt, hmore2, hvalue, hjobId, hrest⟩
    have hnat : (UInt64.ofNat value).toNat = value :=
      UInt64.toNat_ofNat_of_lt (by simp only [UInt64.size]; omega)
    subst hjobId hversion hreserved hrest
    rw [hpayload, hmore, hmore2] at hlength
    simp only [List.length_append, leBytes_length, cancelRequestBytes] at hlength
    have hnil : rest = [] := List.eq_nil_of_length_eq_zero (by omega)
    refine ⟨hnil, fun hzero => hvalue ?_, ?_⟩
    · rw [hzero] at hnat
      exact hnat.symm
    · rw [hpayload, hmore, hmore2, hnil, hnat]
      simp only [List.append_assoc, List.append_nil]
  · rintro ⟨hrest, hjobId, hpayload⟩
    subst hpayload hrest
    have hlt := jobId.toNat_lt
    refine ⟨by simp [cancelRequestBytes], cancelRequestVersion, _, by decide,
      by simp only [List.append_assoc], rfl, 0, _, by decide, rfl, rfl, jobId.toNat, [], by omega,
      (List.append_nil _).symm, fun hzero => hjobId (UInt64.toNat_inj.mp hzero), ?_, rfl⟩
    exact (UInt64.ofNat_toNat).symm

theorem cancelRequest_agree :
    Agree (fun _ => True) (· ≠ 0) encodeCancelRequest readCancelRequest := by
  refine Agree.of_layout (fun jobId payload _ => ?_) (fun _ _ _ => readCancelRequest_eq_ok)
    (fun _ _ _ => rfl) (fun _ _ _ _ => trivial)
  unfold encodeCancelRequest
  simp only [bind_eq_ok, ensure_eq_ok, pure_eq_ok, Except.ok.injEq, exists_const]
  exact and_congr_right fun _ => eq_comm

/-! ## Start -/

section

variable {texts : TextSupport SocketAddr} {isAbsolute : String → Bool}
variable {payload rest : List UInt8}
variable {request : StartSendRequest SocketAddr}

/-- The parameters of a sender that their check admits. -/
structure SendFits (texts : TextSupport SocketAddr) (isAbsolute : String → Bool)
    (receiverAddress : SocketAddr) (sourceRoot : String) (workerCount calibrationMib : Nat) :
    Prop where
  port : receiverAddress.port ≠ 0
  endpoint : (texts.display receiverAddress).utf8ByteSize ≤ maxReceiverEndpointBytes
  source : RootFits isAbsolute maxSourcePathBytes sourceRoot
  workers : 1 ≤ workerCount ∧ workerCount ≤ maxWorkers
  calibration : calibrationMib ≠ 0 ∧ calibrationMib * mib ≤ maxTotalBytes

theorem bytesFromMib_isOk {totalMib : Nat} :
    (∃ totalBytes, bytesFromMib totalMib = .ok totalBytes) ↔
      totalMib ≠ 0 ∧ totalMib * mib ≤ maxTotalBytes := by
  have hmib : mib = 1048576 := by simp [mib]
  have hmax : maxTotalBytes = 1099511627776 := by simp [maxTotalBytes]
  have hlimit : u64Limit = 18446744073709551616 := by simp [u64Limit]
  unfold bytesFromMib
  simp only [bind_eq_ok, okOrElse_eq_ok, checkedMul_eq_some, ensure_eq_ok, pure_eq_ok,
    Except.ok.injEq, exists_const]
  constructor
  · intro ⟨_, totalBytes, ⟨_, htotal⟩, hzero, hlimited, _⟩
    subst htotal
    refine ⟨fun h => hzero (by rw [h, Nat.zero_mul]), hlimited⟩
  · intro ⟨hzero, hlimited⟩
    refine ⟨_, _, ⟨by omega, rfl⟩, ?_, hlimited, rfl⟩
    rw [hmib]
    omega

theorem validateSendParameters_eq_ok {receiverAddress : SocketAddr} {sourceRoot : String}
    {workerCount calibrationMib : Nat} {u : Unit} :
    validateSendParameters texts isAbsolute receiverAddress sourceRoot workerCount
        calibrationMib = .ok u ↔
      SendFits texts isAbsolute receiverAddress sourceRoot workerCount calibrationMib := by
  have hcalibration : (∃ totalBytes, bytesFromMib calibrationMib = .ok totalBytes) ↔
      calibrationMib ≠ 0 ∧ calibrationMib * mib ≤ maxTotalBytes := bytesFromMib_isOk
  unfold validateSendParameters validateSourcePath validateWorkerCount
  simp only [bind_eq_ok, ensure_eq_ok, validateRootPath_eq_ok, pure_eq_ok, exists_const, and_true]
  rw [hcalibration]
  constructor
  · intro ⟨hport, hendpoint, hsource, hworkers, hcalibration⟩
    exact ⟨hport, hendpoint, hsource, hworkers, hcalibration⟩
  · intro ⟨hport, hendpoint, hsource, hworkers, hcalibration⟩
    exact ⟨hport, hendpoint, hsource, hworkers, hcalibration⟩

theorem SendFits.bounds {receiverAddress : SocketAddr} {sourceRoot : String}
    {workerCount calibrationMib : Nat}
    (h : SendFits texts isAbsolute receiverAddress sourceRoot workerCount calibrationMib) :
    sourceRoot.utf8ByteSize < 2 ^ 32 ∧ workerCount < 2 ^ 32 ∧ calibrationMib < 2 ^ 64 := by
  have hmib : mib = 1048576 := by simp [mib]
  have hmax : maxTotalBytes = 1099511627776 := by simp [maxTotalBytes]
  have hsource := h.source.2.1
  have hworkers := h.workers.2
  have hcalibration := h.calibration.2
  simp only [maxSourcePathBytes] at hsource
  simp only [maxWorkers] at hworkers
  rw [hmib, hmax] at hcalibration
  omega

/-- The forced stream count of a request that its check admits. -/
def ForcedFits (forced : Option Nat) : Prop := ∀ count ∈ forced, count ∈ matrixStreamCounts

theorem validateForced_eq_ok {forced : Option Nat} {u : Unit} :
    validateForcedDataStreamCount forced = .ok u ↔ ForcedFits forced := by
  cases forced with
  | none => simp [validateForcedDataStreamCount, ForcedFits]
  | some count => simp [validateForcedDataStreamCount, validateMatrixStreamCount, ForcedFits]

theorem ForcedFits.getD {forced : Option Nat} (h : ForcedFits forced) :
    forced.getD 0 < 256 ^ 4 ∧ forcedStreamCount (forced.getD 0) = forced := by
  cases forced with
  | none => exact ⟨by decide, rfl⟩
  | some count =>
    have hcount := h count rfl
    simp only [matrixStreamCounts, List.mem_cons, List.not_mem_nil, or_false] at hcount
    show count < 256 ^ 4 ∧ (if count = 0 then none else some count) = some count
    rw [if_neg (by omega)]
    exact ⟨by omega, rfl⟩

/-- The request fits the format. -/
structure StartSendFits (texts : TextSupport SocketAddr) (isAbsolute : String → Bool)
    (request : StartSendRequest SocketAddr) : Prop where
  send : SendFits texts isAbsolute request.receiverAddress request.sourceRoot
    request.workerCount request.calibrationMib
  forced : ForcedFits request.forcedDataStreamCount

/-- How wide the forced stream count is in a version. -/
def forcedWidth (version : Nat) : Nat := if version = startSendRequestVersionV1 then 0 else 4

/-- A version can carry the options of a request. -/
def Carries (version : Nat) (request : StartSendRequest SocketAddr) : Prop :=
  (version = startSendRequestVersionV1 ∧ request.forcedDataStreamCount = none ∧
      request.preserveDesktopLayout = false) ∨
    (version = startSendRequestVersionV2 ∧ request.preserveDesktopLayout = false) ∨
    version = startSendRequestVersion

/-- The bytes of a request in a version, with a text of its endpoint. -/
def startSendLayout (version : Nat) (text : String) (request : StartSendRequest SocketAddr) :
    List UInt8 :=
  leBytes 2 version ++ leBytes 2 request.preserveDesktopLayout.toNat ++
    leBytes 4 request.workerCount ++ leBytes 8 request.calibrationMib ++
    leBytes 2 text.utf8ByteSize ++ leBytes 2 0 ++ leBytes 4 request.sourceRoot.utf8ByteSize ++
    leBytes (forcedWidth version) (request.forcedDataStreamCount.getD 0) ++
    stringBytes text ++ stringBytes request.sourceRoot

/-- The bytes that are read as a request. -/
def StartSendAccepted (texts : TextSupport SocketAddr) (request : StartSendRequest SocketAddr)
    (payload : List UInt8) : Prop :=
  ∃ version text, Carries version request ∧ TextFits text maxReceiverEndpointBytes false ∧
    texts.fromStr text = .ok request.receiverAddress ∧
    payload = startSendLayout version text request

theorem encodeStartSendRequest_eq_ok {payload : List UInt8} :
    encodeStartSendRequest texts isAbsolute request = .ok payload ↔
      StartSendFits texts isAbsolute request ∧
        payload = startSendLayout startSendRequestVersion (texts.display request.receiverAddress)
          request := by
  unfold encodeStartSendRequest
  simp only [bind_eq_ok, validateSendParameters_eq_ok, validateForced_eq_ok, ensure_eq_ok,
    pure_eq_ok, Except.ok.injEq, exists_const]
  constructor
  · intro ⟨hsend, hforced, _, _, _, _, hpayload⟩
    exact ⟨⟨hsend, hforced⟩, hpayload.symm⟩
  · intro ⟨hfits, hpayload⟩
    obtain ⟨hsource, hworkers, _⟩ := hfits.send.bounds
    have hendpoint := hfits.send.endpoint
    simp only [maxReceiverEndpointBytes] at hendpoint
    exact ⟨hfits.send, hfits.forced, by omega, hsource, hworkers, hfits.forced.getD.1,
      hpayload.symm⟩

/-- The version and the flags say how wide the forced stream count is, and whether the Desktop
layout is kept. -/
theorem readStartSendVersion_bind {α : Type} {version flags : Nat} {bytes rest : List UInt8}
    {f : Nat × Bool → ByteReader IoError α} {value : α} :
    (readStartSendVersion version flags >>= f).run bytes = .ok (value, rest) ↔
      ∃ preserve : Bool, flags = preserve.toNat ∧
        (version = startSendRequestVersionV1 ∧ preserve = false ∨
          (version = startSendRequestVersionV2 ∧ preserve = false ∨
            version = startSendRequestVersion) ∧
              startSendRequestHeaderBytes - 4 ≤ bytes.length) ∧
        (f (forcedWidth version, preserve)).run bytes = .ok (value, rest) := by
  unfold readStartSendVersion needStartSendHeader
  split
  case h_1 =>
    simp only [bind_assoc, pure_bind, run_check_bind]
    constructor
    · rintro ⟨hflags, hrun⟩
      exact ⟨false, hflags, .inl ⟨rfl, rfl⟩, hrun⟩
    · rintro ⟨preserve, hflags, hversion, hrun⟩
      rcases hversion with ⟨_, hpreserve⟩ | ⟨⟨hother, _⟩ | hother, _⟩
      · subst hpreserve
        exact ⟨hflags, hrun⟩
      · exact absurd hother (by decide)
      · exact absurd hother (by decide)
  case h_2 =>
    simp only [bind_assoc, pure_bind, run_need_bind, run_check_bind]
    constructor
    · rintro ⟨hlength, hflags, hrun⟩
      exact ⟨false, hflags, .inr ⟨.inl ⟨rfl, rfl⟩, hlength⟩, hrun⟩
    · rintro ⟨preserve, hflags, hversion, hrun⟩
      rcases hversion with ⟨hother, _⟩ | ⟨⟨_, hpreserve⟩ | hother, hlength⟩
      · exact absurd hother (by decide)
      · subst hpreserve
        exact ⟨hlength, hflags, hrun⟩
      · exact absurd hother (by decide)
  case h_3 =>
    simp only [bind_assoc, pure_bind, run_need_bind, run_check_bind]
    constructor
    · rintro ⟨hlength, hflags, hrun⟩
      refine ⟨decide (flags = 1), ?_, .inr ⟨.inr rfl, hlength⟩, hrun⟩
      interval_cases flags <;> rfl
    · rintro ⟨preserve, hflags, hversion, hrun⟩
      have hlength : startSendRequestHeaderBytes - 4 ≤ bytes.length := by
        rcases hversion with ⟨hother, _⟩ | ⟨_, hlength⟩
        · exact absurd hother (by decide)
        · exact hlength
      subst hflags
      refine ⟨hlength, ?_, ?_⟩
      · cases preserve <;> decide
      · cases preserve <;> exact hrun
  case h_4 unknown hone htwo hthree =>
    rw [run_bind_eq_ok]
    simp only [run_throw_eq_ok, false_and, exists_false, false_iff]
    rintro ⟨_, _, hversion, _⟩
    rcases hversion with ⟨hversion, _⟩ | ⟨⟨hversion, _⟩ | hversion, _⟩
    · exact hone hversion
    · exact htwo hversion
    · exact hthree hversion

theorem readStartSendRequest_eq_ok :
    (readStartSendRequest texts isAbsolute).run payload = .ok (request, rest) ↔
      rest = [] ∧ StartSendFits texts isAbsolute request ∧
        StartSendAccepted texts request payload := by
  unfold readStartSendRequest
  simp only [run_need_bind, headerField_bind, readStartSendVersion_bind, run_check_bind,
    run_lift_bind, run_exactly_bind, run_take_bind, run_takeAll_bind, run_pure_eq_ok,
    decodeUtf8_eq_ok, parseEndpoint_eq_ok, invalidData_eq_ok]
  constructor
  · rintro ⟨_, version, _, _, hpayload, flags, more, _, hmore, preserve, hflags, hversion, workers,
      _, _, hmore2, calibration, _, _, hmore3, _, _, _, hmore4, reserved, _, _, hmore5, hreserved,
      _, _, _, hmore6, encoded, left, hencoded, hmore7, hlength, receiverBytes, sourceBytes,
      hreceiverLength, hmore8, text, htext, htextFits, address, haddress, source, hsource, _,
      hchecked, hrequest, hrest⟩
    obtain ⟨_, hsend, hforced⟩ := bind_eq_ok.mp hchecked
    rw [validateSendParameters_eq_ok] at hsend
    rw [validateForced_eq_ok] at hforced
    subst hrequest htext hsource hflags hreserved
    have hsourceLength := hlength
    rw [hmore8, List.length_append, hreceiverLength] at hsourceLength
    have hsourceLength := Nat.add_left_cancel hsourceLength
    have hgetD : (forcedStreamCount encoded).getD 0 = encoded := by
      unfold forcedStreamCount
      split
      · rename_i hzero
        exact hzero.symm
      · rfl
    refine ⟨hrest, ⟨hsend, hforced⟩, version, text, ?_, ⟨.inr htextFits.1, htextFits.2⟩,
      haddress, ?_⟩
    · rcases hversion with ⟨hone, hpreserve⟩ | ⟨hlater, _⟩
      · refine .inl ⟨hone, ?_, hpreserve⟩
        have hwidth : forcedWidth version = 0 := if_pos hone
        rw [hwidth] at hencoded
        have hzero : encoded = 0 := by omega
        rw [hzero]
        rfl
      · exact .inr hlater
    · rw [hpayload, hmore, hmore2, hmore3, hmore4, hmore5, hmore6, hmore7, hmore8]
      simp only [startSendLayout, hgetD, ← hreceiverLength, ← hsourceLength, stringBytes_length,
        List.append_assoc]
  · rintro ⟨hrest, hfits, version, text, hcarries, htext, haddress, hpayload⟩
    subst hpayload
    obtain ⟨address, source, workers, calibration, forced, preserve⟩ := request
    obtain ⟨hsourceLt, hworkersLt, hcalibrationLt⟩ := hfits.send.bounds
    obtain ⟨hforcedLt, hforced⟩ := hfits.forced.getD
    have htextSize := htext.2
    have hversionLt : version < 256 ^ 2 := by
      rcases hcarries with ⟨h, _⟩ | ⟨h, _⟩ | h <;> rw [h] <;> decide
    have hencodedLt : forced.getD 0 < 256 ^ forcedWidth version := by
      rcases hcarries with ⟨h, hnone, _⟩ | ⟨h, _⟩ | h
      · rw [show forced = none from hnone, h]
        decide
      · rw [h]
        exact hforcedLt
      · rw [h]
        exact hforcedLt
    have hflagsLt : preserve.toNat < 256 ^ 2 := by cases preserve <;> decide
    simp only [maxReceiverEndpointBytes] at htextSize
    refine ⟨?_, version, _, hversionLt, by
      simp only [startSendLayout, List.append_assoc], preserve.toNat, _, hflagsLt, rfl, preserve,
      rfl, ?_, workers, _, hworkersLt, rfl, calibration, _, hcalibrationLt, rfl,
      text.utf8ByteSize, _, by omega, rfl, 0, _, by decide, rfl, rfl, source.utf8ByteSize, _,
      hsourceLt, rfl, forced.getD 0, stringBytes text ++ stringBytes source, hencodedLt, rfl, ?_,
      stringBytes text, stringBytes source, stringBytes_length _, rfl, text, rfl,
      ⟨htext.1.resolve_left (by decide), htext.2⟩, address, haddress, source, rfl, (), ?_, ?_,
      hrest⟩
    · simp only [startSendLayout, List.length_append, leBytes_length,
        startSendRequestHeaderBytesV1]
      omega
    · rcases hcarries with ⟨hone, _, hpreserve⟩ | hlater
      · exact .inl ⟨hone, hpreserve⟩
      · refine .inr ⟨hlater, ?_⟩
        have hwidth : forcedWidth version = 4 := by
          rcases hlater with ⟨h, _⟩ | h <;> rw [h] <;> rfl
        simp only [List.length_append, leBytes_length, hwidth, startSendRequestHeaderBytes]
        omega
    · simp only [List.length_append, stringBytes_length]
    · rw [bind_eq_ok]
      exact ⟨(), validateSendParameters_eq_ok.mpr hfits.send, by
        rw [hforced]
        exact validateForced_eq_ok.mpr hfits.forced⟩
    · rw [hforced]

/-- Requests to start a sender, in all versions. -/
theorem startSendRequest_agree
    (hparsed : ∀ text address, texts.fromStr text = .ok address → PrintsBack texts address) :
    Agree (fun request => PrintsBack texts request.receiverAddress)
      (StartSendFits texts isAbsolute) (encodeStartSendRequest texts isAbsolute)
      (readStartSendRequest texts isAbsolute) :=
  Agree.of_layout (fun _ _ _ => encodeStartSendRequest_eq_ok)
    (fun _ _ _ => readStartSendRequest_eq_ok)
    (fun _ hprints _ => ⟨startSendRequestVersion, _, .inr (.inr rfl), hprints.fits,
      hprints.parses, rfl⟩)
    (fun _ _ _ ⟨_, text, _, _, haddress, _⟩ => hparsed text _ haddress)

/-- The response to a start fits the format. -/
def StartedFits (texts : TextSupport SocketAddr) (isAbsolute : String → Bool)
    (job : StartedSendJob SocketAddr) : Prop :=
  job.jobId ≠ 0 ∧ SendFits texts isAbsolute job.receiverAddress job.sourceRoot job.workerCount
    job.calibrationMib

/-- The bytes in front of the request that a response repeats. -/
def startedHeader (jobId : Nat) : List UInt8 :=
  leBytes 2 startSendResponseVersion ++ leBytes 2 0 ++ leBytes 8 jobId

/-- The bytes that are read as a response. -/
def StartedAccepted (texts : TextSupport SocketAddr) (job : StartedSendJob SocketAddr)
    (payload : List UInt8) : Prop :=
  job.jobId < 2 ^ 64 ∧ ∃ forced preserve request,
    ForcedFits forced ∧ StartSendAccepted texts (job.request forced preserve) request ∧
      payload = startedHeader job.jobId ++ request

theorem encodeStartedSendResponse_eq_ok {job : StartedSendJob SocketAddr}
    {payload : List UInt8} :
    encodeStartedSendResponse texts isAbsolute job = .ok payload ↔
      StartedFits texts isAbsolute job ∧
        payload = startedHeader job.jobId ++ startSendLayout startSendRequestVersion
          (texts.display job.receiverAddress) (job.request none false) := by
  unfold encodeStartedSendResponse
  simp only [bind_eq_ok, ensure_eq_ok, encodeStartSendRequest_eq_ok, pure_eq_ok, Except.ok.injEq,
    exists_const]
  constructor
  · intro ⟨hjobId, request, ⟨hfits, hrequest⟩, hpayload⟩
    subst hrequest
    exact ⟨⟨hjobId, hfits.send⟩, hpayload.symm⟩
  · intro ⟨⟨hjobId, hsend⟩, hpayload⟩
    exact ⟨hjobId, _, ⟨⟨hsend, fun _ hnone => (by cases hnone)⟩, rfl⟩, hpayload.symm⟩

theorem readStartSendRequest_bind {α : Type}
    {f : StartSendRequest SocketAddr → ByteReader IoError α} {value : α} :
    (readStartSendRequest texts isAbsolute >>= f).run payload = .ok (value, rest) ↔
      ∃ request, StartSendFits texts isAbsolute request ∧
        StartSendAccepted texts request payload ∧ (f request).run [] = .ok (value, rest) := by
  rw [run_bind_eq_ok]
  simp only [readStartSendRequest_eq_ok]
  constructor
  · intro ⟨request, _, ⟨hmiddle, hfits, haccepted⟩, hrun⟩
    subst hmiddle
    exact ⟨request, hfits, haccepted, hrun⟩
  · intro ⟨request, hfits, haccepted, hrun⟩
    exact ⟨request, [], ⟨rfl, hfits, haccepted⟩, hrun⟩

theorem readStartedSendResponse_eq_ok {job : StartedSendJob SocketAddr} :
    (readStartedSendResponse texts isAbsolute).run payload = .ok (job, rest) ↔
      rest = [] ∧ StartedFits texts isAbsolute job ∧ StartedAccepted texts job payload := by
  unfold readStartedSendResponse
  simp only [run_need_bind, headerField_bind, run_check_bind, readStartSendRequest_bind,
    run_pure_eq_ok]
  constructor
  · rintro ⟨_, version, _, _, hpayload, hversion, reserved, _, _, hmore, hreserved, jobId, _, hlt,
      hmore2, hjobId, request, hfits, haccepted, hjob, hrest⟩
    subst hjob hversion hreserved
    refine ⟨hrest, ⟨hjobId, hfits.send⟩, hlt, request.forcedDataStreamCount,
      request.preserveDesktopLayout, _, hfits.forced, haccepted, ?_⟩
    rw [hpayload, hmore, hmore2]
    simp only [startedHeader, List.append_assoc]
  · rintro ⟨hrest, ⟨hjobId, hsend⟩, hlt, forced, preserve, request, hforced, haccepted, hpayload⟩
    subst hpayload
    refine ⟨?_, startSendResponseVersion, _, by decide, by
      simp only [startedHeader, List.append_assoc], rfl, 0, _, by decide, rfl, rfl, job.jobId,
      request, hlt, rfl, hjobId, job.request forced preserve, ⟨hsend, hforced⟩, haccepted, rfl,
      hrest⟩
    simp only [startedHeader, List.length_append, leBytes_length, startSendResponseHeaderBytes]
    omega

/-- The response to a start. -/
theorem startedSendResponse_agree
    (hparsed : ∀ text address, texts.fromStr text = .ok address → PrintsBack texts address) :
    Agree (fun job => job.jobId < 2 ^ 64 ∧ PrintsBack texts job.receiverAddress)
      (StartedFits texts isAbsolute) (encodeStartedSendResponse texts isAbsolute)
      (readStartedSendResponse texts isAbsolute) :=
  Agree.of_layout (fun _ _ _ => encodeStartedSendResponse_eq_ok)
    (fun _ _ _ => readStartedSendResponse_eq_ok)
    (fun _ ⟨hlt, hprints⟩ _ => ⟨hlt, none, false, _, fun _ hnone => (by cases hnone),
      ⟨startSendRequestVersion, _, .inr (.inr rfl), hprints.fits, hprints.parses, rfl⟩, rfl⟩)
    (fun _ _ _ ⟨hlt, _, _, _, _, ⟨_, text, _, _, haddress, _⟩, _⟩ =>
      ⟨hlt, hparsed text _ haddress⟩)

/-! ## Status -/

variable {status : ManagementJobStatus}

theorem phaseOf_eq_ok {value : Nat} {phase : ManagementJobPhase} :
    ManagementJobPhase.tryFrom value = .ok phase ↔ value = ManagementJobPhase.code phase := by
  unfold ManagementJobPhase.tryFrom
  split <;> cases phase <;> simp_all [ManagementJobPhase.code]

theorem phase_lt (phase : ManagementJobPhase) : ManagementJobPhase.code phase < 256 ^ 1 := by
  cases phase <;> decide

/-- The fields of a status belong to its phase. -/
def StatusFits (isAbsolute : String → Bool) (status : ManagementJobStatus) : Prop :=
  match status.phase with
  | .idle => status = ⟨.idle, none, none, none, false⟩
  | .receiverPrepared => ∃ jobId transferPort destinationRoot updateExisting,
      jobId ≠ 0 ∧ transferPort ≠ 0 ∧
        RootFits isAbsolute maxDestinationPathBytes destinationRoot ∧
        status = ⟨.receiverPrepared, some jobId, some transferPort, some destinationRoot,
          updateExisting⟩
  | .senderRunning => ∃ jobId, jobId ≠ 0 ∧ status = ⟨.senderRunning, some jobId, none, none, false⟩

/-- The numbers of a status are values of their types. -/
def StatusTyped (status : ManagementJobStatus) : Prop :=
  status.jobId.getD 0 < 2 ^ 64 ∧ status.transferPort.getD 0 < 2 ^ 16

/-- The bytes of a status. -/
def statusLayout (status : ManagementJobStatus) : List UInt8 :=
  leBytes 2 jobStatusVersion ++ leBytes 1 (ManagementJobPhase.code status.phase) ++
    leBytes 1 status.updateExisting.toNat ++ leBytes 8 (status.jobId.getD 0) ++
    leBytes 2 (status.transferPort.getD 0) ++ leBytes 2 0 ++
    leBytes 4 (status.destinationRoot.getD "").utf8ByteSize ++
    stringBytes (status.destinationRoot.getD "")

theorem statusFields_eq_ok {fields : Nat × Nat × String} :
    statusFields isAbsolute status = .ok fields ↔ StatusFits isAbsolute status ∧
      fields = (status.jobId.getD 0, status.transferPort.getD 0,
        status.destinationRoot.getD "") := by
  obtain ⟨phase, jobId, transferPort, destinationRoot, updateExisting⟩ := status
  unfold statusFields StatusFits validateDestinationPath
  cases phase with
  | idle =>
    cases jobId <;> cases transferPort <;> cases destinationRoot <;> cases updateExisting <;>
      simp [bind_eq_ok, eq_comm (a := fields)]
  | receiverPrepared =>
    cases jobId <;> cases transferPort <;> cases destinationRoot <;>
      simp [bind_eq_ok, validateRootPath_eq_ok, eq_comm (a := fields), and_assoc,
        Nat.pos_iff_ne_zero]
    tauto
  | senderRunning =>
    cases jobId <;> cases transferPort <;> cases destinationRoot <;> cases updateExisting <;>
      simp [bind_eq_ok, eq_comm (a := fields)]

theorem StatusFits.size_lt (h : StatusFits isAbsolute status) :
    (status.destinationRoot.getD "").utf8ByteSize < 2 ^ 32 := by
  obtain ⟨phase, jobId, transferPort, destinationRoot, updateExisting⟩ := status
  cases phase with
  | idle =>
    cases h
    decide
  | receiverPrepared =>
    obtain ⟨_, _, _, _, _, _, hroot, hstatus⟩ := h
    cases hstatus
    exact hroot.size_lt
  | senderRunning =>
    obtain ⟨_, _, hstatus⟩ := h
    cases hstatus
    exact show "".utf8ByteSize < 2 ^ 32 by decide

theorem encodeStatus_eq_ok {payload : List UInt8} :
    encodeStatus isAbsolute status = .ok payload ↔
      StatusFits isAbsolute status ∧ payload = statusLayout status := by
  unfold encodeStatus
  simp only [bind_eq_ok, statusFields_eq_ok]
  constructor
  · rintro ⟨fields, ⟨hfits, hfields⟩, hpayload⟩
    subst hfields
    simp only [ensure_eq_ok, pure_eq_ok, Except.ok.injEq, exists_const] at hpayload
    exact ⟨hfits, hpayload.2.symm⟩
  · rintro ⟨hfits, hpayload⟩
    refine ⟨_, ⟨hfits, rfl⟩, ?_⟩
    simp only [ensure_eq_ok, pure_eq_ok, Except.ok.injEq, exists_const]
    exact ⟨hfits.size_lt, hpayload.symm⟩

theorem statusOf_eq_ok {phase : ManagementJobPhase} {updateExisting : Bool}
    {jobId transferPort pathLength : Nat} {pathBytes : List UInt8}
    (hlength : pathBytes.length = pathLength) :
    statusOf texts isAbsolute phase updateExisting jobId transferPort pathLength pathBytes =
        .ok status ↔
      StatusFits isAbsolute status ∧ phase = status.phase ∧
        updateExisting = status.updateExisting ∧ jobId = status.jobId.getD 0 ∧
        transferPort = status.transferPort.getD 0 ∧
        pathBytes = stringBytes (status.destinationRoot.getD "") := by
  have hempty : stringBytes "" = [] := rfl
  have hnil : pathLength = 0 ↔ pathBytes = [] := by
    rw [← hlength]
    exact List.length_eq_zero_iff
  unfold statusOf
  cases phase with
  | idle =>
    simp only [bind_eq_ok, ensure_eq_ok, pure_eq_ok, Except.ok.injEq, exists_const, hnil]
    constructor
    · intro ⟨⟨hjobId, hport, hpath, hupdate⟩, hstatus⟩
      subst hstatus
      exact ⟨rfl, rfl, hupdate, hjobId, hport, hpath⟩
    · intro ⟨hfits, hphase, hupdate, hjobId, hport, hpath⟩
      have hstatus : status = ⟨.idle, none, none, none, false⟩ := by
        unfold StatusFits at hfits
        rw [← hphase] at hfits
        exact hfits
      subst hstatus
      exact ⟨⟨hjobId, hport, hpath, hupdate⟩, rfl⟩
  | receiverPrepared =>
    simp only [bind_eq_ok, ensure_eq_ok, pure_eq_ok, Except.ok.injEq, exists_const,
      decodeDestinationPath_eq_ok]
    constructor
    · intro ⟨hjobId, hport, root, ⟨hpath, hroot⟩, hstatus⟩
      subst hstatus
      exact ⟨⟨_, _, _, _, hjobId, hport, hroot, rfl⟩, rfl, rfl, rfl, rfl, hpath⟩
    · intro ⟨hfits, hphase, hupdate, hid, htransfer, hpath⟩
      unfold StatusFits at hfits
      rw [← hphase] at hfits
      obtain ⟨_, _, root, _, hjobId, hport, hroot, hstatus⟩ := hfits
      subst hstatus hupdate hid htransfer
      exact ⟨hjobId, hport, root, ⟨hpath, hroot⟩, rfl⟩
  | senderRunning =>
    simp only [bind_eq_ok, ensure_eq_ok, pure_eq_ok, Except.ok.injEq, exists_const, hnil]
    constructor
    · intro ⟨hjobId, ⟨hport, hpath, hupdate⟩, hstatus⟩
      subst hstatus
      exact ⟨⟨_, hjobId, rfl⟩, rfl, hupdate, rfl, hport, hpath⟩
    · intro ⟨hfits, hphase, hupdate, hid, hport, hpath⟩
      unfold StatusFits at hfits
      rw [← hphase] at hfits
      obtain ⟨_, hjobId, hstatus⟩ := hfits
      subst hstatus hid
      exact ⟨hjobId, ⟨hport, hpath, hupdate⟩, rfl⟩

theorem readStatus_eq_ok :
    (readStatus texts isAbsolute).run payload = .ok (status, rest) ↔
      rest = [] ∧ StatusFits isAbsolute status ∧ StatusTyped status ∧
        payload = statusLayout status := by
  unfold readStatus
  simp only [run_need_bind, headerField_bind, run_check_bind, run_lift_bind, run_exactly_bind,
    run_takeAll_bind, phaseOf_eq_ok, flagOf_eq_ok, run_lift_eq_ok]
  constructor
  · rintro ⟨_, version, _, _, hpayload, hversion, _, _, _, hmore, phase, hphase, _, _, _, hmore2,
      updateExisting, hupdate, jobId, _, hjobIdLt, hmore3, transferPort, _, hportLt, hmore4,
      reserved, _, _, hmore5, hreserved, _, pathBytes, _, hmore6, hlength, hstatus, hrest⟩
    obtain ⟨hfits, hphaseEq, hupdateEq, hid, hport, hpath⟩ := (statusOf_eq_ok hlength).mp hstatus
    subst hphase hupdate hversion hreserved hlength hphaseEq hupdateEq hid hport hpath
    refine ⟨hrest, hfits, ⟨hjobIdLt, hportLt⟩, ?_⟩
    rw [hpayload, hmore, hmore2, hmore3, hmore4, hmore5, hmore6]
    simp only [statusLayout, stringBytes_length, List.append_assoc]
  · rintro ⟨hrest, hfits, ⟨hjobIdLt, hportLt⟩, hpayload⟩
    subst hpayload
    have hsize := hfits.size_lt
    have hlength : (stringBytes (status.destinationRoot.getD "")).length =
        (status.destinationRoot.getD "").utf8ByteSize := stringBytes_length _
    refine ⟨?_, jobStatusVersion, _, by decide, by
      simp only [statusLayout, List.append_assoc], rfl, _, _, phase_lt status.phase, rfl, _, rfl,
      _, _, flag_lt status.updateExisting, rfl, _, rfl, status.jobId.getD 0, _, by omega, rfl,
      status.transferPort.getD 0, _, by omega, rfl, 0, _, by decide, rfl, rfl, _,
      stringBytes (status.destinationRoot.getD ""), by omega, rfl, hlength,
      (statusOf_eq_ok hlength).mpr ⟨hfits, rfl, rfl, rfl, rfl, rfl⟩, hrest⟩
    simp only [statusLayout, List.length_append, leBytes_length, jobStatusHeaderBytes]
    omega

/-- The status of an agent. -/
theorem status_agree : Agree StatusTyped (StatusFits isAbsolute) (encodeStatus isAbsolute)
    (readStatus texts isAbsolute) :=
  Agree.of_layout (fun _ _ _ => encodeStatus_eq_ok) (fun _ _ _ => readStatus_eq_ok)
    (fun _ htyped _ => ⟨htyped, rfl⟩) (fun _ _ _ haccepted => haccepted.1)

theorem readPreparedResponse_eq_ok {job : PreparedReceiveJob} :
    (readPreparedResponse texts isAbsolute).run payload = .ok (job, rest) ↔
      rest = [] ∧ StatusFits isAbsolute job.status ∧ StatusTyped job.status ∧
        payload = statusLayout job.status := by
  unfold readPreparedResponse
  rw [run_bind_eq_ok]
  simp only [readStatus_eq_ok, run_check_bind, run_lift_bind, run_pure_eq_ok, okOrElse_eq_ok]
  constructor
  · rintro ⟨⟨_, _, _, _, _⟩, middle, ⟨hmiddle, hfits, htyped, hpayload⟩, hphase, jobId, hid,
      transferPort, hport, root, hroot, hjob, hrest⟩
    cases hphase
    cases hid
    cases hport
    cases hroot
    subst hjob hmiddle
    exact ⟨hrest, hfits, htyped, hpayload⟩
  · rintro ⟨hrest, hfits, htyped, hpayload⟩
    exact ⟨job.status, [], ⟨rfl, hfits, htyped, hpayload⟩, rfl, _, rfl, _, rfl, _, rfl, rfl,
      hrest⟩

/-- The response to a request to prepare a receiver. -/
theorem preparedResponse_agree :
    Agree (fun job => StatusTyped job.status) (fun job => StatusFits isAbsolute job.status)
      (encodePreparedResponse isAbsolute) (readPreparedResponse texts isAbsolute) :=
  Agree.of_layout (fun _ _ _ => encodeStatus_eq_ok) (fun _ _ _ => readPreparedResponse_eq_ok)
    (fun _ htyped _ => ⟨htyped, rfl⟩) (fun _ _ _ haccepted => haccepted.1)

end

end NetworkCopy
