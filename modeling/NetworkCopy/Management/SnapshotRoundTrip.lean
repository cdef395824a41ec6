import NetworkCopy.Management.PersistenceRoundTrip
import NetworkCopy.Management.Snapshot

/-!
# What the snapshot codec accepts

For every record there is a layout, its bytes, and a predicate that its fields fit.  One lemma
says that the encoder writes the layout of the records that fit and refuses the others, one that
the decoder accepts exactly these layouts.  Only the endpoint of a sender has more than one
text, so the layout takes the text as an argument.
-/

namespace NetworkCopy

open ByteOrder ByteReader ManagementActiveJobDetails

/-! ## Texts -/

theorem fromUTF8_eq_some {bytes : List UInt8} {value : String} :
    String.fromUTF8? bytes.toByteArray = some value ↔ bytes = stringBytes value := by
  constructor
  · intro h
    unfold String.fromUTF8? at h
    split at h
    · cases h
      show bytes = (bytes.toByteArray).data.toList
      simp
    · cases h
  · intro h
    rw [h]
    exact fromUTF8_stringBytes value

/-- A text with a limit. -/
def TextFits (value : String) (maximumBytes : Nat) (allowEmpty : Bool) : Prop :=
  (allowEmpty = true ∨ value ≠ "") ∧ value.utf8ByteSize ≤ maximumBytes

theorem validateWireText_eq_ok {value : String} {maximumBytes : Nat} {description : String}
    {allowEmpty : Bool} {u : Unit} :
    validateWireText value maximumBytes description allowEmpty = .ok u ↔
      TextFits value maximumBytes allowEmpty := by
  unfold validateWireText TextFits
  simp [bind_eq_ok]

theorem invalidData_eq_ok {α : Type} {result : IoResult α} {value : α} :
    invalidData result = .ok value ↔ result = .ok value := by
  cases result <;> simp [invalidData, Except.mapError]

section

variable (texts : TextSupport SocketAddr)
variable {bytes : List UInt8}

theorem decodeWireText_eq_ok {maximumBytes : Nat} {description : String} {allowEmpty : Bool}
    {value : String} :
    decodeWireText texts bytes maximumBytes description allowEmpty = .ok value ↔
      bytes = stringBytes value ∧ TextFits value maximumBytes allowEmpty := by
  unfold decodeWireText
  simp only [bind_eq_ok, okOrElse_eq_ok, fromUTF8_eq_some, invalidData_eq_ok,
    validateWireText_eq_ok, pure_eq_ok, Except.ok.injEq, exists_const]
  constructor
  · intro ⟨found, hbytes, hfits, hvalue⟩
    subst hvalue
    exact ⟨hbytes, hfits⟩
  · intro ⟨hbytes, hfits⟩
    exact ⟨value, hbytes, hfits, rfl⟩

theorem parseEndpoint_eq_ok {text description : String} {address : SocketAddr} :
    parseEndpoint texts text description = .ok address ↔ texts.fromStr text = .ok address := by
  unfold parseEndpoint
  cases texts.fromStr text <;> simp

theorem validateJobId_eq_ok {jobId : Nat} {u : Unit} :
    validateJobId jobId = .ok u ↔ jobId ≠ 0 := by
  simp [validateJobId]

/-! ## Codes -/

variable {role : ManagementJobRole}
variable {value : Nat}

theorem flagOf_eq_ok {error : IoError} {flag : Bool} :
    flagOf value error = .ok flag ↔ value = flag.toNat := by
  unfold flagOf
  split <;> cases flag <;> simp_all

theorem flag_lt (flag : Bool) : flag.toNat < 256 ^ 1 := by
  cases flag <;> decide

theorem roleOf_eq_ok (hvalue : value < 256 ^ 1) :
    roleOf value = .ok role ↔ value = role.code := by
  have hbyte : (UInt8.ofNat value).toNat = value := by
    rw [UInt8.toNat_ofNat']
    omega
  unfold roleOf ManagementJobRole.tryFrom
  rw [hbyte]
  split <;> cases role <;> simp_all [ManagementJobRole.code]

theorem role_lt (role : ManagementJobRole) : role.code < 256 ^ 1 := by
  cases role <;> decide

theorem outcomeOf_eq_ok (hvalue : value < 256 ^ 1) {outcome : ManagementJobOutcome} :
    outcomeOf value = .ok outcome ↔ value = outcome.code := by
  have hbyte : (UInt8.ofNat value).toNat = value := by
    rw [UInt8.toNat_ofNat']
    omega
  unfold outcomeOf ManagementJobOutcome.tryFrom
  rw [hbyte]
  split <;> cases outcome <;> simp_all [ManagementJobOutcome.code]

theorem outcome_lt (outcome : ManagementJobOutcome) : outcome.code < 256 ^ 1 := by
  cases outcome <;> decide

theorem headerField_bind {α : Type} {width : Nat} {description : String}
    {bytes rest : List UInt8} {f : Nat → ByteReader IoError α} {value : α} :
    (headerField width description >>= f).run bytes = .ok (value, rest) ↔
      ∃ field more, field < 256 ^ width ∧ bytes = leBytes width field ++ more ∧
        (f field).run more = .ok (value, rest) :=
  run_uint_bind

/-! ## The details of an active job -/

namespace ManagementActiveJobDetails

/-- The text of the endpoint in the details. -/
def endpoint : ManagementActiveJobDetails → String
  | .sender receiverAddress _ _ _ => texts.display receiverAddress
  | .receiver _ _ _ => ""

/-- A text of the endpoint that is read back. -/
def Parses (text : String) : ManagementActiveJobDetails → Prop
  | .sender receiverAddress _ _ _ => texts.fromStr text = .ok receiverAddress
  | .receiver _ _ _ => text = ""

/-- The details fit the format. -/
def Fits (text : String) (role : ManagementJobRole) : ManagementActiveJobDetails → Prop
  | .sender receiverAddress sourceRoot workerCount calibrationMib =>
      role = .sender ∧ receiverAddress.port ≠ 0 ∧ workerCount ≠ 0 ∧ workerCount.toNat < 2 ^ 32 ∧
        calibrationMib ≠ 0 ∧ TextFits sourceRoot maxActivePathBytes false ∧
        TextFits text maxReceiverEndpointBytes false
  | .receiver transferPort destinationRoot _ =>
      role = .receiver ∧ transferPort ≠ 0 ∧ TextFits destinationRoot maxActivePathBytes false

/-- The bytes of the details. -/
def layout (text : String) : ManagementActiveJobDetails → List UInt8
  | .sender _ sourceRoot workerCount calibrationMib =>
      leBytes 4 workerCount.toNat ++ leBytes 8 calibrationMib.toNat ++
        leBytes 2 text.utf8ByteSize ++ leBytes 2 0 ++ leBytes 4 sourceRoot.utf8ByteSize ++
        stringBytes text ++ stringBytes sourceRoot
  | .receiver transferPort destinationRoot updateExisting =>
      leBytes 2 transferPort.toNat ++ leBytes 1 updateExisting.toNat ++ leBytes 1 0 ++
        leBytes 4 destinationRoot.utf8ByteSize ++ stringBytes destinationRoot

end ManagementActiveJobDetails

variable {details : ManagementActiveJobDetails}

theorem encodeActiveDetails_eq_ok :
    encodeActiveDetails texts role details = .ok bytes ↔
      details.Fits (details.endpoint texts) role ∧
        bytes = details.layout (details.endpoint texts) := by
  cases details with
  | sender receiverAddress sourceRoot workerCount calibrationMib =>
    unfold encodeActiveDetails
    simp only [bind_eq_ok, ensure_eq_ok, validateWireText_eq_ok, pure_eq_ok, Except.ok.injEq,
      exists_const, Fits, endpoint,
      layout]
    constructor
    · intro ⟨hrole, hport, hworkers, hcalibration, hsource, hreceiver, _, _, hsmall, hbytes⟩
      exact ⟨⟨hrole, hport, hworkers, hsmall, hcalibration, hsource, hreceiver⟩, hbytes.symm⟩
    · intro ⟨⟨hrole, hport, hworkers, hsmall, hcalibration, hsource, hreceiver⟩, hbytes⟩
      have hreceiverSize := hreceiver.2
      have hsourceSize := hsource.2
      simp only [maxReceiverEndpointBytes, maxActivePathBytes] at hreceiverSize hsourceSize
      exact ⟨hrole, hport, hworkers, hcalibration, hsource, hreceiver, by omega, by omega,
        hsmall, hbytes.symm⟩
  | receiver transferPort destinationRoot updateExisting =>
    unfold encodeActiveDetails
    simp only [bind_eq_ok, ensure_eq_ok, validateWireText_eq_ok, pure_eq_ok, Except.ok.injEq,
      exists_const, Fits, layout]
    constructor
    · intro ⟨hrole, hport, hdestination, _, hbytes⟩
      exact ⟨⟨hrole, hport, hdestination⟩, hbytes.symm⟩
    · intro ⟨⟨hrole, hport, hdestination⟩, hbytes⟩
      have hdestinationSize := hdestination.2
      simp only [maxActivePathBytes] at hdestinationSize
      exact ⟨hrole, hport, hdestination, by omega, hbytes.symm⟩

theorem decodeSenderDetails_eq_ok :
    (decodeSenderDetails texts).run' bytes = .ok details ↔
      ∃ text, details.Parses texts text ∧ details.Fits text .sender ∧
        bytes = details.layout text := by
  rw [run'_eq_ok]
  unfold decodeSenderDetails
  simp only [run_need_bind, headerField_bind, run_check_bind, run_exactly_bind, run_take_bind,
    run_lift_bind, run_takeAll_bind, run_pure_eq_ok, decodeWireText_eq_ok, parseEndpoint_eq_ok]
  constructor
  · intro ⟨_, _, workers, _, hworkersLt, hbytes, hworkers, calibration, _, hcalibrationLt, hmore,
      hcalibration, _, _, _, hmore2, reserved, _, _, hmore3, hreserved, _, _, _, hmore4,
      hlength, field, _, hfield, htail, text, ⟨htext, htextFits⟩, address, haddress, hport,
      source, ⟨hsource, hsourceFits⟩, hdetails, _⟩
    subst hdetails hsource htext hreserved hfield htail
    rw [List.length_append, Nat.add_left_cancel_iff, stringBytes_length] at hlength
    subst hlength
    have hworkersNat : (UInt64.ofNat workers).toNat = workers :=
      UInt64.toNat_ofNat_of_lt (by simp only [UInt64.size]; omega)
    have hcalibrationNat : (UInt64.ofNat calibration).toNat = calibration :=
      UInt64.toNat_ofNat_of_lt (by simp only [UInt64.size]; omega)
    refine ⟨text, haddress, ⟨rfl, hport, ?_, ?_, ?_, hsourceFits, htextFits⟩, ?_⟩
    · intro h
      exact hworkers (by rw [← hworkersNat, h]; rfl)
    · rw [hworkersNat]
      omega
    · intro h
      exact hcalibration (by rw [← hcalibrationNat, h]; rfl)
    · rw [hbytes, hmore, hmore2, hmore3, hmore4]
      simp only [layout, hworkersNat, hcalibrationNat,
        stringBytes_length, List.append_assoc]
  · intro ⟨text, hparses, hfits, hbytes⟩
    subst hbytes
    cases details with
    | receiver transferPort destinationRoot updateExisting => cases hfits.1
    | sender address source workers calibration =>
      obtain ⟨_, hport, hworkers, hworkersLt, hcalibration, hsource, htext⟩ := hfits
      have hsourceSize := hsource.2
      have htextSize := htext.2
      simp only [maxReceiverEndpointBytes, maxActivePathBytes] at hsourceSize htextSize
      have hcalibrationLt := calibration.toNat_lt
      refine ⟨[], ?_, workers.toNat, _, by omega, by
        simp only [layout, List.append_assoc], ?_,
        calibration.toNat, _, by omega, rfl, ?_, text.utf8ByteSize, _, by omega, rfl, 0, _,
        by omega, rfl, rfl, source.utf8ByteSize, stringBytes text ++ stringBytes source, by omega,
        rfl, ?_, stringBytes text,
        stringBytes source, stringBytes_length text, rfl, text, ⟨rfl, htext⟩, address, hparses, hport, source, ⟨rfl, hsource⟩, ?_, rfl⟩
      · simp [layout, senderDetailHeaderBytes]
        omega
      · intro h
        exact hworkers (UInt64.toNat_inj.mp h)
      · intro h
        exact hcalibration (UInt64.toNat_inj.mp h)
      · rw [List.length_append, stringBytes_length, stringBytes_length]
      · simp

theorem decodeReceiverDetails_eq_ok :
    (decodeReceiverDetails texts).run' bytes = .ok details ↔
      ∃ text, details.Parses texts text ∧ details.Fits text .receiver ∧
        bytes = details.layout text := by
  rw [run'_eq_ok]
  unfold decodeReceiverDetails
  simp only [run_need_bind, headerField_bind, run_check_bind, run_exactly_bind, run_lift_bind,
    run_takeAll_bind, run_pure_eq_ok, decodeWireText_eq_ok, flagOf_eq_ok]
  constructor
  · intro ⟨_, _, port, _, hportLt, hbytes, hport, _, _, _, hmore, updateExisting, hflag, reserved,
      _, _, hmore2, hreserved, _, _, _, hmore3, hlength, destination,
      ⟨hdestination, hdestinationFits⟩, hdetails, _⟩
    subst hdetails hdestination hreserved hlength hflag
    have hportNat : (UInt16.ofNat port).toNat = port := UInt16.toNat_ofNat_of_lt (by simp only [UInt16.size]; omega)
    refine ⟨"", rfl, ⟨rfl, ?_, hdestinationFits⟩, ?_⟩
    · intro h
      exact hport (by rw [← hportNat, h]; rfl)
    · rw [hbytes, hmore, hmore2, hmore3]
      simp only [layout, hportNat, stringBytes_length,
        List.append_assoc]
  · intro ⟨text, hparses, hfits, hbytes⟩
    subst hbytes
    cases details with
    | sender address source workers calibration => cases hfits.1
    | receiver port destination updateExisting =>
      obtain ⟨_, hport, hdestination⟩ := hfits
      have hdestinationSize := hdestination.2
      simp only [maxActivePathBytes] at hdestinationSize
      have hportLt := port.toNat_lt
      refine ⟨[], ?_, port.toNat, _, by omega, by
        simp only [layout, List.append_assoc], ?_,
        updateExisting.toNat, _, flag_lt updateExisting, rfl, updateExisting, rfl, 0, _,
        by omega, rfl, rfl, destination.utf8ByteSize, _, by omega, rfl, stringBytes_length _,
        destination, ⟨rfl, hdestination⟩, ?_, rfl⟩
      · simp [layout, receiverDetailHeaderBytes]
        omega
      · intro h
        exact hport (UInt16.toNat_inj.mp h)
      · simp

theorem decodeActiveDetails_eq_ok :
    decodeActiveDetails texts role bytes = .ok details ↔
      ∃ text, details.Parses texts text ∧ details.Fits text role ∧
        bytes = details.layout text := by
  cases role with
  | sender => exact decodeSenderDetails_eq_ok texts
  | receiver => exact decodeReceiverDetails_eq_ok texts

/-! ## The active job -/

theorem ManagementActiveJobDetails.layout_length {text : String}
    (hfits : details.Fits text role) :
    (details.layout text).length ≤ 20 + 128 + 32 * 1024 := by
  cases details with
  | sender address source workers calibration =>
    obtain ⟨_, _, _, _, _, hsource, htext⟩ := hfits
    have hsourceSize := hsource.2
    have htextSize := htext.2
    simp only [maxReceiverEndpointBytes, maxActivePathBytes] at hsourceSize htextSize
    simp only [layout, List.length_append, leBytes_length, stringBytes_length]
    omega
  | receiver port destination updateExisting =>
    have hdestinationSize := hfits.2.2.2
    simp only [maxActivePathBytes] at hdestinationSize
    simp only [layout, List.length_append, leBytes_length, stringBytes_length]
    omega

namespace ManagementActiveJobSnapshot

/-- The active job fits the format. -/
structure Fits (text : String) (active : ManagementActiveJobSnapshot) : Prop where
  jobId : active.jobId ≠ 0
  phase : TextFits active.phase maxPhaseBytes false
  details : active.details.Fits text active.role

/-- The bytes of an active job. -/
def layout (text : String) (active : ManagementActiveJobSnapshot) : List UInt8 :=
  leBytes 1 active.role.code ++ leBytes 1 active.cancelRequested.toNat ++
    leBytes 2 active.phase.utf8ByteSize ++ leBytes 8 active.jobId.toNat ++
    leBytes 8 active.completed.toNat ++ leBytes 8 active.total.toNat ++
    leBytes 4 (active.details.layout text).length ++ stringBytes active.phase ++
    active.details.layout text

end ManagementActiveJobSnapshot

variable {active : ManagementActiveJobSnapshot}

theorem encodeActive_eq_ok :
    encodeActive texts active = .ok bytes ↔
      active.Fits (active.details.endpoint texts) ∧
        bytes = active.layout (active.details.endpoint texts) := by
  unfold encodeActive
  simp only [bind_eq_ok, ensure_eq_ok, validateJobId_eq_ok, validateWireText_eq_ok,
    encodeActiveDetails_eq_ok, pure_eq_ok, Except.ok.injEq, exists_const]
  constructor
  · intro ⟨hjobId, hphase, _, details, ⟨hdetails, hlayout⟩, _, hbytes⟩
    subst hlayout
    refine ⟨⟨?_, hphase, hdetails⟩, hbytes.symm⟩
    intro h
    exact hjobId (by rw [h]; rfl)
  · intro ⟨hfits, hbytes⟩
    have hphaseSize := hfits.phase.2
    have hlength := layout_length hfits.details
    simp only [maxPhaseBytes] at hphaseSize
    refine ⟨?_, hfits.phase, by omega, _, ⟨hfits.details, rfl⟩, by omega, hbytes.symm⟩
    intro h
    exact hfits.jobId (UInt64.toNat_inj.mp h)

theorem decodeActive_eq_ok {bytes rest : List UInt8} :
    (decodeActive texts).run bytes = .ok (active, rest) ↔
      ∃ text, active.details.Parses texts text ∧ active.Fits text ∧
        bytes = active.layout text ++ rest := by
  unfold decodeActive
  simp only [run_need_bind, headerField_bind, run_take_bind, run_lift_bind, run_pure_eq_ok,
    decodeWireText_eq_ok, decodeActiveDetails_eq_ok, flagOf_eq_ok, invalidData_eq_ok,
    validateJobId_eq_ok, exists_const]
  constructor
  · intro ⟨_, roleCode, _, hroleLt, hbytes, role, hrole, _, _, _, hmore, cancelRequested, hcancel,
      _, _, _, hmore2, jobId, _, hjobIdLt, hmore3, hjobId, completed, _, hcompletedLt, hmore4,
      total, _, htotalLt, hmore5, _, _, _, hmore6, _, _, hphaseLength, hmore7, phase,
      ⟨hphase, hphaseFits⟩, _, _, hdetailsLength, hmore8, details, ⟨text, hparses, hfits, hlayout⟩,
      hactive, hrest⟩
    rw [roleOf_eq_ok hroleLt] at hrole
    subst hactive hlayout hphase hrole hcancel hphaseLength hdetailsLength hrest
    have hjobIdNat : (UInt64.ofNat jobId).toNat = jobId :=
      UInt64.toNat_ofNat_of_lt (by simp only [UInt64.size]; omega)
    have hcompletedNat : (UInt64.ofNat completed).toNat = completed :=
      UInt64.toNat_ofNat_of_lt (by simp only [UInt64.size]; omega)
    have htotalNat : (UInt64.ofNat total).toNat = total :=
      UInt64.toNat_ofNat_of_lt (by simp only [UInt64.size]; omega)
    refine ⟨text, hparses, ⟨?_, hphaseFits, hfits⟩, ?_⟩
    · intro h
      exact hjobId (hjobIdNat.symm.trans (congrArg UInt64.toNat h))
    · rw [hbytes, hmore, hmore2, hmore3, hmore4, hmore5, hmore6, hmore7, hmore8]
      simp only [ManagementActiveJobSnapshot.layout, hjobIdNat, hcompletedNat, htotalNat,
        stringBytes_length, List.append_assoc]
  · intro ⟨text, hparses, hfits, hbytes⟩
    subst hbytes
    have hphaseSize := hfits.phase.2
    have hlength := layout_length hfits.details
    have hjobIdLt := active.jobId.toNat_lt
    have hcompletedLt := active.completed.toNat_lt
    have htotalLt := active.total.toNat_lt
    simp only [maxPhaseBytes] at hphaseSize
    refine ⟨?_, active.role.code, _, role_lt _, by
      simp only [ManagementActiveJobSnapshot.layout, List.append_assoc], active.role,
      (roleOf_eq_ok (role_lt _)).mpr rfl, active.cancelRequested.toNat, _, flag_lt _, rfl,
      active.cancelRequested, rfl, active.phase.utf8ByteSize, _, by omega, rfl,
      active.jobId.toNat, _, by omega, rfl, ?_, active.completed.toNat, _, by omega, rfl,
      active.total.toNat, _, by omega, rfl, (active.details.layout text).length,
      stringBytes active.phase ++ (active.details.layout text ++ rest), by omega, rfl,
      stringBytes active.phase, active.details.layout text ++ rest, stringBytes_length _, rfl,
      active.phase, ⟨rfl, hfits.phase⟩, active.details.layout text, rest, rfl, rfl,
      active.details, ⟨text, hparses, hfits.details, rfl⟩, ?_, rfl⟩
    · simp [ManagementActiveJobSnapshot.layout, activeHeaderBytes]
      omega
    · intro h
      exact hfits.jobId (UInt64.toNat_inj.mp h)
    · simp

/-! ## The latest result -/

/-- The result fits the format. -/
def WireResultFits (result : ManagementJobResult) : Prop :=
  result.jobId ≠ 0 ∧ TextFits result.message maxMessageBytes true

/-- The bytes of a result. -/
def wireResultLayout (result : ManagementJobResult) : List UInt8 :=
  leBytes 1 result.role.code ++ leBytes 1 result.outcome.code ++
    leBytes 2 result.message.utf8ByteSize ++ leBytes 4 result.dataStreamCount ++
    leBytes 8 result.jobId ++ leBytes 8 result.files ++ leBytes 8 result.logicalBytes ++
    leBytes 8 result.wireBytes ++ stringBytes result.message

omit texts in
theorem encodeWireResult_eq_ok {result : ManagementJobResult} :
    encodeWireResult result = .ok bytes ↔
      WireResultFits result ∧ bytes = wireResultLayout result := by
  unfold encodeWireResult
  simp only [bind_eq_ok, ensure_eq_ok, validateJobId_eq_ok, validateWireText_eq_ok, pure_eq_ok,
    Except.ok.injEq, exists_const]
  constructor
  · intro ⟨hjobId, hmessage, _, hbytes⟩
    exact ⟨⟨hjobId, hmessage⟩, hbytes.symm⟩
  · intro ⟨⟨hjobId, hmessage⟩, hbytes⟩
    have hmessageSize := hmessage.2
    simp only [maxMessageBytes] at hmessageSize
    exact ⟨hjobId, hmessage, by omega, hbytes.symm⟩

theorem decodeWireResult_eq_ok {bytes rest : List UInt8}
    {result : { result : ManagementJobResult // result.Fits }} :
    (decodeWireResult texts).run bytes = .ok (result, rest) ↔
      WireResultFits result.val ∧ bytes = wireResultLayout result.val ++ rest := by
  unfold decodeWireResult
  simp only [run_need_bind, headerField_bind, run_take_bind, run_lift_bind, run_pure_eq_ok,
    decodeWireText_eq_ok, invalidData_eq_ok, validateJobId_eq_ok, exists_const]
  constructor
  · intro ⟨_, roleCode, _, hroleLt, hbytes, role, hrole, outcomeCode, _, houtcomeLt, hmore, outcome,
      houtcome, _, _, _, hmore2, streams, _, hstreamsLt, hmore3, jobId, _, hjobIdLt, hmore4,
      hjobId, files, _, hfilesLt, hmore5, logical, _, hlogicalLt, hmore6, wire, _, hwireLt,
      hmore7, _, _, hmessageLength, hmore8, message, ⟨hmessage, hmessageFits⟩, hresult, hrest⟩
    rw [roleOf_eq_ok hroleLt] at hrole
    rw [outcomeOf_eq_ok houtcomeLt] at houtcome
    subst hresult hmessage hrole houtcome hmessageLength hrest
    have hnat : ∀ value, value < 256 ^ 8 → (UInt64.ofNat value).toNat = value := by
      intro value hvalue
      exact UInt64.toNat_ofNat_of_lt (by simp only [UInt64.size]; omega)
    have hstreamsNat : (UInt32.ofNat streams).toNat = streams :=
      UInt32.toNat_ofNat_of_lt (by simp only [UInt32.size]; omega)
    refine ⟨⟨?_, hmessageFits⟩, ?_⟩
    · show (UInt64.ofNat jobId).toNat ≠ 0
      rw [hnat jobId hjobIdLt]
      exact hjobId
    · rw [hbytes, hmore, hmore2, hmore3, hmore4, hmore5, hmore6, hmore7, hmore8]
      simp only [wireResultLayout, hnat _ hjobIdLt, hnat _ hfilesLt, hnat _ hlogicalLt,
        hnat _ hwireLt, hstreamsNat, stringBytes_length, List.append_assoc]
  · intro ⟨hfits, hbytes⟩
    subst hbytes
    obtain ⟨result, hcounters⟩ := result
    have hmessageSize := hfits.2.2
    simp only [maxMessageBytes] at hmessageSize
    obtain ⟨hjobIdLt, hfilesLt, hlogicalLt, hwireLt, hstreamsLt⟩ := hcounters
    have hnat : ∀ value, value < 2 ^ 64 → (UInt64.ofNat value).toNat = value := by
      intro value hvalue
      exact UInt64.toNat_ofNat_of_lt (by simp only [UInt64.size]; omega)
    have hstreamsNat : (UInt32.ofNat result.dataStreamCount).toNat = result.dataStreamCount :=
      UInt32.toNat_ofNat_of_lt (by simp only [UInt32.size]; omega)
    refine ⟨?_, result.role.code, _, role_lt _, by
      simp only [wireResultLayout, List.append_assoc], result.role,
      (roleOf_eq_ok (role_lt _)).mpr rfl, result.outcome.code, _, outcome_lt _, rfl,
      result.outcome, (outcomeOf_eq_ok (outcome_lt _)).mpr rfl, result.message.utf8ByteSize, _,
      by omega, rfl, result.dataStreamCount, _, by omega, rfl, result.jobId, _, by omega, rfl,
      hfits.1, result.files, _, by omega, rfl, result.logicalBytes, _, by omega, rfl,
      result.wireBytes, stringBytes result.message ++ rest, by omega, rfl,
      stringBytes result.message, rest, stringBytes_length _, rfl, result.message,
      ⟨rfl, hfits.2⟩, ?_, rfl⟩
    · simp [wireResultLayout, resultHeaderBytes]
      omega
    · simp only [hnat _ hjobIdLt, hnat _ hfilesLt, hnat _ hlogicalLt,
        hnat _ hwireLt, hstreamsNat]

/-! ## The snapshot -/

namespace ManagementAgentSnapshot

/-- The text of the endpoint in a snapshot. -/
def endpoint (snapshot : ManagementAgentSnapshot) : String :=
  snapshot.active.elim "" fun active => active.details.endpoint texts

/-- The snapshot fits the format. -/
structure Fits (text : String) (snapshot : ManagementAgentSnapshot) : Prop where
  active : ∀ active ∈ snapshot.active, active.Fits text
  latestResult : ∀ result ∈ snapshot.latestResult, WireResultFits result.val

/-- A text of the endpoint that is read back. -/
def Parses (text : String) (snapshot : ManagementAgentSnapshot) : Prop :=
  ∀ active ∈ snapshot.active, active.details.Parses texts text

/-- The bytes of a snapshot. -/
def layout (text : String) (snapshot : ManagementAgentSnapshot) : List UInt8 :=
  leBytes 2 snapshotVersion ++
    leBytes 1 (snapshot.active.isSome.toNat + 2 * snapshot.latestResult.isSome.toNat) ++
    leBytes 1 0 ++ leBytes 16 snapshot.agentInstanceId.value ++
    snapshot.active.elim [] (fun active => active.layout text) ++
    snapshot.latestResult.elim [] fun result => wireResultLayout result.val

theorem layout_length {text : String} {snapshot : ManagementAgentSnapshot}
    (hfits : snapshot.Fits text) :
    (snapshot.layout text).length ≤ maxManagementPayloadBytes := by
  have hactive : (snapshot.active.elim [] fun active => active.layout text).length ≤ 40000 := by
    cases hactive : snapshot.active with
    | none => exact Nat.zero_le _
    | some active =>
      have hfound := hfits.active active hactive
      have hphaseSize := hfound.phase.2
      have hlength := ManagementActiveJobDetails.layout_length hfound.details
      simp only [maxPhaseBytes] at hphaseSize
      simp only [Option.elim_some, ManagementActiveJobSnapshot.layout, List.length_append,
        leBytes_length, stringBytes_length]
      omega
  have hresult : (snapshot.latestResult.elim [] fun result =>
      wireResultLayout result.val).length ≤ 5000 := by
    cases hresult : snapshot.latestResult with
    | none => exact Nat.zero_le _
    | some result =>
      have hmessageSize := (hfits.latestResult result hresult).2.2
      simp only [maxMessageBytes] at hmessageSize
      simp only [Option.elim_some, wireResultLayout, List.length_append, leBytes_length,
        stringBytes_length]
      omega
  simp only [layout, List.length_append, leBytes_length, maxManagementPayloadBytes]
  omega

end ManagementAgentSnapshot

variable {snapshot : ManagementAgentSnapshot}

/-- A snapshot is encoded exactly when its texts and numbers fit. -/
theorem encodeSnapshot_eq_ok :
    encodeSnapshot texts snapshot = .ok bytes ↔
      snapshot.Fits (snapshot.endpoint texts) ∧
        bytes = snapshot.layout (snapshot.endpoint texts) := by
  obtain ⟨instanceId, active, latestResult⟩ := snapshot
  unfold encodeSnapshot
  simp only [bind_eq_ok, ensure_eq_ok, pure_eq_ok, Except.ok.injEq, exists_const]
  have hactive : ∀ bytes, encodeOption (encodeActive texts) active = .ok bytes ↔
      (∀ found ∈ active, found.Fits (active.elim "" fun active => active.details.endpoint texts)) ∧
        bytes = active.elim [] fun found =>
          found.layout (active.elim "" fun active => active.details.endpoint texts) := by
    intro bytes
    cases active with
    | none => simp [encodeOption, eq_comm]
    | some found => simpa [encodeOption] using encodeActive_eq_ok texts
  have hresult : ∀ bytes, encodeOption (fun result : { result : ManagementJobResult //
      result.Fits } => encodeWireResult result.val) latestResult = .ok bytes ↔
      (∀ result ∈ latestResult, WireResultFits result.val) ∧
        bytes = latestResult.elim [] fun result => wireResultLayout result.val := by
    intro bytes
    cases latestResult with
    | none => simp [encodeOption, eq_comm]
    | some found => simpa [encodeOption] using encodeWireResult_eq_ok
  constructor
  · intro ⟨activeBytes, hactiveBytes, resultBytes, hresultBytes, _, hbytes⟩
    obtain ⟨hactiveFits, hactiveLayout⟩ := (hactive _).mp hactiveBytes
    obtain ⟨hresultFits, hresultLayout⟩ := (hresult _).mp hresultBytes
    subst hactiveLayout hresultLayout
    exact ⟨⟨hactiveFits, hresultFits⟩, hbytes.symm⟩
  · intro ⟨hfits, hbytes⟩
    have hlength := ManagementAgentSnapshot.layout_length hfits
    exact ⟨_, (hactive _).mpr ⟨hfits.active, rfl⟩, _, (hresult _).mpr ⟨hfits.latestResult, rfl⟩,
      hlength, hbytes.symm⟩

theorem decodeOption_bind {α β : Type} {present : Bool} {decode : ByteReader IoError α}
    {f : Option α → ByteReader IoError β} {bytes rest : List UInt8} {value : β} :
    (decodeOption present decode >>= f).run bytes = .ok (value, rest) ↔
      ∃ found more, (if present then ∃ a, found = some a ∧ decode.run bytes = .ok (a, more)
        else found = none ∧ more = bytes) ∧ (f found).run more = .ok (value, rest) := by
  rw [run_bind_eq_ok]
  cases present with
  | false =>
    simp only [decodeOption, Bool.false_eq_true, if_false, run_pure_eq_ok]
  | true =>
    simp only [decodeOption, if_true, run_bind_eq_ok, run_pure_eq_ok]
    constructor
    · intro ⟨found, more, ⟨a, middle, hdecode, hfound, hmore⟩, hnext⟩
      exact ⟨found, more, ⟨a, hfound, hmore ▸ hdecode⟩, hnext⟩
    · intro ⟨found, more, ⟨a, hfound, hdecode⟩, hnext⟩
      exact ⟨found, more, ⟨a, more, hdecode, hfound, rfl⟩, hnext⟩

theorem fromRaw_eq_some {id : AgentInstanceId} (hvalue : value < 256 ^ 16) :
    AgentInstanceId.fromRaw value = some id ↔ value = id.value := by
  unfold AgentInstanceId.fromRaw
  constructor
  · intro h
    split at h
    · cases h
      rfl
    · cases h
  · intro h
    subst h
    rw [dif_pos ⟨id.pos, id.lt⟩]

theorem active_section {present : Bool} {found : Option ManagementActiveJobSnapshot}
    {bytes more : List UInt8} :
    (if present then ∃ a, found = some a ∧ (decodeActive texts).run bytes = .ok (a, more)
      else found = none ∧ more = bytes) ↔
      present = found.isSome ∧ ∃ text, (∀ active ∈ found, active.details.Parses texts text) ∧
        (∀ active ∈ found, active.Fits text) ∧
        bytes = found.elim [] (fun active => active.layout text) ++ more := by
  cases present with
  | false =>
    cases found with
    | none => simp [eq_comm]
    | some active => simp
  | true =>
    cases found with
    | none => simp
    | some active => simp [decodeActive_eq_ok]

theorem result_section {present : Bool}
    {found : Option { result : ManagementJobResult // result.Fits }} {bytes more : List UInt8} :
    (if present then ∃ a, found = some a ∧ (decodeWireResult texts).run bytes = .ok (a, more)
      else found = none ∧ more = bytes) ↔
      present = found.isSome ∧ (∀ result ∈ found, WireResultFits result.val) ∧
        bytes = found.elim [] (fun result => wireResultLayout result.val) ++ more := by
  cases present with
  | false =>
    cases found with
    | none => simp [eq_comm]
    | some result => simp
  | true =>
    cases found with
    | none => simp
    | some result => simp [decodeWireResult_eq_ok]

/-- The two presence flags in one byte. -/
theorem flags_eq {flags : Nat} {active latestResult : Bool} (hflags : flags < 4) :
    (decide (flags % 2 = 1) = active ∧ decide (flags / 2 = 1) = latestResult) ↔
      flags = active.toNat + 2 * latestResult.toNat := by
  cases active <;> cases latestResult <;> simp <;> omega

/-- What the decoder accepts is the layout of a snapshot that fits. -/
theorem readSnapshot_eq_ok {bytes rest : List UInt8} :
    (readSnapshot texts).run bytes = .ok (snapshot, rest) ↔ rest = [] ∧
      ∃ text, snapshot.Parses texts text ∧ snapshot.Fits text ∧ bytes = snapshot.layout text := by
  unfold readSnapshot
  simp only [run_need_bind, headerField_bind, run_check_bind, run_lift_bind, run_exactly_bind,
    run_pure_eq_ok, okOrElse_eq_ok, decodeOption_bind, active_section, result_section]
  constructor
  · intro ⟨_, version, _, _, hbytes, hversion, flags, _, _, hmore, hflags, reserved, _, _,
      hmore2, hreserved, instanceId, _, hinstanceLt, hmore3, id, hid, active, _,
      ⟨hactive, text, hparses, hfits, hmore4⟩, latestResult, left, ⟨hresult, hresultFits, hmore5⟩,
      hleft, hsnapshot, hrest⟩
    rw [fromRaw_eq_some hinstanceLt] at hid
    have hflagsEq := (flags_eq hflags).mp ⟨hactive, hresult⟩
    have hnil := List.eq_nil_of_length_eq_zero hleft
    subst hsnapshot hid hversion hreserved hflagsEq hnil
    refine ⟨hrest, text, hparses, ⟨hfits, hresultFits⟩, ?_⟩
    rw [hbytes, hmore, hmore2, hmore3, hmore4, hmore5]
    simp only [ManagementAgentSnapshot.layout, List.append_assoc, List.append_nil]
  · intro ⟨hrest, text, hparses, hfits, hbytes⟩
    subst hbytes
    obtain ⟨id, active, latestResult⟩ := snapshot
    have hflags : active.isSome.toNat + 2 * latestResult.isSome.toNat < 4 := by
      cases active.isSome <;> cases latestResult.isSome <;> decide
    obtain ⟨hactive, hresult⟩ := (flags_eq hflags).mpr rfl
    have hidLt := id.lt
    refine ⟨?_, snapshotVersion, _, by decide, by
      simp only [ManagementAgentSnapshot.layout, List.append_assoc], rfl,
      active.isSome.toNat + 2 * latestResult.isSome.toNat, _, by omega, rfl, hflags, 0, _,
      by decide, rfl, rfl, id.value, _, by omega, rfl, id,
      (fromRaw_eq_some (by omega)).mpr rfl, active, _,
      ⟨hactive, text, hparses, hfits.active, rfl⟩, latestResult, [],
      ⟨hresult, hfits.latestResult, (List.append_nil _).symm⟩, rfl, rfl, hrest⟩
    simp [ManagementAgentSnapshot.layout, snapshotHeaderBytes]
    omega

theorem decodeSnapshot_eq_ok :
    decodeSnapshot texts bytes = .ok snapshot ↔
      ∃ text, snapshot.Parses texts text ∧ snapshot.Fits text ∧ bytes = snapshot.layout text := by
  unfold decodeSnapshot
  rw [run'_eq_ok]
  simp only [readSnapshot_eq_ok, exists_eq_left]

end

end NetworkCopy
