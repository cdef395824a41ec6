import NetworkCopy.Management.ControlCodecs
import NetworkCopy.Session.ControlArrival

/-!
# Assembling a session

`accept_session` of `multistream_copy.rs` with the handshake of `control_plane.rs`.  The connections
of a session are accepted one after the other, the control connection first, and each data
connection says in its handshake which lane it is.  The session is assembled exactly when every lane
said so once, and its data streams are then in the order of the lanes, whatever the order in which
the connections came.
-/

namespace NetworkCopy

open Duplex ByteOrder

/-! ## Handshakes -/

/-- `write_u16`. -/
def writeU16 (value : Nat) : Party Unit := Proc.write (beBytes 2 value)

/-- `read_u16`. -/
def readU16 : Party Nat := do
  let bytes ← Proc.read 2
  return beValue bytes

/-- `PROTOCOL_MAGIC`. -/
def protocolMagic : Bytes := [0x4E, 0x43, 0x53, 0x34]

/-- `PROTOCOL_VERSION`. -/
def protocolVersion : Nat := 15

/-- `ROLE_CONTROL`. -/
def roleControl : UInt8 := 1

/-- `ROLE_DATA`. -/
def roleData : UInt8 := 2

/-- `MAX_DATA_STREAMS`. -/
def maxDataStreams : Nat := 32

/-- `ConnectionRole`. -/
inductive ConnectionRole where
  | control
  | data
  deriving DecidableEq

/-- `Handshake`. -/
structure Handshake where
  role : ConnectionRole
  sessionId : Nat
  streamId : Nat
  streamCount : Nat
  deriving DecidableEq

/-- The byte of a role. -/
def ConnectionRole.byte : ConnectionRole → UInt8
  | .control => roleControl
  | .data => roleData

/-- `write_handshake`. -/
def writeHandshake (handshake : Handshake) : Party Unit := do
  Proc.write protocolMagic
  writeU16 protocolVersion
  writeU8 handshake.role.byte
  writeU8 0
  writeU64 handshake.sessionId
  writeU32 handshake.streamId
  writeU32 handshake.streamCount

/-- The role of a byte. -/
def ConnectionRole.ofByte (byte : UInt8) : IoResult ConnectionRole :=
  if byte = roleControl then .ok .control
  else if byte = roleData then .ok .data
  else .error (.invalidData s!"unknown connection role {byte}")

/-- `read_handshake`. -/
def readHandshake : Party Handshake := do
  let magic ← Proc.read 4
  attempt .protocol (ensure (magic = protocolMagic)
    (.invalidData "connection used an invalid protocol magic"))
  let version ← readU16
  attempt .protocol (ensure (version = protocolVersion)
    (.invalidData (s!"unsupported NetworkCopy wire protocol version {version}; this build " ++
      s!"requires version {protocolVersion}")))
  let byte ← readU8
  let role ← attempt .protocol (ConnectionRole.ofByte byte)
  let reserved ← readU8
  attempt .protocol (ensure (reserved = 0)
    (.invalidData "handshake reserved byte was not zero"))
  let sessionId ← readU64
  let streamId ← readU32
  let streamCount ← readU32
  return { role, sessionId, streamId, streamCount }

/-- `validate_data_stream_count`. -/
def validateDataStreamCount (dataStreamCount : Nat) : IoResult Unit :=
  ensure (1 ≤ dataStreamCount ∧ dataStreamCount ≤ maxDataStreams)
    (.invalidInput s!"data stream count must be between 1 and {maxDataStreams}")

/-! ## Connections -/

/-- A `TcpStream`: who is at the other end, and what the receiver has not read yet. -/
structure TcpStream (Peer : Type) where
  peer : Peer
  incoming : Bytes
  deriving DecidableEq

/-- How the assembly ends without a session.  It waits when no further connection comes. -/
inductive SessionEnd where
  | waiting
  | failed (error : IoError)
  deriving DecidableEq

/-- A result of the session. -/
def orFail {α : Type} (result : IoResult α) : Except SessionEnd α := result.mapError .failed

variable {Peer Address : Type}

/-- What a party reports. -/
def Fault.error : Fault → IoError
  | .disk error => error
  | .refused error => error
  | .protocol error => error

/-- A reader at the front of a stream. -/
def TcpStream.read {α : Type} (stream : TcpStream Peer) (reader : Party α) :
    Except SessionEnd (α × TcpStream Peer) :=
  match reader.readFrom stream.incoming with
  | .done value rest => .ok (value, { stream with incoming := rest })
  | .failed fault => .error (.failed fault.error)
  | .short => .error (.failed failedToFillWholeBuffer)

/-- `accept_with_progress` and `configure_stream`, whose outcomes are given one after the other. -/
def acceptConfigured :
    List (IoResult (TcpStream Peer)) →
      Except SessionEnd (TcpStream Peer × List (IoResult (TcpStream Peer)))
  | [] => .error .waiting
  | .error error :: _ => .error (.failed error)
  | .ok stream :: arrivals => .ok (stream, arrivals)

/-- `AcceptedSession`. -/
structure AcceptedSession where
  sessionId : Nat
  dataStreamCount : Nat
  sourceDirectoryName : Option SourceDirectoryName
  desktopLayout : Option DesktopLayoutSnapshot

/-- `slot.replace(stream)` at a stream ID, which must have a slot, and a free one. -/
def fillSlot (slots : List (Option (TcpStream Peer))) (streamId : Nat)
    (stream : TcpStream Peer) : IoResult (List (Option (TcpStream Peer))) := do
  let slot ← okOrElse slots[streamId]?
    (.invalidData "data stream ID is outside the negotiated range")
  ensure (slot.isNone) ⟨.alreadyExists, "duplicate data stream ID", none⟩
  return slots.set streamId (some stream)

/-- The loop over the data connections of a session. -/
def acceptDataStreams (control : Handshake) :
    Nat → List (Option (TcpStream Peer)) → List (IoResult (TcpStream Peer)) →
      Except SessionEnd (List (Option (TcpStream Peer)))
  | 0, slots, _ => .ok slots
  | count + 1, slots, arrivals => do
      let (stream, arrivals) ← acceptConfigured arrivals
      let (handshake, stream) ← stream.read readHandshake
      orFail (ensure (handshake.role = .data)
        (.invalidData "additional session connection must be a data connection"))
      orFail (ensure (handshake.sessionId = control.sessionId)
        (.invalidData "connection used an incorrect session ID"))
      orFail (ensure (handshake.streamCount = control.streamCount)
        (.invalidData "connection used an incorrect stream count"))
      let slots ← orFail (fillSlot slots handshake.streamId stream)
      acceptDataStreams control count slots arrivals

/-- The error of a slot that is not filled. -/
def notEstablished (streamId : Nat) : IoError :=
  ⟨.notConnected, s!"data stream {streamId} was not established", none⟩

/-- The streams of the slots, all of which must be filled. -/
def orderedStreams (slots : List (Option (TcpStream Peer))) : IoResult (List (TcpStream Peer)) :=
  slots.zipIdx.mapM fun pair => okOrElse pair.1 (notEstablished pair.2)

/-- `accept_session`. -/
def acceptSession (texts : TextSupport Address) (arrivals : List (IoResult (TcpStream Peer))) :
    Except SessionEnd (TcpStream Peer × List (TcpStream Peer) × AcceptedSession) := do
  let (controlStream, arrivals) ← acceptConfigured arrivals
  let (handshake, controlStream) ← controlStream.read readHandshake
  orFail (ensure (handshake.role = .control)
    (.invalidData "first session connection must be the control connection"))
  orFail (ensure (handshake.streamId = 0) (.invalidData "control stream used a nonzero ID"))
  let (sourceDirectoryName, controlStream) ← controlStream.read (readSourceDirectoryName texts)
  let (desktopLayout, controlStream) ← controlStream.read (readDesktopLayoutMetadata texts)
  orFail (validateDataStreamCount handshake.streamCount)
  let slots ← acceptDataStreams handshake handshake.streamCount
    (List.replicate handshake.streamCount none) arrivals
  let dataStreams ← orFail (orderedStreams slots)
  return (controlStream, dataStreams, {
    sessionId := handshake.sessionId, dataStreamCount := handshake.streamCount
    sourceDirectoryName, desktopLayout })

/-! ## What a handshake is -/

/-- The fields have the types of the source. -/
structure Handshake.Typed (handshake : Handshake) : Prop where
  session : handshake.sessionId < 2 ^ 64
  stream : handshake.streamId < 2 ^ 32
  count : handshake.streamCount < 2 ^ 32

/-- The bytes of a handshake. -/
def handshakeBytes (handshake : Handshake) : Bytes :=
  protocolMagic ++ (beBytes 2 protocolVersion ++ ([handshake.role.byte] ++ ([0] ++
    (beBytes 8 handshake.sessionId ++ (beBytes 4 handshake.streamId ++
      beBytes 4 handshake.streamCount)))))

theorem emits_writeHandshake_bind {handshake : Handshake} {f : Unit → Party Unit} {w : Bytes} :
    Emits (writeHandshake handshake >>= f) w (.ok ()) ↔
      ∃ rest, Emits (f ()) rest (.ok ()) ∧ w = handshakeBytes handshake ++ rest := by
  unfold writeHandshake writeU16 writeU8 writeU64 writeU32 handshakeBytes
  simp only [bind_assoc, emits_write_bind]
  constructor
  · intro ⟨_, ⟨_, ⟨_, ⟨_, ⟨_, ⟨_, ⟨rest, h, e7⟩, e6⟩, e5⟩, e4⟩, e3⟩, e2⟩, e1⟩
    refine ⟨rest, h, ?_⟩
    rw [e1, e2, e3, e4, e5, e6, e7]
    simp only [List.append_assoc]
  · intro ⟨rest, h, hw⟩
    refine ⟨_, ⟨_, ⟨_, ⟨_, ⟨_, ⟨_, ⟨rest, h, rfl⟩, rfl⟩, rfl⟩, rfl⟩, rfl⟩, rfl⟩, ?_⟩
    rw [hw]
    simp only [List.append_assoc]

theorem emits_writeHandshake {handshake : Handshake} {w : Bytes} :
    Emits (writeHandshake handshake) w (.ok ()) ↔ w = handshakeBytes handshake := by
  have hbind : writeHandshake handshake = writeHandshake handshake >>= fun u => .ret u :=
    (bind_pure _).symm
  rw [hbind, emits_writeHandshake_bind]
  simp only [emits_ret, and_true, exists_eq_left, List.append_nil]

theorem ConnectionRole.ofByte_eq_ok {byte : UInt8} {role : ConnectionRole} :
    ConnectionRole.ofByte byte = .ok role ↔ byte = role.byte := by
  unfold ConnectionRole.ofByte
  constructor
  · intro h
    split at h
    · cases h
      exact ‹_›
    · split at h
      · cases h
        exact ‹_›
      · cases h
  · intro h
    rw [h]
    cases role <;> rfl

theorem parses_readU16_bind {β : Type} {g : Nat → Party β} {w : Bytes} {b : β} :
    Parses (readU16 >>= g) w b ↔
      ∃ value rest, value < 256 ^ 2 ∧ Parses (g value) rest b ∧ w = beBytes 2 value ++ rest :=
  parses_uint_bind

theorem parses_readHandshake {handshake : Handshake} {w : Bytes} :
    Parses readHandshake w handshake ↔ handshake.Typed ∧ w = handshakeBytes handshake := by
  unfold readHandshake handshakeBytes
  simp only [parses_read_bind, parses_readU16_bind, parses_readU8_bind, parses_attempt_bind,
    ensure_eq_ok, exists_const, ConnectionRole.ofByte_eq_ok, parses_readU64_bind,
    parses_readU32_bind, Proc.pure_eq_ret, parses_ret]
  constructor
  · intro ⟨magic, _, _, ⟨hmagic, version, _, _, ⟨hversion, byte, _, ⟨role, hrole, reserved, _,
      ⟨hreserved, sessionId, _, hsession, ⟨streamId, _, hstream, ⟨count, _, hcount,
        ⟨hnil, hhandshake⟩, e7⟩, e6⟩, e5⟩, e4⟩, e3⟩, e2⟩, e1⟩
    rw [hhandshake]
    refine ⟨⟨?_, ?_, ?_⟩, ?_⟩
    · show sessionId < 2 ^ 64
      omega
    · show streamId < 2 ^ 32
      omega
    · show count < 2 ^ 32
      omega
    · rw [e1, e2, e3, e4, e5, e6, e7, hnil, hmagic, hversion, hrole, hreserved, List.append_nil]
  · intro ⟨⟨hsession, hstream, hcount⟩, hw⟩
    refine ⟨protocolMagic, _, rfl, ⟨rfl, protocolVersion, _, by decide, ⟨rfl, _, _, ⟨_, rfl, _, _,
      ⟨rfl, _, _, by omega, ⟨_, _, by omega, ⟨_, [], by omega, ⟨rfl, rfl⟩, rfl⟩, rfl⟩, rfl⟩,
        rfl⟩, rfl⟩, rfl⟩, ?_⟩
    rw [hw, List.append_nil]

theorem silent_attempt_bind {α β : Type} {kind : IoError → Fault} {result : IoResult α}
    {f : α → Party β} (h : ∀ a, (f a).Silent) : (attempt kind result >>= f).Silent :=
  (Proc.Silent.lift _).bind h

theorem silent_read_bind {β : Type} {count : Nat} {f : Bytes → Party β}
    (h : ∀ bytes, (f bytes).Silent) : (Proc.read count >>= f).Silent :=
  (Proc.Silent.read count).bind h

theorem silent_readHandshake : readHandshake.Silent := by
  unfold readHandshake readU16 readU8 readU64 readU32
  simp only [bind_assoc]
  refine silent_read_bind fun _ => silent_attempt_bind fun _ => silent_read_bind fun _ => ?_
  refine silent_attempt_bind fun _ => silent_read_bind fun _ => silent_attempt_bind fun _ => ?_
  refine silent_read_bind fun _ => silent_attempt_bind fun _ => silent_read_bind fun _ => ?_
  exact silent_read_bind fun _ => silent_read_bind fun _ => .ret _

theorem silent_readBlock {α : Type} {message : UInt8} {limit : Nat} {expected : String}
    {exceeds : Nat → String} {decode : Bytes → IoResult α} :
    (readBlock message limit expected exceeds decode).Silent := by
  unfold readBlock readU8 readU32
  simp only [bind_assoc]
  refine silent_read_bind fun _ => silent_attempt_bind fun _ => silent_read_bind fun _ => ?_
  refine silent_attempt_bind fun _ => ?_
  split
  · exact .ret _
  · exact silent_read_bind fun _ => silent_attempt_bind fun _ => .ret _

theorem silent_readSourceDirectoryName (texts : TextSupport Address) :
    (readSourceDirectoryName texts).Silent := silent_readBlock

theorem silent_readDesktopLayoutMetadata (texts : TextSupport Address) :
    (readDesktopLayoutMetadata texts).Silent := silent_readBlock

/-! ## Streams -/

/-- A stream with these bytes before what it has. -/
def TcpStream.behind (stream : TcpStream Peer) (bytes : Bytes) : TcpStream Peer :=
  { stream with incoming := bytes ++ stream.incoming }

theorem TcpStream.behind_behind (stream : TcpStream Peer) (first second : Bytes) :
    (stream.behind second).behind first = stream.behind (first ++ second) := by
  simp only [TcpStream.behind, List.append_assoc]

theorem TcpStream.read_eq_ok {α : Type} {reader : Party α} (hsilent : reader.Silent)
    {stream stream' : TcpStream Peer} {value : α} :
    stream.read reader = .ok (value, stream') ↔
      ∃ w, stream = stream'.behind w ∧ Parses reader w value := by
  have hdone : stream.read reader = .ok (value, stream') ↔ stream'.peer = stream.peer ∧
      reader.readFrom stream.incoming = .done value stream'.incoming := by
    unfold TcpStream.read
    obtain ⟨peer', incoming'⟩ := stream'
    split
    · rename_i found rest hread
      rw [hread]
      simp only [Except.ok.injEq, Prod.mk.injEq, TcpStream.mk.injEq, ReadEnd.done.injEq]
      constructor
      · intro ⟨hvalue, hpeer, hrest⟩
        exact ⟨hpeer.symm, hvalue, hrest⟩
      · intro ⟨hpeer, hvalue, hrest⟩
        exact ⟨hvalue, hpeer.symm, hrest⟩
    · simp_all
    · simp_all
  rw [hdone, hsilent.readFrom_eq_done, reads_iff]
  constructor
  · intro ⟨hpeer, w, hincoming, hparses⟩
    refine ⟨w, ?_, hparses⟩
    rw [TcpStream.behind, hpeer, ← hincoming]
  · intro ⟨w, hstream, hparses⟩
    rw [hstream]
    exact ⟨rfl, w, rfl, hparses⟩

/-- A stream and what was read from it, as a pair. -/
theorem read_bind_eq_ok {α β : Type} {reader : Party α} (hsilent : reader.Silent)
    {stream : TcpStream Peer} {f : α × TcpStream Peer → Except SessionEnd β} {b : β} :
    (stream.read reader >>= f) = .ok b ↔
      ∃ value stream', (∃ w, stream = stream'.behind w ∧ Parses reader w value) ∧
        f (value, stream') = .ok b := by
  simp only [← TcpStream.read_eq_ok hsilent]
  cases hread : stream.read reader with
  | error e =>
    constructor
    · intro h
      cases h
    · intro ⟨_, _, h, _⟩
      cases h
  | ok found =>
    constructor
    · intro h
      exact ⟨found.1, found.2, rfl, h⟩
    · intro ⟨value, stream', hfound, h⟩
      cases hfound
      exact h

theorem orFail_eq_ok {α : Type} {result : IoResult α} {value : α} :
    orFail result = .ok value ↔ result = .ok value := mapError_eq_ok

theorem orFail_bind_eq_ok {α β : Type} {result : IoResult α} {f : α → Except SessionEnd β} {b : β} :
    (orFail result >>= f) = .ok b ↔ ∃ value, result = .ok value ∧ f value = .ok b := by
  cases result with
  | ok value => simp [orFail, Except.mapError, bind, Except.bind]
  | error error => simp [orFail, Except.mapError, bind, Except.bind]

theorem acceptConfigured_bind_eq_ok {β : Type} {arrivals : List (IoResult (TcpStream Peer))}
    {f : TcpStream Peer × List (IoResult (TcpStream Peer)) → Except SessionEnd β} {b : β} :
    (acceptConfigured arrivals >>= f) = .ok b ↔
      ∃ stream rest, arrivals = .ok stream :: rest ∧ f (stream, rest) = .ok b := by
  cases arrivals with
  | nil =>
    constructor
    · intro h
      cases h
    · intro ⟨_, _, h, _⟩
      cases h
  | cons arrival others =>
    cases arrival with
    | error e =>
      constructor
      · intro h
        cases h
      · intro ⟨_, _, h, _⟩
        cases h
    | ok stream =>
      constructor
      · intro h
        exact ⟨stream, others, rfl, h⟩
      · intro ⟨_, _, hsame, h⟩
        cases hsame
        exact h

/-! ## Slots -/

variable {lanes : List (Nat × TcpStream Peer)} {slots : List (Option (TcpStream Peer))}

theorem fillSlot_eq_ok {slots slots' : List (Option (TcpStream Peer))} {streamId : Nat}
    {stream : TcpStream Peer} :
    fillSlot slots streamId stream = .ok slots' ↔
      slots[streamId]? = some none ∧ slots' = slots.set streamId (some stream) := by
  unfold fillSlot
  simp only [bind_eq_ok, okOrElse_eq_ok, ensure_eq_ok, exists_const, pure_eq_ok, Except.ok.injEq]
  constructor
  · intro ⟨slot, hslot, hnone, hsame⟩
    rw [Option.isNone_iff_eq_none.mp hnone] at hslot
    exact ⟨hslot, hsame.symm⟩
  · intro ⟨hslot, hsame⟩
    exact ⟨none, hslot, rfl, hsame.symm⟩

/-- Fill the slots of streams. -/
def fillAll (slots : List (Option (TcpStream Peer))) (lanes : List (Nat × TcpStream Peer)) :
    List (Option (TcpStream Peer)) :=
  lanes.foldl (fun slots lane => slots.set lane.1 (some lane.2)) slots

/-- The streams have different free slots. -/
def Fillable (slots : List (Option (TcpStream Peer))) (lanes : List (Nat × TcpStream Peer)) :
    Prop :=
  (lanes.map Prod.fst).Nodup ∧ ∀ lane ∈ lanes, slots[lane.1]? = some none

theorem fillable_cons {lane : Nat × TcpStream Peer} :
    Fillable slots (lane :: lanes) ↔
      slots[lane.1]? = some none ∧ Fillable (slots.set lane.1 (some lane.2)) lanes := by
  unfold Fillable
  rw [List.map_cons, List.nodup_cons, List.forall_mem_cons]
  constructor
  · intro ⟨⟨hnew, hnodup⟩, hfree, hothers⟩
    refine ⟨hfree, hnodup, ?_⟩
    intro other hother
    have hne : lane.1 ≠ other.1 := by
      intro hsame
      exact hnew (hsame ▸ List.mem_map_of_mem hother)
    rw [List.getElem?_set_ne hne]
    exact hothers other hother
  · intro ⟨hfree, hnodup, hothers⟩
    have hkept : ∀ other ∈ lanes, lane.1 ≠ other.1 ∧ slots[other.1]? = some none := by
      intro other hother
      have hslot := hothers other hother
      by_cases hsame : lane.1 = other.1
      · rw [← hsame, List.getElem?_set_self (List.getElem?_eq_some_iff.mp hfree).1] at hslot
        cases hslot
      · rw [List.getElem?_set_ne hsame] at hslot
        exact ⟨hsame, hslot⟩
    refine ⟨⟨?_, hnodup⟩, hfree, fun other hother => (hkept other hother).2⟩
    intro hmem
    obtain ⟨other, hother, hsame⟩ := List.mem_map.mp hmem
    exact (hkept other hother).1 hsame.symm

theorem length_fillAll :
    ∀ {slots : List (Option (TcpStream Peer))}, (fillAll slots lanes).length = slots.length := by
  induction lanes with
  | nil => exact rfl
  | cons lane rest ih =>
    intro slots
    exact ih.trans List.length_set

theorem getElem?_fillAll_of_notMem {streamId : Nat} (h : streamId ∉ lanes.map Prod.fst) :
    ∀ {slots : List (Option (TcpStream Peer))}, (fillAll slots lanes)[streamId]? = slots[streamId]? := by
  induction lanes with
  | nil => exact rfl
  | cons lane rest ih =>
    intro slots
    rw [List.map_cons, List.mem_cons, not_or] at h
    exact (ih h.2).trans (List.getElem?_set_ne (Ne.symm h.1))

theorem getElem?_fillAll :
    ∀ {slots : List (Option (TcpStream Peer))}, Fillable slots lanes → ∀ lane ∈ lanes,
      (fillAll slots lanes)[lane.1]? = some (some lane.2) := by
  induction lanes with
  | nil => exact fun _ _ hmem => nomatch hmem
  | cons first rest ih =>
    intro slots hfillable lane hmem
    have hnodup := (List.nodup_cons.mp hfillable.1).1
    have hfree := hfillable.2 first List.mem_cons_self
    cases List.mem_cons.mp hmem with
    | inl hsame =>
      rw [hsame]
      refine (getElem?_fillAll_of_notMem hnodup).trans ?_
      exact List.getElem?_set_self (List.getElem?_eq_some_iff.mp hfree).1
    | inr hrest => exact ih (fillable_cons.mp hfillable).2 lane hrest

/-- The slots are the streams when each has one. -/
theorem exists_eq_map_some (h : ∀ slot ∈ slots, slot ≠ none) :
    ∃ streams : List (TcpStream Peer), slots = streams.map some := by
  induction slots with
  | nil => exact ⟨[], rfl⟩
  | cons slot rest ih =>
    obtain ⟨streams, hstreams⟩ := ih fun other hother => h other (List.mem_cons_of_mem _ hother)
    cases slot with
    | none => exact absurd rfl (h none List.mem_cons_self)
    | some stream => exact ⟨stream :: streams, by rw [hstreams, List.map_cons]⟩

theorem orderedStreams_eq_ok {streams : List (TcpStream Peer)} :
    orderedStreams slots = .ok streams ↔ slots = streams.map some := by
  have hfrom : ∀ (slots : List (Option (TcpStream Peer))) (start : Nat)
      (streams : List (TcpStream Peer)),
      (slots.zipIdx start).mapM (fun pair : Option (TcpStream Peer) × Nat =>
        okOrElse pair.1 (notEstablished pair.2)) = .ok streams ↔ slots = streams.map some := by
    intro slots
    induction slots with
    | nil =>
      intro start streams
      cases streams <;> simp [pure, Except.pure]
    | cons slot rest ih =>
      intro start streams
      rw [List.zipIdx_cons, List.mapM_cons]
      simp only [bind_eq_ok, okOrElse_eq_ok, ih, pure_eq_ok, Except.ok.injEq]
      constructor
      · intro ⟨stream, hslot, others, hothers, hsame⟩
        rw [← hsame, hslot, hothers, List.map_cons]
      · intro h
        cases streams with
        | nil => cases h
        | cons stream others =>
          cases h
          exact ⟨stream, rfl, others, rfl, rfl⟩
  exact hfrom slots 0 streams

/-! ## Which connections make a session -/

/-- The handshake of a lane, in the session of the control handshake. -/
def Handshake.lane (control : Handshake) (streamId : Nat) : Handshake :=
  { control with role := .data, streamId }

/-- The connection of a lane as it arrives. -/
def laneArrival (control : Handshake) (lane : Nat × TcpStream Peer) : IoResult (TcpStream Peer) :=
  .ok (lane.2.behind (handshakeBytes (control.lane lane.1)))

/-- The loop takes lanes of the session that fill different free slots. -/
theorem acceptDataStreams_eq_ok {control : Handshake} {count : Nat} :
    ∀ {slots slots' : List (Option (TcpStream Peer))} {arrivals : List (IoResult (TcpStream Peer))},
      acceptDataStreams control count slots arrivals = .ok slots' ↔
        ∃ (lanes : List (Nat × TcpStream Peer)) (more : List (IoResult (TcpStream Peer))),
          lanes.length = count ∧ arrivals = lanes.map (laneArrival control) ++ more ∧
          (∀ lane ∈ lanes, (control.lane lane.1).Typed) ∧ Fillable slots lanes ∧
          slots' = fillAll slots lanes := by
  induction count with
  | zero =>
    intro slots slots' arrivals
    constructor
    · intro h
      cases h
      exact ⟨[], arrivals, rfl, rfl, fun _ hmem => (nomatch hmem),
        ⟨List.nodup_nil, fun _ hmem => nomatch hmem⟩, rfl⟩
    · rintro ⟨lanes, _, hcount, _, _, _, hsame⟩
      rw [List.length_eq_zero_iff.mp hcount] at hsame
      rw [hsame]
      rfl
  | succ count ih =>
    intro slots slots' arrivals
    rw [acceptDataStreams]
    simp only [acceptConfigured_bind_eq_ok, read_bind_eq_ok silent_readHandshake,
      orFail_bind_eq_ok, ensure_eq_ok, exists_const, parses_readHandshake, fillSlot_eq_ok]
    constructor
    · rintro ⟨arrived, rest, harrivals, handshake, stream, ⟨w, hstream, htyped, hw⟩, hrole,
        hsession, hcount, next, ⟨hfree, hnext⟩, hrest⟩
      obtain ⟨lanes, more, hlength, hothers, hall, hfillable, hslots⟩ := ih.mp hrest
      have hhandshake : handshake = control.lane handshake.streamId := by
        obtain ⟨role, sessionId, streamId, streamCount⟩ := handshake
        rw [Handshake.lane, ← hrole, ← hsession, ← hcount]
      refine ⟨(handshake.streamId, stream) :: lanes, more, by rw [List.length_cons, hlength], ?_,
        ?_, ?_, ?_⟩
      · rw [harrivals, hstream, hw, hothers, List.map_cons, List.cons_append, laneArrival,
          ← hhandshake]
      · rw [List.forall_mem_cons, ← hhandshake]
        exact ⟨htyped, hall⟩
      · rw [fillable_cons, ← hnext]
        exact ⟨hfree, hfillable⟩
      · rw [hslots, hnext]
        rfl
    · rintro ⟨lanes, more, hlength, harrivals, hall, hfillable, hslots⟩
      cases lanes with
      | nil => cases hlength
      | cons lane others =>
        obtain ⟨hfree, hothers⟩ := fillable_cons.mp hfillable
        obtain ⟨htyped, htypedOthers⟩ := List.forall_mem_cons.mp hall
        refine ⟨_, _, harrivals, control.lane lane.1, lane.2, ⟨_, rfl, htyped, rfl⟩, rfl, rfl,
          rfl, _, ⟨hfree, rfl⟩, ?_⟩
        exact ih.mpr ⟨others, more, Nat.succ.inj hlength, rfl, htypedOthers, hothers, hslots⟩

/-- The control handshake of a session. -/
def AcceptedSession.handshake (session : AcceptedSession) : Handshake :=
  ⟨.control, session.sessionId, 0, session.dataStreamCount⟩

/-- The bytes at the front of the control connection of a session. -/
def controlBytes (session : AcceptedSession) : Bytes :=
  handshakeBytes session.handshake ++
    (blockBytes messageSourceDirectoryName (nameBytes session.sourceDirectoryName) ++
      blockBytes messageDesktopLayoutMetadata (layoutBytes session.desktopLayout))

section

variable (texts : TextSupport Address)

/-- A session that can be negotiated: a stream count in range, and metadata that fit. -/
structure AcceptedSession.Negotiated (session : AcceptedSession) : Prop where
  sessionId : session.sessionId < 2 ^ 64
  count : 1 ≤ session.dataStreamCount ∧ session.dataStreamCount ≤ maxDataStreams
  name : (nameBytes session.sourceDirectoryName).length ≤ maxSourceDirectoryNameUtf8Bytes
  layout : LayoutFits texts session.desktopLayout

/-- The first connections are those of the session: a control connection with its handshake and
metadata, and data connections with the handshakes of its lanes, every lane once, in any order. -/
structure SessionArrives (arrivals : List (IoResult (TcpStream Peer))) (session : AcceptedSession)
    (control : TcpStream Peer) (lanes : List (Nat × TcpStream Peer)) : Prop where
  negotiated : session.Negotiated texts
  arrivals : ∃ more, arrivals =
    .ok (control.behind (controlBytes session)) ::
      (lanes.map (laneArrival session.handshake) ++ more)
  lanes : (lanes.map Prod.fst).Perm (List.range session.dataStreamCount)

variable {texts}
variable {arrivals : List (IoResult (TcpStream Peer))} {session : AcceptedSession}

theorem sessionBind_eq_ok {α β : Type} {x : Except SessionEnd α} {f : α → Except SessionEnd β}
    {b : β} : (x >>= f) = .ok b ↔ ∃ a, x = .ok a ∧ f a = .ok b := by
  cases x with
  | error e => simp [bind, Except.bind]
  | ok a => simp [bind, Except.bind]

/-- Lanes that fill all slots are all lanes, each once. -/
theorem fillable_free {count : Nat} {lanes : List (Nat × TcpStream Peer)}
    (hlength : lanes.length = count) :
    Fillable (List.replicate count none) lanes ↔
      (lanes.map Prod.fst).Perm (List.range count) := by
  unfold Fillable
  have hfree : ∀ streamId, (List.replicate count (none : Option (TcpStream Peer)))[streamId]? =
      some none ↔ streamId < count := by
    intro streamId
    rw [List.getElem?_replicate]
    split
    · simp [*]
    · simp [*]
  simp only [hfree]
  constructor
  · intro ⟨hnodup, hbelow⟩
    have hsubset : lanes.map Prod.fst ⊆ List.range count := by
      intro streamId hmem
      obtain ⟨lane, hlane, hsame⟩ := List.mem_map.mp hmem
      rw [List.mem_range, ← hsame]
      exact hbelow lane hlane
    refine (hnodup.subperm hsubset).perm_of_length_le ?_
    rw [List.length_range, List.length_map, hlength]
  · intro hperm
    refine ⟨hperm.nodup_iff.mpr List.nodup_range, fun lane hlane => ?_⟩
    exact List.mem_range.mp (hperm.mem_iff.mp (List.mem_map_of_mem hlane))

/-- A session is accepted exactly when its connections arrive; then the slots are filled by the
lanes. -/
theorem acceptSession_eq_ok {control : TcpStream Peer} {dataStreams : List (TcpStream Peer)} :
    acceptSession texts arrivals = .ok (control, dataStreams, session) ↔
      ∃ lanes, SessionArrives texts arrivals session control lanes ∧
        fillAll (List.replicate session.dataStreamCount none) lanes = dataStreams.map some := by
  unfold acceptSession validateDataStreamCount
  simp only [acceptConfigured_bind_eq_ok, read_bind_eq_ok silent_readHandshake,
    read_bind_eq_ok (silent_readSourceDirectoryName texts),
    read_bind_eq_ok (silent_readDesktopLayoutMetadata texts), orFail_bind_eq_ok, ensure_eq_ok,
    exists_const, parses_readHandshake, parses_readSourceDirectoryName,
    parses_readDesktopLayoutMetadata]
  simp only [sessionBind_eq_ok, acceptDataStreams_eq_ok, orFail_eq_ok, orderedStreams_eq_ok]
  constructor
  · intro ⟨arrived, rest, harrivals, handshake, first, ⟨w1, hfirst, htyped, hw1⟩, hrole, hstream,
      name, second, ⟨w2, hsecond, hname, hw2⟩, layout, third, ⟨w3, hthird, hlayout, hw3⟩, hcount,
      slots, ⟨lanes, more, hlength, hrest, hall, hfillable, hslots⟩, streams, hstreams, hresult⟩
    obtain ⟨role, sessionId, streamId, streamCount⟩ := handshake
    cases hrole
    cases hstream
    cases hresult
    refine ⟨lanes, ⟨⟨htyped.session, hcount, hname, hlayout⟩, ⟨more, ?_⟩, ?_⟩, ?_⟩
    · rw [harrivals, hfirst, hsecond, hthird, hw1, hw2, hw3, hrest, TcpStream.behind_behind,
        TcpStream.behind_behind, List.append_assoc]
      rfl
    · exact (fillable_free hlength).mp hfillable
    · rw [← hslots]
      exact hstreams
  · intro ⟨lanes, ⟨hnegotiated, ⟨more, harrivals⟩, hlanes⟩, hfilled⟩
    have hlength : lanes.length = session.dataStreamCount := by
      have h := hlanes.length_eq
      rwa [List.length_map, List.length_range] at h
    have hbelow : ∀ lane ∈ lanes, lane.1 < session.dataStreamCount := fun lane hlane =>
      List.mem_range.mp (hlanes.mem_iff.mp (List.mem_map_of_mem hlane))
    have hcount := hnegotiated.count
    unfold maxDataStreams at hcount
    have htyped : ∀ streamId < session.dataStreamCount,
        (session.handshake.lane streamId).Typed := by
      intro streamId hlt
      refine ⟨hnegotiated.sessionId, ?_, ?_⟩
      · show streamId < 2 ^ 32
        omega
      · show session.dataStreamCount < 2 ^ 32
        omega
    refine ⟨_, _, harrivals, session.handshake, _, ⟨_, (TcpStream.behind_behind ..).symm, ?_, rfl⟩,
      rfl, rfl, session.sourceDirectoryName, _,
      ⟨_, (TcpStream.behind_behind ..).symm, hnegotiated.name, rfl⟩, session.desktopLayout, control,
      ⟨_, rfl, hnegotiated.layout, rfl⟩, hnegotiated.count, _,
      ⟨lanes, more, hlength, rfl, fun lane hlane => htyped _ (hbelow lane hlane),
        (fillable_free hlength).mpr hlanes, rfl⟩, dataStreams, hfilled, rfl⟩
    exact ⟨hnegotiated.sessionId, by show 0 < 2 ^ 32; omega,
      by show session.dataStreamCount < 2 ^ 32; omega⟩

/-- When the connections of a session arrive, it is accepted, and every lane is at its place. -/
theorem SessionArrives.accepted {control : TcpStream Peer} {lanes : List (Nat × TcpStream Peer)}
    (h : SessionArrives texts arrivals session control lanes) :
    ∃ dataStreams, acceptSession texts arrivals = .ok (control, dataStreams, session) ∧
      dataStreams.length = session.dataStreamCount ∧
      ∀ lane ∈ lanes, dataStreams[lane.1]? = some lane.2 := by
  have hlength : lanes.length = session.dataStreamCount := by
    have hsame := h.lanes.length_eq
    rwa [List.length_map, List.length_range] at hsame
  have hfillable := (fillable_free hlength).mpr h.lanes
  have hplaced := getElem?_fillAll hfillable
  have hall : ∀ slot ∈ fillAll (List.replicate session.dataStreamCount none) lanes,
      slot ≠ none := by
    intro slot hslot hnone
    obtain ⟨streamId, hlt, hget⟩ := List.mem_iff_getElem.mp hslot
    rw [length_fillAll, List.length_replicate] at hlt
    obtain ⟨lane, hlane, hsame⟩ := List.mem_map.mp (h.lanes.mem_iff.mpr (List.mem_range.mpr hlt))
    have hfilled := hplaced lane hlane
    rw [hsame, List.getElem?_eq_some_iff] at hfilled
    obtain ⟨_, hfilled⟩ := hfilled
    rw [hget, hnone] at hfilled
    cases hfilled
  obtain ⟨dataStreams, hstreams⟩ := exists_eq_map_some hall
  refine ⟨dataStreams, acceptSession_eq_ok.mpr ⟨lanes, h, hstreams⟩, ?_, ?_⟩
  · rw [← List.length_map (f := some), ← hstreams, length_fillAll, List.length_replicate]
  · intro lane hlane
    have hfilled := hplaced lane hlane
    rw [hstreams, List.getElem?_map, Option.map_eq_some_iff] at hfilled
    obtain ⟨stream, hstream, hsame⟩ := hfilled
    cases hsame
    exact hstream

variable (texts) in
/-- The sender's side of the control connection. -/
def openControlStream (session : AcceptedSession) : Party Unit := do
  writeHandshake session.handshake
  writeSourceDirectoryName session.sourceDirectoryName
  writeDesktopLayoutMetadata texts session.desktopLayout

/-- What the sender writes to the control connection. -/
theorem emits_openControlStream {w : Bytes} :
    Emits (openControlStream texts session) w (.ok ()) ↔
      ((nameBytes session.sourceDirectoryName).length ≤ maxSourceDirectoryNameUtf8Bytes ∧
        LayoutFits texts session.desktopLayout) ∧ w = controlBytes session := by
  unfold openControlStream controlBytes
  rw [emits_writeHandshake_bind]
  simp only [emits_bind, emits_writeDesktopLayoutMetadata]
  constructor
  · intro ⟨rest, ⟨first, second, (), hrest, hfirst, hlayout, hsecond⟩, hw⟩
    obtain ⟨hname, hbytes⟩ := emits_writeSourceDirectoryName.mp hfirst
    exact ⟨⟨hname, hlayout⟩, by rw [hw, hrest, hbytes, hsecond]⟩
  · intro ⟨⟨hname, hlayout⟩, hw⟩
    exact ⟨_, ⟨_, _, (), rfl, emits_writeSourceDirectoryName.mpr ⟨hname, rfl⟩, hlayout, rfl⟩, hw⟩

variable (Peer texts) in
/-- A session is accepted exactly when its connections arrive: the control connection first, with
valid metadata, and then a data connection for every lane, in any order.  The data streams are then
in the order of the lanes, each connection at the place of its ID.  So what the sender writes to
lane `i` is what the receiver reads from lane `i`. -/
theorem acceptSession_assembles :
    (∀ arrivals : List (IoResult (TcpStream Peer)),
      (∃ accepted, acceptSession texts arrivals = .ok accepted) ↔
        ∃ session control lanes, SessionArrives texts arrivals session control lanes) ∧
    (∀ (arrivals : List (IoResult (TcpStream Peer))) (session : AcceptedSession)
      (control : TcpStream Peer) (lanes : List (Nat × TcpStream Peer)),
      SessionArrives texts arrivals session control lanes →
      ∃ dataStreams, acceptSession texts arrivals = .ok (control, dataStreams, session) ∧
        dataStreams.length = session.dataStreamCount ∧
        ∀ lane ∈ lanes, dataStreams[lane.1]? = some lane.2) ∧
    ∀ (session : AcceptedSession) (announced : Bytes) (announcedLane : Nat → Bytes)
      (control : TcpStream Peer) (sent : List (TcpStream Peer))
      (arrived : List (TcpStream Peer × Nat)) (more : List (IoResult (TcpStream Peer))),
      session.sessionId < 2 ^ 64 →
      validateDataStreamCount session.dataStreamCount = .ok () →
      Emits (openControlStream texts session) announced (.ok ()) →
      (∀ streamId, Emits (writeHandshake (session.handshake.lane streamId))
        (announcedLane streamId) (.ok ())) →
      sent.length = session.dataStreamCount → arrived.Perm sent.zipIdx →
      acceptSession texts (.ok (control.behind announced) ::
        (arrived.map (fun lane => .ok (lane.1.behind (announcedLane lane.2))) ++ more)) =
          .ok (control, sent, session) := by
  refine ⟨?_, fun _ _ _ _ h => h.accepted, ?_⟩
  · intro arrivals
    constructor
    · intro ⟨⟨control, dataStreams, session⟩, h⟩
      obtain ⟨lanes, harrives, _⟩ := acceptSession_eq_ok.mp h
      exact ⟨session, control, lanes, harrives⟩
    · intro ⟨session, control, lanes, h⟩
      obtain ⟨dataStreams, haccepted, _⟩ := h.accepted
      exact ⟨_, haccepted⟩
  · intro session announced announcedLane control sent arrived more hsession hcount hannounced
      hlanes hlength hperm
    obtain ⟨⟨hname, hlayout⟩, hbytes⟩ := emits_openControlStream.mp hannounced
    have hids : (arrived.map (fun lane => (lane.2, lane.1))).map Prod.fst =
        arrived.map Prod.snd := by
      rw [List.map_map]
      rfl
    have harrives : SessionArrives texts (.ok (control.behind announced) ::
        (arrived.map (fun lane => .ok (lane.1.behind (announcedLane lane.2))) ++ more)) session
          control (arrived.map (fun lane => (lane.2, lane.1))) := by
      refine ⟨⟨hsession, ensure_eq_ok.mp hcount, hname, hlayout⟩, ⟨more, ?_⟩, ?_⟩
      · rw [hbytes, List.map_map]
        congr 2
        refine List.map_congr_left fun lane _ => ?_
        rw [emits_writeHandshake.mp (hlanes lane.2)]
        rfl
      · rw [hids, ← hlength]
        have hsnd := hperm.map Prod.snd
        rwa [List.zipIdx_map_snd, ← List.range_eq_range'] at hsnd
    obtain ⟨dataStreams, haccepted, hcountStreams, hplaced⟩ := harrives.accepted
    have hsame : dataStreams = sent := by
      apply List.ext_getElem?
      intro streamId
      by_cases hlt : streamId < sent.length
      · have hmem : (sent[streamId], streamId) ∈ arrived := by
          rw [hperm.mem_iff, List.mem_zipIdx_iff_getElem?]
          exact List.getElem?_eq_getElem hlt
        have hat := hplaced _ (List.mem_map_of_mem hmem)
        rw [hat, List.getElem?_eq_getElem hlt]
      · rw [List.getElem?_eq_none (by omega), List.getElem?_eq_none (by omega)]
    rw [haccepted, hsame]

end

/-- A session of two lanes without a name and a layout. -/
def twoLaneSession : AcceptedSession := ⟨7, 2, none, none⟩

/-- Its lanes come the wrong way round and are put in order. -/
theorem acceptSession_assembles_twoLanes :
    ∃ (announced : Bytes) (announcedLane : Nat → Bytes), acceptSession bareTexts
      [.ok (TcpStream.behind ⟨"control", []⟩ announced),
        .ok (TcpStream.behind ⟨"second", [2]⟩ (announcedLane 1)),
        .ok (TcpStream.behind ⟨"first", [1]⟩ (announcedLane 0))] =
      .ok (⟨"control", []⟩, [⟨"first", [1]⟩, ⟨"second", [2]⟩], twoLaneSession) := by
  have hlayout : LayoutFits bareTexts twoLaneSession.desktopLayout := by
    intro snapshot hsnapshot
    cases hsnapshot
  have hannounced : Emits (openControlStream bareTexts twoLaneSession)
      (controlBytes twoLaneSession) (.ok ()) :=
    emits_openControlStream.mpr ⟨⟨Nat.zero_le _, hlayout⟩, rfl⟩
  have hlanes : ∀ streamId, Emits (writeHandshake (twoLaneSession.handshake.lane streamId))
      (handshakeBytes (twoLaneSession.handshake.lane streamId)) (.ok ()) :=
    fun _ => emits_writeHandshake.mpr rfl
  have hsession : twoLaneSession.sessionId < 2 ^ 64 := by
    show 7 < 2 ^ 64
    omega
  have hcount : validateDataStreamCount twoLaneSession.dataStreamCount = .ok () := by decide
  have hperm : List.Perm [((⟨"second", [2]⟩ : TcpStream String), 1), (⟨"first", [1]⟩, 0)]
      (List.zipIdx [⟨"first", [1]⟩, ⟨"second", [2]⟩]) := List.Perm.swap _ _ _
  have haccepted := (acceptSession_assembles String bareTexts).2.2 twoLaneSession
    (controlBytes twoLaneSession)
    (fun streamId => handshakeBytes (twoLaneSession.handshake.lane streamId)) ⟨"control", []⟩
    [⟨"first", [1]⟩, ⟨"second", [2]⟩] [(⟨"second", [2]⟩, 1), (⟨"first", [1]⟩, 0)] [] hsession hcount
    hannounced hlanes rfl hperm
  simp only [List.map_cons, List.map_nil, List.append_nil] at haccepted
  refine ⟨controlBytes twoLaneSession,
    fun streamId => handshakeBytes (twoLaneSession.handshake.lane streamId), ?_⟩
  exact haccepted

end NetworkCopy
