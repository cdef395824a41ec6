import NetworkCopy.Management.ControlCodecs
import NetworkCopy.Management.SnapshotRoundTrip

/-!
# What the control protocol accepts

Frames can be followed by other bytes, which stay in the stream.  A payload is read to its end.
The application version in a hello payload is always that of the encoder, and a directory can be
read that is too large for a frame.
-/

namespace NetworkCopy

open ByteOrder ByteReader

/-! ## Frames -/

theorem kindOf_eq_ok {value : Nat} {kind : ManagementMessageKind} :
    ManagementMessageKind.tryFrom value = .ok kind ↔ value = kind.code := by
  constructor
  · intro h
    unfold ManagementMessageKind.tryFrom at h
    split at h <;> cases h <;> rfl
  · intro h
    subst h
    cases kind <;> rfl

theorem kind_lt (kind : ManagementMessageKind) : kind.code < 256 ^ 1 := by
  cases kind <;> decide

/-- The bytes of a frame. -/
def frameLayout (frame : ManagementFrame) : List UInt8 :=
  managementMagic ++ leBytes 2 managementProtocolVersion ++ leBytes 1 frame.kind.code ++
    leBytes 1 0 ++ leBytes 8 frame.requestId.toNat ++ leBytes 4 frame.payload.length ++
    frame.payload

theorem writeFrame_eq_ok {frame : ManagementFrame} {bytes : List UInt8} :
    writeFrame frame = .ok bytes ↔
      frame.payload.length ≤ maxManagementPayloadBytes ∧ bytes = frameLayout frame := by
  have hmax := maxManagementPayloadBytes_eq
  unfold writeFrame validatePayloadLength
  simp only [bind_eq_ok, ensure_eq_ok, pure_eq_ok, Except.ok.injEq, exists_const]
  constructor
  · intro ⟨hlength, _, hbytes⟩
    exact ⟨hlength, hbytes.symm⟩
  · intro ⟨hlength, hbytes⟩
    exact ⟨hlength, by omega, hbytes.symm⟩

theorem readFrame_eq_ok {bytes rest : List UInt8} {frame : ManagementFrame} :
    readFrame.run bytes = .ok (frame, rest) ↔
      frame.payload.length ≤ maxManagementPayloadBytes ∧ bytes = frameLayout frame ++ rest := by
  have hmax := maxManagementPayloadBytes_eq
  unfold readFrame
  simp only [run_need_bind, headerField_bind, run_check_bind, run_lift_bind, run_take_bind,
    run_pure_eq_ok, kindOf_eq_ok]
  constructor
  · rintro ⟨_, magic, _, _, hbytes, hmagic, version, _, _, hmore, hversion, _, _, _, hmore2, kind,
      hkind, reserved, _, _, hmore3, hreserved, requestId, _, hidLt, hmore4, _, _, _, hmore5,
      hlength, payload, _, hpayload, hmore6, hframe, hrest⟩
    have hid : (UInt64.ofNat requestId).toNat = requestId :=
      UInt64.toNat_ofNat_of_lt (by simp only [UInt64.size]; omega)
    subst hframe hmagic hversion hkind hreserved hpayload hrest
    refine ⟨hlength, ?_⟩
    rw [hbytes, hmore, hmore2, hmore3, hmore4, hmore5, hmore6]
    simp only [frameLayout, hid, List.append_assoc]
  · rintro ⟨hlength, hbytes⟩
    subst hbytes
    obtain ⟨requestId, kind, payload⟩ := frame
    have hidLt := requestId.toNat_lt
    have hlength' : payload.length ≤ maxManagementPayloadBytes := hlength
    refine ⟨?_, managementMagic, _, rfl, by simp only [frameLayout, List.append_assoc], rfl,
      managementProtocolVersion, _, by decide, rfl, rfl, kind.code, _, kind_lt kind, rfl, kind,
      rfl, 0, _, by decide, rfl, rfl, requestId.toNat, _, by omega, rfl, payload.length,
      payload ++ rest, by omega, rfl, hlength, payload, rest, rfl, rfl, ?_, rfl⟩
    · simp only [frameLayout, List.length_append, leBytes_length, managementMagic,
        List.length_cons, List.length_nil, managementHeaderBytes]
      omega
    · rw [UInt64.ofNat_toNat]

/-! ## Hello -/

theorem stateOf_eq_ok {value : Nat} {state : AgentState} :
    AgentState.tryFrom value = .ok state ↔ value = state.code := by
  unfold AgentState.tryFrom
  split <;> cases state <;> simp_all [AgentState.code]

theorem capabilitiesOf_eq_ok {bits : Nat} {capabilities : AgentCapabilities} :
    AgentCapabilities.fromBits bits = .ok capabilities ↔ bits = capabilities.bits := by
  unfold AgentCapabilities.fromBits
  rw [okOrElse_eq_ok]
  constructor
  · intro h
    split at h
    · cases h
      rfl
    · cases h
  · intro h
    subst h
    rw [dif_pos ⟨capabilities.pos, capabilities.lt⟩]

section

variable {texts : TextSupport SocketAddr}
variable {payload rest : List UInt8}

/-- The payload fits the format. -/
structure HelloFits (hello : ManagementHello) : Prop where
  hostname : TextFits hello.hostname maxHostnameBytes false
  applicationVersion : TextFits hello.applicationVersion maxApplicationVersionBytes false
  protocolVersion : hello.protocolVersion = managementProtocolVersion

/-- The bytes of a hello payload. -/
def helloLayout (hello : ManagementHello) : List UInt8 :=
  leBytes 2 helloPayloadVersion ++ leBytes 1 hello.state.code ++
    leBytes 1 hello.capabilities.bits ++ leBytes 2 hello.applicationVersion.utf8ByteSize ++
    leBytes 2 hello.hostname.utf8ByteSize ++ stringBytes hello.applicationVersion ++
    stringBytes hello.hostname

/-- What an agent says of itself. -/
def ownHello (hostname : String) (state : AgentState) (capabilities : AgentCapabilities) :
    ManagementHello :=
  ⟨hostname, cargoPkgVersion, managementProtocolVersion, state, capabilities⟩

theorem cargoPkgVersion_fits : TextFits cargoPkgVersion maxApplicationVersionBytes false :=
  ⟨.inr (by decide), by decide⟩

theorem encodeHelloPayload_eq_ok {hostname : String} {state : AgentState}
    {capabilities : AgentCapabilities} {payload : List UInt8} :
    encodeHelloPayload hostname state capabilities = .ok payload ↔
      TextFits hostname maxHostnameBytes false ∧
        payload = helloLayout (ownHello hostname state capabilities) := by
  unfold encodeHelloPayload
  simp only [bind_eq_ok, validateWireText_eq_ok, ensure_eq_ok, pure_eq_ok, Except.ok.injEq,
    exists_const]
  constructor
  · intro ⟨hhostname, _, _, _, hpayload⟩
    exact ⟨hhostname, hpayload.symm⟩
  · intro ⟨hhostname, hpayload⟩
    have hsize := hhostname.2
    simp only [maxHostnameBytes] at hsize
    exact ⟨hhostname, cargoPkgVersion_fits, by decide, by omega, hpayload.symm⟩

theorem readHelloPayload_eq_ok {hello : ManagementHello} :
    (readHelloPayload texts).run payload = .ok (hello, rest) ↔
      rest = [] ∧ HelloFits hello ∧ payload = helloLayout hello := by
  unfold readHelloPayload
  simp only [run_need_bind, headerField_bind, run_check_bind, run_lift_bind, run_exactly_bind,
    run_take_bind, run_takeAll_bind, run_pure_eq_ok, stateOf_eq_ok, capabilitiesOf_eq_ok,
    decodeWireText_eq_ok]
  constructor
  · rintro ⟨_, version, _, _, hpayload, hversion, _, _, _, hmore, state, hstate, _, _, _, hmore2,
      capabilities, hbits, _, _, _, hmore3, _, _, _, hmore4, hlength, _, hostnameBytes,
      hversionLength, hmore5, applicationVersion, ⟨happlication, happlicationFits⟩, hostname,
      ⟨hhostname, hhostnameFits⟩, hhello, hrest⟩
    have hhostnameLength := hlength
    rw [hmore5, List.length_append, hversionLength] at hhostnameLength
    have hhostnameLength := Nat.add_left_cancel hhostnameLength
    subst hhello happlication hhostname hversion hstate hbits
    refine ⟨hrest, ⟨hhostnameFits, happlicationFits, rfl⟩, ?_⟩
    rw [hpayload, hmore, hmore2, hmore3, hmore4, hmore5]
    simp only [helloLayout, ← hversionLength, ← hhostnameLength, stringBytes_length,
      List.append_assoc]
  · rintro ⟨hrest, ⟨hhostname, happlication, hprotocol⟩, hpayload⟩
    subst hpayload
    obtain ⟨hostname, applicationVersion, protocolVersion, state, capabilities⟩ := hello
    have hstateLt : state.code < 256 ^ 1 := by cases state <;> decide
    have hbitsLt := capabilities.lt
    have hhostnameSize := hhostname.2
    have happlicationSize := happlication.2
    simp only [maxHostnameBytes] at hhostnameSize
    simp only [maxApplicationVersionBytes] at happlicationSize
    cases hprotocol
    refine ⟨?_, helloPayloadVersion, _, by decide, by
      simp only [helloLayout, List.append_assoc], rfl, state.code, _, hstateLt, rfl, state, rfl,
      capabilities.bits, _, by omega, rfl, capabilities, rfl, applicationVersion.utf8ByteSize, _,
      by omega, rfl, hostname.utf8ByteSize,
      stringBytes applicationVersion ++ stringBytes hostname, by omega, rfl, ?_,
      stringBytes applicationVersion, stringBytes hostname, stringBytes_length _, rfl,
      applicationVersion, ⟨rfl, happlication⟩, hostname, ⟨rfl, hhostname⟩, rfl, hrest⟩
    · simp only [helloLayout, List.length_append, leBytes_length, helloHeaderBytes]
      omega
    · simp only [List.length_append, stringBytes_length]

/-- What an agent says is read back. -/
theorem readHello_ownHello {hostname : String} {state : AgentState}
    {capabilities : AgentCapabilities} {payload : List UInt8}
    (hencode : encodeHelloPayload hostname state capabilities = .ok payload) :
    (readHelloPayload texts).run payload = .ok (ownHello hostname state capabilities, []) := by
  obtain ⟨hhostname, hpayload⟩ := encodeHelloPayload_eq_ok.mp hencode
  exact readHelloPayload_eq_ok.mpr ⟨rfl, ⟨hhostname, cargoPkgVersion_fits, rfl⟩, hpayload⟩

/-! ## Roots -/

/-- A traversal of checked encoders. -/
theorem mapM_checked {α β : Type} {f : α → IoResult β} {Fits : α → Prop} {layout : α → β}
    (hf : ∀ x y, f x = .ok y ↔ Fits x ∧ y = layout x) {xs : List α} {ys : List β} :
    xs.mapM f = .ok ys ↔ (∀ x ∈ xs, Fits x) ∧ ys = xs.map layout := by
  induction xs generalizing ys with
  | nil => simp [List.mapM_nil, eq_comm]
  | cons x xs ih =>
    rw [List.mapM_cons]
    simp only [bind_eq_ok, hf, ih, pure_eq_ok, Except.ok.injEq]
    constructor
    · intro ⟨y, ⟨hx, hy⟩, others, ⟨hxs, hothers⟩, hys⟩
      subst hys hy hothers
      refine ⟨fun x' hmem => ?_, rfl⟩
      rcases List.mem_cons.mp hmem with hsame | hmem
      · exact hsame ▸ hx
      · exact hxs x' hmem
    · intro ⟨hall, hys⟩
      exact ⟨_, ⟨hall x (List.mem_cons_self ..), rfl⟩, _,
        ⟨fun x' hmem => hall x' (List.mem_cons_of_mem _ hmem), rfl⟩, hys.symm⟩

/-- A traversal that only checks. -/
theorem mapM_validate {α : Type} {f : α → IoResult Unit} {Fits : α → Prop}
    (hf : ∀ x u, f x = .ok u ↔ Fits x) {xs : List α} :
    (∃ us, xs.mapM f = .ok us) ↔ ∀ x ∈ xs, Fits x := by
  have hchecked : ∀ us, xs.mapM f = .ok us ↔ (∀ x ∈ xs, Fits x) ∧ us = xs.map fun _ => () :=
    fun us => mapM_checked fun x u => by simp [hf]
  simp [hchecked]

/-- The bytes of a root. -/
def rootLayout (root : ManagementRoot) : List UInt8 :=
  leBytes 2 root.path.utf8ByteSize ++ stringBytes root.path

/-- The root fits the format. -/
def RootPathFits (root : ManagementRoot) : Prop := TextFits root.path maxRootPathBytes false

/-- The roots fit the format. -/
def RootsFit (roots : List ManagementRoot) : Prop :=
  roots.length ≤ maxRoots ∧ ∀ root ∈ roots, RootPathFits root

/-- The bytes of a list of roots. -/
def rootsLayout (roots : List ManagementRoot) : List UInt8 :=
  leBytes 2 rootsPayloadVersion ++ leBytes 2 roots.length ++ roots.flatMap rootLayout

theorem RootPathFits.size_lt {root : ManagementRoot} (h : RootPathFits root) :
    root.path.utf8ByteSize < 256 ^ 2 := by
  have hsize := h.2
  simp only [maxRootPathBytes] at hsize
  omega

theorem encodeRootsPayload_eq_ok {roots : List ManagementRoot} {payload : List UInt8} :
    encodeRootsPayload roots = .ok payload ↔ RootsFit roots ∧ payload = rootsLayout roots := by
  have hencode : ∀ root bytes, encodeRoot root = .ok bytes ↔
      root.path.utf8ByteSize < 2 ^ 16 ∧ bytes = rootLayout root := by
    intro root bytes
    unfold encodeRoot
    simp only [bind_eq_ok, ensure_eq_ok, pure_eq_ok, Except.ok.injEq, exists_const]
    exact and_congr_right fun _ => eq_comm
  have hvalidate : (∃ us, (roots.mapM fun root => validateWireText root.path maxRootPathBytes
      "management root path" false) = .ok us) ↔ ∀ root ∈ roots, RootPathFits root :=
    mapM_validate fun _ _ => validateWireText_eq_ok
  unfold encodeRootsPayload
  simp only [bind_eq_ok, ensure_eq_ok, mapM_checked hencode, pure_eq_ok, Except.ok.injEq,
    exists_const]
  constructor
  · intro ⟨hcount, _, us, hus, encoded, ⟨_, hencoded⟩, hpayload⟩
    subst hencoded
    exact ⟨⟨hcount, hvalidate.mp ⟨us, hus⟩⟩, hpayload.symm⟩
  · intro ⟨⟨hcount, hroots⟩, hpayload⟩
    obtain ⟨us, hus⟩ := hvalidate.mpr hroots
    have hlimit := hcount
    simp only [maxRoots] at hlimit
    exact ⟨hcount, by omega, us, hus, _, ⟨fun root hmem => (hroots root hmem).size_lt, rfl⟩,
      hpayload.symm⟩

theorem readRoot_eq_ok (bytes rest : List UInt8) (root : ManagementRoot) :
    (readRoot texts).run bytes = .ok (root, rest) ↔
      RootPathFits root ∧ bytes = rootLayout root ++ rest := by
  unfold readRoot
  simp only [run_need_bind, headerField_bind, run_take_bind, run_lift_bind, run_pure_eq_ok,
    decodeWireText_eq_ok]
  constructor
  · intro ⟨_, _, _, _, hbytes, _, _, hlength, hmore, path, ⟨hpath, hfits⟩, hroot, hrest⟩
    subst hroot hpath hlength hrest
    refine ⟨hfits, ?_⟩
    rw [hbytes, hmore]
    simp only [rootLayout, stringBytes_length, List.append_assoc]
  · intro ⟨hfits, hbytes⟩
    subst hbytes
    refine ⟨?_, root.path.utf8ByteSize, _, hfits.size_lt, by
      simp only [rootLayout, List.append_assoc], stringBytes root.path, rest,
      stringBytes_length _, rfl, root.path, ⟨rfl, hfits⟩, rfl, rfl⟩
    simp only [rootLayout, List.length_append, leBytes_length]
    omega

theorem readRootsPayload_eq_ok {roots : List ManagementRoot} :
    (readRootsPayload texts).run payload = .ok (roots, rest) ↔
      rest = [] ∧ RootsFit roots ∧ payload = rootsLayout roots := by
  unfold readRootsPayload
  simp only [run_need_bind, headerField_bind, run_check_bind, run_exactly_bind, run_pure_eq_ok,
    run_many_bind readRoot_eq_ok]
  constructor
  · rintro ⟨_, version, _, _, hpayload, hversion, count, _, _, hmore, hcount, found, left, hlength,
      hfound, hmore2, hleft, hroots, hrest⟩
    have hnil := List.eq_nil_of_length_eq_zero hleft
    subst hroots hversion hlength hnil
    refine ⟨hrest, ⟨hcount, hfound⟩, ?_⟩
    rw [hpayload, hmore, hmore2]
    simp only [rootsLayout, List.append_assoc, List.append_nil]
  · rintro ⟨hrest, ⟨hcount, hroots⟩, hpayload⟩
    subst hpayload
    have hlimit := hcount
    simp only [maxRoots] at hlimit
    refine ⟨?_, rootsPayloadVersion, _, by decide, by
      simp only [rootsLayout, List.append_assoc], rfl, roots.length, _, by omega, rfl, hcount,
      roots, [], rfl, hroots, (List.append_nil _).symm, rfl, rfl, hrest⟩
    simp only [rootsLayout, List.length_append, leBytes_length, rootsHeaderBytes]
    omega

/-- The list of the roots. -/
theorem roots_agree :
    Agree (fun _ => True) RootsFit encodeRootsPayload (readRootsPayload texts) :=
  Agree.of_layout (fun _ _ _ => encodeRootsPayload_eq_ok) (fun _ _ _ => readRootsPayload_eq_ok)
    (fun _ _ _ => rfl) (fun _ _ _ _ => trivial)

/-! ## Desktop path -/

theorem readDesktopPathResponse_eq_ok {isDesktop : Bool} :
    readDesktopPathResponse.run payload = .ok (isDesktop, rest) ↔
      rest = [] ∧ payload = encodeDesktopPathResponse isDesktop := by
  unfold readDesktopPathResponse
  simp only [run_exactly_bind, headerField_bind, run_check_bind, run_lift_bind, run_pure_eq_ok,
    flagOf_eq_ok]
  constructor
  · rintro ⟨hlength, version, _, _, hpayload, hversion, _, _, _, hmore, found, hvalue, reserved,
      left, _, hmore2, hreserved, hfound, hrest⟩
    subst hfound hversion hvalue hreserved hrest
    rw [hpayload, hmore, hmore2] at hlength
    simp only [List.length_append, leBytes_length, desktopPathResponseBytes] at hlength
    have hnil : rest = [] := List.eq_nil_of_length_eq_zero (by omega)
    refine ⟨hnil, ?_⟩
    rw [hpayload, hmore, hmore2, hnil]
    simp only [encodeDesktopPathResponse, List.append_assoc, List.append_nil]
  · rintro ⟨hrest, hpayload⟩
    subst hpayload hrest
    exact ⟨by simp [encodeDesktopPathResponse, desktopPathResponseBytes],
      desktopPathResponseVersion, _, by decide,
      by simp only [encodeDesktopPathResponse, List.append_assoc], rfl, isDesktop.toNat, _,
      flag_lt isDesktop, rfl, isDesktop, rfl, 0, [], by decide, (List.append_nil _).symm, rfl,
      rfl, rfl⟩

/-- Whether a path is the Desktop. -/
theorem desktopPath_agree : Agree (fun _ => True) (fun _ => True)
    (fun isDesktop => (.ok (encodeDesktopPathResponse isDesktop) : IoResult (List UInt8)))
    readDesktopPathResponse := by
  have hencode : ∀ isDesktop payload, True →
      ((.ok (encodeDesktopPathResponse isDesktop) : IoResult (List UInt8)) = .ok payload ↔
        True ∧ payload = encodeDesktopPathResponse isDesktop) := by
    intro isDesktop payload _
    rw [Except.ok.injEq, true_and, eq_comm]
  have hread : ∀ payload isDesktop rest,
      readDesktopPathResponse.run payload = .ok (isDesktop, rest) ↔
        rest = [] ∧ True ∧ payload = encodeDesktopPathResponse isDesktop := by
    intro payload isDesktop rest
    rw [readDesktopPathResponse_eq_ok, true_and]
  exact Agree.of_layout hencode hread (fun _ _ _ => rfl) (fun _ _ _ _ => trivial)

/-! ## Directories -/

variable {entries : List ManagementDirectoryEntry}

theorem encodeDirectoryRequest_eq_ok {path : String} {payload : List UInt8} :
    encodeDirectoryRequest path = .ok payload ↔ TextFits path maxRemotePathBytes false ∧
      payload = leBytes 2 directoryRequestVersion ++ leBytes 2 path.utf8ByteSize ++
        stringBytes path := by
  unfold encodeDirectoryRequest
  simp only [bind_eq_ok, validateWireText_eq_ok, ensure_eq_ok, pure_eq_ok, Except.ok.injEq,
    exists_const]
  constructor
  · intro ⟨hpath, _, hpayload⟩
    exact ⟨hpath, hpayload.symm⟩
  · intro ⟨hpath, hpayload⟩
    have hsize := hpath.2
    simp only [maxRemotePathBytes] at hsize
    exact ⟨hpath, by omega, hpayload.symm⟩

theorem readDirectoryRequest_eq_ok {path : String} :
    (readDirectoryRequest texts).run payload = .ok (path, rest) ↔
      rest = [] ∧ TextFits path maxRemotePathBytes false ∧
        payload = leBytes 2 directoryRequestVersion ++ leBytes 2 path.utf8ByteSize ++
          stringBytes path := by
  unfold readDirectoryRequest
  simp only [run_need_bind, headerField_bind, run_check_bind, run_exactly_bind, run_takeAll_bind,
    run_lift_eq_ok, decodeWireText_eq_ok]
  constructor
  · rintro ⟨_, version, _, _, hpayload, hversion, _, _, _, hmore, hlength, ⟨hpath, hfits⟩, hrest⟩
    subst hpath hversion hlength
    refine ⟨hrest, hfits, ?_⟩
    rw [hpayload, hmore]
    simp only [stringBytes_length, List.append_assoc]
  · rintro ⟨hrest, hfits, hpayload⟩
    subst hpayload
    have hsize := hfits.2
    simp only [maxRemotePathBytes] at hsize
    refine ⟨?_, directoryRequestVersion, _, by decide, by simp only [List.append_assoc], rfl,
      path.utf8ByteSize, stringBytes path, by omega, rfl, stringBytes_length _, ⟨rfl, hfits⟩,
      hrest⟩
    simp only [List.length_append, leBytes_length, directoryRequestHeaderBytes]
    omega

/-- The path of a directory. -/
theorem directoryRequest_agree :
    Agree (fun _ => True) (fun path => TextFits path maxRemotePathBytes false)
      encodeDirectoryRequest (readDirectoryRequest texts) :=
  Agree.of_layout (fun _ _ _ => encodeDirectoryRequest_eq_ok)
    (fun _ _ _ => readDirectoryRequest_eq_ok) (fun _ _ _ => rfl) (fun _ _ _ _ => trivial)

theorem entryKindOf_eq_ok {value : Nat} {kind : ManagementEntryKind} :
    ManagementEntryKind.tryFrom value = .ok kind ↔ value = kind.code := by
  unfold ManagementEntryKind.tryFrom
  split <;> cases kind <;> simp_all [ManagementEntryKind.code]

/-- The bytes of an entry. -/
def entryLayout (entry : ManagementDirectoryEntry) : List UInt8 :=
  leBytes 1 entry.kind.code ++ leBytes 1 0 ++ leBytes 2 entry.name.utf8ByteSize ++
    leBytes 8 entry.size.toNat ++
    leBytes 8 (entry.modifiedUnixSeconds.elim unknownModifiedTime UInt64.toNat) ++
    stringBytes entry.name

/-- The name fits the format. -/
def EntryNameFits (entry : ManagementDirectoryEntry) : Prop :=
  TextFits entry.name maxEntryNameBytes false

/-- The modification time is not the value that says that it is unknown. -/
def KnownTime (entry : ManagementDirectoryEntry) : Prop :=
  ∀ seconds ∈ entry.modifiedUnixSeconds, seconds.toNat ≠ unknownModifiedTime

theorem EntryNameFits.size_lt {entry : ManagementDirectoryEntry} (h : EntryNameFits entry) :
    entry.name.utf8ByteSize < 256 ^ 2 := by
  have hsize := h.2
  simp only [maxEntryNameBytes] at hsize
  omega

/-- The modification time, from its field. -/
theorem modifiedOf_eq {modified : Nat} (hlt : modified < 256 ^ 8) {seconds : Option UInt64} :
    (seconds = if modified = unknownModifiedTime then none else some (UInt64.ofNat modified)) ↔
      (∀ value ∈ seconds, value.toNat ≠ unknownModifiedTime) ∧
        modified = seconds.elim unknownModifiedTime UInt64.toNat := by
  have hnat : (UInt64.ofNat modified).toNat = modified :=
    UInt64.toNat_ofNat_of_lt (by simp only [UInt64.size]; omega)
  by_cases hunknown : modified = unknownModifiedTime
  · rw [if_pos hunknown]
    cases seconds with
    | none => simp [hunknown]
    | some value =>
      simp only [reduceCtorEq, false_iff, Option.mem_def, Option.some.injEq, forall_eq',
        Option.elim_some, not_and]
      intro hvalue hmodified
      exact hvalue (hmodified.symm.trans hunknown)
  · rw [if_neg hunknown]
    cases seconds with
    | none => simp [hunknown]
    | some value =>
      simp only [Option.some.injEq, Option.mem_def, forall_eq', Option.elim_some]
      constructor
      · intro hvalue
        subst hvalue
        rw [hnat]
        exact ⟨hunknown, rfl⟩
      · intro ⟨_, hmodified⟩
        subst hmodified
        exact (UInt64.ofNat_toNat).symm

theorem readListedEntry_eq_ok (bytes rest : List UInt8) (entry : ManagementDirectoryEntry) :
    (readListedEntry texts).run bytes = .ok (entry, rest) ↔
      (EntryNameFits entry ∧ KnownTime entry) ∧ bytes = entryLayout entry ++ rest := by
  have hunknownLt : unknownModifiedTime < 256 ^ 8 := by simp [unknownModifiedTime]
  unfold readListedEntry
  simp only [run_need_bind, headerField_bind, run_check_bind, run_lift_bind, run_take_bind,
    run_pure_eq_ok, entryKindOf_eq_ok, decodeWireText_eq_ok]
  constructor
  · rintro ⟨_, _, _, _, hbytes, kind, hkind, reserved, _, _, hmore, hreserved, _, _, _, hmore2,
      size, _, hsizeLt, hmore3, modified, _, hmodifiedLt, hmore4, _, _, hlength, hmore5, name,
      ⟨hname, hfits⟩, hentry, hrest⟩
    have hsize : (UInt64.ofNat size).toNat = size :=
      UInt64.toNat_ofNat_of_lt (by simp only [UInt64.size]; omega)
    have hmodified := (modifiedOf_eq hmodifiedLt).mp
      (congrArg ManagementDirectoryEntry.modifiedUnixSeconds hentry)
    subst hkind hreserved hname hlength hrest
    refine ⟨⟨by rw [hentry]; exact hfits, hmodified.1⟩, ?_⟩
    rw [hbytes, hmore, hmore2, hmore3, hmore4, hmore5]
    unfold entryLayout
    rw [← hmodified.2, hentry]
    simp only [hsize, stringBytes_length, List.append_assoc]
  · rintro ⟨⟨hfits, htime⟩, hbytes⟩
    subst hbytes
    obtain ⟨name, kind, size, seconds⟩ := entry
    have hkindLt : kind.code < 256 ^ 1 := by cases kind <;> decide
    have hsizeLt := size.toNat_lt
    have hmodifiedLt : seconds.elim unknownModifiedTime UInt64.toNat < 256 ^ 8 := by
      cases seconds with
      | none => exact hunknownLt
      | some value => exact value.toNat_lt
    refine ⟨?_, kind.code, _, hkindLt, by simp only [entryLayout, List.append_assoc], kind, rfl, 0,
      _, by decide, rfl, rfl, name.utf8ByteSize, _, hfits.size_lt, rfl, size.toNat, _,
      by omega, rfl, seconds.elim unknownModifiedTime UInt64.toNat, stringBytes name ++ rest,
      hmodifiedLt, rfl, stringBytes name, rest, stringBytes_length _, rfl, name, ⟨rfl, hfits⟩, ?_,
      rfl⟩
    · simp only [entryLayout, List.length_append, leBytes_length, directoryEntryHeaderBytes]
      omega
    · rw [UInt64.ofNat_toNat, ← (modifiedOf_eq hmodifiedLt).mpr ⟨htime, rfl⟩]

/-- The bytes of a directory. -/
def directoryLayout (entries : List ManagementDirectoryEntry) : List UInt8 :=
  leBytes 2 directoryResponseVersion ++ leBytes 2 0 ++ leBytes 4 entries.length ++
    entries.flatMap entryLayout

/-- The directory fits the format. -/
structure DirectoryFits (entries : List ManagementDirectoryEntry) : Prop where
  count : entries.length ≤ maxDirectoryEntries
  names : ∀ entry ∈ entries, EntryNameFits entry

theorem directoryLayout_length (entries : List ManagementDirectoryEntry) :
    (directoryLayout entries).length = directoryPayloadLength entries := by
  have hentries : (entries.flatMap entryLayout).length =
      (entries.map fun entry => directoryEntryHeaderBytes + entry.name.utf8ByteSize).sum := by
    induction entries with
    | nil => rfl
    | cons entry entries ih =>
      rw [List.flatMap_cons, List.length_append, ih, List.map_cons, List.sum_cons]
      simp only [entryLayout, List.length_append, leBytes_length, stringBytes_length,
        directoryEntryHeaderBytes]
  unfold directoryLayout directoryPayloadLength
  rw [List.length_append, hentries]
  simp [directoryResponseHeaderBytes]

theorem encodeDirectoryResponse_eq_ok {payload : List UInt8} :
    encodeDirectoryResponse entries = .ok payload ↔ DirectoryFits entries ∧
      directoryPayloadLength entries ≤ maxManagementPayloadBytes ∧
      payload = directoryLayout entries := by
  have hencode : ∀ entry bytes, encodeListedEntry entry = .ok bytes ↔
      entry.name.utf8ByteSize < 2 ^ 16 ∧ bytes = entryLayout entry := by
    intro entry bytes
    unfold encodeListedEntry
    simp only [bind_eq_ok, ensure_eq_ok, pure_eq_ok, Except.ok.injEq, exists_const]
    exact and_congr_right fun _ => eq_comm
  have hvalidate : (∃ us, (entries.mapM fun entry => validateWireText entry.name
      maxEntryNameBytes "directory entry name" false) = .ok us) ↔
      ∀ entry ∈ entries, EntryNameFits entry :=
    mapM_validate fun _ _ => validateWireText_eq_ok
  unfold encodeDirectoryResponse
  simp only [bind_eq_ok, ensure_eq_ok, mapM_checked hencode, pure_eq_ok, Except.ok.injEq,
    exists_const]
  constructor
  · intro ⟨hcount, _, us, hus, hlength, encoded, ⟨_, hencoded⟩, hpayload⟩
    subst hencoded
    exact ⟨⟨hcount, hvalidate.mp ⟨us, hus⟩⟩, hlength, hpayload.symm⟩
  · intro ⟨⟨hcount, hnames⟩, hlength, hpayload⟩
    obtain ⟨us, hus⟩ := hvalidate.mpr hnames
    have hlimit := hcount
    simp only [maxDirectoryEntries] at hlimit
    exact ⟨hcount, by omega, us, hus, hlength, _,
      ⟨fun entry hmem => (hnames entry hmem).size_lt, rfl⟩, hpayload.symm⟩

theorem readDirectoryResponse_eq_ok :
    (readDirectoryResponse texts).run payload = .ok (entries, rest) ↔
      rest = [] ∧ DirectoryFits entries ∧ (∀ entry ∈ entries, KnownTime entry) ∧
        payload = directoryLayout entries := by
  unfold readDirectoryResponse
  simp only [run_need_bind, headerField_bind, run_check_bind, run_exactly_bind, run_pure_eq_ok,
    run_many_bind readListedEntry_eq_ok]
  constructor
  · rintro ⟨_, version, _, _, hpayload, hversion, reserved, _, _, hmore, hreserved, count, _, _,
      hmore2, hcount, found, left, hlength, hfound, hmore3, hleft, hentries, hrest⟩
    have hnil := List.eq_nil_of_length_eq_zero hleft
    subst hentries hversion hreserved hlength hnil
    refine ⟨hrest, ⟨hcount, fun entry hmem => (hfound entry hmem).1⟩,
      fun entry hmem => (hfound entry hmem).2, ?_⟩
    rw [hpayload, hmore, hmore2, hmore3]
    simp only [directoryLayout, List.append_assoc, List.append_nil]
  · rintro ⟨hrest, ⟨hcount, hnames⟩, htimes, hpayload⟩
    subst hpayload
    have hlimit := hcount
    simp only [maxDirectoryEntries] at hlimit
    refine ⟨?_, directoryResponseVersion, _, by decide, by
      simp only [directoryLayout, List.append_assoc], rfl, 0, _, by decide, rfl, rfl,
      entries.length, _, by omega, rfl, hcount, entries, [], rfl,
      fun entry hmem => ⟨hnames entry hmem, htimes entry hmem⟩, (List.append_nil _).symm, rfl,
      rfl, hrest⟩
    simp only [directoryLayout, List.length_append, leBytes_length, directoryResponseHeaderBytes]
    omega

end

end NetworkCopy
