import NetworkCopy.Cdc.WireForms

/-!
# What the CDC decoders reserve

Before their loops the two decoders reserve room for as many elements as the peer declares.
`Vec::with_capacity` panics when the elements would take more than `isize::MAX` bytes.  The decoder
of the basis index has compared the count with the length of the message by then; the decoder of
the plan has not.

`decode_wire` of `WireForms` is the decoder behind the reservation.  Here it is put in front:
`planCount` and `indexCount` are the parts of the decoders that come before it.
-/

namespace NetworkCopy

open ByteOrder

/-- `isize::MAX`. -/
@[irreducible] def isizeMax : Nat := 2 ^ 63 - 1

/-- `size_of` of the elements that the decoders reserve: an operation, a chunk, and an entry of
the table of first locations. -/
structure ElementSizes where
  operation : Nat
  chunk : Nat
  entry : Nat

/-- How a call ends. -/
inductive Ending (α : Type) where
  | returned (result : IoResult α)
  | panicked

/-- Go on with `next` when every reservation, of so many elements of such a size, is possible. -/
def reserve {α : Type} (requests : List (Nat × Nat)) (next : IoResult α) : Ending α :=
  if ∀ request ∈ requests, request.1 * request.2 ≤ isizeMax then .returned next else .panicked

theorem reserve_ne_panicked {α : Type} {requests : List (Nat × Nat)} {next : IoResult α} :
    reserve requests next ≠ .panicked ↔
      ∀ request ∈ requests, request.1 * request.2 ≤ isizeMax := by
  unfold reserve
  split
  · next h => exact ⟨fun _ => h, fun _ hpanic => by cases hpanic⟩
  · next h => exact ⟨fun hnot => absurd rfl hnot, fun hall => absurd hall h⟩

variable {encoded : Bytes}

/-- A field that is there is read. -/
theorem readSlice_of_le {overflowed truncated : IoError} {cursor length : Nat}
    (hlimit : cursor + length < u64Limit) (hle : cursor + length ≤ encoded.length) :
    readSlice overflowed truncated encoded cursor length =
      .ok ((encoded.drop cursor).take length, cursor + length) := by
  have hadd : checkedAdd cursor length = some (cursor + length) :=
    checkedAdd_eq_some.mpr ⟨hlimit, rfl⟩
  rw [readSlice, hadd, slice, if_pos hle]
  rfl

theorem readDigestWith_of_le {overflowed truncated : IoError} {cursor : Nat}
    (hlimit : cursor + contentDigestBytes < u64Limit)
    (hle : cursor + contentDigestBytes ≤ encoded.length) :
    ∃ digest, readDigestWith overflowed truncated encoded cursor =
      .ok (digest, cursor + contentDigestBytes) := by
  unfold readDigestWith
  split
  · next result hresult =>
      rw [readSlice_of_le hlimit hle] at hresult
      cases hresult
      exact ⟨_, rfl⟩
  · next error herror =>
      rw [readSlice_of_le hlimit hle] at herror
      cases herror

/-- The number that a little-endian field holds. -/
def littleField (encoded : Bytes) (cursor width : Nat) : Nat :=
  leValue ((encoded.drop cursor).take width)

/-- Two programs that start alike fail alike, if what follows does. -/
theorem bind_error_imp {α β γ : Type} {x : IoResult α} {f : α → IoResult β}
    {g : α → IoResult γ} {error : IoError} (h : (x >>= f) = .error error)
    (hnext : ∀ a, f a = .error error → g a = .error error) : (x >>= g) = .error error := by
  cases x with
  | error found =>
    cases h
    rfl
  | ok a => exact hnext a h

/-! ## Plans -/

namespace ReconstructionPlan

/-- `decode_wire` up to the reservation: the declared number of operations. -/
def planCount (encoded : Bytes) : IoResult Nat := do
  ensure (planHeaderBytes ≤ encoded.length)
    (invalidPlan "reconstruction plan header is truncated")
  ensure (encoded.take 4 = planMagic) (invalidPlan "reconstruction plan magic is invalid")
  let targetBytes ← readU64 encoded 4
  let targetDigest ← readDigest encoded targetBytes.2
  let operationCount ← readU64 encoded targetDigest.2
  return operationCount.1

/-- `decode_wire` with its reservation. -/
def decodeWireReserving (sizes : ElementSizes) (encoded : Bytes) : Ending ReconstructionPlan :=
  match planCount encoded with
  | .error error => .returned (.error error)
  | .ok count => reserve [(count, sizes.operation)] (decodeWire encoded)

/-- What stops `decode_wire` before the reservation is its result. -/
theorem decodeWire_of_planCount {encoded : Bytes} {error : IoError}
    (h : planCount encoded = .error error) : decodeWire encoded = .error error := by
  unfold planCount at h
  unfold decodeWire
  refine bind_error_imp h (fun _ h => ?_)
  refine bind_error_imp h (fun _ h => ?_)
  refine bind_error_imp h (fun _ h => ?_)
  refine bind_error_imp h (fun _ h => ?_)
  refine bind_error_imp h (fun _ h => ?_)
  cases h

theorem readU64_of_le {encoded : Bytes} {cursor : Nat} (hlimit : cursor + 8 < u64Limit)
    (hle : cursor + 8 ≤ encoded.length) :
    readU64 encoded cursor = .ok (littleField encoded cursor 8, cursor + 8) := by
  rw [readU64, readBytes, readSlice_of_le hlimit hle]
  rfl

/-- Every message with a header gets to the reservation. -/
theorem planCount_eq_ok {encoded : Bytes} {count : Nat} :
    planCount encoded = .ok count ↔ planHeaderBytes ≤ encoded.length ∧
      encoded.take 4 = planMagic ∧ count = littleField encoded 44 8 := by
  have hrun : planHeaderBytes ≤ encoded.length → encoded.take 4 = planMagic →
      planCount encoded = .ok (littleField encoded 44 8) := by
    intro hlength hmagic
    have hheader : planHeaderBytes = 52 := rfl
    have hlimit : 52 < u64Limit := by
      unfold u64Limit
      omega
    obtain ⟨digest, hdigest⟩ : ∃ digest, readDigest encoded 12 = .ok (digest, 44) :=
      readDigestWith_of_le (by unfold contentDigestBytes; omega)
        (by unfold contentDigestBytes; omega)
    have htarget : readU64 encoded 4 = .ok (littleField encoded 4 8, 12) :=
      readU64_of_le (by omega) (by omega)
    have hcount : readU64 encoded 44 = .ok (littleField encoded 44 8, 52) :=
      readU64_of_le (by omega) (by omega)
    unfold planCount
    refine bind_eq_ok.mpr ⟨(), ensure_eq_ok.mpr hlength, ?_⟩
    refine bind_eq_ok.mpr ⟨(), ensure_eq_ok.mpr hmagic, ?_⟩
    rw [htarget, ok_bind, hdigest, ok_bind, hcount]
    rfl
  constructor
  · intro h
    have hchecks := h
    unfold planCount at hchecks
    obtain ⟨_, hlength, hchecks⟩ := bind_eq_ok.mp hchecks
    obtain ⟨_, hmagic, _⟩ := bind_eq_ok.mp hchecks
    rw [ensure_eq_ok] at hlength hmagic
    rw [hrun hlength hmagic] at h
    cases h
    exact ⟨hlength, hmagic, rfl⟩
  · intro ⟨hlength, hmagic, hcount⟩
    rw [hcount]
    exact hrun hlength hmagic

end ReconstructionPlan

/-! ## Basis indexes -/

namespace BasisFileIndex

/-- `decode_wire` up to the reservation: the declared number of chunks. -/
def indexCount (encoded : Bytes) : IoResult Nat := do
  ensure (wireHeaderBytes ≤ encoded.length) (invalidWire "basis index header is truncated")
  ensure (encoded.take 4 = wireMagic) (invalidWire "basis index magic is invalid")
  let averageKib ← readUInt 4 encoded 4
  let _ ← match ChunkConfig.fromAverageKib averageKib.1 with
    | .ok config => .ok config
    | .error error =>
        .error (invalidWire ("invalid average chunk size: " ++ error.message))
  let fileBytes ← readUInt 8 encoded averageKib.2
  let chunkCount ← readUInt 8 encoded fileBytes.2
  let expectedWireBytes ← wireSizeForChunks chunkCount.1
  let wireBytes := encoded.length
  ensure (wireBytes = expectedWireBytes)
    (invalidWire s!"basis index length is {wireBytes}, expected {expectedWireBytes}")
  return chunkCount.1

/-- `decode_wire` with its reservations. -/
def decodeWireReserving (sizes : ElementSizes) (encoded : Bytes) : Ending BasisFileIndex :=
  match indexCount encoded with
  | .error error => .returned (.error error)
  | .ok count => reserve [(count, sizes.chunk), (count, sizes.entry)] (decodeWire encoded)

/-- What stops `decode_wire` before the reservation is its result. -/
theorem decodeWire_of_indexCount {encoded : Bytes} {error : IoError}
    (h : indexCount encoded = .error error) : decodeWire encoded = .error error := by
  unfold indexCount at h
  unfold decodeWire
  refine bind_error_imp h (fun _ h => ?_)
  refine bind_error_imp h (fun _ h => ?_)
  refine bind_error_imp h (fun averageKib h => ?_)
  cases hconfig : ChunkConfig.fromAverageKib averageKib.1 with
  | error found =>
    simp only [hconfig, error_bind] at h ⊢
    cases h
    rfl
  | ok config =>
    simp only [hconfig, ok_bind] at h ⊢
    refine bind_error_imp h (fun _ h => ?_)
    refine bind_error_imp h (fun _ h => ?_)
    refine bind_error_imp h (fun _ h => ?_)
    refine bind_error_imp h (fun _ h => ?_)
    cases h

/-- The count has been compared with the length of the message. -/
theorem length_of_indexCount {encoded : Bytes} {count : Nat} (h : indexCount encoded = .ok count) :
    encoded.length = wireHeaderBytes + count * wireRecordBytes := by
  unfold indexCount at h
  simp only at h
  obtain ⟨_, h⟩ := bind_rest h
  obtain ⟨_, h⟩ := bind_rest h
  obtain ⟨averageKib, _, h⟩ := bind_eq_ok.mp h
  cases hconfig : ChunkConfig.fromAverageKib averageKib.1 with
  | error found =>
    rw [hconfig] at h
    cases h
  | ok config =>
    simp only [hconfig, ok_bind] at h
    obtain ⟨fileBytes, _, h⟩ := bind_eq_ok.mp h
    obtain ⟨chunkCount, _, h⟩ := bind_eq_ok.mp h
    obtain ⟨wireBytes, hwire, h⟩ := bind_eq_ok.mp h
    obtain ⟨_, hlength, h⟩ := bind_eq_ok.mp h
    cases h
    rw [wireSizeForChunks, okOrElse_eq_ok, Option.bind_eq_some_iff] at hwire
    obtain ⟨records, hrecords, hadd⟩ := hwire
    rw [checkedMul_eq_some] at hrecords
    rw [checkedAdd_eq_some] at hadd
    rw [ensure_eq_ok.mp hlength, ← hadd.2, ← hrecords.2]

end BasisFileIndex

/-! ## Both decoders -/

/-- The decoders return, and ask for no more elements than their input has bytes. -/
structure DecodesSafely (sizes : ElementSizes) (encoded : Bytes) : Prop where
  plan : ReconstructionPlan.decodeWireReserving sizes encoded ≠ .panicked
  planCapacity : ∀ count, ReconstructionPlan.planCount encoded = .ok count →
    count ≤ encoded.length
  index : BasisFileIndex.decodeWireReserving sizes encoded ≠ .panicked
  indexCapacity : ∀ count, BasisFileIndex.indexCount encoded = .ok count →
    count ≤ encoded.length

/-- A message with a plan header declares no more operations than it has bytes, and the operations
fit the address space. -/
def DeclaredCountFits (sizes : ElementSizes) (encoded : Bytes) : Prop :=
  ReconstructionPlan.planHeaderBytes ≤ encoded.length →
    encoded.take 4 = ReconstructionPlan.planMagic →
      littleField encoded 44 8 ≤ encoded.length ∧
        littleField encoded 44 8 * sizes.operation ≤ isizeMax

/-- The chunks of a basis index, and their entries, fit the address space. -/
def ChunksFit (sizes : ElementSizes) (encoded : Bytes) : Prop :=
  ∀ count, BasisFileIndex.indexCount encoded = .ok count →
    count * sizes.chunk ≤ isizeMax ∧ count * sizes.entry ≤ isizeMax

theorem planReserving_ne_panicked {sizes : ElementSizes} :
    ReconstructionPlan.decodeWireReserving sizes encoded ≠ .panicked ↔
      ∀ count, ReconstructionPlan.planCount encoded = .ok count →
        count * sizes.operation ≤ isizeMax := by
  unfold ReconstructionPlan.decodeWireReserving
  cases hcount : ReconstructionPlan.planCount encoded with
  | error error =>
    constructor
    · intro _ count h
      cases h
    · intro _ hpanic
      cases hpanic
  | ok found =>
    simp only [reserve_ne_panicked, List.forall_mem_singleton, Except.ok.injEq, forall_eq']

theorem indexReserving_ne_panicked {sizes : ElementSizes} :
    BasisFileIndex.decodeWireReserving sizes encoded ≠ .panicked ↔ ChunksFit sizes encoded := by
  unfold BasisFileIndex.decodeWireReserving ChunksFit
  cases hcount : BasisFileIndex.indexCount encoded with
  | error error =>
    constructor
    · intro _ count h
      cases h
    · intro _ hpanic
      cases hpanic
  | ok found =>
    simp only [reserve_ne_panicked, List.forall_mem_cons, List.not_mem_nil, false_imp_iff,
      implies_true, and_true, Except.ok.injEq, forall_eq']

/-- The records of an index bound its count. -/
theorem indexCount_le {count : Nat} (h : BasisFileIndex.indexCount encoded = .ok count) :
    count ≤ encoded.length := by
  have hlength := BasisFileIndex.length_of_indexCount h
  have hrecord : 1 ≤ BasisFileIndex.wireRecordBytes := by decide
  have hcount := Nat.mul_le_mul_left count hrecord
  omega

/-- The decoders are safe on the messages whose declared counts fit: the index decoder looks at
the length before it reserves, the plan decoder trusts the header. -/
theorem decoders_reserve_safely (sizes : ElementSizes) (encoded : Bytes) :
    DecodesSafely sizes encoded ↔
      DeclaredCountFits sizes encoded ∧ ChunksFit sizes encoded := by
  constructor
  · intro h
    refine ⟨?_, indexReserving_ne_panicked.mp h.index⟩
    intro hlength hmagic
    have hcount : ReconstructionPlan.planCount encoded = .ok (littleField encoded 44 8) :=
      ReconstructionPlan.planCount_eq_ok.mpr ⟨hlength, hmagic, rfl⟩
    exact ⟨h.planCapacity _ hcount, planReserving_ne_panicked.mp h.plan _ hcount⟩
  · intro ⟨hplan, hindex⟩
    have hfits : ∀ count, ReconstructionPlan.planCount encoded = .ok count →
        count ≤ encoded.length ∧ count * sizes.operation ≤ isizeMax := by
      intro count hcount
      obtain ⟨hlength, hmagic, hvalue⟩ := ReconstructionPlan.planCount_eq_ok.mp hcount
      rw [hvalue]
      exact hplan hlength hmagic
    exact {
      plan := planReserving_ne_panicked.mpr (fun count hcount => (hfits count hcount).2)
      planCapacity := fun count hcount => (hfits count hcount).1
      index := indexReserving_ne_panicked.mpr hindex
      indexCapacity := fun count hcount => indexCount_le hcount }

/-- A plan header that declares `u64::MAX` operations. -/
def hugePlanHeader : Bytes :=
  ReconstructionPlan.planMagic ++ List.replicate 40 0 ++ List.replicate 8 0xFF

/-- Fifty-two bytes make the plan decoder panic, with the sizes of a 64-bit build. -/
theorem hugePlanHeader_panics :
    ReconstructionPlan.decodeWireReserving ⟨24, 48, 48⟩ hugePlanHeader = .panicked ∧
      ¬ DecodesSafely ⟨24, 48, 48⟩ hugePlanHeader := by
  have hpanic : ReconstructionPlan.decodeWireReserving ⟨24, 48, 48⟩ hugePlanHeader =
      .panicked := by
    have hcount : ReconstructionPlan.planCount hugePlanHeader =
        .ok (littleField hugePlanHeader 44 8) :=
      ReconstructionPlan.planCount_eq_ok.mpr ⟨by decide, by decide, rfl⟩
    have hvalue : littleField hugePlanHeader 44 8 = 2 ^ 64 - 1 := by decide
    unfold ReconstructionPlan.decodeWireReserving
    rw [hcount, hvalue]
    unfold reserve isizeMax
    simp
  exact ⟨hpanic, fun h => h.plan hpanic⟩

end NetworkCopy
