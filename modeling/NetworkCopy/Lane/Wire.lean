import NetworkCopy.Lib.Duplex
import NetworkCopy.Lib.ByteOrder
import NetworkCopy.FileSystem

/-!
# Parties of a connection

The functions that read and write a connection are parties of a duplex byte channel
(`NetworkCopy.Lib.Duplex`).  A party that fails says why: an operating system call on
a file failed (`disk`), the program rejects data of its own (`refused`), or it rejects
what its peer sent (`protocol`).  The source does not make this distinction, all three
are an `io::Error`; the statements about two parties do.

Integers travel in network byte order, digests as 32 bytes.  Each field has one lemma
that passes it from one party to the other.
-/

namespace NetworkCopy

open Duplex ByteOrder

/-- Why a party stops. -/
inductive Fault where
  | disk (error : IoError)
  | refused (error : IoError)
  | protocol (error : IoError)
  deriving DecidableEq

/-- A party of a byte connection. -/
abbrev Party := Proc UInt8 Fault

/-- A failure of a file operation. -/
def Fault.IsDisk : Fault → Prop
  | .disk _ => True
  | _ => False

/-- A failure that is not a rejection of received data. -/
def Fault.IsLocal : Fault → Prop
  | .protocol _ => False
  | _ => True

/-- A computation of the party itself, with the kind of its failure. -/
def attempt {α : Type} (kind : IoError → Fault) (result : IoResult α) : Party α :=
  Proc.lift (result.mapError kind)

@[simp] theorem attempt_ok {α : Type} (kind : IoError → Fault) (value : α) :
    attempt kind (.ok value) = .ret value := rfl

@[simp] theorem attempt_error {α : Type} (kind : IoError → Fault) (error : IoError) :
    (attempt kind (.error error) : Party α) = .fail (kind error) := rfl

section

variable {α β γ : Type} {L R : Fault → Prop} {Q : α → β → Prop}
variable {kind : IoError → Fault}

/-- A local computation of the left party either succeeds or ends the run. -/
theorem agree_attempt_left {result : IoResult γ} {f : γ → Party α} {q : Party β}
    (herror : ∀ e, result = .error e → L (kind e))
    (hok : ∀ a, result = .ok a → Agree L R (f a) q Q) :
    Agree L R (attempt kind result >>= f) q Q := by
  cases result with
  | error e => exact Agree.failLeft (herror e rfl)
  | ok a => exact hok a rfl

/-- A local computation of the right party either succeeds or ends the run. -/
theorem agree_attempt_right {result : IoResult γ} {p : Party α} {g : γ → Party β}
    (herror : ∀ e, result = .error e → R (kind e))
    (hok : ∀ b, result = .ok b → Agree L R p (g b) Q) :
    Agree L R p (attempt kind result >>= g) Q := by
  cases result with
  | error e => exact Agree.failRight (herror e rfl)
  | ok b => exact hok b rfl

/-- A check of the right party that passes. -/
theorem agree_ensure_right {condition : Prop} [Decidable condition] {error : IoError}
    {p : Party α} {g : Unit → Party β} (h : condition) (hok : Agree L R p (g ()) Q) :
    Agree L R p (attempt kind (ensure condition error) >>= g) Q := by
  rw [ensure, if_pos h]
  exact hok

/-- A check of the left party that passes. -/
theorem agree_ensure_left {condition : Prop} [Decidable condition] {error : IoError}
    {f : Unit → Party α} {q : Party β} (h : condition) (hok : Agree L R (f ()) q Q) :
    Agree L R (attempt kind (ensure condition error) >>= f) q Q := by
  rw [ensure, if_pos h]
  exact hok

end

/-! ## Fields -/

/-- `write_u8`. -/
def writeU8 (value : UInt8) : Party Unit := Proc.write [value]

/-- `write_u32`. -/
def writeU32 (value : Nat) : Party Unit := Proc.write (beBytes 4 value)

/-- `write_u64`. -/
def writeU64 (value : Nat) : Party Unit := Proc.write (beBytes 8 value)

/-- `write_digest`. -/
def writeDigest (digest : Digest) : Party Unit := Proc.write digest.1

/-- `read_u8`. -/
def readU8 : Party UInt8 := do
  let bytes ← Proc.read 1
  return bytes.headD 0

/-- `read_u32`. -/
def readU32 : Party Nat := do
  let bytes ← Proc.read 4
  return beValue bytes

/-- `read_u64`. -/
def readU64 : Party Nat := do
  let bytes ← Proc.read 8
  return beValue bytes

/-- `read_digest`. -/
def readDigest : Party Digest := do
  let bytes ← Proc.read contentDigestBytes
  return ⟨bytes.takeD contentDigestBytes 0, List.takeD_length _ _ _⟩

/-- `u64::try_from(value).map_err(..)?`. -/
def u64TryFrom (value : Nat) (error : IoError) : IoResult Nat :=
  if value < u64Limit then .ok value else .error error

/-- `u32::try_from(value).map_err(..)?`. -/
def u32TryFrom (value : Nat) (error : IoError) : IoResult Nat :=
  if value < 2 ^ 32 then .ok value else .error error

theorem u64TryFrom_eq_ok {value result : Nat} {error : IoError} :
    u64TryFrom value error = .ok result ↔ value < u64Limit ∧ result = value := by
  unfold u64TryFrom
  split <;> simp_all [eq_comm]

theorem u32TryFrom_eq_ok {value result : Nat} {error : IoError} :
    u32TryFrom value error = .ok result ↔ value < 2 ^ 32 ∧ result = value := by
  unfold u32TryFrom
  split <;> simp_all [eq_comm]

theorem u64Limit_eq : u64Limit = 256 ^ 8 := by
  norm_num [u64Limit]

section

variable {α β : Type} {L R : Fault → Prop} {Q : α → β → Prop}
variable {f : Unit → Party α}
variable {g : Unit → Party β}

theorem agree_u8 {value : UInt8} {g : UInt8 → Party β} (h : Agree L R (f ()) (g value) Q) :
    Agree L R (writeU8 value >>= f) (readU8 >>= g) Q :=
  Agree.sendRight rfl h

/-- An integer field of a given width. -/
theorem agree_uint {width value : Nat} {g : Nat → Party β} (hvalue : value < 256 ^ width)
    (h : Agree L R (f ()) (g value) Q) :
    Agree L R (Proc.write (beBytes width value) >>= f)
      (Proc.read width >>= fun bytes => g (beValue bytes)) Q := by
  refine Agree.writeRead (by simp) ?_
  rw [beValue_beBytes width value hvalue]
  exact h

theorem agree_u32 {value : Nat} {g : Nat → Party β} (hvalue : value < 2 ^ 32)
    (h : Agree L R (f ()) (g value) Q) :
    Agree L R (writeU32 value >>= f) (readU32 >>= g) Q :=
  agree_uint (by omega) h

theorem agree_u64 {value : Nat} {g : Nat → Party β} (hvalue : value < u64Limit)
    (h : Agree L R (f ()) (g value) Q) :
    Agree L R (writeU64 value >>= f) (readU64 >>= g) Q :=
  agree_uint (u64Limit_eq ▸ hvalue) h

theorem agree_digest {value : Digest} {g : Digest → Party β} (h : Agree L R (f ()) (g value) Q) :
    Agree L R (writeDigest value >>= f) (readDigest >>= g) Q := by
  refine Agree.sendRight value.2 ?_
  have hsame : (⟨value.1.takeD contentDigestBytes 0, List.takeD_length _ _ _⟩ : Digest) =
      value := by
    apply Subtype.ext
    show value.1.takeD contentDigestBytes 0 = value.1
    rw [List.takeD_eq_take 0 value.2.ge]
    exact List.take_of_length_le value.2.le
  show Agree L R (f ()) (g ⟨value.1.takeD contentDigestBytes 0, List.takeD_length _ _ _⟩) Q
  rw [hsame]
  exact h

/-- The same fields from the right party to the left one. -/
theorem agree_u8_back {value : UInt8} {f : UInt8 → Party α} (h : Agree L R (f value) (g ()) Q) :
    Agree L R (readU8 >>= f) (writeU8 value >>= g) Q :=
  (agree_u8 h.swap).swap

theorem agree_u64_back {value : Nat} {f : Nat → Party α} (hvalue : value < u64Limit)
    (h : Agree L R (f value) (g ()) Q) :
    Agree L R (readU64 >>= f) (writeU64 value >>= g) Q :=
  (agree_u64 hvalue h.swap).swap

theorem agree_bytes_back {bytes : Bytes} {f : Bytes → Party α} {count : Nat}
    (hcount : bytes.length = count) (h : Agree L R (f bytes) (g ()) Q) :
    Agree L R (Proc.read count >>= f) (Proc.write bytes >>= g) Q :=
  Agree.readWrite hcount h

theorem agree_bytes {bytes : Bytes} {g : Bytes → Party β} {count : Nat}
    (hcount : bytes.length = count) (h : Agree L R (f ()) (g bytes) Q) :
    Agree L R (Proc.write bytes >>= f) (Proc.read count >>= g) Q :=
  Agree.writeRead hcount h

end

/-! ## What was read -/

theorem parses_u8 {w : Bytes} {value : UInt8} (h : Parses readU8 w value) : w = [value] := by
  obtain ⟨bytes, rest, rfl, hlength, hrest⟩ := Parses.recv_inv h
  obtain ⟨rfl, rfl⟩ := hrest.ret_inv
  obtain ⟨byte, rfl⟩ := List.length_eq_one_iff.mp hlength
  rfl

/-- An integer field of a given width. -/
theorem parses_uint {width : Nat} {w : Bytes} {value : Nat}
    (h : Parses (Proc.read width >>= fun bytes => (.ret (beValue bytes) : Party Nat)) w value) :
    w = beBytes width value ∧ value < 256 ^ width := by
  obtain ⟨bytes, rest, rfl, rfl, hrest⟩ := Parses.recv_inv h
  obtain ⟨rfl, rfl⟩ := hrest.ret_inv
  rw [List.append_nil]
  exact ⟨(beBytes_beValue bytes).symm, beValue_lt bytes⟩

theorem parses_u32 {w : Bytes} {value : Nat} (h : Parses readU32 w value) :
    w = beBytes 4 value ∧ value < 2 ^ 32 := by
  obtain ⟨hw, hvalue⟩ := parses_uint h
  exact ⟨hw, by omega⟩

theorem parses_u64 {w : Bytes} {value : Nat} (h : Parses readU64 w value) :
    w = beBytes 8 value ∧ value < u64Limit := by
  rw [u64Limit_eq]
  exact parses_uint h

/-- A computation of the reader has no input of its own. -/
theorem parses_attempt {α β : Type} {kind : IoError → Fault} {result : IoResult α}
    {g : α → Party β} {w : Bytes} {b : β} (h : Parses (attempt kind result >>= g) w b) :
    ∃ a, result = .ok a ∧ Parses (g a) w b := by
  cases result with
  | error e => exact absurd h not_parses_fail
  | ok a => exact ⟨a, rfl, h⟩

/-! ## Digests -/

/-- `verify_content_digest` and `adaptive_compression::verify_digest`. -/
def verifyDigest (context : String) (actual expected : Digest) : IoResult Unit :=
  ensure (actual = expected)
    (.invalidData ("BLAKE3 verification failed for " ++ context ++ ": expected " ++
      formatDigest expected ++ ", calculated " ++ formatDigest actual))

end NetworkCopy
