import Mathlib

/-!
# Fixed-width integers as bytes

Little- and big-endian encodings of natural numbers with a fixed number of
bytes, and reading a field at a cursor of a byte string.  Nothing here depends on
a particular format: a format is a sequence of fields, and a decoder that reads
the fields of an encoder in order succeeds by `slice_append` at each of them.
-/

namespace ByteOrder

/-- The `width` low bytes of a number, least significant first. -/
def leBytes : Nat → Nat → List UInt8
  | 0, _ => []
  | width + 1, value => UInt8.ofNat value :: leBytes width (value / 256)

/-- The number that a little-endian byte string denotes. -/
def leValue : List UInt8 → Nat
  | [] => 0
  | byte :: rest => byte.toNat + 256 * leValue rest

/-- The `width` low bytes of a number, most significant first. -/
def beBytes (width value : Nat) : List UInt8 := (leBytes width value).reverse

/-- The number that a big-endian byte string denotes. -/
def beValue (bytes : List UInt8) : Nat := leValue bytes.reverse

@[simp] theorem leBytes_length : ∀ width value, (leBytes width value).length = width := by
  intro width
  induction width with
  | zero => intro value; rfl
  | succ width ih => intro value; simp [leBytes, ih]

@[simp] theorem beBytes_length (width value : Nat) :
    (beBytes width value).length = width := by
  simp [beBytes]

/-- A number that fits in the width is read back. -/
theorem leValue_leBytes : ∀ (width value : Nat), value < 256 ^ width →
    leValue (leBytes width value) = value := by
  intro width
  induction width with
  | zero => intro value h; simp [leBytes, leValue] at *; omega
  | succ width ih =>
    intro value h
    have hrest : value / 256 < 256 ^ width := by
      rw [Nat.pow_succ] at h
      exact Nat.div_lt_of_lt_mul (by rw [Nat.mul_comm]; exact h)
    have hbyte : (UInt8.ofNat value).toNat = value % 256 := by simp
    rw [leBytes, leValue, ih _ hrest, hbyte]
    omega

theorem beValue_beBytes (width value : Nat) (h : value < 256 ^ width) :
    beValue (beBytes width value) = value := by
  rw [beValue, beBytes, List.reverse_reverse, leValue_leBytes width value h]

/-- A byte string denotes a number below the power of its width. -/
theorem leValue_lt : ∀ bytes : List UInt8, leValue bytes < 256 ^ bytes.length := by
  intro bytes
  induction bytes with
  | nil => simp [leValue]
  | cons byte rest ih =>
    have hbyte := byte.toNat_lt
    rw [leValue, List.length_cons, Nat.pow_succ]
    omega

theorem beValue_lt (bytes : List UInt8) : beValue bytes < 256 ^ bytes.length := by
  have h := leValue_lt bytes.reverse
  rwa [List.length_reverse] at h

/-- A byte string is the encoding of the number that it denotes. -/
theorem leBytes_leValue : ∀ bytes : List UInt8, leBytes bytes.length (leValue bytes) = bytes := by
  intro bytes
  induction bytes with
  | nil => rfl
  | cons byte rest ih =>
    have hbyte := byte.toNat_lt
    have hlow : UInt8.ofNat (byte.toNat + 256 * leValue rest) = byte := by
      apply UInt8.toNat_inj.mp
      rw [UInt8.toNat_ofNat']
      omega
    have hhigh : (byte.toNat + 256 * leValue rest) / 256 = leValue rest := by omega
    rw [leValue, List.length_cons, leBytes, hlow, hhigh, ih]

theorem beBytes_beValue (bytes : List UInt8) :
    beBytes bytes.length (beValue bytes) = bytes := by
  have h := leBytes_leValue bytes.reverse
  rw [List.length_reverse] at h
  rw [beBytes, beValue, h, List.reverse_reverse]

/-- `bytes.get(cursor..cursor + length)`. -/
def slice (bytes : List UInt8) (cursor length : Nat) : Option (List UInt8) :=
  if cursor + length ≤ bytes.length then some ((bytes.drop cursor).take length) else none

/-- A field is read back at the cursor behind what precedes it. -/
theorem slice_append (before field after : List UInt8) :
    slice (before ++ (field ++ after)) before.length field.length = some field := by
  unfold slice
  rw [if_pos (by simp), List.drop_left, List.take_left]

/-- A field that is read has the requested length. -/
theorem length_of_slice {bytes field : List UInt8} {cursor length : Nat}
    (h : slice bytes cursor length = some field) : field.length = length := by
  unfold slice at h
  split at h
  · cases h
    simp
    omega
  · cases h

end ByteOrder
