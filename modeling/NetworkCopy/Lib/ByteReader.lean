import NetworkCopy.Lib.ByteOrder

/-!
# Readers of binary records

A reader takes bytes from the front of what is left and can fail.  For each of the primitive
readers one lemma says exactly when it succeeds, so what a record decoder accepts follows from
rewriting with these lemmas: the input is the concatenation of the fields, and the fields pass
the checks.
-/

open ByteOrder

/-- A reader of bytes with errors of a type. -/
abbrev ByteReader (ε α : Type) := StateT (List UInt8) (Except ε) α

namespace ByteReader

variable {ε α β : Type}

/-- Fail when fewer bytes are left; the error may depend on how many there are. -/
def need (length : Nat) (error : Nat → ε) : ByteReader ε Unit := fun bytes =>
  if length ≤ bytes.length then .ok ((), bytes) else .error (error bytes.length)

/-- The next bytes. -/
def take (length : Nat) (error : ε) : ByteReader ε (List UInt8) := fun bytes =>
  if length ≤ bytes.length then .ok (bytes.take length, bytes.drop length) else .error error

/-- All bytes that are left. -/
def takeAll : ByteReader ε (List UInt8) := fun bytes => .ok (bytes, [])

/-- A little-endian number. -/
def uint (width : Nat) (error : ε) : ByteReader ε Nat := do
  let field ← take width error
  return leValue field

/-- Fail unless a condition holds. -/
def check (condition : Prop) [Decidable condition] (error : ε) : ByteReader ε Unit := fun bytes =>
  if condition then .ok ((), bytes) else .error error

/-- Fail unless exactly this many bytes are left. -/
def exactly (length : Nat) (error : Nat → ε) : ByteReader ε Unit := fun bytes =>
  if bytes.length = length then .ok ((), bytes) else .error (error bytes.length)

/-- A reader, this many times. -/
def many : Nat → ByteReader ε α → ByteReader ε (List α)
  | 0, _ => pure []
  | count + 1, reader => do
      let first ← reader
      let others ← many count reader
      return first :: others

section

variable {bytes rest : List UInt8}

theorem run_bind_eq_ok {x : ByteReader ε α} {f : α → ByteReader ε β} {b : β} :
    (x >>= f).run bytes = .ok (b, rest) ↔
      ∃ a middle, x.run bytes = .ok (a, middle) ∧ (f a).run middle = .ok (b, rest) := by
  rw [StateT.run_bind]
  cases x.run bytes with
  | error error =>
    simp only [reduceCtorEq, false_and, exists_false, iff_false]
    intro h
    cases h
  | ok pair =>
    obtain ⟨a, middle⟩ := pair
    constructor
    · exact fun h => ⟨a, middle, rfl, h⟩
    · intro ⟨_, _, hpair, h⟩
      cases hpair
      exact h

theorem run_pure_eq_ok {a b : α} :
    (pure a : ByteReader ε α).run bytes = .ok (b, rest) ↔ b = a ∧ rest = bytes := by
  show Except.ok (a, bytes) = .ok (b, rest) ↔ _
  simp [eq_comm]

/-! Each primitive, followed by the rest of a reader. -/

variable {f : α → ByteReader ε β} {next : Unit → ByteReader ε β} {b : β}
variable {length : Nat}

theorem run_lift_bind {x : Except ε α} :
    ((liftM x : ByteReader ε α) >>= f).run bytes = .ok (b, rest) ↔
      ∃ a, x = .ok a ∧ (f a).run bytes = .ok (b, rest) := by
  cases x with
  | error error =>
    simp only [reduceCtorEq, false_and, exists_false, iff_false]
    intro h
    cases h
  | ok value =>
    show (f value).run bytes = .ok (b, rest) ↔ _
    simp

theorem run_lift_eq_ok {x : Except ε α} {value : α} :
    (liftM x : ByteReader ε α).run bytes = .ok (value, rest) ↔ x = .ok value ∧ rest = bytes := by
  cases x with
  | error error =>
    simp only [reduceCtorEq, false_and, iff_false]
    intro h
    cases h
  | ok found =>
    show Except.ok (found, bytes) = .ok (value, rest) ↔ _
    simp [eq_comm]

/-- A reader that only checks. -/
theorem run_guard_bind {reader : ByteReader ε Unit} {condition : Prop} [Decidable condition]
    {error : ε} (hreader : reader.run bytes =
      if condition then .ok ((), bytes) else .error error) :
    (reader >>= next).run bytes = .ok (b, rest) ↔
      condition ∧ (next ()).run bytes = .ok (b, rest) := by
  rw [StateT.run_bind, hreader]
  by_cases h : condition
  · rw [if_pos h]
    exact ⟨fun hnext => ⟨h, hnext⟩, fun hnext => hnext.2⟩
  · rw [if_neg h]
    refine ⟨fun hnext => ?_, fun hnext => absurd hnext.1 h⟩
    cases hnext

theorem run_need_bind {error : Nat → ε} :
    (need length error >>= next).run bytes = .ok (b, rest) ↔
      length ≤ bytes.length ∧ (next ()).run bytes = .ok (b, rest) :=
  run_guard_bind rfl

theorem run_check_bind {condition : Prop} [Decidable condition] {error : ε} :
    (check condition error >>= next).run bytes = .ok (b, rest) ↔
      condition ∧ (next ()).run bytes = .ok (b, rest) :=
  run_guard_bind rfl

theorem run_exactly_bind {error : Nat → ε} :
    (exactly length error >>= next).run bytes = .ok (b, rest) ↔
      bytes.length = length ∧ (next ()).run bytes = .ok (b, rest) :=
  run_guard_bind rfl

theorem run_takeAll_bind {f : List UInt8 → ByteReader ε β} :
    (takeAll >>= f).run bytes = .ok (b, rest) ↔ (f bytes).run [] = .ok (b, rest) := Iff.rfl

theorem run_take_eq_ok {error : ε} {field : List UInt8} :
    (take length error).run bytes = .ok (field, rest) ↔
      field.length = length ∧ bytes = field ++ rest := by
  show (if length ≤ bytes.length then Except.ok (bytes.take length, bytes.drop length)
    else .error _) = _ ↔ _
  split
  · simp only [Except.ok.injEq, Prod.mk.injEq]
    constructor
    · intro ⟨hfield, hrest⟩
      subst hfield hrest
      exact ⟨by simp; omega, (List.take_append_drop length bytes).symm⟩
    · intro ⟨hlength, hbytes⟩
      subst hlength hbytes
      exact ⟨List.take_left' rfl, List.drop_left' rfl⟩
  · simp only [reduceCtorEq, false_iff]
    intro ⟨hlength, hbytes⟩
    subst hlength hbytes
    simp at *

theorem run_take_bind {error : ε} {f : List UInt8 → ByteReader ε β} :
    (take length error >>= f).run bytes = .ok (b, rest) ↔
      ∃ field more, field.length = length ∧ bytes = field ++ more ∧
        (f field).run more = .ok (b, rest) := by
  simp only [run_bind_eq_ok, run_take_eq_ok, and_assoc]

theorem run_uint_bind {width : Nat} {error : ε} {f : Nat → ByteReader ε β} :
    (uint width error >>= f).run bytes = .ok (b, rest) ↔
      ∃ value more, value < 256 ^ width ∧ bytes = leBytes width value ++ more ∧
        (f value).run more = .ok (b, rest) := by
  unfold uint
  simp only [run_bind_eq_ok, run_take_eq_ok, run_pure_eq_ok]
  constructor
  · intro ⟨value, more, ⟨field, middle, ⟨hlength, hbytes⟩, hvalue, hmore⟩, hnext⟩
    have hlt := leValue_lt field
    have hback := leBytes_leValue field
    rw [hlength] at hlt hback
    refine ⟨value, more, hvalue ▸ hlt, ?_, hnext⟩
    rw [hvalue, hback, hmore]
    exact hbytes
  · intro ⟨value, more, hlt, hbytes, hnext⟩
    exact ⟨value, more, ⟨leBytes width value, more, ⟨leBytes_length _ _, hbytes⟩,
      (leValue_leBytes width value hlt).symm, rfl⟩, hnext⟩

/-- What a reader returns when its leftover is dropped. -/
theorem run'_eq_ok {reader : ByteReader ε α} {value : α} :
    reader.run' bytes = .ok value ↔ ∃ rest, reader.run bytes = .ok (value, rest) := by
  show Except.map Prod.fst (reader.run bytes) = .ok value ↔ _
  cases reader.run bytes with
  | error error => simp [Except.map]
  | ok pair =>
    obtain ⟨found, rest⟩ := pair
    simp [Except.map]

theorem run_throw_eq_ok {error : ε} {value : α} :
    (throw error : ByteReader ε α).run bytes = .ok (value, rest) ↔ False := by
  refine ⟨fun h => ?_, False.elim⟩
  cases h

/-- Items are read exactly from their bytes, one after the other. -/
theorem run_many_eq_ok {reader : ByteReader ε α} {Fits : α → Prop} {layout : α → List UInt8}
    (hreader : ∀ bytes rest value, reader.run bytes = .ok (value, rest) ↔
      Fits value ∧ bytes = layout value ++ rest) {count : Nat} {values : List α} :
    (many count reader).run bytes = .ok (values, rest) ↔
      values.length = count ∧ (∀ value ∈ values, Fits value) ∧
        bytes = values.flatMap layout ++ rest := by
  induction count generalizing bytes rest values with
  | zero =>
    rw [many, run_pure_eq_ok, List.length_eq_zero_iff]
    constructor
    · intro ⟨hvalues, hrest⟩
      subst hvalues
      exact ⟨rfl, fun _ hmem => (by cases hmem), hrest.symm⟩
    · intro ⟨hvalues, _, hbytes⟩
      subst hvalues
      exact ⟨rfl, hbytes.symm⟩
  | succ count ih =>
    unfold many
    simp only [run_bind_eq_ok, hreader, ih, run_pure_eq_ok]
    constructor
    · intro ⟨first, middle, ⟨hfirst, hbytes⟩, others, after, ⟨hcount, hothers, hmiddle⟩, hvalues,
        hrest⟩
      subst hvalues hrest
      refine ⟨by rw [List.length_cons, hcount], fun value hmem => ?_, ?_⟩
      · rcases List.mem_cons.mp hmem with hvalue | hmem
        · exact hvalue ▸ hfirst
        · exact hothers value hmem
      · rw [hbytes, hmiddle, List.flatMap_cons, List.append_assoc]
    · intro ⟨hcount, hfits, hbytes⟩
      cases values with
      | nil => cases hcount
      | cons first others =>
        rw [List.flatMap_cons, List.append_assoc] at hbytes
        exact ⟨first, _, ⟨hfits first (List.mem_cons_self ..), hbytes⟩, others, rest,
          ⟨Nat.succ.inj hcount, fun value hmem => hfits value (List.mem_cons_of_mem _ hmem),
            rfl⟩, rfl, rfl⟩

theorem run_many_bind {reader : ByteReader ε α} {Fits : α → Prop} {layout : α → List UInt8}
    (hreader : ∀ bytes rest value, reader.run bytes = .ok (value, rest) ↔
      Fits value ∧ bytes = layout value ++ rest) {count : Nat} {f : List α → ByteReader ε β} :
    (many count reader >>= f).run bytes = .ok (b, rest) ↔
      ∃ values more, values.length = count ∧ (∀ value ∈ values, Fits value) ∧
        bytes = values.flatMap layout ++ more ∧ (f values).run more = .ok (b, rest) := by
  simp only [run_bind_eq_ok, run_many_eq_ok hreader, and_assoc]

end

/-! ## Encoders and readers -/

section

variable {Typed Fits : α → Prop} {encode : α → Except ε (List UInt8)} {reader : ByteReader ε α}

/-- An encoder and a reader agree.  `Typed` says which values there are, `Fits` which of them the
format can carry. -/
structure Agree (Typed Fits : α → Prop) (encode : α → Except ε (List UInt8))
    (reader : ByteReader ε α) : Prop where
  /-- What is encoded is read back, to its last byte. -/
  readBack : ∀ value payload, Typed value → encode value = .ok payload →
    reader.run payload = .ok (value, [])
  /-- What is read fits, leaves nothing, and is encoded again. -/
  reads : ∀ payload value rest, reader.run payload = .ok (value, rest) →
    rest = [] ∧ Typed value ∧ Fits value ∧
      ∃ again, encode value = .ok again ∧ reader.run again = .ok (value, [])

/-- It is enough to know the bytes of every value, and which bytes are read as it. -/
theorem Agree.of_layout {layout : α → List UInt8} {Accepted : α → List UInt8 → Prop}
    (hencode : ∀ value payload, Typed value →
      (encode value = .ok payload ↔ Fits value ∧ payload = layout value))
    (hread : ∀ payload value rest, reader.run payload = .ok (value, rest) ↔
      rest = [] ∧ Fits value ∧ Accepted value payload)
    (haccepted : ∀ value, Typed value → Fits value → Accepted value (layout value))
    (htyped : ∀ payload value, Fits value → Accepted value payload → Typed value) :
    Agree Typed Fits encode reader := by
  constructor
  · intro value payload hvalue hpayload
    obtain ⟨hfits, hlayout⟩ := (hencode value payload hvalue).mp hpayload
    subst hlayout
    exact (hread _ _ _).mpr ⟨rfl, hfits, haccepted value hvalue hfits⟩
  · intro payload value rest hrun
    obtain ⟨hrest, hfits, haccept⟩ := (hread _ _ _).mp hrun
    have hvalue := htyped payload value hfits haccept
    exact ⟨hrest, hvalue, hfits, layout value, (hencode _ _ hvalue).mpr ⟨hfits, rfl⟩,
      (hread _ _ _).mpr ⟨rfl, hfits, haccepted value hvalue hfits⟩⟩

end

end ByteReader
