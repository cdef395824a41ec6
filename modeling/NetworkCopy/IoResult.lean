import Mathlib

/-!
# `io::Result` and the checked arithmetic of the source

Every fallible function of the program returns `io::Result<T>`.  The model
keeps the observable parts of an `io::Error`, its kind, its text and the one
source type that the program tests for, and uses `Except`, so the `?` operator is
the monadic bind.

Counters and offsets are `u64` or `usize`; the program runs on 64-bit Windows
only, so both are 64 bits wide and every `usize::try_from` of a `u64` succeeds.
Values are modelled as `Nat`, and the operations that the source writes as
`checked_add` and `checked_mul` are the ones that test the bound.
-/

namespace NetworkCopy

/-- The `io::ErrorKind` values the program produces or tests for. -/
inductive ErrorKind where
  | invalidInput
  | invalidData
  | alreadyExists
  | notFound
  | unexpectedEof
  | connectionAborted
  | brokenPipe
  | writeZero
  | interrupted
  | wouldBlock
  | notConnected
  | other
  deriving DecidableEq, Repr

/-- An `io::Error`: its kind, its text and, when its source is the
`LiteralLimitExceeded` of the reconstruction planner, the limit it carries. -/
structure IoError where
  kind : ErrorKind
  message : String
  literalLimit : Option Nat := none
  deriving DecidableEq, Repr

/-- `io::Result<T>`. -/
abbrev IoResult (α : Type) := Except IoError α

/-- `{value:0width$X}`: upper-case hexadecimal digits, filled with zeros. -/
def hexUpper (width value : Nat) : String :=
  String.ofList (((Nat.toDigits 16 value).map Char.toUpper).leftpad width '0')

namespace IoError

/-- `io::Error::other(text)`. -/
def other (message : String) : IoError := ⟨.other, message, none⟩

/-- `io::Error::new(ErrorKind::InvalidInput, text)`. -/
def invalidInput (message : String) : IoError := ⟨.invalidInput, message, none⟩

/-- `io::Error::new(ErrorKind::InvalidData, text)`. -/
def invalidData (message : String) : IoError := ⟨.invalidData, message, none⟩

end IoError

/-- `option.ok_or_else(|| error)?`. -/
def okOrElse {α : Type} (value : Option α) (error : IoError) : IoResult α :=
  match value with
  | some a => .ok a
  | none => .error error

@[simp] theorem okOrElse_some {α : Type} (a : α) (error : IoError) :
    okOrElse (some a) error = .ok a := rfl

@[simp] theorem okOrElse_none {α : Type} (error : IoError) :
    okOrElse (none : Option α) error = .error error := rfl

/-- `okOrElse` succeeds only with the value of its option. -/
theorem okOrElse_eq_ok {α : Type} {value : Option α} {error : IoError} {a : α} :
    okOrElse value error = .ok a ↔ value = some a := by
  cases value <;> simp [okOrElse]

/-- `if !condition { return Err(error) }`. -/
def ensure (condition : Prop) [Decidable condition] (error : IoError) :
    IoResult Unit :=
  if condition then .ok () else .error error

@[simp] theorem ensure_eq_ok {condition : Prop} [Decidable condition]
    {error : IoError} {u : Unit} :
    ensure condition error = .ok u ↔ condition := by
  unfold ensure
  split <;> simp_all

variable {α β : Type}

/-- A bind that succeeds has a first part that succeeds. -/
theorem bind_eq_ok {x : IoResult α} {f : α → IoResult β} {b : β} :
    (x >>= f) = .ok b ↔ ∃ a, x = .ok a ∧ f a = .ok b := by
  cases x with
  | error e => simp [bind, Except.bind]
  | ok a => simp [bind, Except.bind]

/-- What a bind runs last succeeds with it. -/
theorem bind_rest {x : IoResult α} {f : α → IoResult β} {b : β} (h : (x >>= f) = .ok b) :
    ∃ a, f a = .ok b := by
  obtain ⟨a, _, hrest⟩ := bind_eq_ok.mp h
  exact ⟨a, hrest⟩

/-- A bind fails in its first part or in the part after it. -/
theorem bind_eq_error {x : IoResult α} {f : α → IoResult β} {e : IoError} :
    (x >>= f) = .error e ↔ x = .error e ∨ ∃ a, x = .ok a ∧ f a = .error e := by
  cases x with
  | error e' => simp [bind, Except.bind]
  | ok a => simp [bind, Except.bind]

@[simp] theorem ok_bind (a : α) (f : α → IoResult β) :
    ((.ok a : IoResult α) >>= f) = f a := rfl

@[simp] theorem error_bind (e : IoError) (f : α → IoResult β) :
    ((.error e : IoResult α) >>= f) = .error e := rfl

@[simp] theorem pure_eq_ok {α : Type} (a : α) :
    (pure a : IoResult α) = .ok a := rfl

/-! ## 64-bit checked arithmetic -/

/-- One above the greatest `u64`.  Irreducible, so that no unification computes
with it. -/
@[irreducible] def u64Limit : Nat := 2 ^ 64

/-- `u64::checked_add`. -/
def checkedAdd (a b : Nat) : Option Nat :=
  if a + b < u64Limit then some (a + b) else none

/-- `u64::checked_mul`. -/
def checkedMul (a b : Nat) : Option Nat :=
  if a * b < u64Limit then some (a * b) else none

theorem checkedAdd_eq_some {a b c : Nat} :
    checkedAdd a b = some c ↔ a + b < u64Limit ∧ a + b = c := by
  unfold checkedAdd
  split <;> simp <;> omega

theorem checkedMul_eq_some {a b c : Nat} :
    checkedMul a b = some c ↔ a * b < u64Limit ∧ a * b = c := by
  unfold checkedMul
  split <;> simp <;> omega

theorem checkedAdd_eq_none {a b : Nat} :
    checkedAdd a b = none ↔ u64Limit ≤ a + b := by
  unfold checkedAdd
  split <;> simp_all

end NetworkCopy
