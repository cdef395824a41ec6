import Mathlib

/-!
# Evenly spaced places

`count + 1` places from `0` to `last`, each rounded down.  The place is a quotient of a product that
may not fit a machine word; splitting `last` into quotient and remainder first gives the same number
from products that do.
-/

namespace EvenSpacing

variable {last count index other : Nat}

/-- The place with the given index. -/
def place (last count index : Nat) : Nat := last * index / count

/-- The same place from the quotient and the remainder of `last`. -/
theorem split (hcount : 0 < count) (last index : Nat) :
    last / count * index + last % count * index / count = place last count index := by
  have hlast : last * index = count * (last / count * index) + last % count * index := by
    calc last * index
        = (count * (last / count) + last % count) * index := by rw [Nat.div_add_mod]
      _ = count * (last / count * index) + last % count * index := by ring
  rw [place, hlast, Nat.mul_add_div hcount]

@[simp] theorem place_zero (last count : Nat) : place last count 0 = 0 := by
  rw [place, Nat.mul_zero, Nat.zero_div]

@[simp] theorem place_count (hcount : 0 < count) (last : Nat) : place last count count = last :=
  Nat.mul_div_cancel last hcount

/-- Neighbours have at least the rounded distance. -/
theorem place_succ (last count index : Nat) :
    place last count index + last / count ≤ place last count (index + 1) := by
  rw [place, place, Nat.mul_succ]
  exact Nat.div_add_div_le_add_div

theorem place_gap (h : index < other) :
    place last count index + last / count ≤ place last count other := by
  induction other with
  | zero => exact absurd h (Nat.not_lt_zero index)
  | succ other ih =>
    have hsucc := place_succ last count other
    by_cases hlast : index = other
    · rw [hlast]
      exact hsucc
    · have hbefore := ih (by omega)
      exact Nat.le_trans hbefore (Nat.le_trans (Nat.le_add_right _ _) hsucc)

theorem place_le (h : index ≤ count) : place last count index ≤ last := by
  rw [place]
  exact Nat.div_le_of_le_mul (by rw [Nat.mul_comm]; exact Nat.mul_le_mul_right last h)

/-- The product with the quotient fits wherever `last` does. -/
theorem whole_le (h : index ≤ count) : last / count * index ≤ last :=
  Nat.le_trans (Nat.mul_le_mul_left _ h) (Nat.div_mul_le_self last count)

/-- The product with the remainder is bounded by the number of places alone. -/
theorem remainder_le (hcount : 0 < count) (h : index ≤ count) :
    last % count * index ≤ count * count :=
  Nat.mul_le_mul (Nat.mod_lt last hcount).le h

end EvenSpacing
