import Mathlib.Algebra.Order.Group.Int
import Mathlib.Algebra.Order.Ring.Int
import Mathlib.Order.Lattice

/-!
# Moving a point between intervals

A point of one interval of integers goes to the same fraction of another, rounded down, and is then
settled so that something of a given extent still fits behind it.  Both steps keep the order of
points, and the result stays in the interval.
-/

namespace Rescale

/-- The offset `offset` of an interval with last offset `source`, in one with last offset
`target`. -/
def rescale (source target offset : Int) : Int := max 0 (min offset source) * target / source

variable {source target : Int}

theorem rescale_nonneg (hsource : 0 < source) (htarget : 0 ≤ target) (offset : Int) :
    0 ≤ rescale source target offset := by
  apply Int.ediv_nonneg _ hsource.le
  exact Int.mul_nonneg (le_max_left _ _) htarget

theorem rescale_le (hsource : 0 < source) (htarget : 0 ≤ target) (offset : Int) :
    rescale source target offset ≤ target := by
  apply Int.ediv_le_of_le_mul hsource
  rw [Int.mul_comm target]
  apply Int.mul_le_mul_of_nonneg_right _ htarget
  exact max_le hsource.le (min_le_right _ _)

theorem rescale_mono (hsource : 0 < source) (htarget : 0 ≤ target) {left right : Int}
    (h : left ≤ right) :
    rescale source target left ≤ rescale source target right := by
  apply Int.ediv_le_ediv hsource
  apply Int.mul_le_mul_of_nonneg_right _ htarget
  exact max_le_max_left 0 (min_le_min_right source h)

/-- The place nearest to `value` from `start` on at which `extent` ends before `stop`, or `start`
where there is none. -/
def settle (start stop extent value : Int) : Int :=
  max start (min value (max start (stop - extent)))

theorem le_settle (start stop extent value : Int) : start ≤ settle start stop extent value :=
  le_max_left _ _

theorem settle_add_le {start stop extent : Int} (h : extent ≤ stop - start) (value : Int) :
    settle start stop extent value + extent ≤ stop := by
  unfold settle
  omega

theorem settle_mono (start stop extent : Int) {left right : Int} (h : left ≤ right) :
    settle start stop extent left ≤ settle start stop extent right :=
  max_le_max_left start (min_le_min_right _ h)

/-- The place of a point of the interval `[sourceStart, sourceStop)` in `[start, stop)`, for
something of the extent `extent`, cut to the size of the target. -/
def place (sourceStart sourceStop start stop extent point : Int) : Int :=
  settle start stop (min extent (stop - start))
    (start + rescale (max (sourceStop - sourceStart - 1) 1) (max (stop - start - 1) 1)
      (point - sourceStart))

section

variable {sourceStart sourceStop start stop extent : Int}

theorem le_place (point : Int) : start ≤ place sourceStart sourceStop start stop extent point :=
  le_settle _ _ _ _

/-- What fits into the target is inside it. -/
theorem place_add_le (point : Int) :
    place sourceStart sourceStop start stop extent point + min extent (stop - start) ≤ stop :=
  settle_add_le (min_le_right _ _) _

theorem place_mono {left right : Int} (h : left ≤ right) :
    place sourceStart sourceStop start stop extent left ≤
      place sourceStart sourceStop start stop extent right := by
  apply settle_mono
  apply Int.add_le_add_left
  exact rescale_mono (by omega) (by omega) (by omega)

end

end Rescale
