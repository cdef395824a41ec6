import Mathlib

/-!
# Ranges of a list and overwriting them

A random-access file is a list.  `range` reads a part of it, `overwrite` writes a
part of it in place, `resize` cuts or fills it to a length.  The lemmas say what a
write does to the range it covers, to the ranges beside it and to a write that
follows it.
-/

namespace ByteRange

variable {α : Type}
variable {content : List α}

/-- The `length` elements from `offset` on, fewer at the end of the list. -/
def range (content : List α) (offset length : Nat) : List α :=
  (content.drop offset).take length

/-- Cut or fill a list to a length. -/
def resize (fill : α) (content : List α) (length : Nat) : List α :=
  (content ++ List.replicate (length - content.length) fill).take length

/-- Write `items` at `offset`; a gap behind the end is filled. -/
def overwrite (fill : α) (content : List α) (offset : Nat) (items : List α) : List α :=
  resize fill content offset ++ (items ++ content.drop (offset + items.length))

@[simp] theorem resize_length (fill : α) (content : List α) (length : Nat) :
    (resize fill content length).length = length := by
  simp only [resize, List.length_take, List.length_append, List.length_replicate]
  omega

/-- The part in front of a write has the length of its offset. -/
theorem resize_append_length (fill : α) (content : List α) (offset : Nat) (rest : List α) :
    (resize fill content offset ++ rest).take offset = resize fill content offset ∧
      (resize fill content offset ++ rest).drop offset = rest :=
  ⟨List.take_left' (resize_length _ _ _), List.drop_left' (resize_length _ _ _)⟩

/-- Inside the list nothing has to be filled. -/
theorem overwrite_eq {offset : Nat} (fill : α) (items : List α) (h : offset ≤ content.length) :
    overwrite fill content offset items =
      content.take offset ++ (items ++ content.drop (offset + items.length)) := by
  rw [overwrite, resize, List.take_append_of_le_length h]

theorem overwrite_length_le (fill : α) (content : List α) (offset : Nat)
    (items : List α) :
    (overwrite fill content offset items).length =
      max content.length (offset + items.length) := by
  simp only [overwrite, List.length_append, resize_length, List.length_drop]
  omega

@[simp] theorem overwrite_nil {offset : Nat} (fill : α) (h : offset ≤ content.length) :
    overwrite fill content offset [] = content := by
  rw [overwrite_eq fill [] h]
  simp

/-- A write of the whole length replaces the list. -/
theorem overwrite_all {content items : List α} (fill : α)
    (h : items.length = content.length) : overwrite fill content 0 items = items := by
  rw [overwrite_eq fill items (Nat.zero_le _), Nat.zero_add, h]
  simp

/-- Two writes in a row are one write. -/
theorem overwrite_append (fill : α) (content first second : List α) (offset : Nat) :
    overwrite fill (overwrite fill content offset first) (offset + first.length) second =
      overwrite fill content offset (first ++ second) := by
  have hlength := overwrite_length_le fill content offset first
  rw [overwrite_eq fill second (by omega)]
  have hhead : (overwrite fill content offset first).take (offset + first.length) =
      resize fill content offset ++ first := by
    rw [overwrite, ← List.append_assoc]
    exact List.take_left' (by rw [List.length_append, resize_length])
  have htail : (overwrite fill content offset first).drop
      (offset + first.length + second.length) =
      content.drop (offset + (first ++ second).length) := by
    rw [overwrite, ← List.drop_drop, ← List.append_assoc,
      List.drop_left' (by rw [List.length_append, resize_length]), List.drop_drop,
      List.length_append]
    congr 1
    omega
  rw [hhead, htail, overwrite]
  simp only [List.append_assoc]

theorem range_length {offset length : Nat} (h : offset + length ≤ content.length) :
    (range content offset length).length = length := by
  simp only [range, List.length_take, List.length_drop]
  omega

/-- What was written can be read. -/
theorem range_overwrite_same (fill : α) (content items : List α) (offset : Nat) :
    range (overwrite fill content offset items) offset items.length = items := by
  rw [range, overwrite, (resize_append_length fill content offset _).2, List.take_left]

/-- A range of the list beside the written one keeps its elements. -/
theorem range_overwrite_disjoint {content items : List α} {offset start length : Nat}
    (fill : α) (hin : start + length ≤ content.length)
    (h : start + length ≤ offset ∨ offset + items.length ≤ start) :
    range (overwrite fill content offset items) start length = range content start length := by
  apply List.ext_getElem?
  intro i
  rw [range, range, overwrite, resize]
  simp only [List.getElem?_take, List.getElem?_drop]
  by_cases hi : i < length
  · rw [if_pos hi, if_pos hi]
    have htake := resize_length fill content offset
    rw [resize] at htake
    rcases h with hbefore | hafter
    · rw [List.getElem?_append_left (by omega), List.getElem?_take, if_pos (by omega),
        List.getElem?_append_left (by omega)]
    · rw [List.getElem?_append_right (by omega), htake,
        List.getElem?_append_right (by omega), List.getElem?_drop]
      congr 1
      omega
  · rw [if_neg hi, if_neg hi]

end ByteRange
