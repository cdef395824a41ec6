import Mathlib

/-!
# The items that were used last

`recent capacity uses` is what a cache of the least-recently-used kind holds after some uses: the
different items that were used last, each at the place of its last use.  `recent_of_mem` and
`recent_of_notMem` say how one more use changes it.
-/

namespace RecentlyUsed

variable {α : Type} [DecidableEq α]

/-- At most `capacity` items, the least recently used one first. -/
def recent (capacity : Nat) (uses : List α) : List α :=
  uses.dedup.drop (uses.dedup.length - capacity)

variable {capacity : Nat} {uses : List α} {item : α}

/-- The last use counts. -/
theorem dedup_concat (uses : List α) (item : α) :
    (uses ++ [item]).dedup = uses.dedup.erase item ++ [item] := by
  induction uses with
  | nil => rfl
  | cons first rest ih =>
    rw [List.cons_append]
    by_cases hrest : first ∈ rest
    · rw [List.dedup_cons_of_mem (List.mem_append_left _ hrest), ih,
        List.dedup_cons_of_mem hrest]
    · rw [List.dedup_cons_of_notMem hrest]
      by_cases hsame : first = item
      · rw [hsame] at hrest ⊢
        have hnone : item ∉ rest.dedup := by rwa [List.mem_dedup]
        rw [List.dedup_cons_of_mem (by simp), ih, List.erase_cons_head,
          List.erase_of_not_mem hnone]
      · rw [List.dedup_cons_of_notMem (by simp [hrest, hsame]), ih,
          List.erase_cons_tail (by simpa using hsame), List.cons_append]

/-- An item that is held moves to the end. -/
theorem recent_of_mem (h : item ∈ recent capacity uses) :
    recent capacity (uses ++ [item]) = (recent capacity uses).erase item ++ [item] := by
  unfold recent at h ⊢
  rw [dedup_concat]
  set found := uses.dedup with hfound
  set dropped := found.length - capacity with hdropped
  have hsplit : found = found.take dropped ++ found.drop dropped :=
    (List.take_append_drop dropped found).symm
  have hnodup : (found.take dropped ++ found.drop dropped).Nodup := by
    rw [← hsplit]
    exact uses.nodup_dedup
  have hnotTaken : item ∉ found.take dropped :=
    fun htaken => (List.nodup_append.mp hnodup).2.2 item htaken item h rfl
  have hmem : item ∈ found := List.mem_of_mem_drop h
  have herase : found.erase item = found.take dropped ++ (found.drop dropped).erase item := by
    conv_lhs => rw [hsplit]
    exact List.erase_append_right _ hnotTaken
  have hlength : (found.erase item ++ [item]).length = found.length := by
    have hpos := List.length_pos_of_mem hmem
    rw [List.length_append, List.length_erase_of_mem hmem, List.length_singleton]
    omega
  have htaken : (found.take dropped).length = dropped := by
    rw [List.length_take]
    omega
  rw [hlength, ← hdropped, herase, List.append_assoc]
  exact List.drop_left' htaken

/-- Another item goes to the end, and takes the place of the first one when there is no other. -/
theorem recent_of_notMem (hcapacity : 0 < capacity) (h : item ∉ recent capacity uses) :
    recent capacity (uses ++ [item]) =
      (if capacity ≤ (recent capacity uses).length then (recent capacity uses).drop 1
        else recent capacity uses) ++ [item] := by
  unfold recent at h ⊢
  rw [dedup_concat]
  set found := uses.dedup with hfound
  set dropped := found.length - capacity with hdropped
  rw [List.length_drop]
  by_cases hmem : item ∈ found
  · -- It was used before, but has been dropped since.
    have hsplit : found = found.take dropped ++ found.drop dropped :=
      (List.take_append_drop dropped found).symm
    have htaken : item ∈ found.take dropped := by
      rw [hsplit, List.mem_append] at hmem
      exact hmem.resolve_right h
    have hpos := List.length_pos_of_mem htaken
    rw [List.length_take] at hpos
    have herase : found.erase item = (found.take dropped).erase item ++ found.drop dropped := by
      conv_lhs => rw [hsplit]
      exact List.erase_append_left _ htaken
    have hlength : ((found.take dropped).erase item).length = dropped - 1 := by
      rw [List.length_erase_of_mem htaken, List.length_take]
      omega
    have hwhole : (found.erase item ++ [item]).length = found.length := by
      rw [List.length_append, List.length_erase_of_mem hmem, List.length_singleton]
      omega
    have hkept : 1 ≤ (found.drop dropped).length := by
      rw [List.length_drop]
      omega
    rw [if_pos (by omega), hwhole, ← hdropped, herase, List.append_assoc, List.drop_append,
      List.drop_eq_nil_of_le (by omega), hlength, List.nil_append,
      show dropped - (dropped - 1) = 1 by omega, List.drop_append_of_le_length hkept]
  · have hlength : (found.erase item ++ [item]).length = found.length + 1 := by
      rw [List.erase_of_not_mem hmem, List.length_append, List.length_singleton]
    rw [hlength, List.erase_of_not_mem hmem]
    by_cases hfull : capacity ≤ found.length
    · rw [if_pos (by omega), List.drop_drop, List.drop_append_of_le_length (by omega),
        show found.length + 1 - capacity = dropped + 1 by omega]
    · rw [if_neg (by omega), show found.length + 1 - capacity = 0 by omega,
        show dropped = 0 by omega]
      rfl

end RecentlyUsed
