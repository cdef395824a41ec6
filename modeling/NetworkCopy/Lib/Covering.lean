import Mathlib

/-!
# Pieces that cover an interval once

Work on the numbers below `total` is cut into pieces, each with a start and a size.  `Tiles` says
that every number below `total` lies in exactly one piece and no other number lies in any.  It does
not depend on the order of the pieces, so it is kept while the pieces wander between stations, and
one more piece is cut off where the pieces end.
-/

namespace Covering

variable {α : Type} {start size : α → Nat} {items items' : List α} {item other : α}
  {total position : Nat}

/-- The position lies in the piece. -/
def Covers (start size : α → Nat) (position : Nat) (item : α) : Prop :=
  start item ≤ position ∧ position < start item + size item

instance (start size : α → Nat) (position : Nat) (item : α) :
    Decidable (Covers start size position item) :=
  inferInstanceAs (Decidable (_ ∧ _))

/-- The pieces that the position lies in. -/
def piecesAt (start size : α → Nat) (position : Nat) (items : List α) : List α :=
  items.filter (fun item => Covers start size position item)

/-- The pieces cover every position below `total` once. -/
structure Tiles (start size : α → Nat) (items : List α) (total : Nat) : Prop where
  pos : ∀ item ∈ items, 0 < size item
  once : ∀ position, (piecesAt start size position items).length =
    if position < total then 1 else 0
  sum : (items.map size).sum = total

theorem mem_piecesAt : item ∈ piecesAt start size position items ↔
    item ∈ items ∧ Covers start size position item := by
  simp [piecesAt]

theorem Tiles.nil : Tiles start size [] 0 where
  pos := by simp
  once := by simp [piecesAt]
  sum := rfl

theorem Tiles.perm (h : Tiles start size items total) (hperm : items.Perm items') :
    Tiles start size items' total where
  pos := fun item hitem => h.pos item (hperm.mem_iff.mpr hitem)
  once := by
    intro position
    rw [← h.once position]
    exact ((hperm.filter _).length_eq).symm
  sum := by
    rw [← h.sum]
    exact ((hperm.map size).sum_eq).symm

/-- The next piece starts where the pieces end. -/
theorem Tiles.cons (h : Tiles start size items total) (hstart : start item = total)
    (hsize : 0 < size item) : Tiles start size (item :: items) (total + size item) where
  pos := by
    intro other hother
    cases List.mem_cons.mp hother with
    | inl heq => rw [heq]; exact hsize
    | inr hmem => exact h.pos other hmem
  once := by
    intro position
    have hrest := h.once position
    rw [piecesAt] at hrest ⊢
    by_cases hcovers : Covers start size position item
    · rw [List.filter_cons_of_pos (by simpa using hcovers), List.length_cons, hrest]
      unfold Covers at hcovers
      rw [if_neg (by omega), if_pos (by omega)]
    · rw [List.filter_cons_of_neg (by simpa using hcovers), hrest]
      unfold Covers at hcovers
      split <;> split <;> omega
  sum := by
    rw [List.map_cons, List.sum_cons, h.sum]
    exact Nat.add_comm _ _

/-- No piece reaches behind the end. -/
theorem Tiles.inside (h : Tiles start size items total) (hitem : item ∈ items) :
    start item + size item ≤ total := by
  have hpos := h.pos item hitem
  have hlast : item ∈ piecesAt start size (start item + size item - 1) items :=
    mem_piecesAt.mpr ⟨hitem, by unfold Covers; omega⟩
  have hlength := List.length_pos_of_mem hlast
  rw [h.once] at hlength
  split at hlength <;> omega

/-- Two pieces of a tiling have no position in common. -/
theorem Tiles.disjoint (h : Tiles start size (item :: items) total) (hother : other ∈ items)
    (hitem : Covers start size position item) : ¬ Covers start size position other := by
  intro hcovers
  have honce := h.once position
  have hrest : other ∈ piecesAt start size position items := mem_piecesAt.mpr ⟨hother, hcovers⟩
  have hlength := List.length_pos_of_mem hrest
  rw [piecesAt] at hlength honce
  rw [List.filter_cons_of_pos (by simpa using hitem), List.length_cons] at honce
  split at honce <;> omega

/-- One of two pieces of a tiling ends before the other one starts. -/
theorem Tiles.apart (h : Tiles start size (item :: items) total) (hother : other ∈ items) :
    start item + size item ≤ start other ∨ start other + size other ≤ start item := by
  have hitemPos := h.pos item List.mem_cons_self
  have hotherPos := h.pos other (List.mem_cons_of_mem item hother)
  have hmax : Covers start size (max (start item) (start other)) item →
      ¬ Covers start size (max (start item) (start other)) other := h.disjoint hother
  unfold Covers at hmax
  omega

/-- The piece that a position below the end lies in. -/
theorem Tiles.piece_at (h : Tiles start size items total) (hposition : position < total) :
    ∃ item, piecesAt start size position items = [item] := by
  have honce := h.once position
  rw [if_pos hposition] at honce
  exact List.length_eq_one_iff.mp honce

/-- The same pieces in another order lie over a position in the same way, when one of them does. -/
theorem piecesAt_perm (hperm : items.Perm items')
    (h : piecesAt start size position items = [item]) :
    piecesAt start size position items' = [item] := by
  have hfilter : (piecesAt start size position items).Perm (piecesAt start size position items') :=
    hperm.filter _
  rw [h] at hfilter
  exact List.perm_singleton.mp hfilter.symm

/-- Pieces that follow each other between two positions are no longer together than the distance. -/
theorem sum_size_le {low high : Nat}
    (hapart : items.Pairwise (fun item other => start item + size item ≤ start other))
    (hlow : ∀ item ∈ items, low ≤ start item)
    (hhigh : ∀ item ∈ items, start item + size item ≤ high) (h : low ≤ high) :
    low + (items.map size).sum ≤ high := by
  induction items generalizing low with
  | nil => exact h
  | cons item rest ih =>
    rw [List.pairwise_cons] at hapart
    have hfirst := hlow item List.mem_cons_self
    have hrest := ih hapart.2 hapart.1
      (fun other hother => hhigh other (List.mem_cons_of_mem item hother))
      (hhigh item List.mem_cons_self)
    rw [List.map_cons, List.sum_cons]
    omega

end Covering
