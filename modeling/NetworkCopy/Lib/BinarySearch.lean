import Mathlib.Order.Basic
import Mathlib.Data.List.Basic

/-!
# Binary search in a slice

The searches of the standard library, as they halve the slice.  `binarySearchBy` compares the items
with what is searched for: `.lt` for the items before it and `.gt` for those behind it.  What it
returns is meaningful when the items stand in that order.
-/

namespace Slice

variable {α : Type} {items : List α}

/-- The loop that halves the window of `size` items from `base`. -/
def narrow (compare : α → Ordering) (items : List α) (base size : Nat) : Nat :=
  if 1 < size then
    let half := size / 2
    let mid := base + half
    let base := if items[mid]?.any (fun item => compare item = .gt) then base else mid
    narrow compare items base (size - half)
  else base
termination_by size

/-- `binary_search_by`: the index of an item, or the index where it could be inserted. -/
def binarySearchBy (compare : α → Ordering) (items : List α) : Except Nat Nat :=
  let base := narrow compare items 0 items.length
  match items[base]?.map compare with
  | none => .error 0
  | some .eq => .ok base
  | some .lt => .error (base + 1)
  | some .gt => .error base

/-- `binary_search_by_key` for a number. -/
def binarySearchByKey (key : α → Nat) (value : Nat) (items : List α) : Except Nat Nat :=
  binarySearchBy (fun item => compare (key item) value) items

/-- `partition_point`. -/
def partitionPoint (pred : α → Bool) (items : List α) : Nat :=
  match binarySearchBy (fun item => if pred item then .lt else .gt) items with
  | .ok index => index
  | .error index => index

/-- The items stand in the order of the search. -/
structure Searchable (compare : α → Ordering) (items : List α) : Prop where
  below : items.Pairwise (fun left right => compare right = .lt → compare left = .lt)
  above : items.Pairwise (fun left right => compare left = .gt → compare right = .gt)

section

variable {compare : α → Ordering}

theorem Searchable.lt_of_lt (h : Searchable compare items) {i j : Nat} {left right : α}
    (hij : i < j) (hleft : items[i]? = some left) (hright : items[j]? = some right)
    (hlt : compare right = .lt) : compare left = .lt := by
  obtain ⟨hi, rfl⟩ := List.getElem?_eq_some_iff.mp hleft
  obtain ⟨hj, rfl⟩ := List.getElem?_eq_some_iff.mp hright
  exact List.pairwise_iff_getElem.mp h.below i j hi hj hij hlt

theorem Searchable.gt_of_gt (h : Searchable compare items) {i j : Nat} {left right : α}
    (hij : i < j) (hleft : items[i]? = some left) (hright : items[j]? = some right)
    (hgt : compare left = .gt) : compare right = .gt := by
  obtain ⟨hi, rfl⟩ := List.getElem?_eq_some_iff.mp hleft
  obtain ⟨hj, rfl⟩ := List.getElem?_eq_some_iff.mp hright
  exact List.pairwise_iff_getElem.mp h.above i j hi hj hij hgt

/-- Where the loop ends: every item behind is too large, and the item there is not, unless it is
the first. -/
theorem narrow_spec (h : Searchable compare items) {base size : Nat} (hpos : 0 < size)
    (hsize : base + size ≤ items.length)
    (hbehind : ∀ i item, base + size ≤ i → items[i]? = some item → compare item = .gt)
    (hhere : base = 0 ∨ ∀ item, items[base]? = some item → compare item ≠ .gt) :
    narrow compare items base size < items.length ∧
      (∀ i item, narrow compare items base size < i → items[i]? = some item →
        compare item = .gt) ∧
      (narrow compare items base size = 0 ∨
        ∀ item, items[narrow compare items base size]? = some item → compare item ≠ .gt) := by
  induction size using Nat.strongRecOn generalizing base with
  | _ size ih =>
    rw [narrow]
    split
    · next hmore =>
        have hmid : base + size / 2 < items.length := by omega
        simp only [List.getElem?_eq_getElem hmid, Option.any_some, decide_eq_true_eq]
        split
        · next hgt =>
            refine ih (size - size / 2) (by omega) (by omega) (by omega) ?_ hhere
            intro i item hi hitem
            rcases Nat.lt_or_ge (base + size / 2) i with hlt | hge
            · exact h.gt_of_gt hlt (List.getElem?_eq_getElem hmid) hitem hgt
            · obtain rfl : i = base + size / 2 := by omega
              rw [List.getElem?_eq_getElem hmid] at hitem
              cases hitem
              exact hgt
        · next hngt =>
            refine ih (size - size / 2) (by omega) (by omega) (by omega) ?_ (.inr ?_)
            · intro i item hi hitem
              exact hbehind i item (by omega) hitem
            · intro item hitem
              rw [List.getElem?_eq_getElem hmid] at hitem
              cases hitem
              exact hngt
    · next hone =>
        refine ⟨by omega, ?_, hhere⟩
        intro i item hi hitem
        exact hbehind i item (by omega) hitem

/-- What a search returns: the index of an item that is searched for; or, when there is none, the
number of the items before it. -/
theorem binarySearchBy_spec (h : Searchable compare items) :
    match binarySearchBy compare items with
    | .ok index => ∃ item, items[index]? = some item ∧ compare item = .eq
    | .error index => index ≤ items.length ∧
        ∀ i item, items[i]? = some item →
          (i < index → compare item = .lt) ∧ (index ≤ i → compare item = .gt) := by
  unfold binarySearchBy
  rcases Nat.eq_zero_or_pos items.length with hzero | hpos
  · rw [List.length_eq_zero_iff] at hzero
    subst hzero
    simp
  obtain ⟨hlt, hbehind, hhere⟩ := narrow_spec h hpos (by omega)
    (by
      intro i item hi hitem
      rw [List.getElem?_eq_none (by omega)] at hitem
      cases hitem)
    (.inl rfl)
  dsimp only
  have hitem := List.getElem?_eq_getElem hlt
  generalize narrow compare items 0 items.length = base at hlt hbehind hhere hitem ⊢
  rw [hitem, Option.map_some]
  cases hcompare : compare items[base] with
  | eq => exact ⟨_, hitem, hcompare⟩
  | lt =>
    refine ⟨hlt, ?_⟩
    intro i item hi
    constructor
    · intro hle
      rcases Nat.lt_or_ge i base with hless | hge
      · exact h.lt_of_lt hless hi hitem hcompare
      · obtain rfl : i = base := by omega
        rw [hitem] at hi
        cases hi
        exact hcompare
    · intro hge
      exact hbehind i item hge hi
  | gt =>
    have hbase : base = 0 := by
      rcases hhere with hbase | hngt
      · exact hbase
      · exact absurd hcompare (hngt _ hitem)
    refine ⟨by omega, ?_⟩
    intro i item hi
    refine ⟨fun hless => by omega, ?_⟩
    intro hge
    rcases Nat.lt_or_ge base i with hless | hsame
    · exact hbehind i item hless hi
    · obtain rfl : i = base := by omega
      rw [hitem] at hi
      cases hi
      exact hcompare

end

/-- The items that satisfy the predicate are the first ones. -/
theorem partitionPoint_spec {pred : α → Bool}
    (h : items.Pairwise (fun left right => pred right = true → pred left = true)) :
    partitionPoint pred items ≤ items.length ∧
      ∀ i item, items[i]? = some item → (pred item = true ↔ i < partitionPoint pred items) := by
  have hsearchable : Searchable (fun item => if pred item then .lt else .gt) items := by
    constructor
    · refine h.imp ?_
      intro left right himp
      split_ifs <;> simp_all
    · refine h.imp ?_
      intro left right himp
      split_ifs <;> simp_all
  have hspec := binarySearchBy_spec hsearchable
  unfold partitionPoint
  generalize binarySearchBy _ items = found at hspec ⊢
  cases found with
  | ok index =>
    obtain ⟨item, _, hcompare⟩ := hspec
    split_ifs at hcompare
  | error index =>
    dsimp only
    refine ⟨hspec.1, ?_⟩
    intro i item hitem
    obtain ⟨hbefore, hbehind⟩ := hspec.2 i item hitem
    constructor
    · intro hpred
      by_contra hge
      have hgt := hbehind (by omega)
      rw [if_pos hpred] at hgt
      cases hgt
    · intro hless
      have hlt := hbefore hless
      by_contra hpred
      rw [if_neg hpred] at hlt
      cases hlt

/-- The partition point is the number of the leading items that satisfy the predicate. -/
theorem partitionPoint_eq_takeWhile {pred : α → Bool}
    (h : items.Pairwise (fun left right => pred right = true → pred left = true)) :
    partitionPoint pred items = (items.takeWhile pred).length := by
  obtain ⟨hle, hpoint⟩ := partitionPoint_spec h
  have hindex : items.findIdx (fun item => !pred item) = partitionPoint pred items := by
    rcases Nat.lt_or_ge (partitionPoint pred items) items.length with hlt | hge
    · rw [List.findIdx_eq hlt]
      constructor
      · have hpoint := hpoint _ _ (List.getElem?_eq_getElem hlt)
        simpa using hpoint
      · intro j hj
        have hbefore := (hpoint j _ (List.getElem?_eq_getElem (by omega))).mpr hj
        rw [hbefore]
        rfl
    · have hall : ∀ item ∈ items, pred item = true := by
        intro item hmem
        obtain ⟨i, hitem⟩ := List.mem_iff_getElem?.mp hmem
        refine (hpoint i item hitem).mpr ?_
        obtain ⟨hi, _⟩ := List.getElem?_eq_some_iff.mp hitem
        omega
      rw [List.findIdx_eq_length.mpr (by simpa using hall)]
      omega
  rw [List.takeWhile_eq_take_findIdx_not, hindex, List.length_take_of_le hle]

/-- In items with strictly increasing keys, the search finds exactly the keys that are there. -/
theorem isOk_binarySearchByKey {key : α → Nat} (value : Nat)
    (h : (items.map key).Pairwise (· < ·)) :
    (∃ index, binarySearchByKey key value items = .ok index) ↔ value ∈ items.map key := by
  rw [List.pairwise_map] at h
  have hsearchable : Searchable (fun item => compare (key item) value) items := by
    constructor
    · refine h.imp ?_
      intro left right hlt hright
      rw [Nat.compare_eq_lt] at hright ⊢
      omega
    · refine h.imp ?_
      intro left right hlt hleft
      rw [Nat.compare_eq_gt] at hleft ⊢
      omega
  have hspec := binarySearchBy_spec hsearchable
  unfold binarySearchByKey
  rw [List.mem_map]
  constructor
  · intro ⟨index, hindex⟩
    rw [hindex] at hspec
    obtain ⟨item, hitem, hcompare⟩ := hspec
    exact ⟨item, List.mem_of_getElem? hitem, Nat.compare_eq_eq.mp hcompare⟩
  · intro ⟨item, hmem, hkey⟩
    obtain ⟨i, hitem⟩ := List.mem_iff_getElem?.mp hmem
    generalize binarySearchBy _ items = found at hspec ⊢
    cases found with
    | ok index => exact ⟨index, rfl⟩
    | error index =>
      obtain ⟨hbefore, hbehind⟩ := hspec.2 i item hitem
      rw [Nat.compare_eq_lt] at hbefore
      rw [Nat.compare_eq_gt] at hbehind
      rcases Nat.lt_or_ge i index with hless | hge
      · have := hbefore hless
        omega
      · have := hbehind hge
        omega

end Slice
