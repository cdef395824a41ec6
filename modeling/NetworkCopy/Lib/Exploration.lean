import Mathlib

/-!
# Exploring a tree with a work list

Each item that is finished puts its children on a work list, and items are taken from the list in
any order and by any number of workers.  `Explored` relates what is finished, what is held and what
is pending at any time.  In a tree no item is ever taken twice, and when nothing is pending or held
all items have been finished.
-/

namespace Exploration

variable {α : Type} {children : α → Multiset α} {root : α}

/-- The items that are found from the root. -/
inductive Reachable (children : α → Multiset α) (root : α) : α → Prop
  | root : Reachable children root root
  | child {parent item : α} (hparent : Reachable children root parent)
      (hitem : item ∈ children parent) : Reachable children root item

/-- Every item is found in one way only. -/
structure IsTree (children : α → Multiset α) (root : α) : Prop where
  siblings : ∀ item, (children item).Nodup
  parent : ∀ item item' child, child ∈ children item → child ∈ children item' → item = item'
  root_not_child : ∀ item, root ∉ children item

/-- The items that have been found are the root and the children of the finished ones. -/
structure Explored (children : α → Multiset α) (root : α) (finished held pending : Multiset α) :
    Prop where
  balance : finished + held + pending = root ::ₘ finished.bind children
  nodup : (finished + held + pending).Nodup
  reachable : ∀ item ∈ finished + held + pending, Reachable children root item

variable {finished held pending : Multiset α} {item : α}

theorem Explored.start (children : α → Multiset α) (root : α) :
    Explored children root 0 0 {root} where
  balance := by simp
  nodup := by simp
  reachable := by
    intro item hitem
    have hroot : item = root := by simpa using hitem
    rw [hroot]
    exact .root

/-- Somebody takes an item from the list. -/
theorem Explored.take (h : Explored children root finished held (item ::ₘ pending)) :
    Explored children root finished (item ::ₘ held) pending := by
  have hsame : finished + (item ::ₘ held) + pending = finished + held + (item ::ₘ pending) := by
    simp only [Multiset.add_cons, Multiset.cons_add]
  exact {
    balance := by rw [hsame, h.balance]
    nodup := by rw [hsame]; exact h.nodup
    reachable := by rw [hsame]; exact h.reachable }

/-- The children of different items of a tree are different items. -/
theorem IsTree.nodup_bind (htree : IsTree children root) {items : Multiset α}
    (h : items.Nodup) : (root ::ₘ items.bind children).Nodup := by
  rw [Multiset.nodup_cons]
  constructor
  · intro hroot
    obtain ⟨parent, _, hchild⟩ := Multiset.mem_bind.mp hroot
    exact htree.root_not_child parent hchild
  · rw [Multiset.nodup_bind]
    refine ⟨fun parent _ => htree.siblings parent, ?_⟩
    refine h.pairwise (fun parent _ parent' _ hne => ?_)
    rw [Function.onFun, Multiset.disjoint_left]
    intro child hchild hchild'
    exact hne (htree.parent parent parent' child hchild hchild')

/-- A held item is finished, and its children go on the list. -/
theorem Explored.finish (htree : IsTree children root)
    (h : Explored children root finished (item ::ₘ held) pending) :
    Explored children root (item ::ₘ finished) held (pending + children item) := by
  have hbalance : (item ::ₘ finished) + held + (pending + children item) =
      root ::ₘ (item ::ₘ finished).bind children := by
    have hmoved : (item ::ₘ finished) + held = finished + (item ::ₘ held) := by
      rw [Multiset.cons_add, Multiset.add_cons]
    calc (item ::ₘ finished) + held + (pending + children item)
        = finished + (item ::ₘ held) + pending + children item := by rw [hmoved, ← add_assoc]
      _ = (root ::ₘ finished.bind children) + children item := by rw [h.balance]
      _ = root ::ₘ (item ::ₘ finished).bind children := by
          rw [Multiset.cons_bind, Multiset.cons_add, add_comm (children item)]
  have hfinished : (item ::ₘ finished).Nodup := by
    refine Multiset.nodup_of_le ?_ h.nodup
    rw [Multiset.add_cons, Multiset.cons_add]
    exact Multiset.cons_le_cons item (by rw [add_assoc]; exact Multiset.le_add_right _ _)
  have hitem : Reachable children root item := by
    apply h.reachable
    simp
  exact {
    balance := hbalance
    nodup := by rw [hbalance]; exact htree.nodup_bind hfinished
    reachable := by
      intro other hother
      rw [hbalance, Multiset.mem_cons] at hother
      cases hother with
      | inl hroot =>
        rw [hroot]
        exact .root
      | inr hchild =>
        obtain ⟨parent, hparent, hchild⟩ := Multiset.mem_bind.mp hchild
        cases Multiset.mem_cons.mp hparent with
        | inl hsame =>
          rw [hsame] at hchild
          exact .child hitem hchild
        | inr hold =>
          refine .child (h.reachable parent ?_) hchild
          rw [add_assoc]
          exact Multiset.mem_add.mpr (.inl hold) }

/-- When the work is done, everything that can be found has been finished. -/
theorem Explored.done (h : Explored children root finished 0 0) :
    finished.Nodup ∧ ∀ item, item ∈ finished ↔ Reachable children root item := by
  have hfinished : finished + 0 + 0 = finished := by simp
  have hbalance := h.balance
  rw [hfinished] at hbalance
  refine ⟨by rw [← hfinished]; exact h.nodup, fun item => ⟨?_, fun hitem => ?_⟩⟩
  · intro hitem
    apply h.reachable
    rw [hfinished]
    exact hitem
  · induction hitem with
    | root =>
      rw [hbalance]
      exact Multiset.mem_cons_self root _
    | child hparent hchild ih =>
      rw [hbalance]
      exact Multiset.mem_cons_of_mem (Multiset.mem_bind.mpr ⟨_, ih, hchild⟩)

end Exploration
