import Mathlib.Data.List.Induction
import Mathlib.Data.List.Sort
import Mathlib.Order.Basic

/-!
# Grouping by a key

The items of a list are collected under their keys, each group in the order of the list, and the
groups come in the order of the keys: an ordered map of vectors that is filled item by item.  The
groups of a permuted list have the same keys, and each has the same items.
-/

namespace Grouping

section

variable {α κ : Type} [LinearOrder κ] (key : α → κ)

/-- An item is put at the end of the group of its key. -/
def push (item : α) : List (κ × List α) → List (κ × List α)
  | [] => [(key item, [item])]
  | (groupKey, members) :: rest =>
      if key item = groupKey then (groupKey, members ++ [item]) :: rest
      else if key item < groupKey then (key item, [item]) :: (groupKey, members) :: rest
      else (groupKey, members) :: push item rest

/-- The groups of a list. -/
def groups (items : List α) : List (κ × List α) :=
  items.foldl (fun entries item => push key item entries) []

/-- The items of one key. -/
def members (items : List α) (groupKey : κ) : List α :=
  items.filter (fun item => key item = groupKey)

/-- Groups in the order of their keys. -/
def Ordered (entries : List (κ × List α)) : Prop :=
  entries.Pairwise (fun left right => left.1 < right.1)

variable {key}
variable {entries : List (κ × List α)}

/-- The keys after a push. -/
theorem mem_keys_push {item : α} {groupKey : κ} :
    groupKey ∈ (push key item entries).map Prod.fst ↔
      groupKey = key item ∨ groupKey ∈ entries.map Prod.fst := by
  induction entries with
  | nil => simp [push]
  | cons entry rest ih =>
    obtain ⟨first, members⟩ := entry
    rw [push]
    split
    · rename_i hkey
      rw [hkey]
      simp
    · split
      · simp
      · rw [List.map_cons, List.mem_cons, ih, List.map_cons, List.mem_cons]
        grind

theorem Ordered.push (h : Ordered entries) (item : α) :
    Ordered (Grouping.push key item entries) := by
  induction entries with
  | nil => exact List.pairwise_singleton _ _
  | cons entry rest ih =>
    obtain ⟨first, members⟩ := entry
    obtain ⟨hfirst, hrest⟩ := List.pairwise_cons.mp h
    rw [Grouping.push]
    split
    · exact List.pairwise_cons.mpr ⟨hfirst, hrest⟩
    · rename_i hne
      split
      · rename_i hlt
        refine List.pairwise_cons.mpr ⟨?_, h⟩
        intro other hother
        rcases List.mem_cons.mp hother with rfl | hother
        · exact hlt
        · exact hlt.trans (hfirst other hother)
      · rename_i hge
        refine List.pairwise_cons.mpr ⟨?_, ih hrest⟩
        intro other hother
        have hkeys := mem_keys_push.mp (List.mem_map_of_mem hother)
        rcases hkeys with hkey | hkey
        · rw [hkey]
          exact lt_of_le_of_ne (not_lt.mp hge) (Ne.symm hne)
        · obtain ⟨found, hfound, hsame⟩ := List.mem_map.mp hkey
          rw [← hsame]
          exact hfirst found hfound

/-- An entry after a push is an old one of another key, or that of the item. -/
theorem mem_push {item : α} (h : Ordered entries) {entry : κ × List α}
    (hentry : entry ∈ push key item entries) :
    entry ∈ entries ∧ entry.1 ≠ key item ∨
      (∃ members, (key item, members) ∈ entries ∧ entry = (key item, members ++ [item])) ∨
      entry = (key item, [item]) ∧ key item ∉ entries.map Prod.fst := by
  induction entries with
  | nil =>
    rw [push, List.mem_singleton] at hentry
    exact .inr (.inr ⟨hentry, by simp⟩)
  | cons head rest ih =>
    obtain ⟨first, members⟩ := head
    obtain ⟨hfirst, hrest⟩ := List.pairwise_cons.mp h
    rw [push] at hentry
    split at hentry
    · rename_i hkey
      rcases List.mem_cons.mp hentry with hsame | hentry
      · exact .inr (.inl ⟨members, by simp [hkey], by rw [hsame, hkey]⟩)
      · exact .inl ⟨List.mem_cons_of_mem _ hentry, hkey ▸ (hfirst entry hentry).ne'⟩
    · rename_i hne
      split at hentry
      · rename_i hlt
        have hfresh : ∀ other ∈ (first, members) :: rest, key item < other.1 := by
          intro other hother
          rcases List.mem_cons.mp hother with rfl | hother
          · exact hlt
          · exact hlt.trans (hfirst other hother)
        rcases List.mem_cons.mp hentry with hsame | hentry
        · refine .inr (.inr ⟨hsame, ?_⟩)
          intro hmem
          obtain ⟨found, hfound, hkey⟩ := List.mem_map.mp hmem
          exact absurd hkey (hfresh found hfound).ne'
        · exact .inl ⟨hentry, (hfresh entry hentry).ne'⟩
      · rcases List.mem_cons.mp hentry with hsame | hentry
        · exact .inl ⟨hsame ▸ List.mem_cons_self, by rw [hsame]; exact Ne.symm hne⟩
        · rcases ih hrest hentry with ⟨hold, hkey⟩ | ⟨found, hfound, hsame⟩ | ⟨hsame, hfresh⟩
          · exact .inl ⟨List.mem_cons_of_mem _ hold, hkey⟩
          · exact .inr (.inl ⟨found, List.mem_cons_of_mem _ hfound, hsame⟩)
          · refine .inr (.inr ⟨hsame, ?_⟩)
            rw [List.map_cons, List.mem_cons, not_or]
            exact ⟨hne, hfresh⟩

/-- What the groups of a list are. -/
structure Grouped (key : α → κ) (items : List α) (entries : List (κ × List α)) : Prop where
  ordered : Ordered entries
  groups : ∀ entry ∈ entries, entry.2 = members key items entry.1
  keys : ∀ groupKey, groupKey ∈ entries.map Prod.fst ↔ ∃ item ∈ items, key item = groupKey

theorem Grouped.push {items : List α} (h : Grouped key items entries) (item : α) :
    Grouped key (items ++ [item]) (Grouping.push key item entries) := by
  constructor
  case ordered => exact h.ordered.push item
  case groups =>
    intro entry hentry
    rw [members, List.filter_append]
    rcases mem_push h.ordered hentry with ⟨hold, hne⟩ | ⟨found, hfound, hsame⟩ | ⟨hsame, hfresh⟩
    · rw [h.groups entry hold, members]
      simp [Ne.symm hne]
    · rw [hsame]
      have hmembers := h.groups _ hfound
      dsimp only at hmembers ⊢
      rw [hmembers, members]
      simp
    · rw [hsame]
      have hnone : items.filter (fun other => key other = key item) = [] := by
        rw [List.filter_eq_nil_iff]
        intro other hother hkey
        exact hfresh ((h.keys (key item)).mpr ⟨other, hother, of_decide_eq_true hkey⟩)
      dsimp only
      rw [hnone]
      simp
  case keys =>
    intro groupKey
    rw [mem_keys_push, h.keys]
    constructor
    · intro hkey
      rcases hkey with hkey | ⟨other, hother, hkey⟩
      · exact ⟨item, by simp, hkey.symm⟩
      · exact ⟨other, by simp [hother], hkey⟩
    · intro ⟨other, hother, hkey⟩
      rcases List.mem_append.mp hother with hother | hother
      · exact .inr ⟨other, hother, hkey⟩
      · rw [List.mem_singleton] at hother
        subst hother
        exact .inl hkey.symm

theorem grouped_groups (items : List α) : Grouped key items (groups key items) := by
  induction items using List.reverseRecOn with
  | nil => exact ⟨List.Pairwise.nil, by simp [groups], by simp [groups]⟩
  | append_singleton items item ih =>
    rw [groups, List.foldl_append]
    exact ih.push item

/-- A group per key, in the order of the keys. -/
theorem groups_eq (items : List α) :
    groups key items =
      ((groups key items).map Prod.fst).map
        (fun groupKey => (groupKey, members key items groupKey)) := by
  rw [List.map_map]
  refine ((List.map_congr_left ?_).trans (List.map_id _)).symm
  intro entry hentry
  have hmembers := (grouped_groups items).groups entry hentry
  show (entry.1, members key items entry.1) = entry
  rw [← hmembers]

theorem nodup_keys (items : List α) : ((groups key items).map Prod.fst).Nodup := by
  apply List.pairwise_map.mpr
  exact (grouped_groups items).ordered.imp (fun h => h.ne)

/-- The keys do not depend on the order of the items. -/
theorem keys_perm {items items' : List α} (h : items.Perm items') :
    (groups key items).map Prod.fst = (groups key items').map Prod.fst := by
  have hordered : ∀ items : List α, ((groups key items).map Prod.fst).Pairwise (· < ·) := by
    intro items
    exact List.pairwise_map.mpr (grouped_groups items).ordered
  apply List.Perm.eq_of_pairwise _ (hordered items) (hordered items')
  · rw [List.perm_ext_iff_of_nodup (nodup_keys items) (nodup_keys items')]
    intro groupKey
    rw [(grouped_groups items).keys, (grouped_groups items').keys]
    constructor
    · intro ⟨item, hitem, hkey⟩
      exact ⟨item, h.mem_iff.mp hitem, hkey⟩
    · intro ⟨item, hitem, hkey⟩
      exact ⟨item, h.mem_iff.mpr hitem, hkey⟩
  · intro left right _ _ hlt hgt
    exact absurd hgt (not_lt.mpr hlt.le)

theorem members_perm {items items' : List α} (h : items.Perm items') (groupKey : κ) :
    (members key items groupKey).Perm (members key items' groupKey) := h.filter _

theorem mem_members {items : List α} {groupKey : κ} {item : α} :
    item ∈ members key items groupKey ↔ item ∈ items ∧ key item = groupKey := by
  rw [members, List.mem_filter, decide_eq_true_iff]

end

end Grouping
