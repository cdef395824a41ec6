import Mathlib

/-!
# Greedy placement on lanes

Items with weights are placed one after the other, each behind the items of a lane that no other
lane is lighter than.  Then the loads of two lanes never differ by more than the heaviest item, no
lane stays empty while another one holds two items with a weight, and no load is above the average
by more than the heaviest item.
-/

namespace GreedyLanes

variable {α : Type} (weight : α → Nat)

/-- The weight of a lane. -/
def load (lane : List α) : Nat := (lane.map weight).sum

/-- The weight of the heaviest item. -/
def heaviest (items : List α) : Nat := (items.map weight).foldr max 0

/-- What greedy placement keeps. -/
structure Balanced (lanes : List (List α)) : Prop where
  spread : ∀ lane ∈ lanes, ∀ other ∈ lanes,
    load weight lane ≤ load weight other + heaviest weight lanes.flatten
  busy : [] ∈ lanes → ∀ lane ∈ lanes, (lane.filter (fun item => weight item ≠ 0)).length ≤ 1

variable {weight}

@[simp] theorem load_nil : load weight [] = 0 := rfl

@[simp] theorem load_append (left right : List α) :
    load weight (left ++ right) = load weight left + load weight right := by
  simp [load]

theorem load_flatten (lanes : List (List α)) :
    load weight lanes.flatten = (lanes.map (load weight)).sum := by
  induction lanes with
  | nil => rfl
  | cons lane lanes ih => rw [List.flatten_cons, load_append, ih, List.map_cons, List.sum_cons]

theorem weight_le_heaviest {items : List α} {item : α} (h : item ∈ items) :
    weight item ≤ heaviest weight items := by
  induction items with
  | nil => cases h
  | cons head items ih =>
    show weight item ≤ max (weight head) (heaviest weight items)
    cases List.mem_cons.mp h with
    | inl hhead =>
      rw [hhead]
      exact le_max_left _ _
    | inr hrest => exact (ih hrest).trans (le_max_right _ _)

theorem heaviest_le {items : List α} {bound : Nat} (h : ∀ item ∈ items, weight item ≤ bound) :
    heaviest weight items ≤ bound := by
  induction items with
  | nil => exact Nat.zero_le _
  | cons head items ih =>
    show max (weight head) (heaviest weight items) ≤ bound
    exact max_le (h head List.mem_cons_self) (ih (fun item hitem =>
      h item (List.mem_cons_of_mem _ hitem)))

theorem heaviest_mono {items items' : List α} (h : items ⊆ items') :
    heaviest weight items ≤ heaviest weight items' :=
  heaviest_le (fun _ hitem => weight_le_heaviest (h hitem))

/-- A lane without load holds no item with a weight. -/
theorem filter_of_load_zero {lane : List α} (h : load weight lane = 0) :
    lane.filter (fun item => weight item ≠ 0) = [] := by
  rw [List.filter_eq_nil_iff]
  intro item hitem
  have hle : weight item ≤ load weight lane :=
    List.single_le_sum (fun _ _ => Nat.zero_le _) _ (List.mem_map_of_mem hitem)
  simp only [decide_not, Bool.not_eq_true', decide_eq_false_iff_not, not_not]
  omega

/-- Lanes without items are balanced. -/
theorem balanced_replicate (count : Nat) : Balanced weight (List.replicate count []) where
  spread := by
    intro lane hlane other _
    rw [List.eq_of_mem_replicate hlane]
    exact Nat.zero_le _
  busy := by
    intro _ lane hlane
    rw [List.eq_of_mem_replicate hlane]
    exact Nat.zero_le _

theorem mem_place {left right : List (List α)} {lane placed other : List α}
    (h : other ∈ left ++ placed :: right) :
    other = placed ∨ other ∈ left ++ lane :: right := by
  cases List.mem_append.mp h with
  | inl hleft => exact .inr (List.mem_append_left _ hleft)
  | inr hrest =>
    cases List.mem_cons.mp hrest with
    | inl hsame => exact .inl hsame
    | inr hright => exact .inr (List.mem_append_right _ (List.mem_cons_of_mem _ hright))

/-- An item goes behind a lane of least load. -/
theorem Balanced.place {left right : List (List α)} {lane : List α} {item : α}
    (h : Balanced weight (left ++ lane :: right))
    (hleast : ∀ other ∈ left ++ lane :: right, load weight lane ≤ load weight other) :
    Balanced weight (left ++ (lane ++ [item]) :: right) := by
  have hlane : lane ∈ left ++ lane :: right := by simp
  have hgrow : heaviest weight (left ++ lane :: right).flatten ≤
      heaviest weight (left ++ (lane ++ [item]) :: right).flatten := by
    apply heaviest_mono
    intro other hother
    simp only [List.flatten_append, List.flatten_cons, List.mem_append] at hother ⊢
    tauto
  have hitem : weight item ≤ heaviest weight (left ++ (lane ++ [item]) :: right).flatten :=
    weight_le_heaviest (by simp)
  have hload : load weight (lane ++ [item]) = load weight lane + weight item := by simp [load]
  constructor
  · intro first hfirst second hsecond
    cases @mem_place _ _ _ lane _ _ hfirst with
    | inl hnew =>
      rw [hnew, hload]
      cases @mem_place _ _ _ lane _ _ hsecond with
      | inl hsame =>
        rw [hsame, hload]
        omega
      | inr hold =>
        have hle := hleast second hold
        omega
    | inr hfirst =>
      cases @mem_place _ _ _ lane _ _ hsecond with
      | inl hnew =>
        rw [hnew, hload]
        have hle := h.spread first hfirst lane hlane
        omega
      | inr hsecond =>
        have hle := h.spread first hfirst second hsecond
        omega
  · intro hempty other hother
    have hwas : [] ∈ left ++ lane :: right := by
      cases @mem_place _ _ _ lane _ _ hempty with
      | inl hsame => simp at hsame
      | inr hold => exact hold
    cases @mem_place _ _ _ lane _ _ hother with
    | inl hnew =>
      have hzero : load weight lane = 0 := Nat.le_zero.mp (hleast [] hwas)
      rw [hnew, List.filter_append, filter_of_load_zero hzero, List.nil_append]
      exact List.length_filter_le _ _
    | inr hold => exact h.busy hwas other hold

/-- No lane is above the average by more than the heaviest item. -/
theorem Balanced.le_average {lanes : List (List α)} (h : Balanced weight lanes) {lane : List α}
    (hlane : lane ∈ lanes) :
    load weight lane ≤
      load weight lanes.flatten / lanes.length + heaviest weight lanes.flatten := by
  have hbelow : ∀ value ∈ lanes.map (load weight),
      load weight lane - heaviest weight lanes.flatten ≤ value := by
    intro value hvalue
    obtain ⟨other, hother, hload⟩ := List.mem_map.mp hvalue
    have hle := h.spread lane hlane other hother
    omega
  have hsum := List.card_nsmul_le_sum _ _ hbelow
  rw [List.length_map, smul_eq_mul, ← load_flatten] at hsum
  have hpos : 0 < lanes.length := List.length_pos_of_mem hlane
  have haverage : load weight lane - heaviest weight lanes.flatten ≤
      load weight lanes.flatten / lanes.length := by
    rw [Nat.le_div_iff_mul_le hpos, Nat.mul_comm]
    exact hsum
  omega

end GreedyLanes
