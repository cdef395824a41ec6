import NetworkCopy.Management.Queue

/-!
# The operations keep the queue valid

`Valid` is what `validate` accepts.  `Change` lists what an operation that does not fail can
do to a queue, with the checks that it has passed; an operation that fails changes nothing.
All properties of runs follow from these two.
-/

namespace NetworkCopy

namespace TransferQueue

variable {Address : Type}

/-- The IDs of the items, in order. -/
def ids (queue : TransferQueue Address) : List QueuedTransferId :=
  queue.items.map QueuedTransfer.id

/-- The item may not be removed, skipped or moved. -/
def Held (queue : TransferQueue Address) (item : QueuedTransfer Address) : Prop :=
  queue.isBound item.id = true ∨ item.state = .running

theorem isBound_eq_true {queue : TransferQueue Address} {id : QueuedTransferId} :
    queue.isBound id = true ↔ ∃ binding, queue.activeBinding = some binding ∧
      binding.queueId = id := by
  unfold isBound
  cases queue.activeBinding <;> simp

section

variable [DecidableEq Address]
variable (queue : TransferQueue Address)

/-- What `validate` accepts. -/
structure Valid (queue : TransferQueue Address) : Prop where
  nextId_pos : 0 < queue.nextId
  length_le : queue.items.length ≤ maxQueueEntries
  below : ∀ item ∈ queue.items, item.id.value < queue.nextId
  nodup : queue.ids.Nodup
  items : ∀ item ∈ queue.items, item.validate = .ok ()
  binding : ∀ binding, queue.activeBinding = some binding → ∃ item ∈ queue.items,
    item.id = binding.queueId ∧ (item.state = .running ∨ item.state = .blocked)

theorem validateItems_eq_ok {nextId : Nat} {items : List (QueuedTransfer Address)}
    {seen : Finset QueuedTransferId} :
    validateItems nextId items seen = .ok () ↔
      (∀ item ∈ items, item.id.value < nextId ∧ item.id ∉ seen ∧ item.validate = .ok ()) ∧
        (items.map QueuedTransfer.id).Nodup := by
  induction items generalizing seen with
  | nil => simp [validateItems]
  | cons item rest ih =>
    simp only [validateItems, checks_eq_ok, check_eq_ok, exists_const, ih, Finset.mem_insert,
      not_or, List.forall_mem_cons, List.map_cons, List.nodup_cons, List.mem_map, not_exists,
      not_and]
    constructor
    · rintro ⟨hbelow, hnew, ⟨⟩, hitem, hrest, hnodup⟩
      exact ⟨⟨⟨hbelow, hnew, hitem⟩, fun other hother =>
        ⟨(hrest other hother).1, (hrest other hother).2.1.2, (hrest other hother).2.2⟩⟩,
        fun other hother => (hrest other hother).2.1.1, hnodup⟩
    · rintro ⟨⟨⟨hbelow, hnew, hitem⟩, hrest⟩, hother, hnodup⟩
      exact ⟨hbelow, hnew, (), hitem, fun other hmem =>
        ⟨(hrest other hmem).1, ⟨hother other hmem, (hrest other hmem).2.1⟩,
          (hrest other hmem).2.2⟩, hnodup⟩

/-- With distinct IDs the first item with an ID is the only one. -/
theorem find_eq_some {queue : TransferQueue Address} (hnodup : queue.ids.Nodup)
    {id : QueuedTransferId} {item : QueuedTransfer Address} :
    queue.find id = some item ↔ item ∈ queue.items ∧ item.id = id := by
  constructor
  · intro hfind
    have hid := List.find?_some hfind
    exact ⟨List.mem_of_find?_eq_some hfind, by simpa using hid⟩
  · rintro ⟨hmem, hid⟩
    cases hfind : queue.find id with
    | none =>
      have hnone := List.find?_eq_none.mp hfind item hmem
      simp [hid] at hnone
    | some other =>
      have hother := List.find?_some hfind
      have hsame : other.id = item.id := by
        rw [hid]
        simpa using hother
      rw [List.inj_on_of_nodup_map hnodup (List.mem_of_find?_eq_some hfind) hmem hsame]

theorem validateForQueue_eq_ok {queue : TransferQueue Address} (hnodup : queue.ids.Nodup)
    {binding : ActiveQueueBinding} :
    binding.validateForQueue queue = .ok () ↔ ∃ item ∈ queue.items,
      item.id = binding.queueId ∧ (item.state = .running ∨ item.state = .blocked) := by
  unfold ActiveQueueBinding.validateForQueue
  cases hfind : queue.find binding.queueId with
  | none =>
    simp only [reduceCtorEq, false_iff, not_exists, not_and]
    intro item hmem hid
    rw [(find_eq_some hnodup).mpr ⟨hmem, hid⟩] at hfind
    cases hfind
  | some item =>
    obtain ⟨hmem, hid⟩ := (find_eq_some hnodup).mp hfind
    simp only [check_eq_ok]
    constructor
    · intro hstate
      exact ⟨item, hmem, hid, hstate⟩
    · rintro ⟨other, hother, hsame, hstate⟩
      rw [← List.inj_on_of_nodup_map hnodup hother hmem (hsame.trans hid.symm)]
      exact hstate

theorem validate_eq_ok {queue : TransferQueue Address} :
    queue.validate = .ok () ↔ queue.Valid := by
  unfold validate
  simp only [checks_eq_ok, check_eq_ok, exists_const]
  constructor
  · rintro ⟨hnext, hlength, ⟨⟩, hvalidated, hbinding⟩
    obtain ⟨hitems, hnodup⟩ := validateItems_eq_ok.mp hvalidated
    refine ⟨Nat.pos_of_ne_zero hnext, hlength, fun item hmem => (hitems item hmem).1, hnodup,
      fun item hmem => (hitems item hmem).2.2, ?_⟩
    intro binding hactive
    rw [hactive] at hbinding
    exact (validateForQueue_eq_ok hnodup).mp hbinding
  · intro h
    have hvalidated : validateItems queue.nextId queue.items ∅ = .ok () := by
      refine validateItems_eq_ok.mpr ⟨fun item hmem => ?_, h.nodup⟩
      exact ⟨h.below item hmem, Finset.notMem_empty _, h.items item hmem⟩
    refine ⟨Nat.pos_iff_ne_zero.mp h.nextId_pos, h.length_le, (), hvalidated, ?_⟩
    cases hactive : queue.activeBinding with
    | none => rfl
    | some binding => exact (validateForQueue_eq_ok h.nodup).mpr (h.binding binding hactive)

/-- What an operation that does not fail does to a queue. -/
inductive Change (queue : TransferQueue Address) : TransferQueue Address → Prop
  | add (request : QueuedTransferRequest Address) (preserveDesktopLayout : Bool)
      (hpos : 0 < queue.nextId) (hvalid : request.validate = .ok ())
      (hroom : queue.items.length < maxQueueEntries) (hnext : queue.nextId + 1 < u64Limit) :
      Change queue { queue with
        items := queue.items ++ [{
          id := ⟨queue.nextId, hpos, queue.nextId_lt⟩
          request
          preserveDesktopLayout
          state := .pending
          statusMessage := "" }]
        nextId := queue.nextId + 1
        nextId_lt := hnext }
  | swap {before after : List (QueuedTransfer Address)} {first second : QueuedTransfer Address}
      (hitems : queue.items = before ++ first :: second :: after)
      (hfirst : ¬ queue.Held first) (hsecond : ¬ queue.Held second) :
      Change queue { queue with items := before ++ second :: first :: after }
  | drop {items : List (QueuedTransfer Address)} (hitems : items.Sublist queue.items)
      (hheld : ∀ item ∈ queue.items, queue.Held item → item ∈ items) :
      Change queue { queue with items }
  | update {index : Nat} {item : QueuedTransfer Address} (state : QueuedTransferState)
      (statusMessage : String) (hget : queue.items[index]? = some item)
      (hmessage : validateOptionalText statusMessage "queue status message" = .ok ())
      (binding : Option ActiveQueueBinding)
      (hbinding : binding = queue.activeBinding ∨ binding = none)
      (hretain : state.mayRetainActiveBinding = true ∨ ∀ active, binding = some active →
        active.queueId ≠ item.id) :
      Change queue { queue.update index state statusMessage with activeBinding := binding }
  | bind (binding : ActiveQueueBinding) (hvalid : binding.validateForQueue queue = .ok ()) :
      Change queue { queue with activeBinding := some binding }
  | unbind : Change queue { queue with activeBinding := none }
  | pause (paused : Bool) : Change queue { queue with pausedAfterCurrent := paused }

/-- An operation fails and changes nothing, or makes one of the changes. -/
def Does (queue : TransferQueue Address) (outcome : QueueResult Address × TransferQueue Address) :
    Prop :=
  outcome.2 = queue ∨ (outcome.1.failed = false ∧ queue.Change outcome.2)

theorem position_eq_some {queue : TransferQueue Address} {id : QueuedTransferId} {index : Nat}
    (h : queue.position id = some index) :
    ∃ item, queue.items[index]? = some item ∧ item.id = id := by
  obtain ⟨hlt, hid, _⟩ := List.findIdx?_eq_some_iff_getElem.mp h
  exact ⟨_, List.getElem?_eq_getElem hlt, by simpa using hid⟩

theorem addWithDesktopLayout_does (request : QueuedTransferRequest Address)
    (preserveDesktopLayout : Bool) :
    queue.Does ((queue.addWithDesktopLayout request preserveDesktopLayout).map .added id) := by
  unfold addWithDesktopLayout
  split
  · exact .inl rfl
  · rename_i hvalid
    split
    · exact .inl rfl
    · rename_i hroom
      by_cases hpos : 0 < queue.nextId
      · rw [QueuedTransferId.fromRaw, dif_pos hpos]
        by_cases hnext : queue.nextId + 1 < u64Limit
        · simp only [dif_pos hnext]
          exact .inr ⟨rfl, .add request preserveDesktopLayout hpos hvalid (by omega) hnext⟩
        · simp only [dif_neg hnext]
          exact .inl rfl
      · rw [QueuedTransferId.fromRaw, dif_neg hpos]
        exact .inl rfl

theorem swapNeighbours_does (index : Nat) :
    queue.Does ((queue.swapNeighbours index).map .changed (fun queue => queue)) := by
  unfold swapNeighbours
  split
  · rename_i first second after hdrop
    split
    · exact .inl rfl
    · rename_i hmay
      have hitems : queue.items = queue.items.take index ++ first :: second :: after := by
        rw [← hdrop, List.take_append_drop]
      have hswap : swapAt queue.items index =
          queue.items.take index ++ second :: first :: after := by
        unfold swapAt
        rw [hdrop]
      refine .inr ⟨rfl, ?_⟩
      rw [hswap]
      refine .swap hitems ?_ ?_
      · rintro (hbound | hrunning)
        · exact hmay (.inl hbound)
        · exact hmay (.inr (.inr (.inl hrunning)))
      · rintro (hbound | hrunning)
        · exact hmay (.inr (.inl hbound))
        · exact hmay (.inr (.inr (.inr hrunning)))
  · exact .inl rfl

theorem moveUp_does (id : QueuedTransferId) :
    queue.Does ((queue.moveUp id).map .changed (fun queue => queue)) := by
  unfold moveUp
  split
  · exact .inl rfl
  · exact .inl rfl
  · exact swapNeighbours_does queue _

theorem moveDown_does (id : QueuedTransferId) :
    queue.Does ((queue.moveDown id).map .changed (fun queue => queue)) := by
  unfold moveDown
  split
  · exact .inl rfl
  · exact swapNeighbours_does queue _

theorem remove_does (id : QueuedTransferId) :
    queue.Does ((queue.remove id).map .removed (fun queue => queue)) := by
  unfold remove
  cases hposition : queue.position id with
  | none => exact .inl rfl
  | some index =>
    obtain ⟨item, hget, hid⟩ := position_eq_some hposition
    simp only [hget]
    split
    · exact .inl rfl
    · rename_i hmay
      refine .inr ⟨rfl, .drop (List.eraseIdx_sublist _ _) ?_⟩
      intro other hmem hheld
      obtain ⟨place, hplace⟩ := List.mem_iff_getElem?.mp hmem
      refine List.mem_eraseIdx_iff_getElem?.mpr ⟨place, ?_, hplace⟩
      -- The item that is removed is not held.
      rintro rfl
      rw [hget, Option.some.injEq] at hplace
      subst hplace
      rw [← hid] at hmay
      exact hmay hheld

theorem clearCompleted_does :
    queue.Does (queue.clearCompleted.map .cleared id) := by
  refine .inr ⟨rfl, .drop List.filter_sublist ?_⟩
  intro item hmem hheld
  rw [List.mem_filter, decide_eq_true_iff]
  refine ⟨hmem, ?_⟩
  rcases hheld with hbound | hrunning
  · exact .inr hbound
  · rw [hrunning]
    exact .inl (by decide)

theorem setState_does (id : QueuedTransferId) (state : QueuedTransferState)
    (statusMessage : String) :
    queue.Does ((queue.setState id state statusMessage).map .result (fun queue => queue)) := by
  unfold setState
  split
  · exact .inl rfl
  · rename_i hmessage
    cases hposition : queue.position id with
    | none => exact .inl rfl
    | some index =>
      obtain ⟨item, hget, hid⟩ := position_eq_some hposition
      dsimp only
      split
      · exact .inr ⟨rfl, .update state statusMessage hget hmessage none (.inr rfl)
          (.inr (fun _ hnone => by cases hnone))⟩
      · rename_i hkeep
        refine .inr ⟨rfl, .update state statusMessage hget hmessage queue.activeBinding
          (.inl rfl) ?_⟩
        by_cases hretain : state.mayRetainActiveBinding = true
        · exact .inl hretain
        · refine .inr (fun active hactive hsame => hkeep ⟨?_, ?_⟩)
          · simpa using hretain
          · exact isBound_eq_true.mpr ⟨active, hactive, hsame.trans hid⟩

theorem updateUnbound_does (id : QueuedTransferId) (may : QueuedTransferState → Bool)
    (state : QueuedTransferState) {statusMessage : String}
    (hmessage : validateOptionalText statusMessage "queue status message" = .ok ()) :
    queue.Does ((queue.updateUnbound id may state statusMessage).map .changed
      (fun queue => queue)) := by
  unfold updateUnbound
  by_cases hbound : queue.isBound id = true
  · rw [if_pos hbound]
    exact .inl rfl
  · rw [if_neg hbound]
    cases hposition : queue.position id with
    | none => exact .inl rfl
    | some index =>
      obtain ⟨item, hget, hid⟩ := position_eq_some hposition
      simp only [hget]
      split
      · refine .inr ⟨rfl, .update state statusMessage hget hmessage queue.activeBinding
          (.inl rfl) (.inr (fun active hactive hsame => hbound ?_))⟩
        exact isBound_eq_true.mpr ⟨active, hactive, hsame.trans hid⟩
      · exact .inl rfl

theorem setActiveBinding_does (binding : ActiveQueueBinding) :
    queue.Does ((queue.setActiveBinding binding).map .result id) := by
  unfold setActiveBinding
  split
  · split
    · exact .inl rfl
    · exact .inl rfl
  · split
    · exact .inl rfl
    · rename_i hvalid
      exact .inr ⟨rfl, .bind binding hvalid⟩

/-- What an operation does, whatever its arguments are. -/
theorem run_does (operation : QueueOperation Address) (queue : TransferQueue Address) :
    queue.Does (operation.run queue) := by
  cases operation with
  | addWithDesktopLayout request preserveDesktopLayout =>
    exact addWithDesktopLayout_does queue request preserveDesktopLayout
  | moveUp id => exact moveUp_does queue id
  | moveDown id => exact moveDown_does queue id
  | remove id => exact remove_does queue id
  | clearCompleted => exact clearCompleted_does queue
  | setState id state statusMessage => exact setState_does queue id state statusMessage
  | resetToPending id => exact updateUnbound_does queue id _ _ rfl
  | skip id => exact updateUnbound_does queue id _ _ rfl
  | setActiveBinding binding => exact setActiveBinding_does queue binding
  | clearActiveBinding => exact .inr ⟨rfl, .unbind⟩
  | setPausedAfterCurrent paused => exact .inr ⟨rfl, .pause paused⟩

/-! ## What every change keeps -/

theorem getElem?_update (index place : Nat) (state : QueuedTransferState)
    (statusMessage : String) :
    (queue.update index state statusMessage).items[place]? =
      if index = place then queue.items[place]?.map (fun item => { item with state, statusMessage })
      else queue.items[place]? := by
  unfold update
  rw [List.getElem?_modify]
  by_cases hsame : index = place
  · simp only [if_pos hsame]
    rfl
  · simp only [if_neg hsame]
    exact id_map _

/-- A new state and message keep the ID and the request. -/
theorem mem_update {queue : TransferQueue Address} {index : Nat} {item : QueuedTransfer Address}
    {state : QueuedTransferState} {statusMessage : String}
    (hget : queue.items[index]? = some item) {other : QueuedTransfer Address} :
    other ∈ (queue.update index state statusMessage).items →
      other = { item with state, statusMessage } ∨ other ∈ queue.items := by
  intro hmem
  obtain ⟨place, hplace⟩ := List.mem_iff_getElem?.mp hmem
  rw [getElem?_update] at hplace
  by_cases hsame : index = place
  · subst hsame
    rw [if_pos rfl, hget, Option.map_some, Option.some.injEq] at hplace
    exact .inl hplace.symm
  · rw [if_neg hsame] at hplace
    exact .inr (List.mem_of_getElem? hplace)

theorem ids_update (index : Nat) (state : QueuedTransferState) (statusMessage : String) :
    (queue.update index state statusMessage).ids = queue.ids := by
  apply List.ext_getElem?
  intro place
  rw [ids, ids, List.getElem?_map, List.getElem?_map, getElem?_update]
  by_cases hsame : index = place
  · rw [if_pos hsame]
    cases queue.items[place]? <;> rfl
  · rw [if_neg hsame]

/-- Items that were there are there with their ID. -/
theorem mem_items_update {queue : TransferQueue Address} {index : Nat}
    {item other : QueuedTransfer Address} {state : QueuedTransferState} {statusMessage : String}
    (hget : queue.items[index]? = some item) (hmem : other ∈ queue.items)
    (hne : other.id ≠ item.id) : other ∈ (queue.update index state statusMessage).items := by
  obtain ⟨place, hplace⟩ := List.mem_iff_getElem?.mp hmem
  apply List.mem_iff_getElem?.mpr
  refine ⟨place, ?_⟩
  have hother : index ≠ place := by
    rintro rfl
    rw [hget, Option.some.injEq] at hplace
    exact hne (congrArg QueuedTransfer.id hplace.symm)
  rw [getElem?_update, if_neg hother, hplace]

/-- Every change keeps a queue valid. -/
theorem Valid.change {queue after : TransferQueue Address} (h : queue.Valid)
    (hchange : queue.Change after) : after.Valid := by
  cases hchange with
  | add request preserveDesktopLayout hpos hvalid hroom hnext =>
    refine ⟨Nat.succ_pos _, ?_, ?_, ?_, ?_, ?_⟩
    · rw [List.length_append, List.length_singleton]
      exact hroom
    · intro item hmem
      rcases List.mem_append.mp hmem with hold | hnew
      · exact Nat.lt_succ_of_lt (h.below item hold)
      · rw [List.mem_singleton.mp hnew]
        exact Nat.lt_succ_self _
    · show (List.map QueuedTransfer.id (queue.items ++ _)).Nodup
      rw [List.map_append, List.nodup_append]
      refine ⟨h.nodup, List.nodup_singleton _, ?_⟩
      intro old hold new hnew hsame
      obtain ⟨item, hmem, rfl⟩ := List.mem_map.mp hold
      rw [List.map_singleton, List.mem_singleton] at hnew
      have hbelow := h.below item hmem
      rw [hsame, hnew] at hbelow
      exact Nat.lt_irrefl _ hbelow
    · intro item hmem
      rcases List.mem_append.mp hmem with hold | hnew
      · exact h.items item hold
      · rw [List.mem_singleton.mp hnew]
        exact checks_eq_ok.mpr ⟨(), hvalid, rfl⟩
    · intro binding hactive
      obtain ⟨item, hmem, hitem⟩ := h.binding binding hactive
      exact ⟨item, List.mem_append_left _ hmem, hitem⟩
  | @swap before rest first second hitems _ _ =>
    have hperm : (before ++ second :: first :: rest).Perm queue.items := by
      rw [hitems]
      exact (List.Perm.swap _ _ _).append_left before
    refine ⟨h.nextId_pos, ?_, ?_, ?_, ?_, ?_⟩
    · rw [hperm.length_eq]
      exact h.length_le
    · intro item hmem
      exact h.below item (hperm.mem_iff.mp hmem)
    · exact (hperm.map QueuedTransfer.id).nodup_iff.mpr h.nodup
    · intro item hmem
      exact h.items item (hperm.mem_iff.mp hmem)
    · intro binding hactive
      obtain ⟨item, hmem, hitem⟩ := h.binding binding hactive
      exact ⟨item, hperm.mem_iff.mpr hmem, hitem⟩
  | drop hitems hheld =>
    refine ⟨h.nextId_pos, hitems.length_le.trans h.length_le, ?_, ?_, ?_, ?_⟩
    · intro item hmem
      exact h.below item (hitems.subset hmem)
    · exact h.nodup.sublist (hitems.map _)
    · intro item hmem
      exact h.items item (hitems.subset hmem)
    · intro binding hactive
      obtain ⟨item, hmem, hid, hstate⟩ := h.binding binding hactive
      exact ⟨item, hheld item hmem (.inl (isBound_eq_true.mpr ⟨binding, hactive, hid.symm⟩)),
        hid, hstate⟩
  | @update index item state statusMessage hget hmessage binding hbinding hretain =>
    have hitem := List.mem_of_getElem? hget
    refine ⟨h.nextId_pos, ?_, ?_, ?_, ?_, ?_⟩
    · show (List.modify _ _ _).length ≤ _
      rw [List.length_modify]
      exact h.length_le
    · intro other hmem
      rcases mem_update hget hmem with rfl | hold
      · exact h.below item hitem
      · exact h.below other hold
    · show (queue.update index state statusMessage).ids.Nodup
      rw [ids_update]
      exact h.nodup
    · intro other hmem
      rcases mem_update hget hmem with rfl | hold
      · obtain ⟨_, hrequest, _⟩ := checks_eq_ok.mp (h.items item hitem)
        exact checks_eq_ok.mpr ⟨(), hrequest, hmessage⟩
      · exact h.items other hold
    · intro active hactive
      rcases hbinding with rfl | rfl
      · obtain ⟨other, hmem, hid, hstate⟩ := h.binding active hactive
        by_cases hsame : other.id = item.id
        · refine ⟨{ item with state, statusMessage }, ?_, hsame.symm.trans hid, ?_⟩
          · apply List.mem_iff_getElem?.mpr
            refine ⟨index, ?_⟩
            show (queue.update index state statusMessage).items[index]? = _
            rw [getElem?_update, if_pos rfl, hget]
            rfl
          · rcases hretain with hmay | hother
            · revert hmay
              cases state <;> simp [QueuedTransferState.mayRetainActiveBinding]
            · exact absurd (hid.symm.trans hsame) (hother active hactive)
        · exact ⟨other, mem_items_update hget hmem hsame, hid, hstate⟩
      · cases hactive
  | bind binding hvalid =>
    refine ⟨h.nextId_pos, h.length_le, h.below, h.nodup, h.items, ?_⟩
    intro active hactive
    cases hactive
    exact (validateForQueue_eq_ok h.nodup).mp hvalid
  | unbind =>
    refine ⟨h.nextId_pos, h.length_le, h.below, h.nodup, h.items, ?_⟩
    intro active hactive
    cases hactive
  | pause paused => exact ⟨h.nextId_pos, h.length_le, h.below, h.nodup, h.items, h.binding⟩

/-! ## Places -/

/-- An item is still there, and it stands before and behind the same items. -/
structure Undisturbed (queue after : TransferQueue Address) (id : QueuedTransferId) : Prop where
  mem : id ∈ after.ids
  before : ∀ other ∈ after.ids, [id, other].Sublist queue.ids → [id, other].Sublist after.ids
  behind : ∀ other ∈ after.ids, [other, id].Sublist queue.ids → [other, id].Sublist after.ids

theorem undisturbed_of_sublist {queue after : TransferQueue Address} {id : QueuedTransferId}
    (hmem : id ∈ queue.ids) (h : queue.ids.Sublist after.ids) : queue.Undisturbed after id :=
  ⟨h.subset hmem, fun _ _ hpair => hpair.trans h, fun _ _ hpair => hpair.trans h⟩

end

/-- Two neighbours that are not both in a list can be swapped around it. -/
theorem sublist_swap {α : Type} [DecidableEq α] {pair before after : List α} {first second : α}
    (hnot : first ∉ pair ∨ second ∉ pair) (h : pair.Sublist (before ++ first :: second :: after)) :
    pair.Sublist (before ++ second :: first :: after) := by
  have hfilter : ∀ skipped : α, (skipped = first ∨ skipped = second) → skipped ∉ pair →
      pair.Sublist (before ++ second :: first :: after) := by
    intro skipped hskipped hnotMem
    have hpair : pair.filter (· ≠ skipped) = pair := by
      rw [List.filter_eq_self]
      intro other hother
      simp only [ne_eq, decide_not, Bool.not_eq_true', decide_eq_false_iff_not]
      rintro rfl
      exact hnotMem hother
    have hsame : (before ++ first :: second :: after).filter (· ≠ skipped) =
        (before ++ second :: first :: after).filter (· ≠ skipped) := by
      rcases hskipped with rfl | rfl <;> simp [List.filter_append, List.filter_cons]
    rw [← hpair]
    refine (h.filter (· ≠ skipped)).trans ?_
    rw [hsame]
    exact List.filter_sublist
  rcases hnot with hfirst | hsecond
  · exact hfilter first (.inl rfl) hfirst
  · exact hfilter second (.inr rfl) hsecond

/-- Two elements of a list without duplicates stand in one order only. -/
theorem not_sublist_swap {α : Type} [DecidableEq α] {items : List α} (hnodup : items.Nodup)
    {x y : α} (h : [x, y].Sublist items) : ¬ [y, x].Sublist items := by
  have hpairwise : items.Pairwise (fun a b => items.idxOf a < items.idxOf b) := by
    apply List.pairwise_iff_getElem.mpr
    intro i j hi hj hij
    rwa [hnodup.idxOf_getElem i hi, hnodup.idxOf_getElem j hj]
  intro hswapped
  have hxy : items.idxOf x < items.idxOf y := by simpa using hpairwise.sublist h
  have hyx : items.idxOf y < items.idxOf x := by simpa using hpairwise.sublist hswapped
  omega

theorem pair_sublist_total {α : Type} {items : List α} {x y : α} (hx : x ∈ items)
    (hy : y ∈ items) (hne : x ≠ y) : [x, y].Sublist items ∨ [y, x].Sublist items := by
  induction items with
  | nil => cases hx
  | cons head rest ih =>
    rcases List.mem_cons.mp hx with rfl | hxRest
    · rcases List.mem_cons.mp hy with rfl | hyRest
      · exact absurd rfl hne
      · exact .inl ((List.singleton_sublist.mpr hyRest).cons_cons x)
    · rcases List.mem_cons.mp hy with rfl | hyRest
      · exact .inr ((List.singleton_sublist.mpr hxRest).cons_cons y)
      · exact (ih hxRest hyRest).imp (fun h => h.cons head) (fun h => h.cons head)

/-- What remains of a list without duplicates keeps its order. -/
theorem pair_sublist_of_sublist {α : Type} [DecidableEq α] {items rest : List α}
    (hnodup : items.Nodup) (hrest : rest.Sublist items) {x y : α} (hx : x ∈ rest) (hy : y ∈ rest)
    (h : [x, y].Sublist items) : [x, y].Sublist rest := by
  have hne : x ≠ y := by simpa using hnodup.sublist h
  rcases pair_sublist_total hx hy hne with hsame | hswapped
  · exact hsame
  · exact absurd (hswapped.trans hrest) (not_sublist_swap hnodup h)

section

variable [DecidableEq Address]
variable {queue : TransferQueue Address}

/-- No change moves or removes an item that is bound or running. -/
theorem Held.undisturbed {queue after : TransferQueue Address} (h : queue.Valid)
    {item : QueuedTransfer Address} (hmem : item ∈ queue.items) (hheld : queue.Held item)
    (hchange : queue.Change after) : queue.Undisturbed after item.id := by
  have hid : item.id ∈ queue.ids := List.mem_map_of_mem hmem
  cases hchange with
  | add request preserveDesktopLayout hpos hvalid hroom hnext =>
    apply undisturbed_of_sublist hid
    show (List.map _ _).Sublist (List.map _ (_ ++ _))
    rw [List.map_append]
    exact List.sublist_append_left _ _
  | @swap before rest first second hitems hfirst hsecond =>
    have hids : queue.ids = before.map QueuedTransfer.id ++ first.id :: second.id ::
        rest.map QueuedTransfer.id := by
      simp [ids, hitems]
    have hfirstMem : first ∈ queue.items := by simp [hitems]
    have hsecondMem : second ∈ queue.items := by simp [hitems]
    have hother : ∀ other ∈ queue.items, ¬ queue.Held other → item.id ≠ other.id := by
      intro other hotherMem hfree hsame
      rw [List.inj_on_of_nodup_map h.nodup hmem hotherMem hsame] at hheld
      exact hfree hheld
    have hne : first.id ≠ second.id := by
      have hnodup := h.nodup
      rw [hids, List.nodup_append] at hnodup
      intro hsame
      simp [hsame] at hnodup
    have hpair : ∀ other, (first.id ∉ [item.id, other] ∨ second.id ∉ [item.id, other]) ∧
        (first.id ∉ [other, item.id] ∨ second.id ∉ [other, item.id]) := by
      intro other
      have hf := hother first hfirstMem hfirst
      have hs := hother second hsecondMem hsecond
      by_cases hsame : other = first.id
      · subst hsame
        simp [hs.symm, hne.symm]
      · simp [hf.symm, Ne.symm hsame]
    have hafter : ids { queue with items := before ++ second :: first :: rest } =
        before.map QueuedTransfer.id ++ second.id :: first.id :: rest.map QueuedTransfer.id := by
      simp [ids]
    refine ⟨?_, ?_, ?_⟩
    · rw [hafter]
      rw [hids] at hid
      simp only [List.mem_append, List.mem_cons] at hid ⊢
      tauto
    · intro other _ hsub
      rw [hafter]
      rw [hids] at hsub
      exact sublist_swap (hpair other).1 hsub
    · intro other _ hsub
      rw [hafter]
      rw [hids] at hsub
      exact sublist_swap (hpair other).2 hsub
  | drop hitems hkept =>
    have hsub := hitems.map QueuedTransfer.id
    have hthere := List.mem_map_of_mem (f := QueuedTransfer.id) (hkept item hmem hheld)
    exact ⟨hthere, fun other hother hpair =>
      pair_sublist_of_sublist h.nodup hsub hthere hother hpair, fun other hother hpair =>
      pair_sublist_of_sublist h.nodup hsub hother hthere hpair⟩
  | @update index changed state statusMessage hget hmessage binding hbinding hretain =>
    apply undisturbed_of_sublist hid
    show queue.ids.Sublist (queue.update index state statusMessage).ids
    rw [ids_update]
  | bind => exact undisturbed_of_sublist hid (List.Sublist.refl _)
  | unbind => exact undisturbed_of_sublist hid (List.Sublist.refl _)
  | pause => exact undisturbed_of_sublist hid (List.Sublist.refl _)

/-- An item that is bound or running is not skipped. -/
theorem Held.not_skipped (h : queue.Valid) {item : QueuedTransfer Address}
    (hmem : item ∈ queue.items) (hheld : queue.Held item) :
    queue.skip item.id = (false, queue) := by
  unfold skip updateUnbound
  by_cases hbound : queue.isBound item.id = true
  · rw [if_pos hbound]
  · rw [if_neg hbound]
    have hrunning := hheld.resolve_left hbound
    cases hposition : queue.position item.id with
    | none => rfl
    | some index =>
      obtain ⟨other, hget, hid⟩ := position_eq_some hposition
      have hsame := List.inj_on_of_nodup_map h.nodup (List.mem_of_getElem? hget) hmem hid
      simp only [hget]
      rw [hsame, hrunning]
      rfl

/-! ## Runs -/

/-- The IDs that a sequence of operations has handed out. -/
def handedOut (results : List (QueueResult Address)) : List QueuedTransferId :=
  results.filterMap QueueResult.newId

theorem default_valid : (default : TransferQueue Address).Valid := by
  refine ⟨Nat.one_pos, Nat.zero_le _, ?_, List.nodup_nil, ?_, ?_⟩
  · intro item hmem
    cases hmem
  · intro item hmem
    cases hmem
  · intro binding hactive
    cases hactive

theorem Valid.run (h : queue.Valid) (operation : QueueOperation Address) :
    (operation.run queue).2.Valid := by
  rcases run_does operation queue with hsame | ⟨_, hchange⟩
  · rw [hsame]
    exact h
  · exact h.change hchange

theorem Valid.runAll (h : queue.Valid) (operations : List (QueueOperation Address)) :
    (runAll operations queue).2.Valid := by
  induction operations generalizing queue with
  | nil => exact h
  | cons operation rest ih => exact ih (h.run operation)

/-- A new ID is the next one. -/
theorem addWithDesktopLayout_id {request : QueuedTransferRequest Address}
    {preserveDesktopLayout : Bool} {id : QueuedTransferId}
    (h : (queue.addWithDesktopLayout request preserveDesktopLayout).1 = .ok id) :
    id.value = queue.nextId ∧
      (queue.addWithDesktopLayout request preserveDesktopLayout).2.nextId = queue.nextId + 1 := by
  unfold addWithDesktopLayout at h ⊢
  cases hvalid : request.validate with
  | error error =>
    simp only [hvalid] at h
    cases h
  | ok =>
    simp only [hvalid] at h ⊢
    by_cases hroom : maxQueueEntries ≤ queue.items.length
    · rw [if_pos hroom] at h
      cases h
    · rw [if_neg hroom] at h ⊢
      by_cases hpos : 0 < queue.nextId
      · simp only [QueuedTransferId.fromRaw, dif_pos hpos] at h ⊢
        by_cases hnext : queue.nextId + 1 < u64Limit
        · simp only [dif_pos hnext] at h ⊢
          cases h
          exact ⟨rfl, trivial⟩
        · simp only [dif_neg hnext] at h
          cases h
      · simp only [QueuedTransferId.fromRaw, dif_neg hpos] at h
        cases h

/-- The next ID never decreases. -/
theorem nextId_le_run (operation : QueueOperation Address) (queue : TransferQueue Address) :
    queue.nextId ≤ (operation.run queue).2.nextId := by
  rcases run_does operation queue with hsame | ⟨_, hchange⟩
  · rw [hsame]
  · generalize (operation.run queue).2 = after at hchange
    cases hchange with
    | add => exact Nat.le_succ _
    | swap => exact le_rfl
    | drop => exact le_rfl
    | update => exact le_rfl
    | bind => exact le_rfl
    | unbind => exact le_rfl
    | pause => exact le_rfl

theorem newId_run {operation : QueueOperation Address} {id : QueuedTransferId}
    (h : (operation.run queue).1.newId = some id) :
    id.value = queue.nextId ∧ (operation.run queue).2.nextId = queue.nextId + 1 := by
  cases operation with
  | addWithDesktopLayout request preserveDesktopLayout =>
    apply addWithDesktopLayout_id
    unfold QueueOperation.run Prod.map QueueResult.newId at h
    split at h
    · rename_i other hadded
      cases h
      exact QueueResult.added.inj hadded
    · cases h
  | _ => cases h

/-- IDs are handed out in increasing order, from the next ID on. -/
theorem handedOut_increasing (operations : List (QueueOperation Address))
    (queue : TransferQueue Address) :
    (handedOut (runAll operations queue).1).Pairwise (fun a b => a.value < b.value) ∧
      ∀ id ∈ handedOut (runAll operations queue).1, queue.nextId ≤ id.value := by
  induction operations generalizing queue with
  | nil => exact ⟨List.Pairwise.nil, fun id hmem => by cases hmem⟩
  | cons operation rest ih =>
    obtain ⟨hincreasing, hfrom⟩ := ih (operation.run queue).2
    have hle := nextId_le_run operation queue
    have hrest : ∀ id ∈ handedOut (runAll rest (operation.run queue).2).1,
        queue.nextId ≤ id.value := fun id hmem => hle.trans (hfrom id hmem)
    have hcons : handedOut (runAll (operation :: rest) queue).1 =
        handedOut ((operation.run queue).1 :: (runAll rest (operation.run queue).2).1) := rfl
    cases hnew : (operation.run queue).1.newId with
    | none =>
      rw [hcons, handedOut, List.filterMap_cons_none hnew]
      exact ⟨hincreasing, hrest⟩
    | some id =>
      obtain ⟨hvalue, hnext⟩ := newId_run hnew
      rw [hcons, handedOut, List.filterMap_cons_some hnew]
      refine ⟨List.pairwise_cons.mpr ⟨?_, hincreasing⟩, ?_⟩
      · intro other hother
        have hother' := hfrom other hother
        omega
      · intro other hother
        rcases List.mem_cons.mp hother with rfl | hother
        · omega
        · exact hrest other hother

/-- Whatever operations are called: the queue is valid, no ID is handed out twice, and an
item that is bound or running stays where it is.  An operation that fails changes nothing. -/
theorem queue_operations (operations : List (QueueOperation Address)) :
    (runAll operations default).2.validate = .ok () ∧
      (handedOut (runAll operations default).1).Nodup ∧
      (∀ binding, (runAll operations default).2.activeBinding = some binding →
        ∃ item ∈ (runAll operations default).2.items, item.id = binding.queueId ∧
          (item.state = .running ∨ item.state = .blocked)) ∧
      ∀ operation : QueueOperation Address,
        (operation.run (runAll operations default).2).2.validate = .ok () ∧
        (∀ item ∈ (runAll operations default).2.items, (runAll operations default).2.Held item →
          (runAll operations default).2.Undisturbed
            (operation.run (runAll operations default).2).2 item.id ∧
          (runAll operations default).2.skip item.id = (false, (runAll operations default).2)) ∧
        ((operation.run (runAll operations default).2).1.failed = true →
          (operation.run (runAll operations default).2).2 = (runAll operations default).2) := by
  have hvalid := default_valid.runAll operations
  refine ⟨validate_eq_ok.mpr hvalid, ?_, hvalid.binding, fun operation => ⟨?_, ?_, ?_⟩⟩
  · apply (handedOut_increasing operations default).1.imp
    rintro a b hlt rfl
    exact Nat.lt_irrefl _ hlt
  · exact validate_eq_ok.mpr (hvalid.run operation)
  · intro item hmem hheld
    refine ⟨?_, hheld.not_skipped hvalid hmem⟩
    rcases run_does operation (runAll operations default).2 with hsame | ⟨_, hchange⟩
    · rw [hsame]
      exact undisturbed_of_sublist (List.mem_map_of_mem hmem) (List.Sublist.refl _)
    · exact hheld.undisturbed hvalid hmem hchange
  · intro hfailed
    rcases run_does operation (runAll operations default).2 with hsame | ⟨hok, _⟩
    · exact hsame
    · rw [hok] at hfailed
      cases hfailed

end

end TransferQueue

end NetworkCopy
