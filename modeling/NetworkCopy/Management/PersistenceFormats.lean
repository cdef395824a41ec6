import NetworkCopy.Management.PersistenceRoundTrip

/-!
# Formats 4 and 5

The binding block stands between the queue and the history, and the flag of an item stands
behind its line `queue_update_existing`.  The encoders find these places by searching the
text of the older format, and the decoders find the added lines by their first characters.
The lines of every block have known keys, so each search ends where the block was put.
-/

namespace NetworkCopy

open LineText

section

variable {Address : Type} (texts : TextSupport Address)

/-! ## The lines in front of the history -/

variable (state : ManagerPersistedState Address)
variable (history : List (ManagerHistoryEntry Address))

/-- The keys of the settings and the queue. -/
def frontKeys : List String :=
  settingsKeys ++ queueHeaderKeys ++ entryFrontKeys ++ ["queue_update_existing"] ++ entryBackKeys

theorem Keyed.mono {keys more : List String} (hsub : keys ⊆ more) {line : List Char}
    (hline : Keyed keys line) : Keyed more line := by
  obtain ⟨hplain, key, hmem, hkey⟩ := hline
  exact ⟨hplain, key, hsub hmem, hkey⟩

theorem cleanKeys_updateExisting : CleanKeys ["queue_update_existing"] := by
  simp [CleanKeys, Plain]

theorem keyed_queueHeader (queue : TransferQueue Address) :
    ∀ line ∈ [ numberField "queue_next_id" queue.nextId,
      boolField "queue_paused_after_current" queue.pausedAfterCurrent,
      numberField "queue_count" queue.items.length ], Keyed queueHeaderKeys line := by
  simp (disch := decide) only [boolField, List.forall_mem_cons, List.not_mem_nil,
    keyed_number cleanKeys_queueHeader, and_true, false_imp_iff, implies_true]

theorem keyed_queueEntry (item : QueuedTransfer Address) :
    ∀ line ∈ encodeQueueEntry texts item, Keyed frontKeys line := by
  rw [encodeQueueEntry_eq, List.forall_mem_append, List.forall_mem_cons]
  refine ⟨fun line hline => ?_, ?_, fun line hline => ?_⟩
  · exact (keyed_entryFront texts item line hline).mono fun key hkey => by simp [frontKeys, hkey]
  · exact (keyed_number cleanKeys_updateExisting (by simp)).mono (by simp [frontKeys])
  · exact (keyed_entryBack texts item line hline).mono fun key hkey => by simp [frontKeys, hkey]

/-- The lines of the settings and the queue. -/
def frontLines (state : ManagerPersistedState Address) : List (List Char) :=
  encodeSettings state ++ encodeQueue texts state.queue

theorem keyed_frontLines :
    ∀ line ∈ frontLines texts state, Keyed frontKeys line := by
  unfold frontLines encodeQueue
  simp only [List.forall_mem_append]
  refine ⟨fun line hline => ?_, fun line hline => ?_, fun line hline => ?_⟩
  · exact (keyed_settings state line hline).mono fun key hkey => by simp [frontKeys, hkey]
  · exact (keyed_queueHeader state.queue line hline).mono fun key hkey => by simp [frontKeys, hkey]
  · obtain ⟨item, -, hmem⟩ := List.mem_flatMap.mp hline
    exact keyed_queueEntry texts item line hmem

theorem keyed_historyLines :
    ∀ line ∈ history.flatMap (encodeHistoryEntry texts) ++ ["end".toList],
      Keyed historyKeys line := by
  simp only [List.forall_mem_append, List.forall_mem_cons]
  refine ⟨fun line hline => ?_, keyed_word cleanKeys_history (by simp [historyKeys]),
    fun _ h => absurd h List.not_mem_nil⟩
  obtain ⟨entry, -, hmem⟩ := List.mem_flatMap.mp hline
  exact keyed_historyEntry texts entry line hmem

theorem plain_numberField {key : String} (hkey : Plain key.toList) (value : Nat) :
    Plain (numberField key value) := by
  refine hkey.append ?_
  intro c hc
  rcases List.mem_cons.mp hc with hspace | hmem
  · rw [hspace]
    decide
  · exact plain_toDigits value c hmem

theorem plain_history :
    ∀ line ∈ encodeHistory texts history, Plain line := by
  unfold encodeHistory
  rw [List.forall_mem_cons]
  refine ⟨plain_numberField (by simp [Plain]) _, fun line hline => ?_⟩
  exact (keyed_historyLines texts history line hline).1

theorem plain_activeBinding (binding : Option ActiveQueueBinding) :
    ∀ line ∈ encodeActiveBinding binding, Plain line := by
  obtain ⟨value, rest, hlines, hrest⟩ := keyed_activeBinding binding
  rw [hlines, List.forall_mem_cons]
  exact ⟨plain_numberField (by simp [Plain]) _, fun line hline => (hrest line hline).1⟩

/-! ## Format 3 -/

variable [DecidableEq Address]

omit texts in
theorem checkEncodedSize_eq_ok {output : List Char} {u : Unit} :
    checkEncodedSize output = .ok u ↔ (textBytes output).length ≤ maxStateBytes :=
  ensure_eq_ok

omit texts in
theorem checkDecodedSize_eq_ok {output : List Char} {u : Unit} :
    checkDecodedSize output = .ok u ↔ (textBytes output).length ≤ maxStateBytes :=
  ensure_eq_ok

/-- The text of format 3. -/
def textV3 (state : ManagerPersistedState Address) : List Char :=
  unlines (stateMagicV3 :: stateLines texts state)

theorem encodeState_eq :
    encodeState texts state = (do
      validateState state
      checkEncodedSize (textV3 texts state)
      return textV3 texts state) := rfl

omit [DecidableEq Address] in
theorem lines_textV3 :
    lines (textV3 texts state) = stateMagicV3 :: stateLines texts state := by
  refine lines_unlines ?_
  rw [List.forall_mem_cons]
  refine ⟨by simp [Plain, stateMagicV3], ?_⟩
  show ∀ line ∈ frontLines texts state ++ encodeHistory texts state.history, Plain line
  rw [List.forall_mem_append]
  exact ⟨fun line hline => (keyed_frontLines texts state line hline).1,
    plain_history texts state.history⟩

/-- Format 3 is read back, without the flags and the binding. -/
theorem decodeState_textV3 (hlawful : texts.Lawful) {state : ManagerPersistedState Address}
    (hstate : state.Valid) (hsize : (textBytes (textV3 texts state)).length ≤ maxStateBytes) :
    decodeState texts (textV3 texts state) = .ok state.legacy := by
  unfold decodeState
  rw [checkDecodedSize_eq_ok (u := ()).mpr hsize, lines_textV3]
  exact decodeStateLines_stateLines texts hlawful hstate

/-! ## Format 4 -/

variable {front : List (List Char)}
variable {rest : List (List Char)}

/-- The lines of format 4 after the first one. -/
def stateLinesV4 (state : ManagerPersistedState Address) : List (List Char) :=
  frontLines texts state ++ encodeActiveBinding state.queue.activeBinding ++
    encodeHistory texts state.history

/-- The text of format 4. -/
def textV4 (state : ManagerPersistedState Address) : List Char :=
  unlines (stateMagicV4 :: stateLinesV4 texts state)

/-- The marker is found at the line `history_count`, so the binding block is put in front of
it. -/
theorem encodeStateWithV4_eq :
    encodeStateWithV4 texts state = (do
      let _ ← encodeState texts state
      checkEncodedSize (textV4 texts state)
      return textV4 texts state) := by
  cases hencode : encodeState texts state with
  | error error =>
    unfold encodeStateWithV4
    rw [hencode]
    rfl
  | ok output =>
    have houtput : output = textV3 texts state := by
      rw [encodeState_eq] at hencode
      obtain ⟨_, -, hencode⟩ := bind_eq_ok.mp hencode
      obtain ⟨_, -, hencode⟩ := bind_eq_ok.mp hencode
      cases hencode
      rfl
    subst houtput
    -- The text around the marker.
    let before := unlines (stateMagicV4 :: frontLines texts state)
    let count := Nat.toDigits 10 state.history.length
    let after := count ++ '\n' ::
      unlines (state.history.flatMap (encodeHistoryEntry texts) ++ ["end".toList])
    have hhistory : unlines (encodeHistory texts state.history) = historyMarker ++ after := by
      unfold encodeHistory
      rw [unlines_cons]
      rfl
    have htext : stateMagicV4 ++ (textV3 texts state).drop stateMagicV3.length =
        before ++ (historyMarker ++ after) := by
      rw [← hhistory, ← unlines_append]
      rfl
    have hstart : stateMagicV3.isPrefixOf (textV3 texts state) = true := by
      rw [List.isPrefixOf_iff_prefix]
      exact ⟨_, (unlines_cons _ _).symm⟩
    have hpos : 0 < before.length := Nat.succ_pos _
    have hfind : find ('\n' :: historyMarker) (before ++ (historyMarker ++ after)) =
        some (before.length - 1) := by
      refine find_unlines (by decide) (by decide) (fun line hline => ?_) after
      have hkeyed := keyed_frontLines texts state line hline
      exact ⟨hkeyed.1.not_mem, not_isPrefixOf "history_count"
        (by simp [frontKeys, settingsKeys, queueHeaderKeys, entryFrontKeys, entryBackKeys])
        (by decide) hkeyed⟩
    have hsplit : before.length - 1 + 1 = before.length := Nat.sub_add_cancel hpos
    have hspliced : before ++ unlines (encodeActiveBinding state.queue.activeBinding) ++
        (historyMarker ++ after) = textV4 texts state := by
      rw [← hhistory]
      show _ = unlines (stateMagicV4 :: (frontLines texts state ++ _ ++ _))
      simp only [before, unlines_cons, unlines_append, List.append_assoc, List.cons_append]
    unfold encodeStateWithV4
    simp only [hencode, ok_bind, ensure, hstart, if_true, htext, hfind, okOrElse_some, hsplit,
      List.take_left, List.drop_left, hspliced]

omit [DecidableEq Address] in
theorem plain_linesV4 :
    ∀ line ∈ stateLinesV4 texts state, Plain line := by
  unfold stateLinesV4
  rw [List.forall_mem_append, List.forall_mem_append]
  exact ⟨⟨fun line hline => (keyed_frontLines texts state line hline).1,
    plain_activeBinding _⟩, plain_history texts state.history⟩

omit [DecidableEq Address] in
theorem lines_textV4 :
    lines (textV4 texts state) = stateMagicV4 :: stateLinesV4 texts state := by
  refine lines_unlines ?_
  rw [List.forall_mem_cons]
  exact ⟨by simp [Plain, stateMagicV4], plain_linesV4 texts state⟩

omit texts [DecidableEq Address] in
/-- The first line with a property, in front of which no line has it. -/
theorem findIdx?_append_cons {p : List Char → Bool} (hfront : ∀ line ∈ front, p line = false)
    {line : List Char} (hline : p line = true) (rest : List (List Char)) :
    (front ++ line :: rest).findIdx? p = some front.length := by
  have hnone : front.findIdx? p = none := by
    rw [List.findIdx?_eq_none_iff]
    exact hfront
  rw [List.findIdx?_append, hnone, List.findIdx?_cons, hline]
  simp

omit texts [DecidableEq Address] in
theorem filter_zipIdx_eq_nil {p : List Char → Bool} {ls : List (List Char)}
    (hls : ∀ line ∈ ls, p line = false) (start : Nat) :
    (ls.zipIdx start).filter (fun place => p place.1) = [] := by
  rw [List.filter_eq_nil_iff]
  intro place hplace
  rw [hls place.1 (List.fst_mem_of_mem_zipIdx hplace)]
  exact Bool.false_ne_true

omit texts [DecidableEq Address] in
theorem bindingPosition_eq
    (hfront : ∀ line ∈ front, activeBindingPresentPrefix.isPrefixOf line = false) (value : Nat)
    (hrest : ∀ line ∈ rest, activeBindingPresentPrefix.isPrefixOf line = false) :
    bindingPosition (front ++ numberField "active_binding_present" value :: rest) =
      .ok front.length := by
  have hline : activeBindingPresentPrefix.isPrefixOf
      (numberField "active_binding_present" value) = true :=
    isPrefixOf_field "active_binding_present".toList _
  have hpositions : bindingPositions
      (front ++ numberField "active_binding_present" value :: rest) = [front.length] := by
    unfold bindingPositions
    rw [List.zipIdx_append, List.filter_append, filter_zipIdx_eq_nil hfront, List.zipIdx_cons,
      List.filter_cons, if_pos hline, filter_zipIdx_eq_nil hrest]
    simp
  unfold bindingPosition
  rw [hpositions]

omit [DecidableEq Address] in
/-- The line in front of the binding block. -/
theorem checkPreceding_eq_ok (rest : List (List Char)) :
    checkPreceding (stateMagicV4 :: frontLines texts state ++ rest)
      (stateMagicV4 :: frontLines texts state).length = .ok () := by
  obtain ⟨initial, last, hfront, hlast⟩ : ∃ initial last,
      frontLines texts state = initial ++ [last] ∧
        (last = "queue_end".toList ∨ "queue_count ".toList.isPrefixOf last = true) := by
    let header := [ numberField "queue_next_id" state.queue.nextId,
      boolField "queue_paused_after_current" state.queue.pausedAfterCurrent ]
    let count := numberField "queue_count" state.queue.items.length
    have hqueue : encodeQueue texts state.queue =
        header ++ [count] ++ state.queue.items.flatMap (encodeQueueEntry texts) := rfl
    rcases List.eq_nil_or_concat state.queue.items with hnil | ⟨items, item, hitems⟩
    · refine ⟨encodeSettings state ++ header, count, ?_,
        .inr (isPrefixOf_field "queue_count".toList _)⟩
      unfold frontLines
      rw [hqueue, hnil, List.flatMap_nil, List.append_nil, ← List.append_assoc]
    · let start := (encodeQueueEntry texts item).take 14
      have hentry : encodeQueueEntry texts item = start ++ ["queue_end".toList] := rfl
      refine ⟨encodeSettings state ++ (header ++ [count] ++
        (items.flatMap (encodeQueueEntry texts) ++ start)), "queue_end".toList, ?_, .inl rfl⟩
      unfold frontLines
      rw [hqueue, hitems, List.concat_eq_append, List.flatMap_append, List.flatMap_singleton,
        hentry]
      simp only [List.append_assoc]
  have hget : (stateMagicV4 :: frontLines texts state ++ rest)[(frontLines texts state).length]? =
      some last := by
    rw [hfront]
    simp
  unfold checkPreceding
  simp only [List.length_cons, hget, okOrElse_some, ok_bind]
  exact ensure_eq_ok.mpr hlast

/-- A state as format 4 keeps it. -/
def ManagerPersistedState.unflagged (state : ManagerPersistedState Address) :
    ManagerPersistedState Address :=
  { state with
    queue := { state.queue with items := state.queue.items.map QueuedTransfer.legacy } }

omit texts in
theorem ManagerPersistedState.Valid.unflagged {state : ManagerPersistedState Address}
    (hstate : state.Valid) : state.unflagged.Valid := by
  have hlegacy := hstate.queue.legacy
  refine { hstate with
    queue := ⟨hlegacy.nextId_pos, hlegacy.length_le, hlegacy.below, hlegacy.nodup,
      hlegacy.items, ?_⟩ }
  intro binding hbinding
  obtain ⟨item, hitem, hid, hrunning⟩ := hstate.queue.binding binding hbinding
  exact ⟨item.legacy, List.mem_map_of_mem hitem, hid, hrunning⟩

omit texts in
theorem restoreBinding_legacy {state : ManagerPersistedState Address} (hstate : state.Valid) :
    restoreBinding state.legacy state.queue.activeBinding = .ok state.unflagged := by
  cases hbinding : state.queue.activeBinding with
  | none =>
    show Except.ok { state with queue := _ } = Except.ok { state with queue := _ }
    unfold TransferQueue.legacy
    rw [← hbinding]
  | some binding =>
    have hlegacy := hstate.queue.legacy
    have hunflagged := hstate.unflagged.queue
    have hvalidated : binding.validateForQueue state.queue.legacy = .ok () :=
      (TransferQueue.validateForQueue_eq_ok hlegacy.nodup).mpr
        (hunflagged.binding binding hbinding)
    have hset : state.queue.legacy.setActiveBinding binding =
        (.ok (), { state.queue.legacy with activeBinding := some binding }) := by
      simp only [TransferQueue.setActiveBinding, hvalidated]
      rfl
    have hset' : state.legacy.queue.setActiveBinding binding = _ := hset
    unfold restoreBinding
    simp only [hset']
    show Except.ok { state with
      queue := { state.queue with
        items := state.queue.items.map QueuedTransfer.legacy
        activeBinding := some binding } } = Except.ok state.unflagged
    rw [← hbinding]
    rfl

/-- Format 4 is read back, without the flags. -/
theorem decodeStateWithV4_textV4 (hlawful : texts.Lawful) {state : ManagerPersistedState Address}
    (hstate : state.Valid) (hsize : (textBytes (textV4 texts state)).length ≤ maxStateBytes)
    (hlegacy : (textBytes (textV3 texts state)).length ≤ maxStateBytes) :
    decodeStateWithV4 texts (textV4 texts state) = .ok state.unflagged := by
  let front := stateMagicV4 :: frontLines texts state
  let block := encodeActiveBinding state.queue.activeBinding
  let history := encodeHistory texts state.history
  have hblock : ∃ value rest, block = numberField "active_binding_present" value :: rest ∧
      ∀ line ∈ rest, Keyed bindingKeys line := keyed_activeBinding _
  obtain ⟨value, rest, hvalue, hrest⟩ := hblock
  have hls : stateMagicV4 :: stateLinesV4 texts state = front ++ block ++ history := rfl
  have hmarker : ∀ line ∈ front ++ block, historyMarker.isPrefixOf line = false := by
    rw [List.forall_mem_append, List.forall_mem_cons, hvalue, List.forall_mem_cons]
    refine ⟨⟨by decide, fun line hline => ?_⟩, ?_, fun line hline => ?_⟩
    · exact not_isPrefixOf "history_count" (by simp [frontKeys, settingsKeys, queueHeaderKeys,
        entryFrontKeys, entryBackKeys]) (by decide) (keyed_frontLines texts state line hline)
    · have hkey : lineKey (numberField "active_binding_present" value) =
          "active_binding_present".toList := lineKey_field (by decide) _
      show ("history_count".toList ++ [' ']).isPrefixOf _ = false
      refine isPrefixOf_of_lineKey_ne (by decide) ?_
      rw [hkey]
      decide
    · exact not_isPrefixOf "history_count" (by simp [bindingKeys]) (by decide) (hrest line hline)
  have hpresent : ∀ line ∈ front, activeBindingPresentPrefix.isPrefixOf line = false := by
    rw [List.forall_mem_cons]
    refine ⟨by decide, fun line hline => ?_⟩
    exact not_isPrefixOf "active_binding_present" (by simp [frontKeys, settingsKeys,
      queueHeaderKeys, entryFrontKeys, entryBackKeys]) (by decide)
      (keyed_frontLines texts state line hline)
  have hhistory : (front ++ block ++ history).findIdx?
      (fun line => historyMarker.isPrefixOf line) = some (front ++ block).length :=
    findIdx?_append_cons hmarker (isPrefixOf_field "history_count".toList _) _
  have hposition : bindingPosition (front ++ block) = .ok front.length := by
    rw [hvalue]
    refine bindingPosition_eq hpresent value fun line hline => ?_
    exact not_isPrefixOf "active_binding_present" (by simp [bindingKeys]) (by decide)
      (hrest line hline)
  have hpreceding : checkPreceding (front ++ block ++ history) front.length = .ok () := by
    rw [List.append_assoc]
    exact checkPreceding_eq_ok texts state _
  have hdecoded : (decodeBindingBlock texts).run' (lines (unlines block)) =
      .ok state.queue.activeBinding := by
    rw [lines_unlines (plain_activeBinding _),
      ← List.append_nil (encodeActiveBinding state.queue.activeBinding)]
    exact Finishes.run' (.bind (reads_activeBinding texts _) rfl)
  have hlegacyLines : (front ++ history).set 0 stateMagicV3 =
      stateMagicV3 :: stateLines texts state := rfl
  have hdecode := decodeState_textV3 texts hlawful hstate hlegacy
  have hne : block ≠ [] := by
    rw [hvalue]
    exact List.cons_ne_nil _ _
  have hvalid : invalidData (validateState state.unflagged) = .ok () := by
    rw [validateState_eq_ok (u := ()).mpr hstate.unflagged]
    rfl
  have htakeFront : (front ++ block ++ history).take front.length = front := by
    rw [List.append_assoc, List.take_left]
  unfold decodeStateWithV4
  rw [checkDecodedSize_eq_ok (u := ()).mpr hsize, lines_textV4, hls]
  simp only [ok_bind]
  rw [show (front ++ block ++ history).head? = some stateMagicV4 from rfl]
  simp only [okOrElse_some, ok_bind, ne_eq, not_true_eq_false, if_false, hhistory,
    List.take_left, hposition, hpreceding, List.drop_left, intercalate_append_newline hne,
    hdecoded, htakeFront, hlegacyLines]
  rw [intercalate_append_newline (List.cons_ne_nil _ _)]
  show (decodeState texts (textV3 texts state) >>= _) = _
  rw [hdecode, ok_bind, restoreBinding_legacy hstate, ok_bind, hvalid]
  rfl

/-! ## Format 5 -/

variable (items : List (QueuedTransfer Address))

/-- The lines of an item in format 5. -/
def flaggedEntry (item : QueuedTransfer Address) : List (List Char) :=
  entryFront texts item ++ [ boolField "queue_update_existing" item.request.updateExisting,
    boolField desktopLayoutKey item.preserveDesktopLayout ] ++ entryBack texts item

/-- The lines of format 5 after the first one. -/
def stateLinesV5 (state : ManagerPersistedState Address) : List (List Char) :=
  encodeSettings state ++
    [ numberField "queue_next_id" state.queue.nextId,
      boolField "queue_paused_after_current" state.queue.pausedAfterCurrent,
      numberField "queue_count" state.queue.items.length ] ++
    state.queue.items.flatMap (flaggedEntry texts) ++
    (encodeActiveBinding state.queue.activeBinding ++ encodeHistory texts state.history)

/-- The text of format 5. -/
def textV5 (state : ManagerPersistedState Address) : List Char :=
  unlines (stateMagicV5 :: stateLinesV5 texts state)

omit texts [DecidableEq Address] in
theorem insertFlags_skip
    (hfront : ∀ line ∈ front, "queue_update_existing ".toList.isPrefixOf line = false)
    {rest output : List (List Char)} {items left : List (QueuedTransfer Address)}
    (hrest : insertFlags rest items = .ok (output, left)) :
    insertFlags (front ++ rest) items = .ok (front ++ output, left) := by
  induction front with
  | nil => exact hrest
  | cons line front ih =>
    have hline := hfront line List.mem_cons_self
    rw [List.cons_append, insertFlags.eq_def]
    simp only [hline, Bool.false_eq_true, if_false,
      ih (fun other hother => hfront other (List.mem_cons_of_mem _ hother)), ok_bind]
    rfl

omit [DecidableEq Address] in
/-- The flags of the items are put behind their lines. -/
theorem insertFlags_entries
    (hrest : ∀ line ∈ rest, "queue_update_existing ".toList.isPrefixOf line = false) :
    insertFlags (items.flatMap (encodeQueueEntry texts) ++ rest) items =
      .ok (items.flatMap (flaggedEntry texts) ++ rest, []) := by
  induction items with
  | nil =>
    have hend : insertFlags ([] : List (List Char)) ([] : List (QueuedTransfer Address)) =
      .ok ([], []) := rfl
    simpa using insertFlags_skip hrest hend
  | cons item items ih =>
    have hfront : ∀ line ∈ entryFront texts item,
        "queue_update_existing ".toList.isPrefixOf line = false := fun line hline =>
      not_isPrefixOf "queue_update_existing" (by simp [entryFrontKeys]) (by decide)
        (keyed_entryFront texts item line hline)
    have hback : ∀ line ∈ entryBack texts item,
        "queue_update_existing ".toList.isPrefixOf line = false := fun line hline =>
      not_isPrefixOf "queue_update_existing" (by simp [entryBackKeys]) (by decide)
        (keyed_entryBack texts item line hline)
    have hupdate : "queue_update_existing ".toList.isPrefixOf
        (boolField "queue_update_existing" item.request.updateExisting) = true :=
      isPrefixOf_field "queue_update_existing".toList _
    have htail := insertFlags_skip hback ih
    rw [List.flatMap_cons, encodeQueueEntry_eq, List.append_assoc, List.append_assoc]
    have hstep : insertFlags
        (boolField "queue_update_existing" item.request.updateExisting ::
          (entryBack texts item ++ (items.flatMap (encodeQueueEntry texts) ++ rest)))
        (item :: items) = .ok
        (boolField "queue_update_existing" item.request.updateExisting ::
          boolField desktopLayoutKey item.preserveDesktopLayout ::
          (entryBack texts item ++ (items.flatMap (flaggedEntry texts) ++ rest)), []) := by
      rw [insertFlags, if_pos hupdate]
      simp only [htail, ok_bind]
      rfl
    have hall := insertFlags_skip hfront hstep
    rw [List.cons_append, hall]
    simp [flaggedEntry]

omit [DecidableEq Address] in
theorem splitFlags_skip
    (hfront : ∀ line ∈ front, (desktopLayoutKey.toList ++ [' ']).isPrefixOf line = false)
    {rest legacy : List (List Char)} {flags : List Bool}
    (hrest : splitFlags texts rest = .ok (legacy, flags)) :
    splitFlags texts (front ++ rest) = .ok (front ++ legacy, flags) := by
  induction front with
  | nil => exact hrest
  | cons line front ih =>
    have hline := hfront line List.mem_cons_self
    rw [List.cons_append, splitFlags, hline,
      ih (fun other hother => hfront other (List.mem_cons_of_mem _ hother))]
    rfl

omit [DecidableEq Address] in
/-- The flags of the items are taken out again. -/
theorem splitFlags_entries
    (hrest : ∀ line ∈ rest, (desktopLayoutKey.toList ++ [' ']).isPrefixOf line = false) :
    splitFlags texts (items.flatMap (flaggedEntry texts) ++ rest) =
      .ok (items.flatMap (encodeQueueEntry texts) ++ rest,
        items.map (fun item => item.preserveDesktopLayout)) := by
  induction items with
  | nil =>
    have hend : splitFlags texts [] = .ok ([], []) := rfl
    simpa using splitFlags_skip texts hrest hend
  | cons item items ih =>
    have hkeys := keyed_queueEntry texts item
    rw [encodeQueueEntry_eq, List.forall_mem_append, List.forall_mem_cons] at hkeys
    obtain ⟨hfront, hupdate, hback⟩ := hkeys
    have hnone : ∀ line, Keyed frontKeys line →
        (desktopLayoutKey.toList ++ [' ']).isPrefixOf line = false := fun line hline =>
      not_isPrefixOf desktopLayoutKey (by simp [desktopLayoutKey, frontKeys, settingsKeys,
        queueHeaderKeys, entryFrontKeys, entryBackKeys]) (by decide) hline
    have hflag : (desktopLayoutKey.toList ++ [' ']).isPrefixOf
        (boolField desktopLayoutKey item.preserveDesktopLayout) = true :=
      isPrefixOf_field desktopLayoutKey.toList _
    have htail := splitFlags_skip texts (fun line hline => hnone line (hback line hline)) ih
    have hstep : splitFlags texts
        (boolField desktopLayoutKey item.preserveDesktopLayout ::
          (entryBack texts item ++ (items.flatMap (flaggedEntry texts) ++ rest))) = .ok
        (entryBack texts item ++ (items.flatMap (encodeQueueEntry texts) ++ rest),
          item.preserveDesktopLayout :: items.map (fun item => item.preserveDesktopLayout)) := by
      rw [splitFlags, if_pos hflag, parseBoolField_boolField texts _ (by decide), htail]
      rfl
    have hstart : ∀ line ∈ entryFront texts item ++
        [boolField "queue_update_existing" item.request.updateExisting],
        (desktopLayoutKey.toList ++ [' ']).isPrefixOf line = false := by
      rw [List.forall_mem_append, List.forall_mem_cons]
      exact ⟨fun line hline => hnone line (hfront line hline), hnone _ hupdate,
        fun _ h => absurd h List.not_mem_nil⟩
    have hall := splitFlags_skip texts hstart hstep
    rw [List.flatMap_cons, List.flatMap_cons, encodeQueueEntry_eq]
    simpa [flaggedEntry] using hall

/-- The lines in front of the items. -/
def headerLines (state : ManagerPersistedState Address) : List (List Char) :=
  encodeSettings state ++ [ numberField "queue_next_id" state.queue.nextId,
    boolField "queue_paused_after_current" state.queue.pausedAfterCurrent,
    numberField "queue_count" state.queue.items.length ]

/-- The lines after the items. -/
def trailerLines (state : ManagerPersistedState Address) : List (List Char) :=
  encodeActiveBinding state.queue.activeBinding ++ encodeHistory texts state.history

omit texts [DecidableEq Address] in
theorem keyed_headerLines :
    ∀ line ∈ headerLines state, Keyed (settingsKeys ++ queueHeaderKeys) line := by
  unfold headerLines
  rw [List.forall_mem_append]
  refine ⟨fun line hline => ?_, fun line hline => ?_⟩
  · exact (keyed_settings state line hline).mono fun key hkey => by simp [hkey]
  · exact (keyed_queueHeader state.queue line hline).mono fun key hkey => by simp [hkey]

/-- The keys after the items. -/
def trailerKeys : List String :=
  "active_binding_present" :: bindingKeys ++ "history_count" :: historyKeys

theorem cleanKeys_trailer : CleanKeys trailerKeys := by
  simp [CleanKeys, trailerKeys, bindingKeys, historyKeys, Plain]

omit [DecidableEq Address] in
theorem keyed_trailerLines :
    ∀ line ∈ trailerLines texts state, Keyed trailerKeys line := by
  obtain ⟨value, rest, hbinding, hrest⟩ := keyed_activeBinding state.queue.activeBinding
  unfold trailerLines encodeHistory
  rw [hbinding, List.forall_mem_append, List.forall_mem_cons, List.forall_mem_cons]
  refine ⟨⟨keyed_number cleanKeys_trailer (by simp [trailerKeys]), fun line hline => ?_⟩,
    keyed_number cleanKeys_trailer (by simp [trailerKeys]), fun line hline => ?_⟩
  · exact (hrest line hline).mono fun key hkey => by simp [trailerKeys, hkey]
  · exact (keyed_historyLines texts state.history line hline).mono
      fun key hkey => by simp [trailerKeys, hkey]

omit [DecidableEq Address] in
theorem stateLinesV4_eq :
    stateLinesV4 texts state = headerLines state ++
      (state.queue.items.flatMap (encodeQueueEntry texts) ++ trailerLines texts state) := by
  simp only [stateLinesV4, frontLines, encodeQueue, headerLines, trailerLines, List.append_assoc]

omit [DecidableEq Address] in
theorem stateLinesV5_eq :
    stateLinesV5 texts state = headerLines state ++
      (state.queue.items.flatMap (flaggedEntry texts) ++ trailerLines texts state) := by
  simp only [stateLinesV5, headerLines, trailerLines, List.append_assoc]

omit [DecidableEq Address] in
theorem insertFlags_stateLines :
    insertFlags (stateMagicV5 :: stateLinesV4 texts state) state.queue.items =
      .ok (stateMagicV5 :: stateLinesV5 texts state, []) := by
  have hfront : ∀ line ∈ stateMagicV5 :: headerLines state,
      "queue_update_existing ".toList.isPrefixOf line = false := by
    rw [List.forall_mem_cons]
    refine ⟨by decide, fun line hline => ?_⟩
    exact not_isPrefixOf "queue_update_existing" (by simp [settingsKeys, queueHeaderKeys])
      (by decide) (keyed_headerLines state line hline)
  have htrailer : ∀ line ∈ trailerLines texts state,
      "queue_update_existing ".toList.isPrefixOf line = false := fun line hline =>
    not_isPrefixOf "queue_update_existing" (by simp [trailerKeys, bindingKeys, historyKeys])
      (by decide) (keyed_trailerLines texts state line hline)
  rw [stateLinesV4_eq, stateLinesV5_eq, ← List.cons_append, ← List.cons_append]
  exact insertFlags_skip hfront (insertFlags_entries texts state.queue.items htrailer)

omit [DecidableEq Address] in
theorem splitFlags_stateLines :
    splitFlags texts (stateLinesV5 texts state) = .ok (stateLinesV4 texts state,
      state.queue.items.map (fun item => item.preserveDesktopLayout)) := by
  have hfront : ∀ line ∈ headerLines state,
      (desktopLayoutKey.toList ++ [' ']).isPrefixOf line = false := fun line hline =>
    not_isPrefixOf desktopLayoutKey (by simp [desktopLayoutKey, settingsKeys, queueHeaderKeys])
      (by decide) (keyed_headerLines state line hline)
  have htrailer : ∀ line ∈ trailerLines texts state,
      (desktopLayoutKey.toList ++ [' ']).isPrefixOf line = false := fun line hline =>
    not_isPrefixOf desktopLayoutKey
      (by simp [desktopLayoutKey, trailerKeys, bindingKeys, historyKeys])
      (by decide) (keyed_trailerLines texts state line hline)
  rw [stateLinesV4_eq, stateLinesV5_eq]
  exact splitFlags_skip texts hfront (splitFlags_entries texts state.queue.items htrailer)

/-- Format 5 is format 4 with the flags, so nothing but its size is refused. -/
theorem encodeStateWithV5_eq :
    encodeStateWithV5 texts state = (do
      let _ ← encodeStateWithV4 texts state
      checkEncodedSize (textV5 texts state)
      return textV5 texts state) := by
  cases hencode : encodeStateWithV4 texts state with
  | error error =>
    unfold encodeStateWithV5
    rw [hencode]
    rfl
  | ok output =>
    have houtput : output = textV4 texts state := by
      rw [encodeStateWithV4_eq] at hencode
      obtain ⟨_, -, hencode⟩ := bind_eq_ok.mp hencode
      obtain ⟨_, -, hencode⟩ := bind_eq_ok.mp hencode
      cases hencode
      rfl
    subst houtput
    unfold encodeStateWithV5
    simp only [hencode, ok_bind, lines_textV4, insertFlags_stateLines, ensure, if_true,
      List.length_nil]
    rw [intercalate_append_newline (List.cons_ne_nil _ _)]
    rfl

/-- What the encoder accepts. -/
theorem encodeStateWithV5_eq_ok {state : ManagerPersistedState Address} {text : List Char} :
    encodeStateWithV5 texts state = .ok text ↔ state.Valid ∧
      (textBytes (textV3 texts state)).length ≤ maxStateBytes ∧
      (textBytes (textV4 texts state)).length ≤ maxStateBytes ∧
      (textBytes (textV5 texts state)).length ≤ maxStateBytes ∧ text = textV5 texts state := by
  simp only [encodeStateWithV5_eq, encodeStateWithV4_eq, encodeState_eq, bind_eq_ok,
    validateState_eq_ok, checkEncodedSize_eq_ok, pure_eq_ok, Except.ok.injEq, exists_const]
  constructor
  · rintro ⟨_, ⟨_, ⟨hvalid, hsizeV3, _⟩, hsizeV4, _⟩, hsizeV5, htext⟩
    exact ⟨hvalid, hsizeV3, hsizeV4, hsizeV5, htext.symm⟩
  · rintro ⟨hvalid, hsizeV3, hsizeV4, hsizeV5, htext⟩
    exact ⟨_, ⟨_, ⟨hvalid, hsizeV3, rfl⟩, hsizeV4, rfl⟩, hsizeV5, htext.symm⟩

omit [DecidableEq Address] in
theorem lines_textV5 :
    lines (textV5 texts state) = stateMagicV5 :: stateLinesV5 texts state := by
  refine lines_unlines ?_
  rw [List.forall_mem_cons, stateLinesV5_eq, List.forall_mem_append, List.forall_mem_append]
  refine ⟨by simp [Plain, stateMagicV5], fun line hline => (keyed_headerLines state line hline).1,
    fun line hline => ?_, fun line hline => (keyed_trailerLines texts state line hline).1⟩
  obtain ⟨item, -, hmem⟩ := List.mem_flatMap.mp hline
  unfold flaggedEntry at hmem
  simp only [List.mem_append, List.mem_cons, List.not_mem_nil, or_false] at hmem
  rcases hmem with (hfront | rfl | rfl) | hback
  · exact (keyed_entryFront texts item line hfront).1
  · exact plain_numberField (by simp [Plain]) _
  · exact plain_numberField (by simp [Plain, desktopLayoutKey]) _
  · exact (keyed_entryBack texts item line hback).1

omit texts [DecidableEq Address] in
theorem withFlags_unflagged :
    withFlags state.unflagged (state.queue.items.map (fun item => item.preserveDesktopLayout)) =
      state := by
  have hitems : state.unflagged.queue.items.zipWith
      (fun item preserveDesktopLayout => { item with preserveDesktopLayout })
      (state.queue.items.map (fun item => item.preserveDesktopLayout)) = state.queue.items := by
    show (state.queue.items.map QueuedTransfer.legacy).zipWith _ _ = _
    rw [List.zipWith_map_left, List.zipWith_map_right, List.zipWith_self]
    exact List.map_id _
  unfold withFlags
  rw [hitems]
  rfl

/-- Format 5 is read back. -/
theorem decodeStateWithV5_textV5 (hlawful : texts.Lawful) {state : ManagerPersistedState Address}
    (hstate : state.Valid) (hsize : (textBytes (textV5 texts state)).length ≤ maxStateBytes)
    (hsizeV4 : (textBytes (textV4 texts state)).length ≤ maxStateBytes)
    (hsizeV3 : (textBytes (textV3 texts state)).length ≤ maxStateBytes) :
    decodeStateWithV5 texts (textV5 texts state) = .ok state := by
  have hlegacyText : List.intercalate ['\n'] (stateMagicV4 :: stateLinesV4 texts state) ++ ['\n'] =
      textV4 texts state := intercalate_append_newline (List.cons_ne_nil _ _)
  have hlength : (state.queue.items.map (fun item => item.preserveDesktopLayout)).length =
      state.unflagged.queue.items.length := by
    show _ = (state.queue.items.map QueuedTransfer.legacy).length
    rw [List.length_map, List.length_map]
  have hvalid : invalidData (validateState state) = .ok () := by
    rw [validateState_eq_ok (u := ()).mpr hstate]
    rfl
  unfold decodeStateWithV5
  rw [checkDecodedSize_eq_ok (u := ()).mpr hsize, lines_textV5]
  simp only [ok_bind, List.head?_cons, okOrElse_some, ne_eq, not_true_eq_false, if_false,
    List.tail_cons, splitFlags_stateLines, hlegacyText,
    decodeStateWithV4_textV4 texts hlawful hstate hsizeV4 hsizeV3, hlength, ensure, if_true,
    withFlags_unflagged, hvalid]
  rfl

end

end NetworkCopy
