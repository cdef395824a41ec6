import NetworkCopy.Management.PersistenceFile

/-!
# Older formats

A text of one of the formats 1 to 4 is read by the decoders of format 5 as its own decoders read
it, and what its format does not hold has its default.  A save over such a file keeps the state.
-/

namespace NetworkCopy

open LineText Crash

section

variable {Address : Type} (texts : TextSupport Address) [DecidableEq Address]

/-! ## What the readers leave at its default -/

variable {state : ManagerPersistedState Address}
variable {text : List Char} (hasRouteMode : Bool)

/-- What an item of a format has by default: no Desktop layout, and the automatic route where
the format has no route mode. -/
def QueuedTransfer.Legacy (hasRouteMode : Bool) (item : QueuedTransfer Address) : Prop :=
  item.preserveDesktopLayout = false ∧
    (hasRouteMode = false → item.request.routeMode = .automaticLan)

/-- What a state of a format has by default. -/
structure ManagerPersistedState.LegacyDefaults (format : StateFormat)
    (state : ManagerPersistedState Address) : Prop where
  items : ∀ item ∈ state.queue.items, item.Legacy format.hasRouteMode
  binding : state.queue.activeBinding = none
  route : format.hasRouteMode = false → state.routeMode = .automaticLan
  queue : format.hasQueue = false → state.queue = TransferQueue.default

omit [DecidableEq Address] in
theorem nextRouteMode_yields (key : String) :
    Yields (nextRouteMode texts hasRouteMode key)
      (fun mode => hasRouteMode = false → mode = .automaticLan) := by
  cases hasRouteMode with
  | false => exact Yields.pure fun _ => rfl
  | true =>
    intro input mode rest hrun hmode
    cases hmode

omit [DecidableEq Address] in
theorem decodeQueueEntry_yields :
    Yields (decodeQueueEntry texts hasRouteMode) (QueuedTransfer.Legacy hasRouteMode) := by
  unfold decodeQueueEntry
  refine .after fun _ => .after fun idValue => .after fun id => ?_
  refine .after fun kindCode => .after fun resumeStreamCount => .after fun kind => ?_
  refine .after fun stateCode => .after fun state => ?_
  refine (nextRouteMode_yields texts hasRouteMode _).bind fun routeMode hmode => ?_
  refine .after fun senderAgent => .after fun receiverAgent => .after fun sourceRoot => ?_
  refine .after fun destinationRoot => .after fun updateExisting => .after fun workerCount => ?_
  refine .after fun calibrationMib => .after fun statusMessage => .after fun _ => ?_
  exact .pure ⟨rfl, hmode⟩

theorem decodeMany_yields {α : Type} {reader : LineReader α} {property : α → Prop}
    (hreader : Yields reader property) (count : Nat) :
    Yields (decodeMany reader count) (fun values => ∀ value ∈ values, property value) := by
  induction count with
  | zero => exact .pure fun value hvalue => absurd hvalue List.not_mem_nil
  | succ count ih =>
    refine hreader.bind fun first hfirst => ih.bind fun others hothers => .pure ?_
    exact List.forall_mem_cons.mpr ⟨hfirst, hothers⟩

theorem decodeQueue_yields :
    Yields (decodeQueue texts hasRouteMode) (fun queue =>
      (∀ item ∈ queue.items, item.Legacy hasRouteMode) ∧ queue.activeBinding = none) := by
  unfold decodeQueue
  refine .after fun nextId => .after fun paused => .after fun count => .after fun _ => ?_
  refine (decodeMany_yields (decodeQueueEntry_yields texts hasRouteMode) _).bind
    fun items hitems => ?_
  exact .after fun _ => .pure ⟨hitems, rfl⟩

theorem nextQueue_yields (format : StateFormat) :
    Yields (nextQueue texts format) (fun queue =>
      ((∀ item ∈ queue.items, item.Legacy format.hasRouteMode) ∧ queue.activeBinding = none) ∧
        (format.hasQueue = false → queue = TransferQueue.default)) := by
  unfold nextQueue
  cases hqueue : format.hasQueue with
  | false =>
    refine .pure ⟨⟨fun item hitem => ?_, rfl⟩, fun _ => rfl⟩
    exact absurd hitem List.not_mem_nil
  | true =>
    intro input queue rest hrun
    refine ⟨decodeQueue_yields texts format.hasRouteMode input queue rest hrun, fun h => ?_⟩
    cases h

theorem decodeStateBody_yields (format : StateFormat) :
    Yields (decodeStateBody texts format)
      (ManagerPersistedState.LegacyDefaults format) := by
  unfold decodeStateBody
  refine .after fun senderAgent => .after fun receiverAgent => .after fun sourceRoot => ?_
  refine .after fun destinationRoot => .after fun workerCount => .after fun calibrationMib => ?_
  refine .after fun updateExisting => ?_
  refine (nextRouteMode_yields texts format.hasRouteMode _).bind fun routeMode hmode => ?_
  refine (nextQueue_yields texts format).bind fun queue hqueue => ?_
  refine .after fun historyCount => .after fun _ => .after fun history => ?_
  refine .after fun _ => .after fun _ => .after fun _ => .pure ?_
  exact ⟨hqueue.1.1, hqueue.1.2, hmode, hqueue.2⟩

/-- A text that `decode_state` accepts names its format in its first line, and what the format
does not hold has its default. -/
theorem decodeState_legacy (hdecode : decodeState texts text = .ok state) :
    (textBytes text).length ≤ maxStateBytes ∧ ∃ magic format,
      (lines text).head? = some magic ∧ stateFormat texts magic = .ok format ∧
        state.LegacyDefaults format := by
  obtain ⟨_, hsize, hrun⟩ := bind_eq_ok.mp hdecode
  refine ⟨checkDecodedSize_eq_ok.mp hsize, ?_⟩
  cases hlines : lines text with
  | nil =>
    rw [hlines] at hrun
    cases hrun
  | cons magic rest =>
    have hread : (decodeStateLines texts).run' (magic :: rest) =
        (stateFormat texts magic >>= fun format => (decodeStateBody texts format).run' rest) := by
      change ((liftM (stateFormat texts magic) : LineReader StateFormat) >>=
        decodeStateBody texts).run' rest = _
      cases stateFormat texts magic <;> rfl
    rw [hlines, hread] at hrun
    obtain ⟨format, hformat, hbody⟩ := bind_eq_ok.mp hrun
    obtain ⟨read, hread, hstate⟩ : ∃ read, (decodeStateBody texts format).run rest = .ok read ∧
        read.1 = state := by
      change Except.map Prod.fst ((decodeStateBody texts format).run rest) = .ok state at hbody
      cases hrun : (decodeStateBody texts format).run rest with
      | error error =>
        rw [hrun] at hbody
        cases hbody
      | ok read =>
        rw [hrun] at hbody
        cases hbody
        exact ⟨read, rfl, rfl⟩
    refine ⟨magic, format, rfl, hformat, ?_⟩
    exact hstate ▸ decodeStateBody_yields texts format rest read.1 read.2 hread

omit [DecidableEq Address] in
/-- The decoded binding does not change the items. -/
theorem restoreBinding_items {state restored : ManagerPersistedState Address}
    {binding : Option ActiveQueueBinding} (hrestore : restoreBinding state binding = .ok restored) :
    restored.queue.items = state.queue.items := by
  cases binding with
  | none =>
    cases hrestore
    rfl
  | some binding =>
    obtain ⟨_, _, hrestored⟩ := bind_eq_ok.mp hrestore
    cases hrestored
    show (state.queue.setActiveBinding binding).2.items = state.queue.items
    unfold TransferQueue.setActiveBinding
    split
    · split <;> rfl
    · split <;> rfl

/-- What `decode_state_with_v4` accepts is a text of format 4, without Desktop layouts, or one
that `decode_state` accepts. -/
theorem decodeStateWithV4_legacy (hdecode : decodeStateWithV4 texts text = .ok state) :
    ((lines text).head? = some stateMagicV4 ∧ (textBytes text).length ≤ maxStateBytes ∧
      ∀ item ∈ state.queue.items, item.preserveDesktopLayout = false) ∨
    ((lines text).head? ≠ some stateMagicV4 ∧ decodeState texts text = .ok state) := by
  obtain ⟨_, hsize, hdecode⟩ := bind_eq_ok.mp hdecode
  obtain ⟨firstLine, hfirst, hdecode⟩ := bind_eq_ok.mp hdecode
  have hhead := okOrElse_eq_ok.mp hfirst
  by_cases hmagic : firstLine ≠ stateMagicV4
  · rw [if_pos hmagic] at hdecode
    refine .inr ⟨?_, hdecode⟩
    rw [hhead]
    exact fun h => hmagic (Option.some.inj h)
  · rw [if_neg hmagic] at hdecode
    obtain ⟨_, hdecode⟩ := bind_rest hdecode
    obtain ⟨_, hdecode⟩ := bind_rest hdecode
    obtain ⟨_, hdecode⟩ := bind_rest hdecode
    obtain ⟨_, hdecode⟩ := bind_rest hdecode
    obtain ⟨old, hold, hdecode⟩ := bind_eq_ok.mp hdecode
    obtain ⟨restored, hrestore, hdecode⟩ := bind_eq_ok.mp hdecode
    obtain ⟨_, hdecode⟩ := bind_rest hdecode
    cases hdecode
    obtain ⟨_, _, _, _, _, hdefaults⟩ := decodeState_legacy texts hold
    refine .inl ⟨by rw [hhead, not_not.mp hmagic], checkDecodedSize_eq_ok.mp hsize, ?_⟩
    rw [restoreBinding_items hrestore]
    exact fun item hitem => (hdefaults.items item hitem).1

/-- Texts of other formats go to `decode_state_with_v4`. -/
theorem decodeStateWithV5_of_ne {text magic : List Char}
    (hsize : (textBytes text).length ≤ maxStateBytes) (hhead : (lines text).head? = some magic)
    (hmagic : magic ≠ stateMagicV5) :
    decodeStateWithV5 texts text = decodeStateWithV4 texts text := by
  unfold decodeStateWithV5
  rw [checkDecodedSize_eq_ok (u := ()).mpr hsize, ok_bind]
  show (okOrElse (lines text).head? _ >>= _) = _
  rw [hhead, okOrElse_some, ok_bind, if_pos hmagic]

/-- Texts of the formats 1 to 3 go to `decode_state`. -/
theorem decodeStateWithV4_of_ne {text magic : List Char}
    (hsize : (textBytes text).length ≤ maxStateBytes) (hhead : (lines text).head? = some magic)
    (hmagic : magic ≠ stateMagicV4) :
    decodeStateWithV4 texts text = decodeState texts text := by
  unfold decodeStateWithV4
  rw [checkDecodedSize_eq_ok (u := ()).mpr hsize, ok_bind]
  show (okOrElse (lines text).head? _ >>= _) = _
  rw [hhead, okOrElse_some, ok_bind, if_pos hmagic]

/-- The defaults of a state, by the first line of its text. -/
structure DefaultsOf (magic : List Char) (state : ManagerPersistedState Address) : Prop where
  flags : ∀ item ∈ state.queue.items, item.preserveDesktopLayout = false
  binding : magic ≠ stateMagicV4 → state.queue.activeBinding = none
  routes : magic = stateMagicV1 ∨ magic = stateMagicV2 → state.routeMode = .automaticLan ∧
    ∀ item ∈ state.queue.items, item.request.routeMode = .automaticLan
  queue : magic = stateMagicV1 → state.queue = TransferQueue.default

omit [DecidableEq Address] in
/-- The first lines of the formats 1 to 3. -/
theorem stateFormat_ne {magic : List Char} {format : StateFormat}
    (hformat : stateFormat texts magic = .ok format) :
    magic ≠ stateMagicV4 ∧ magic ≠ stateMagicV5 ∧
      (magic = stateMagicV1 → format = ⟨false, false⟩) ∧
      (magic = stateMagicV2 → format = ⟨true, false⟩) := by
  unfold stateFormat at hformat
  split at hformat
  · next hmagic =>
      subst hmagic
      cases hformat
      simp [stateMagicV1, stateMagicV2, stateMagicV4, stateMagicV5]
  · split at hformat
    · next hmagic =>
        subst hmagic
        cases hformat
        simp [stateMagicV1, stateMagicV2, stateMagicV4, stateMagicV5]
    · split at hformat
      · next hmagic =>
          subst hmagic
          cases hformat
          simp [stateMagicV1, stateMagicV2, stateMagicV3, stateMagicV4, stateMagicV5]
      · cases hformat

/-- A text of an older format is decoded to the same state, with the defaults of its format. -/
theorem decodeStateWithV5_legacy
    (hdecode : decodeStateWithV4 texts text = .ok state ∨ decodeState texts text = .ok state) :
    (textBytes text).length ≤ maxStateBytes ∧ decodeStateWithV5 texts text = .ok state ∧
      ∃ magic, (lines text).head? = some magic ∧ DefaultsOf magic state := by
  have hlegacy : decodeState texts text = .ok state →
      (textBytes text).length ≤ maxStateBytes ∧ decodeStateWithV5 texts text = .ok state ∧
        ∃ magic, (lines text).head? = some magic ∧ DefaultsOf magic state := by
    intro hold
    obtain ⟨hsize, magic, format, hhead, hformat, hdefaults⟩ := decodeState_legacy texts hold
    obtain ⟨hmagicV4, hmagicV5, hformatV1, hformatV2⟩ := stateFormat_ne texts hformat
    refine ⟨hsize, ?_, magic, hhead, ?_⟩
    · rw [decodeStateWithV5_of_ne texts hsize hhead hmagicV5,
        decodeStateWithV4_of_ne texts hsize hhead hmagicV4, hold]
    · refine ⟨fun item hitem => (hdefaults.items item hitem).1, fun _ => hdefaults.binding, ?_, ?_⟩
      · intro hmagic
        have hroute : format.hasRouteMode = false := by
          rcases hmagic with hmagic | hmagic
          · rw [hformatV1 hmagic]
          · rw [hformatV2 hmagic]
        exact ⟨hdefaults.route hroute, fun item hitem => (hdefaults.items item hitem).2 hroute⟩
      · intro hmagic
        exact hdefaults.queue (by rw [hformatV1 hmagic])
  rcases hdecode with hdecode | hold
  · rcases decodeStateWithV4_legacy texts hdecode with ⟨hhead, hsize, hflags⟩ | ⟨_, hold⟩
    · have hmagic : stateMagicV4 ≠ stateMagicV5 := by simp [stateMagicV4, stateMagicV5]
      refine ⟨hsize, ?_, stateMagicV4, hhead, hflags, fun h => absurd rfl h, ?_, ?_⟩
      · rw [decodeStateWithV5_of_ne texts hsize hhead hmagic, hdecode]
      · simp [stateMagicV1, stateMagicV2, stateMagicV4]
      · simp [stateMagicV1, stateMagicV4]
    · exact hlegacy hold
  · exact hlegacy hold

/-! ## Saving and loading -/

/-- The files after a save that nothing disturbs. -/
def savedFiles (state : ManagerPersistedState Address) (files : StateFiles) : StateFiles :=
  ((saveToV4 texts state).eval { files with moves := [] }).2

/-- Such a save returns, when the state is accepted. -/
theorem saveToV4_eval (hencode : encodeStateWithV5 texts state = .ok text) (files : StateFiles) :
    (saveToV4 texts state).eval { files with moves := [] } =
      (.ok (), savedFiles texts state files) := by
  refine Prod.ext ?_ rfl
  obtain ⟨primary, temporary, backup, moves⟩ := files
  unfold saveToV4
  rw [hencode]
  cases primary <;> cases backup <;> rfl

/-- A saved state is loaded again.  A state that is refused leaves the file as it was. -/
theorem loadFromV4_savedFiles (hlawful : texts.Lawful) {files : StateFiles}
    (hload : loadFromV4 texts files = .ok (some state)) :
    loadFromV4 texts (savedFiles texts state files) = .ok (some state) := by
  cases hencode : encodeStateWithV5 texts state with
  | ok text =>
    have hsteps := Prog.steps_of_eval (saveToV4_eval texts hencode files)
    have hbefore : Untouched files.primary { files with moves := [] } := ⟨rfl, rfl⟩
    exact loadFromV4_published texts hlawful hencode
      ((saveToV4_alone texts hencode).of_steps hbefore hsteps)
  | error error =>
    have hsame : savedFiles texts state files = { files with moves := [] } := by
      unfold savedFiles saveToV4
      rw [hencode]
      rfl
    rw [hsame]
    exact (loadFromV4_congr texts rfl).trans hload

end

end NetworkCopy
