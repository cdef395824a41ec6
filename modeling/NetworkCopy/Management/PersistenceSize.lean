import NetworkCopy.Management.PersistenceFormats

/-!
# The size of the state file

A text takes two digits for each of its bytes, and everything else on a line is bounded: the
keys, the numbers and the socket addresses.  The limits of the queue bound its items and each
of its texts, but not the sum of the texts, so a full queue does not always fit into the file.
-/

namespace NetworkCopy

open LineText

section

variable {Address : Type} (texts : TextSupport Address)
variable (key : String)

/-- The bytes of a text. -/
def byteCount (text : List Char) : Nat := (textBytes text).length

/-- The bytes of some lines, with their line feeds. -/
def linesBytes (ls : List (List Char)) : Nat := (ls.map fun line => byteCount line + 1).sum

@[simp] theorem byteCount_append (text more : List Char) :
    byteCount (text ++ more) = byteCount text + byteCount more := by
  simp [byteCount, textBytes]

theorem byteCount_cons (c : Char) (text : List Char) :
    byteCount (c :: text) = c.utf8Size + byteCount text := by
  simp [byteCount, textBytes]

@[simp] theorem linesBytes_nil : linesBytes [] = 0 := rfl

@[simp] theorem linesBytes_cons (line : List Char) (ls : List (List Char)) :
    linesBytes (line :: ls) = byteCount line + 1 + linesBytes ls := by
  simp [linesBytes]

@[simp] theorem linesBytes_append (ls ms : List (List Char)) :
    linesBytes (ls ++ ms) = linesBytes ls + linesBytes ms := by
  simp [linesBytes]

theorem byteCount_unlines (ls : List (List Char)) : byteCount (unlines ls) = linesBytes ls := by
  induction ls with
  | nil => rfl
  | cons line rest ih =>
    have hfeed : ('\n' : Char).utf8Size = 1 := by decide
    rw [unlines_cons, byteCount_append, byteCount_cons, ih, linesBytes_cons, hfeed]
    omega

theorem byteCount_textField (key value : String) :
    byteCount (textField key value) = byteCount key.toList + 1 + 2 * value.utf8ByteSize := by
  have hspace : (' ' : Char).utf8Size = 1 := by decide
  have hhex : byteCount (hexEncode (stringBytes value)) = 2 * value.utf8ByteSize :=
    (hexPairs_hexEncode (stringBytes value)).2
  unfold textField
  rw [byteCount_append, byteCount_cons, hhex, hspace]
  omega

theorem byteCount_digits (n : Nat) :
    byteCount (Nat.toDigits 10 n) = (Nat.toDigits 10 n).length := by
  refine textBytes_length fun c hc => ?_
  have hdigit := Nat.isDigit_of_mem_toDigits (by omega) (by omega) hc
  simp only [Char.isDigit, Bool.and_eq_true, decide_eq_true_eq] at hdigit
  exact lt_of_le_of_lt hdigit.2 (by decide)

theorem byteCount_numberField (n : Nat) :
    byteCount (numberField key n) = byteCount key.toList + 1 + (Nat.toDigits 10 n).length := by
  have hspace : (' ' : Char).utf8Size = 1 := by decide
  unfold numberField
  rw [byteCount_append, byteCount_cons, byteCount_digits, hspace]
  omega

/-- The line of a `u64` with a key of the format. -/
theorem byteCount_numberField_le (hkey : byteCount key.toList ≤ 32) {n : Nat} (hn : n < 2 ^ 64) :
    byteCount (numberField key n) ≤ 53 := by
  have hdigits : (Nat.toDigits 10 n).length ≤ 20 :=
    Nat.toDigits_length 10 n 20 (by omega) (by omega)
  rw [byteCount_numberField]
  omega

/-- The line of a text with a key of the format. -/
theorem byteCount_textField_le (hkey : byteCount key.toList ≤ 32) (value : String) :
    byteCount (textField key value) ≤ 33 + 2 * value.utf8ByteSize := by
  rw [byteCount_textField]
  omega

/-- The line of a socket address. -/
theorem byteCount_addressField_le (hlawful : texts.Lawful) (key : String)
    (hkey : byteCount key.toList ≤ 32) (address : Address) :
    byteCount (textField key (texts.display address)) ≤ 149 := by
  have haddress := hlawful.display_le address
  rw [byteCount_textField]
  omega

/-! ## The blocks -/

variable (state : ManagerPersistedState Address)

/-- The bytes of the texts of an item. -/
def QueuedTransfer.textTotal (item : QueuedTransfer Address) : Nat :=
  item.request.sourceRoot.utf8ByteSize + item.request.destinationRoot.utf8ByteSize +
    item.statusMessage.utf8ByteSize

/-- The bytes of the texts of a history entry. -/
def ManagerHistoryEntry.textTotal (entry : ManagerHistoryEntry Address) : Nat :=
  entry.transfer.sourceRoot.utf8ByteSize + entry.transfer.destinationRoot.utf8ByteSize +
    entry.senderResult.message.utf8ByteSize + entry.receiverResult.message.utf8ByteSize

/-- The bytes of the texts of a state. -/
def ManagerPersistedState.textTotal (state : ManagerPersistedState Address) : Nat :=
  state.senderAgent.utf8ByteSize + state.receiverAgent.utf8ByteSize +
    state.sourceRoot.utf8ByteSize + state.destinationRoot.utf8ByteSize +
    (state.queue.items.map QueuedTransfer.textTotal).sum +
    (state.history.map ManagerHistoryEntry.textTotal).sum

theorem linesBytes_cons_le {line : List Char} {ls : List (List Char)} {a b : Nat}
    (hline : byteCount line ≤ a) (hls : linesBytes ls ≤ b) :
    linesBytes (line :: ls) ≤ a + 1 + b := by
  rw [linesBytes_cons]
  omega

theorem linesBytes_append_le {ls ms : List (List Char)} {a b : Nat} (hls : linesBytes ls ≤ a)
    (hms : linesBytes ms ≤ b) : linesBytes (ls ++ ms) ≤ a + b := by
  rw [linesBytes_append]
  omega

theorem linesBytes_flatMap_le {α : Type} {encode : α → List (List Char)} {size : α → Nat}
    {bound : Nat} {entries : List α}
    (h : ∀ entry ∈ entries, linesBytes (encode entry) ≤ bound + 2 * size entry) :
    linesBytes (entries.flatMap encode) ≤
      bound * entries.length + 2 * (entries.map size).sum := by
  induction entries with
  | nil => exact Nat.zero_le _
  | cons entry rest ih =>
    have hentry := h entry List.mem_cons_self
    have hrest := ih fun other hother => h other (List.mem_cons_of_mem _ hother)
    rw [List.flatMap_cons, linesBytes_append, List.map_cons, List.sum_cons, List.length_cons,
      Nat.mul_succ]
    omega

theorem byteCount_flagField_le (hkey : byteCount key.toList ≤ 32) (flag : Bool) :
    byteCount (boolField key flag) ≤ 53 :=
  byteCount_numberField_le key hkey (by cases flag <;> decide)

theorem linesBytes_entry_le (hlawful : texts.Lawful) (item : QueuedTransfer Address) :
    linesBytes (flaggedEntry texts item) ≤ 1200 + 2 * item.textTotal := by
  have hkind : (kindCodes item.request.kind).1 < 2 ^ 64 ∧
      (kindCodes item.request.kind).2 < 2 ^ 64 := by
    cases item.request.kind with
    | fresh => exact ⟨show 0 < 2 ^ 64 by decide, show 0 < 2 ^ 64 by decide⟩
    | resume dataStreamCount => exact ⟨show 1 < 2 ^ 64 by decide, dataStreamCount.toNat_lt⟩
  have hstate : queueStateCode item.state < 2 ^ 64 := by cases item.state <;> decide
  have hroute : item.request.routeMode.code < 2 ^ 64 := by
    cases item.request.routeMode <;> decide
  have hfront := linesBytes_cons_le (show byteCount "queue_begin".toList ≤ 11 by decide) <|
    linesBytes_cons_le (byteCount_numberField_le "queue_id" (by decide) item.id.value_lt) <|
    linesBytes_cons_le (byteCount_numberField_le "queue_kind" (by decide) hkind.1) <|
    linesBytes_cons_le (byteCount_numberField_le "queue_resume_stream_count" (by decide) hkind.2) <|
    linesBytes_cons_le (byteCount_numberField_le "queue_state" (by decide) hstate) <|
    linesBytes_cons_le (byteCount_numberField_le "queue_route_mode" (by decide) hroute) <|
    linesBytes_cons_le (byteCount_addressField_le texts hlawful "queue_sender_agent" (by decide)
      item.request.senderAgent) <|
    linesBytes_cons_le (byteCount_addressField_le texts hlawful "queue_receiver_agent" (by decide)
      item.request.receiverAgent) <|
    linesBytes_cons_le (byteCount_textField_le "queue_source_root" (by decide)
      item.request.sourceRoot) <|
    linesBytes_cons_le (byteCount_textField_le "queue_destination_root" (by decide)
      item.request.destinationRoot) linesBytes_nil.le
  have hflags := linesBytes_cons_le (byteCount_flagField_le "queue_update_existing" (by decide)
      item.request.updateExisting) <|
    linesBytes_cons_le (byteCount_flagField_le desktopLayoutKey (by decide)
      item.preserveDesktopLayout)
      linesBytes_nil.le
  have hback := linesBytes_cons_le (byteCount_numberField_le "queue_worker_count" (by decide)
      item.request.workerCount.toNat_lt) <|
    linesBytes_cons_le (byteCount_numberField_le "queue_calibration_mib" (by decide)
      item.request.calibrationMib.toNat_lt) <|
    linesBytes_cons_le (byteCount_textField_le "queue_status_message" (by decide)
      item.statusMessage) <|
    linesBytes_cons_le (show byteCount "queue_end".toList ≤ 9 by decide) linesBytes_nil.le
  have hall := linesBytes_append_le (linesBytes_append_le hfront hflags) hback
  have hsame : linesBytes (flaggedEntry texts item) ≤ _ := hall
  refine hsame.trans ?_
  unfold QueuedTransfer.textTotal
  omega

theorem linesBytes_result_le {result : ManagementJobResult} (hfits : result.Fits) :
    linesBytes (encodeResult result) ≤ 420 + 2 * result.message.utf8ByteSize := by
  have hstreams : result.dataStreamCount < 2 ^ 64 := hfits.dataStreamCount.trans (by decide)
  have hall := linesBytes_cons_le (byteCount_numberField_le "role" (by decide)
      (show result.role.code < 2 ^ 64 by cases result.role <;> decide)) <|
    linesBytes_cons_le (byteCount_numberField_le "outcome" (by decide)
      (show result.outcome.code < 2 ^ 64 by cases result.outcome <;> decide)) <|
    linesBytes_cons_le (byteCount_numberField_le "job_id" (by decide) hfits.jobId) <|
    linesBytes_cons_le (byteCount_numberField_le "files" (by decide) hfits.files) <|
    linesBytes_cons_le (byteCount_numberField_le "logical_bytes" (by decide) hfits.logicalBytes) <|
    linesBytes_cons_le (byteCount_numberField_le "wire_bytes" (by decide) hfits.wireBytes) <|
    linesBytes_cons_le (byteCount_numberField_le "data_stream_count" (by decide) hstreams) <|
    linesBytes_cons_le (byteCount_textField_le "message" (by decide)
      result.message) linesBytes_nil.le
  have hsame : linesBytes (encodeResult result) ≤ _ := hall
  exact hsame.trans (by omega)

theorem linesBytes_historyEntry_le (hlawful : texts.Lawful)
    (entry : ManagerHistoryEntry Address) :
    linesBytes (encodeHistoryEntry texts entry) ≤ 2000 + 2 * entry.textTotal := by
  have hstart := linesBytes_cons_le (show byteCount "history_begin".toList ≤ 32 by decide) <|
    linesBytes_cons_le (byteCount_addressField_le texts hlawful "sender_agent" (by decide)
      entry.transfer.senderAgent) <|
    linesBytes_cons_le (byteCount_numberField_le "sender_job_id" (by decide)
      entry.transfer.senderJobId.toNat_lt) <|
    linesBytes_cons_le (byteCount_addressField_le texts hlawful "receiver_agent" (by decide)
      entry.transfer.receiverAgent) <|
    linesBytes_cons_le (byteCount_numberField_le "receiver_job_id" (by decide)
      entry.transfer.receiverJobId.toNat_lt) <|
    linesBytes_cons_le (byteCount_addressField_le texts hlawful "receiver_payload" (by decide)
      entry.transfer.receiverPayload) <|
    linesBytes_cons_le (byteCount_textField_le "source_root" (by decide)
      entry.transfer.sourceRoot) <|
    linesBytes_cons_le (byteCount_textField_le "destination_root" (by decide)
      entry.transfer.destinationRoot) <|
    linesBytes_cons_le (byteCount_flagField_le "update_existing" (by decide)
      entry.transfer.updateExisting) <|
    linesBytes_cons_le (byteCount_numberField_le "worker_count" (by decide)
      entry.transfer.workerCount.toNat_lt) <|
    linesBytes_cons_le (byteCount_numberField_le "calibration_mib" (by decide)
      entry.transfer.calibrationMib.toNat_lt) <|
    linesBytes_cons_le (show byteCount "sender_result".toList ≤ 32 by decide)
      linesBytes_nil.le
  have hreceiver := linesBytes_cons_le
    (show byteCount "receiver_result".toList ≤ 32 by decide) linesBytes_nil.le
  have hend := linesBytes_cons_le
    (show byteCount "history_end".toList ≤ 32 by decide) linesBytes_nil.le
  have hall := linesBytes_append_le (linesBytes_append_le (linesBytes_append_le
    (linesBytes_append_le hstart (linesBytes_result_le entry.senderResult_fits)) hreceiver)
    (linesBytes_result_le entry.receiverResult_fits)) hend
  have hsame : linesBytes (encodeHistoryEntry texts entry) ≤ _ := hall
  refine hsame.trans ?_
  unfold ManagerHistoryEntry.textTotal
  omega

theorem linesBytes_activeBinding_le (binding : Option ActiveQueueBinding) :
    linesBytes (encodeActiveBinding binding) ≤ 400 := by
  have hpresent : ∀ n < 2 ^ 64, byteCount (numberField "active_binding_present" n) ≤ 53 :=
    fun n hn => byteCount_numberField_le _ (by decide) hn
  cases binding with
  | none =>
    have hall := linesBytes_cons_le (hpresent 0 (by decide)) linesBytes_nil.le
    have hsame : linesBytes (encodeActiveBinding none) ≤ _ := hall
    exact hsame.trans (by omega)
  | some binding =>
    have hsender : binding.senderJobId < 2 ^ 64 := by
      simpa [u64Limit] using binding.senderJobId_lt
    have hreceiver : binding.receiverJobId < 2 ^ 64 := by
      simpa [u64Limit] using binding.receiverJobId_lt
    have hinstance : ∀ (key : String) (id : AgentInstanceId), byteCount key.toList ≤ 32 →
        byteCount (key.toList ++ ' ' :: id.display) ≤ 65 := by
      intro key id hkey
      have hspace : (' ' : Char).utf8Size = 1 := by decide
      have hid : byteCount id.display = 32 := by
        rw [byteCount, textBytes_length fun c hc => (AgentInstanceId.mem_display hc).1,
          id.length_display]
      rw [byteCount_append, byteCount_cons, hspace, hid]
      omega
    have hall := linesBytes_cons_le (hpresent 1 (by decide)) <|
      linesBytes_cons_le (byteCount_numberField_le "active_binding_queue_id" (by decide)
        binding.queueId.value_lt) <|
      linesBytes_cons_le (hinstance "active_binding_sender_instance"
        binding.senderInstanceId (by decide)) <|
      linesBytes_cons_le (byteCount_numberField_le "active_binding_sender_job_id" (by decide)
        hsender) <|
      linesBytes_cons_le (hinstance "active_binding_receiver_instance"
        binding.receiverInstanceId (by decide)) <|
      linesBytes_cons_le (byteCount_numberField_le "active_binding_receiver_job_id" (by decide)
        hreceiver)
        linesBytes_nil.le
    have hsame : linesBytes (encodeActiveBinding (some binding)) ≤ _ := hall
    exact hsame.trans (by omega)

theorem linesBytes_settings_le :
    linesBytes (encodeSettings state) ≤ 400 + 2 * (state.senderAgent.utf8ByteSize +
      state.receiverAgent.utf8ByteSize + state.sourceRoot.utf8ByteSize +
      state.destinationRoot.utf8ByteSize) := by
  have hall := linesBytes_cons_le (byteCount_textField_le "sender_agent" (by decide)
      state.senderAgent) <|
    linesBytes_cons_le (byteCount_textField_le "receiver_agent" (by decide) state.receiverAgent) <|
    linesBytes_cons_le (byteCount_textField_le "source_root" (by decide) state.sourceRoot) <|
    linesBytes_cons_le (byteCount_textField_le "destination_root" (by decide)
      state.destinationRoot) <|
    linesBytes_cons_le (byteCount_numberField_le "worker_count" (by decide)
      state.workerCount.toNat_lt) <|
    linesBytes_cons_le (byteCount_numberField_le "calibration_mib" (by decide)
      state.calibrationMib.toNat_lt) <|
    linesBytes_cons_le (byteCount_flagField_le "update_existing" (by decide)
      state.updateExisting) <|
    linesBytes_cons_le (byteCount_numberField_le "route_mode" (by decide)
      (show state.routeMode.code < 2 ^ 64 by cases state.routeMode <;> decide))
      linesBytes_nil.le
  have hsame : linesBytes (encodeSettings state) ≤ _ := hall
  exact hsame.trans (by omega)

/-! ## The whole text -/

/-- The bytes of the text of format 5, by its blocks. -/
theorem byteCount_textV5 :
    byteCount (textV5 texts state) = byteCount stateMagicV5 + 1 +
      (linesBytes (headerLines state) +
        (linesBytes (state.queue.items.flatMap (flaggedEntry texts)) +
          linesBytes (trailerLines texts state))) := by
  unfold textV5
  rw [byteCount_unlines, stateLinesV5_eq]
  simp only [linesBytes_cons, linesBytes_append]

theorem byteCount_textV4 :
    byteCount (textV4 texts state) = byteCount stateMagicV4 + 1 +
      (linesBytes (headerLines state) +
        (linesBytes (state.queue.items.flatMap (encodeQueueEntry texts)) +
          linesBytes (trailerLines texts state))) := by
  unfold textV4
  rw [byteCount_unlines, stateLinesV4_eq]
  simp only [linesBytes_cons, linesBytes_append]

/-- The formats grow. -/
theorem byteCount_textV3_le :
    byteCount (textV3 texts state) ≤ byteCount (textV4 texts state) := by
  have hmagic : byteCount stateMagicV3 = byteCount stateMagicV4 := by decide
  unfold textV3 textV4 stateLines stateLinesV4 frontLines
  rw [byteCount_unlines, byteCount_unlines]
  simp only [linesBytes_cons, linesBytes_append, hmagic]
  omega

theorem byteCount_textV4_le :
    byteCount (textV4 texts state) ≤ byteCount (textV5 texts state) := by
  have hmagic : byteCount stateMagicV4 = byteCount stateMagicV5 := by decide
  have hentries : ∀ items : List (QueuedTransfer Address),
      linesBytes (items.flatMap (encodeQueueEntry texts)) ≤
        linesBytes (items.flatMap (flaggedEntry texts)) := by
    intro items
    induction items with
    | nil => exact Nat.le_refl _
    | cons item rest ih =>
      rw [List.flatMap_cons, List.flatMap_cons, encodeQueueEntry_eq, flaggedEntry]
      simp only [linesBytes_append, linesBytes_cons, linesBytes_nil]
      omega
  have hitems := hentries state.queue.items
  rw [byteCount_textV4, byteCount_textV5, hmagic]
  omega

/-- A text takes two digits for each byte, and the rest of the file is bounded. -/
theorem byteCount_textV5_le (hlawful : texts.Lawful) {state : ManagerPersistedState Address}
    (hitems : state.queue.items.length ≤ maxQueueEntries)
    (hhistory : state.history.length ≤ maxHistoryEntries) :
    byteCount (textV5 texts state) ≤ 360000 + 2 * state.textTotal := by
  have hmagic : byteCount stateMagicV5 = 5 := by decide
  have hnext : state.queue.nextId < 2 ^ 64 := by simpa [u64Limit] using state.queue.nextId_lt
  simp only [maxQueueEntries] at hitems
  simp only [maxHistoryEntries] at hhistory
  have hqueue := linesBytes_cons_le (byteCount_numberField_le "queue_next_id" (by decide) hnext) <|
    linesBytes_cons_le (byteCount_flagField_le "queue_paused_after_current" (by decide)
      state.queue.pausedAfterCurrent) <|
    linesBytes_cons_le (byteCount_numberField_le "queue_count" (by decide)
      (show state.queue.items.length < 2 ^ 64 by omega)) linesBytes_nil.le
  have hheader : linesBytes (headerLines state) ≤ _ :=
    linesBytes_append_le (linesBytes_settings_le state) hqueue
  have hentries := linesBytes_flatMap_le fun item (_ : item ∈ state.queue.items) =>
    linesBytes_entry_le texts hlawful item
  have hcount := byteCount_numberField_le "history_count" (by decide)
    (show state.history.length < 2 ^ 64 by omega)
  have hend := linesBytes_cons_le (show byteCount "end".toList ≤ 32 by decide) linesBytes_nil.le
  have htrailer : linesBytes (trailerLines texts state) ≤ _ :=
    linesBytes_append_le (linesBytes_activeBinding_le state.queue.activeBinding)
      (linesBytes_cons_le hcount (linesBytes_append_le
        (linesBytes_flatMap_le fun entry (_ : entry ∈ state.history) =>
          linesBytes_historyEntry_le texts hlawful entry) hend))
  rw [byteCount_textV5, hmagic]
  unfold ManagerPersistedState.textTotal
  omega

/-- The texts of the items alone. -/
theorem le_byteCount_textV5 :
    2 * (state.queue.items.map QueuedTransfer.textTotal).sum ≤
      byteCount (textV5 texts state) := by
  have hitem : ∀ item : QueuedTransfer Address,
      2 * item.textTotal ≤ linesBytes (flaggedEntry texts item) := by
    intro item
    unfold flaggedEntry entryFront entryBack encodeQueueEntry QueuedTransfer.textTotal
    simp only [List.take_succ_cons, List.take_zero, List.drop_succ_cons, List.drop_zero,
      linesBytes_append, linesBytes_cons, linesBytes_nil, byteCount_textField]
    omega
  have hentries : ∀ items : List (QueuedTransfer Address),
      2 * (items.map QueuedTransfer.textTotal).sum ≤
        linesBytes (items.flatMap (flaggedEntry texts)) := by
    intro items
    induction items with
    | nil => exact Nat.le_refl _
    | cons item rest ih =>
      have hfirst := hitem item
      rw [List.flatMap_cons, linesBytes_append, List.map_cons, List.sum_cons]
      omega
  have hall := hentries state.queue.items
  rw [byteCount_textV5]
  omega

variable [DecidableEq Address]

/-- A valid state is saved exactly when its text is within the limit. -/
theorem encodeStateWithV5_iff {state : ManagerPersistedState Address} (hstate : state.Valid) :
    (∃ text, encodeStateWithV5 texts state = .ok text) ↔
      byteCount (textV5 texts state) ≤ maxStateBytes := by
  have hV3 := byteCount_textV3_le texts state
  have hV4 := byteCount_textV4_le texts state
  simp only [byteCount] at hV3 hV4 ⊢
  simp only [encodeStateWithV5_eq_ok]
  constructor
  · rintro ⟨_, _, _, _, hsize, _⟩
    exact hsize
  · intro hsize
    exact ⟨_, hstate, by omega, by omega, hsize, rfl⟩

/-- A valid state that is too large is refused by the guard. -/
theorem encodeStateWithV5_refused {state : ManagerPersistedState Address} (hstate : state.Valid)
    (hsize : maxStateBytes < byteCount (textV5 texts state)) :
    ∃ length, maxStateBytes < length ∧ encodeStateWithV5 texts state = .error (.invalidInput
      s!"manager state requires {length} bytes, exceeding the {maxStateBytes} byte limit") := by
  have hrefused : ∀ text : List Char, maxStateBytes < byteCount text →
      checkEncodedSize text = .error (.invalidInput (let length := byteCount text
        s!"manager state requires {length} bytes, exceeding the {maxStateBytes} byte limit")) := by
    intro text htext
    unfold byteCount at htext
    unfold checkEncodedSize byteCount ensure
    rw [if_neg (by omega)]
  have haccepted : ∀ text : List Char, byteCount text ≤ maxStateBytes →
      checkEncodedSize text = .ok () := by
    intro text htext
    exact checkEncodedSize_eq_ok.mpr htext
  have hvalidated : validateState state = .ok () := validateState_eq_ok.mpr hstate
  by_cases hV3 : byteCount (textV3 texts state) ≤ maxStateBytes
  · by_cases hV4 : byteCount (textV4 texts state) ≤ maxStateBytes
    · refine ⟨_, hsize, ?_⟩
      rw [encodeStateWithV5_eq, encodeStateWithV4_eq, encodeState_eq, hvalidated, ok_bind,
        haccepted _ hV3, ok_bind, pure_eq_ok, ok_bind, haccepted _ hV4, ok_bind, pure_eq_ok,
        ok_bind, hrefused _ hsize]
      rfl
    · have hlarge : maxStateBytes < byteCount (textV4 texts state) := by omega
      refine ⟨_, hlarge, ?_⟩
      rw [encodeStateWithV5_eq, encodeStateWithV4_eq, encodeState_eq, hvalidated, ok_bind,
        haccepted _ hV3, ok_bind, pure_eq_ok, ok_bind, hrefused _ hlarge]
      rfl
  · have hlarge : maxStateBytes < byteCount (textV3 texts state) := by omega
    refine ⟨_, hlarge, ?_⟩
    rw [encodeStateWithV5_eq, encodeStateWithV4_eq, encodeState_eq, hvalidated, ok_bind,
      hrefused _ hlarge]
    rfl

/-- The settings and the history of a state with no queued item pass the validator. -/
theorem ManagerPersistedState.valid_of_queue {state : ManagerPersistedState Address}
    (hqueue : state.queue.Valid)
    (hrest : validateState { state with queue := TransferQueue.default } = .ok ()) :
    state.Valid :=
  { validateState_eq_ok.mp hrest with queue := hqueue }

end

/-! ## A queue that does not fit -/

/-- Two agents on one machine. -/
inductive LoopbackAgent where
  | first
  | second
  deriving DecidableEq

/-- How their addresses are printed and parsed. -/
def loopbackTexts : TextSupport LoopbackAgent where
  display
    | .first => "127.0.0.1:7339"
    | .second => "127.0.0.2:7339"
  fromStr text :=
    if text = "127.0.0.1:7339" then .ok .first
    else if text = "127.0.0.2:7339" then .ok .second
    else .error "invalid socket address syntax"
  debug text := (String.ofList text).quote
  utf8Error _ := "invalid utf-8 sequence"

theorem loopbackTexts_lawful : loopbackTexts.Lawful where
  fromStr_display address := by cases address <;> simp [loopbackTexts]
  display_le address := by cases address <;> decide

/-- The state of a manager that has just been installed, `ManagerPersistedState::default`. -/
def ManagerPersistedState.default {Address : Type} : ManagerPersistedState Address where
  senderAgent := ""
  receiverAgent := ""
  sourceRoot := ""
  destinationRoot := ""
  workerCount := 4
  calibrationMib := 8
  updateExisting := false
  routeMode := .automaticLan
  queue := TransferQueue.default
  history := []

theorem ManagerPersistedState.default_validate {Address : Type} [DecidableEq Address] :
    validateState (.default : ManagerPersistedState Address) = .ok () := by
  have hempty : ("" : String).utf8ByteSize ≤ maxTextBytes := Nat.zero_le _
  refine validateState_eq_ok.mpr
    ⟨show (4 : UInt64) ≠ 0 by decide, show (8 : UInt64) ≠ 0 by decide, Nat.zero_le _, hempty, hempty, hempty, hempty,
      TransferQueue.default_valid, fun entry hentry => ?_⟩
  cases hentry

/-- A root with the greatest length that the queue accepts. -/
@[irreducible] def longRoot : String := String.ofList (List.replicate maxQueueTextBytes 'a')

theorem utf8ByteSize_ofList (text : List Char) :
    (String.ofList text).utf8ByteSize = (textBytes text).length := by
  show (List.utf8Encode text).size = _
  rw [List.utf8Encode, List.size_toByteArray]
  rfl

theorem utf8ByteSize_longRoot : longRoot.utf8ByteSize = maxQueueTextBytes := by
  unfold longRoot
  rw [utf8ByteSize_ofList, textBytes_length, List.length_replicate]
  intro c hc
  rw [List.eq_of_mem_replicate hc]
  decide

/-- A transfer between long roots. -/
def longRequest : QueuedTransferRequest LoopbackAgent where
  senderAgent := .first
  receiverAgent := .second
  routeMode := .automaticLan
  sourceRoot := longRoot
  destinationRoot := longRoot
  updateExisting := false
  workerCount := 4
  calibrationMib := 8
  kind := .fresh

theorem longRequest_validate : longRequest.validate = .ok () := by
  have hwords : longRoot.toList.all isWhitespace = false := by
    unfold longRoot
    rw [String.toList_ofList, List.all_eq_false]
    exact ⟨'a', List.mem_replicate.mpr ⟨by decide, rfl⟩, by decide⟩
  have hsize := utf8ByteSize_longRoot
  unfold QueuedTransferRequest.validate validateRequiredText validateOptionalText
  simp only [checks_eq_ok, check_eq_ok, exists_const]
  refine ⟨by decide, ⟨?_, ?_⟩, ⟨?_, ?_⟩, by decide, by decide, by decide⟩
  · show ¬ longRoot.toList.all isWhitespace = true
    rw [hwords]
    exact Bool.false_ne_true
  · exact hsize.le
  · show ¬ longRoot.toList.all isWhitespace = true
    rw [hwords]
    exact Bool.false_ne_true
  · exact hsize.le

/-- Items are added one after the other. -/
theorem runAll_add_total {request : QueuedTransferRequest LoopbackAgent}
    (hrequest : request.validate = .ok ()) (count : Nat) {queue : TransferQueue LoopbackAgent}
    (hid : 0 < queue.nextId) (hnext : queue.nextId + count < 2 ^ 64)
    (hroom : queue.items.length + count ≤ maxQueueEntries) :
    ((TransferQueue.runAll
      (List.replicate count (.addWithDesktopLayout request false)) queue).2.items.map
        QueuedTransfer.textTotal).sum =
      (queue.items.map QueuedTransfer.textTotal).sum + count *
        (request.sourceRoot.utf8ByteSize + request.destinationRoot.utf8ByteSize) := by
  induction count generalizing queue with
  | zero => simp [TransferQueue.runAll]
  | succ count ih =>
    have hlimit : u64Limit = 2 ^ 64 := by simp only [u64Limit]
    have hroom' : ¬ maxQueueEntries ≤ queue.items.length := by omega
    have hnext' : queue.nextId + 1 < u64Limit := by omega
    let total := request.sourceRoot.utf8ByteSize + request.destinationRoot.utf8ByteSize
    let added : TransferQueue LoopbackAgent := { queue with
      items := queue.items ++ [{
        id := ⟨queue.nextId, hid, queue.nextId_lt⟩
        request
        preserveDesktopLayout := false
        state := .pending
        statusMessage := "" }]
      nextId := queue.nextId + 1
      nextId_lt := hnext' }
    have hadd : (QueueOperation.run queue (.addWithDesktopLayout request false)).2 = added := by
      show (queue.addWithDesktopLayout request false).2 = added
      unfold TransferQueue.addWithDesktopLayout QueuedTransferId.fromRaw
      simp only [hrequest, if_neg hroom', dif_pos hid, dif_pos hnext']
      rfl
    have hlength : added.items.length = queue.items.length + 1 := by simp [added]
    have htotal : (added.items.map QueuedTransfer.textTotal).sum =
        (queue.items.map QueuedTransfer.textTotal).sum + total := by
      have hempty : ("" : String).utf8ByteSize = 0 := rfl
      simp only [added, total, List.map_append, List.sum_append, List.map_cons, List.map_nil,
        List.sum_cons, List.sum_nil, QueuedTransfer.textTotal, hempty]
      omega
    have hnextAdded : added.nextId + count < 2 ^ 64 := by
      show queue.nextId + 1 + count < 2 ^ 64
      omega
    have hroomAdded : added.items.length + count ≤ maxQueueEntries := by omega
    have hrest := ih (Nat.succ_pos _) hnextAdded hroomAdded
    have hproduct : (count + 1) * total = count * total + total := Nat.succ_mul _ _
    show ((TransferQueue.runAll (List.replicate count _)
      (QueueOperation.run queue (.addWithDesktopLayout request false)).2).2.items.map
        QueuedTransfer.textTotal).sum = _ + (count + 1) * total
    rw [hadd, hrest, htotal, hproduct]
    show _ + total + count * total = _
    omega

/-- Seventeen transfers between long roots. -/
def longOperations : List (QueueOperation LoopbackAgent) :=
  List.replicate 17 (.addWithDesktopLayout longRequest false)

theorem longOperations_total :
    ((TransferQueue.runAll longOperations TransferQueue.default).2.items.map
      QueuedTransfer.textTotal).sum = 17 * (maxQueueTextBytes + maxQueueTextBytes) := by
  have htotal := runAll_add_total longRequest_validate 17
    (show 0 < (TransferQueue.default : TransferQueue LoopbackAgent).nextId from Nat.one_pos)
    (show 1 + 17 < 2 ^ 64 by decide) (show 0 + 17 ≤ maxQueueEntries by decide)
  have hroot : longRequest.sourceRoot.utf8ByteSize + longRequest.destinationRoot.utf8ByteSize =
      maxQueueTextBytes + maxQueueTextBytes :=
    congrArg₂ (· + ·) utf8ByteSize_longRoot utf8ByteSize_longRoot
  rw [hroot] at htotal
  exact htotal.trans (Nat.zero_add _)

/-- More than 2 MiB of texts never fit. -/
theorem not_saved_of_total {state : ManagerPersistedState LoopbackAgent}
    (htotal : maxStateBytes < 2 * (state.queue.items.map QueuedTransfer.textTotal).sum)
    (text : List Char) : encodeStateWithV5 loopbackTexts state ≠ .ok text := by
  intro hencode
  have hlower := le_byteCount_textV5 loopbackTexts state
  obtain ⟨_, _, _, hsize, _⟩ := (encodeStateWithV5_eq_ok loopbackTexts).mp hencode
  have hlarge := hlower.trans hsize
  omega

end NetworkCopy
