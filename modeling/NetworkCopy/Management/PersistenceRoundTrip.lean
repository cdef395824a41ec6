import NetworkCopy.Management.Persistence
import NetworkCopy.Management.QueueInvariant

/-!
# The state file is read back

Every line that an encoder writes is a bare word or a field whose value has no space and no
line feed: texts are written in hexadecimal, so nothing of a user text can look like a line
of the format.  The searches of the encoders and the decoders go by the key of a line, and
the keys of a block of lines are fixed.
-/

namespace NetworkCopy

open LineText

/-! ## Texts -/

variable (bytes : List UInt8)

theorem utf8EncodeChar_hexDigit (nibble : Nat) (h : nibble < 16) :
    ∃ byte, String.utf8EncodeChar (hexDigits.getD nibble '0') = [byte] ∧
      decodeHexNibble byte = .ok (UInt8.ofNat nibble) := by
  interval_cases nibble <;> exact ⟨_, rfl, by decide +kernel⟩

theorem joinNibbles (byte : UInt8) : (byte >>> 4) <<< 4 ||| byte &&& 0x0F = byte := by
  have hall : ∀ n < 2 ^ 8, (n >>> (4 % 8)) <<< (4 % 8) % 2 ^ 8 ||| n &&& 0x0F = n := by
    decide +kernel
  apply UInt8.toNat_inj.mp
  simpa only [UInt8.toNat_or, UInt8.toNat_shiftLeft, UInt8.toNat_shiftRight,
    UInt8.toNat_and, UInt8.reduceToNat] using hall byte.toNat byte.toNat_lt

/-- Bytes are read back from their hexadecimal digits. -/
theorem hexPairs_hexEncode :
    hexPairs (textBytes (hexEncode bytes)) = .ok bytes ∧
      (textBytes (hexEncode bytes)).length = 2 * bytes.length := by
  induction bytes with
  | nil => exact ⟨rfl, rfl⟩
  | cons byte rest ih =>
    have hbyte := byte.toNat_lt
    have hhighLt : (byte >>> 4).toNat < 16 := by
      simp only [UInt8.toNat_shiftRight, Nat.shiftRight_eq_div_pow, UInt8.reduceToNat,
        Nat.reduceMod, Nat.reducePow]
      omega
    have hlowLt : (byte &&& 0x0F).toNat < 16 := by
      rw [UInt8.toNat_and]
      exact Nat.lt_succ_of_le Nat.and_le_right
    obtain ⟨first, hfirst, hhigh⟩ := utf8EncodeChar_hexDigit _ hhighLt
    obtain ⟨second, hsecond, hlow⟩ := utf8EncodeChar_hexDigit _ hlowLt
    have hbytes : textBytes (hexEncode (byte :: rest)) =
        first :: second :: textBytes (hexEncode rest) := by
      simp only [hexEncode, textBytes, List.flatMap_cons, List.flatMap_append,
        List.flatMap_nil, List.append_nil, hfirst, hsecond]
      rfl
    rw [UInt8.ofNat_toNat] at hhigh hlow
    rw [hbytes, hexPairs, hhigh, hlow, ih.1]
    refine ⟨?_, ?_⟩
    · simp only [ok_bind, joinNibbles]
      rfl
    · simp only [List.length_cons, ih.2]
      omega

theorem hexDecode_hexEncode : hexDecode (hexEncode bytes) = .ok bytes := by
  obtain ⟨hpairs, hlength⟩ := hexPairs_hexEncode bytes
  unfold hexDecode
  rw [hlength, hpairs]
  simp [ensure]

theorem stringBytes_length (value : String) : (stringBytes value).length = value.utf8ByteSize := rfl

theorem fromUTF8_stringBytes (value : String) :
    String.fromUTF8? (stringBytes value).toByteArray = some value := by
  have hbytes : (stringBytes value).toByteArray = value.toByteArray := by
    apply ByteArray.ext
    simp [stringBytes]
  unfold String.fromUTF8?
  rw [hbytes, dif_pos value.isValidUTF8]
  rfl

theorem plain_hexEncode : Plain (hexEncode bytes) := by
  have hdigit : ∀ nibble, Plain [hexDigits.getD nibble '0'] := by
    intro nibble
    by_cases h : nibble < 16
    · interval_cases nibble <;> simp [Plain, hexDigits]
    · rw [List.getD_eq_default _ _ (by simp [hexDigits]; omega)]
      simp [Plain]
  induction bytes with
  | nil => intro c hc; cases hc
  | cons byte rest ih => exact ((hdigit _).append (hdigit _)).append ih

/-! ## Fields -/

section

variable {Address : Type} (texts : TextSupport Address)
variable {key : String} (subject : String)
variable {value : Nat}

theorem fieldValue_field (hkey : ' ' ∉ key.toList) (value : List Char) :
    fieldValue texts subject (key.toList ++ ' ' :: value) key = .ok value := by
  unfold fieldValue
  rw [splitOnce_append hkey]
  simp [ensure]

theorem parseNumberField_numberField (hkey : ' ' ∉ key.toList) {limit value : Nat}
    (hvalue : value < limit) :
    parseNumberField texts subject limit (numberField key value) key = .ok value := by
  unfold parseNumberField numberField
  rw [fieldValue_field texts subject hkey, ok_bind, parseUnsigned_toDigits hvalue]

theorem reads_nextU8 (hkey : ' ' ∉ key.toList) (hvalue : value < 2 ^ 8) :
    Reads (nextU8 texts key) [numberField key value] (UInt8.ofNat value) := by
  intro rest
  show ((parseU8Field texts "manager state" (numberField key value) key) >>= fun number =>
    Except.ok (number, rest)) = _
  unfold parseU8Field
  rw [parseNumberField_numberField texts _ hkey hvalue]
  rfl

theorem reads_nextU32 (hkey : ' ' ∉ key.toList) (hvalue : value < 2 ^ 32) :
    Reads (nextU32 texts key) [numberField key value] (UInt32.ofNat value) := by
  intro rest
  show ((parseU32Field texts "manager state" (numberField key value) key) >>= fun number =>
    Except.ok (number, rest)) = _
  unfold parseU32Field
  rw [parseNumberField_numberField texts _ hkey hvalue]
  rfl

theorem reads_nextU64 (hkey : ' ' ∉ key.toList) (hvalue : value < 2 ^ 64) :
    Reads (nextU64 texts subject key) [numberField key value] (UInt64.ofNat value) := by
  intro rest
  show ((parseU64Field texts subject (numberField key value) key) >>= fun number =>
    Except.ok (number, rest)) = _
  unfold parseU64Field
  rw [parseNumberField_numberField texts _ hkey hvalue]
  rfl

theorem parseBoolField_boolField (hkey : ' ' ∉ key.toList) (value : Bool) :
    parseBoolField texts subject (boolField key value) key = .ok value := by
  unfold parseBoolField parseU8Field boolField
  rw [parseNumberField_numberField texts _ hkey (by cases value <;> decide)]
  cases value <;> rfl

theorem reads_nextBool (hkey : ' ' ∉ key.toList) (value : Bool) :
    Reads (nextBool texts subject key) [boolField key value] value := by
  intro rest
  show ((parseBoolField texts subject (boolField key value) key) >>= fun flag =>
    Except.ok (flag, rest)) = _
  rw [parseBoolField_boolField texts subject hkey]
  rfl

theorem decodeTextField_textField (hkey : ' ' ∉ key.toList) {value : String}
    (hvalue : value.utf8ByteSize ≤ maxTextBytes) :
    decodeTextField texts (textField key value) key = .ok value := by
  unfold decodeTextField textField
  rw [fieldValue_field texts _ hkey, ok_bind, hexDecode_hexEncode, ok_bind,
    fromUTF8_stringBytes, stringBytes_length]
  simp [ensure, hvalue]

theorem reads_nextText (hkey : ' ' ∉ key.toList) {value : String}
    (hvalue : value.utf8ByteSize ≤ maxTextBytes) :
    Reads (nextText texts key) [textField key value] value := by
  intro rest
  show ((decodeTextField texts (textField key value) key) >>= fun text =>
    Except.ok (text, rest)) = _
  rw [decodeTextField_textField texts hkey hvalue]
  rfl

theorem reads_nextAddress (hlawful : texts.Lawful) (hkey : ' ' ∉ key.toList)
    (description : String) (address : Address) :
    Reads (nextAddress texts key description) [textField key (texts.display address)]
      address := by
  have hsize : (texts.display address).utf8ByteSize ≤ maxTextBytes :=
    (hlawful.display_le address).trans (by norm_num [maxTextBytes])
  intro rest
  unfold nextAddress
  rw [StateT.run_bind, reads_nextText texts hkey hsize]
  show ((parseSocketAddress texts (texts.display address) description) >>= fun result =>
    Except.ok (result, rest)) = _
  unfold parseSocketAddress
  rw [hlawful.fromStr_display]
  rfl

omit texts in
theorem reads_requiredLine (line : List Char) :
    Reads (requiredLine subject) [line] line :=
  fun _ => rfl

theorem reads_expectLine (expected : String) :
    Reads (expectLine texts expected) [expected.toList] () := by
  intro rest
  show (ensure (expected.toList = expected.toList) _ >>= fun result =>
    Except.ok (result, rest)) = _
  rw [ensure, if_pos rfl]
  rfl

/-! ## What a state must satisfy -/

variable {state : ManagerPersistedState Address}
variable {entry : ManagerHistoryEntry Address}

/-- What `validate_history_entry` accepts. -/
structure ManagerHistoryEntry.Valid (entry : ManagerHistoryEntry Address) : Prop where
  jobIds : entry.transfer.senderJobId ≠ 0 ∧ entry.transfer.receiverJobId ≠ 0
  sizes : entry.transfer.workerCount ≠ 0 ∧ entry.transfer.calibrationMib ≠ 0
  sourceRoot_le : entry.transfer.sourceRoot.utf8ByteSize ≤ maxTextBytes
  destinationRoot_le : entry.transfer.destinationRoot.utf8ByteSize ≤ maxTextBytes
  senderMessage_le : entry.senderResult.message.utf8ByteSize ≤ maxTextBytes
  receiverMessage_le : entry.receiverResult.message.utf8ByteSize ≤ maxTextBytes
  sender : entry.senderResult.role = .sender ∧
    entry.senderResult.jobId = entry.transfer.senderJobId.toNat
  receiver : entry.receiverResult.role = .receiver ∧
    entry.receiverResult.jobId = entry.transfer.receiverJobId.toNat

omit texts in
theorem validateHistoryEntry_eq_ok {u : Unit} :
    validateHistoryEntry entry = .ok u ↔ entry.Valid := by
  unfold validateHistoryEntry validateText
  simp only [bind_eq_ok, ensure_eq_ok, exists_const]
  constructor
  · rintro ⟨hids, hsizes, hsource, hdestination, hmessage, hother, hsender, hreceiver⟩
    exact ⟨hids, hsizes, hsource, hdestination, hmessage, hother, hsender, hreceiver⟩
  · intro h
    exact ⟨h.jobIds, h.sizes, h.sourceRoot_le, h.destinationRoot_le, h.senderMessage_le,
      h.receiverMessage_le, h.sender, h.receiver⟩

omit texts in
theorem validateHistory_eq_ok {history : List (ManagerHistoryEntry Address)} {u : Unit} :
    validateHistory history = .ok u ↔ ∀ entry ∈ history, entry.Valid := by
  induction history with
  | nil => simp [validateHistory]
  | cons entry rest ih =>
    simp only [validateHistory, bind_eq_ok, exists_const, validateHistoryEntry_eq_ok, ih,
      List.forall_mem_cons]

/-- What `validate_state` accepts. -/
structure ManagerPersistedState.Valid (state : ManagerPersistedState Address) [DecidableEq Address] :
    Prop where
  workerCount_ne : state.workerCount ≠ 0
  calibrationMib_ne : state.calibrationMib ≠ 0
  history_le : state.history.length ≤ maxHistoryEntries
  senderAgent_le : state.senderAgent.utf8ByteSize ≤ maxTextBytes
  receiverAgent_le : state.receiverAgent.utf8ByteSize ≤ maxTextBytes
  sourceRoot_le : state.sourceRoot.utf8ByteSize ≤ maxTextBytes
  destinationRoot_le : state.destinationRoot.utf8ByteSize ≤ maxTextBytes
  queue : state.queue.Valid
  history : ∀ entry ∈ state.history, entry.Valid

omit texts in
theorem validateState_eq_ok [DecidableEq Address] {u : Unit} :
    validateState state = .ok u ↔ state.Valid := by
  have htext : ∀ result : Except String Unit, ∀ u,
      fromText .invalidInput result = .ok u ↔ result = .ok () := by
    intro result u
    cases result <;> simp [fromText, Except.mapError]
  unfold validateState validateText
  simp only [bind_eq_ok, ensure_eq_ok, exists_const, htext, TransferQueue.validate_eq_ok,
    validateHistory_eq_ok]
  constructor
  · intro ⟨hworkers, hcalibration, hlength, hsender, hreceiver, hsource, hdestination, hqueue,
      hhistory⟩
    exact ⟨hworkers, hcalibration, hlength, hsender, hreceiver, hsource, hdestination, hqueue,
      hhistory⟩
  · intro h
    exact ⟨h.workerCount_ne, h.calibrationMib_ne, h.history_le, h.senderAgent_le,
      h.receiverAgent_le, h.sourceRoot_le, h.destinationRoot_le, h.queue, h.history⟩

/-- The texts and the kind of an item that its queue accepts. -/
structure QueuedTransfer.Writable (item : QueuedTransfer Address) : Prop where
  sourceRoot_le : item.request.sourceRoot.utf8ByteSize ≤ maxTextBytes
  destinationRoot_le : item.request.destinationRoot.utf8ByteSize ≤ maxTextBytes
  statusMessage_le : item.statusMessage.utf8ByteSize ≤ maxTextBytes
  kind_ne : item.request.kind ≠ .resume 0

omit texts in
theorem QueuedTransfer.writable_of_validate [DecidableEq Address] {item : QueuedTransfer Address}
    (hitem : item.validate = .ok ()) : item.Writable := by
  have hlimit : maxQueueTextBytes = maxTextBytes := by simp only [maxQueueTextBytes, maxTextBytes]
  simp only [QueuedTransfer.validate, QueuedTransferRequest.validate, validateRequiredText,
    validateOptionalText, checks_eq_ok, check_eq_ok, exists_const, hlimit] at hitem
  obtain ⟨⟨-, ⟨-, hsource⟩, ⟨-, hdestination⟩, -, -, hkind⟩, hmessage⟩ := hitem
  exact ⟨hsource, hdestination, hmessage, hkind⟩

/-! ## Entries -/

omit texts in
theorem reads_ensure {β : Type} {condition : Prop} [Decidable condition] {error : IoError}
    {next : Unit → LineReader β} {more : List (List Char)} {result : β} (h : condition)
    (hnext : Reads (next ()) more result) :
    Reads ((liftM (ensure condition error) : LineReader Unit) >>= next) more result :=
  .lift (ensure_eq_ok.mpr h) hnext

omit texts in
theorem QueuedTransferId.value_lt (id : QueuedTransferId) : id.value < 2 ^ 64 := by
  simpa [u64Limit] using id.lt

omit texts in
theorem queuedTransferId_value (id : QueuedTransferId) (message : String) :
    queuedTransferId (UInt64.ofNat id.value) message = .ok id := by
  have hvalue : (UInt64.ofNat id.value).toNat = id.value :=
    UInt64.toNat_ofNat_of_lt id.value_lt
  have hpos : 0 < (UInt64.ofNat id.value).toNat := by
    rw [hvalue]
    exact id.pos
  unfold queuedTransferId QueuedTransferId.fromRaw
  rw [dif_pos hpos, okOrElse_some]
  congr 1
  cases id
  simp only [QueuedTransferId.mk.injEq]
  exact hvalue

omit texts in
theorem role_tryFrom (role : ManagementJobRole) :
    ManagementJobRole.tryFrom (UInt8.ofNat role.code) = .ok role := by
  cases role <;> rfl

omit texts in
theorem outcome_tryFrom (outcome : ManagementJobOutcome) :
    ManagementJobOutcome.tryFrom (UInt8.ofNat outcome.code) = .ok outcome := by
  cases outcome <;> rfl

omit texts in
theorem decodeQueueState_code (state : QueuedTransferState) :
    decodeQueueState (UInt8.ofNat (queueStateCode state)) = .ok state := by
  cases state <;> rfl

omit texts in
theorem decodeRouteMode_code (routeMode : ManagementRouteMode) :
    decodeRouteMode (UInt8.ofNat routeMode.code) = .ok routeMode := by
  cases routeMode <;> rfl

omit texts in
theorem decodeKind_codes {kind : QueuedTransferKind} (hkind : kind ≠ .resume 0) :
    decodeKind (UInt8.ofNat (kindCodes kind).1) (UInt64.ofNat (kindCodes kind).2) =
      .ok kind := by
  cases kind with
  | fresh => rfl
  | resume dataStreamCount =>
    have hcount : dataStreamCount.toNat ≠ 0 := by
      intro hzero
      exact hkind (by rw [UInt64.toNat_inj.mp (hzero.trans UInt64.toNat_zero.symm)])
    obtain ⟨count, hsucc⟩ := Nat.exists_eq_succ_of_ne_zero hcount
    simp only [kindCodes, UInt64.ofNat_toNat]
    unfold decodeKind
    rw [hsucc]
    rfl

theorem reads_nextRouteMode (hkey : ' ' ∉ key.toList) (routeMode : ManagementRouteMode) :
    Reads (nextRouteMode texts true key) [numberField key routeMode.code] routeMode := by
  unfold nextRouteMode
  rw [if_pos rfl]
  refine .step (reads_nextU8 texts hkey (by cases routeMode <;> decide)) ?_
  intro rest
  rw [decodeRouteMode_code]
  rfl

theorem reads_result {result : ManagementJobResult} (hfits : result.Fits)
    (hmessage : result.message.utf8ByteSize ≤ maxTextBytes) :
    Reads (decodeResult texts) (encodeResult result) ⟨result, hfits⟩ := by
  unfold decodeResult encodeResult
  refine .step (reads_nextU8 texts (by decide) (by cases result.role <;> decide)) ?_
  refine .lift (role_tryFrom _) ?_
  refine .step (reads_nextU8 texts (by decide) (by cases result.outcome <;> decide)) ?_
  refine .lift (outcome_tryFrom _) ?_
  refine .step (reads_nextU64 texts _ (by decide) hfits.jobId) ?_
  refine .step (reads_nextU64 texts _ (by decide) hfits.files) ?_
  refine .step (reads_nextU64 texts _ (by decide) hfits.logicalBytes) ?_
  refine .step (reads_nextU64 texts _ (by decide) hfits.wireBytes) ?_
  refine .step (reads_nextU32 texts (by decide) hfits.dataStreamCount) ?_
  refine .step (reads_nextText texts (by decide) hmessage) ?_
  have hnumbers : (UInt64.ofNat result.jobId).toNat = result.jobId ∧
      (UInt64.ofNat result.files).toNat = result.files ∧
      (UInt64.ofNat result.logicalBytes).toNat = result.logicalBytes ∧
      (UInt64.ofNat result.wireBytes).toNat = result.wireBytes ∧
      (UInt32.ofNat result.dataStreamCount).toNat = result.dataStreamCount :=
    ⟨UInt64.toNat_ofNat_of_lt hfits.jobId, UInt64.toNat_ofNat_of_lt hfits.files,
      UInt64.toNat_ofNat_of_lt hfits.logicalBytes, UInt64.toNat_ofNat_of_lt hfits.wireBytes,
      UInt32.toNat_ofNat_of_lt hfits.dataStreamCount⟩
  obtain ⟨hjobId, hfiles, hlogical, hwire, hstreams⟩ := hnumbers
  simp only [hjobId, hfiles, hlogical, hwire, hstreams]
  exact Reads.pure _

theorem reads_historyEntry (hlawful : texts.Lawful) (hentry : entry.Valid) :
    Reads (decodeHistoryEntry texts) (encodeHistoryEntry texts entry) entry := by
  unfold decodeHistoryEntry encodeHistoryEntry
  simp only [List.cons_append, List.nil_append, List.append_assoc]
  refine .step (reads_expectLine texts _) ?_
  refine .step (reads_nextAddress texts hlawful (by decide) _ _) ?_
  refine .step (reads_nextU64 texts _ (by decide) entry.transfer.senderJobId.toNat_lt) ?_
  refine .step (reads_nextAddress texts hlawful (by decide) _ _) ?_
  refine .step (reads_nextU64 texts _ (by decide) entry.transfer.receiverJobId.toNat_lt) ?_
  refine .step (reads_nextAddress texts hlawful (by decide) _ _) ?_
  refine .step (reads_nextText texts (by decide) hentry.sourceRoot_le) ?_
  refine .step (reads_nextText texts (by decide) hentry.destinationRoot_le) ?_
  refine .step (reads_nextBool texts _ (by decide) _) ?_
  refine .step (reads_nextU64 texts _ (by decide) entry.transfer.workerCount.toNat_lt) ?_
  refine .step (reads_nextU64 texts _ (by decide) entry.transfer.calibrationMib.toNat_lt) ?_
  refine .step (reads_expectLine texts _) ?_
  refine .bind (reads_result texts entry.senderResult_fits hentry.senderMessage_le) ?_
  refine .step (reads_expectLine texts _) ?_
  refine .bind (reads_result texts entry.receiverResult_fits hentry.receiverMessage_le) ?_
  refine .step (reads_expectLine texts _) ?_
  simp only [UInt64.ofNat_toNat]
  refine reads_ensure hentry.sender ?_
  refine reads_ensure hentry.receiver ?_
  exact Reads.pure _

/-- An item as the older formats keep it. -/
def QueuedTransfer.legacy (item : QueuedTransfer Address) : QueuedTransfer Address :=
  { item with preserveDesktopLayout := false }

theorem reads_queueEntry (hlawful : texts.Lawful) {item : QueuedTransfer Address}
    (hitem : item.Writable) :
    Reads (decodeQueueEntry texts true) (encodeQueueEntry texts item) item.legacy := by
  have hkinds : (kindCodes item.request.kind).1 < 2 ^ 8 ∧
      (kindCodes item.request.kind).2 < 2 ^ 64 := by
    cases item.request.kind with
    | fresh => exact ⟨by decide, by decide⟩
    | resume dataStreamCount => exact ⟨show 1 < 2 ^ 8 by decide, dataStreamCount.toNat_lt⟩
  unfold decodeQueueEntry encodeQueueEntry
  refine .step (reads_expectLine texts _) ?_
  refine .step (reads_nextU64 texts _ (by decide) item.id.value_lt) ?_
  refine .lift (queuedTransferId_value item.id _) ?_
  refine .step (reads_nextU8 texts (by decide) hkinds.1) ?_
  refine .step (reads_nextU64 texts _ (by decide) hkinds.2) ?_
  refine .lift (decodeKind_codes hitem.kind_ne) ?_
  refine .step (reads_nextU8 texts (by decide) (by cases item.state <;> decide)) ?_
  refine .lift (decodeQueueState_code _) ?_
  refine .step (reads_nextRouteMode texts (by decide) _) ?_
  refine .step (reads_nextAddress texts hlawful (by decide) _ _) ?_
  refine .step (reads_nextAddress texts hlawful (by decide) _ _) ?_
  refine .step (reads_nextText texts (by decide) hitem.sourceRoot_le) ?_
  refine .step (reads_nextText texts (by decide) hitem.destinationRoot_le) ?_
  refine .step (reads_nextBool texts _ (by decide) _) ?_
  refine .step (reads_nextU64 texts _ (by decide) item.request.workerCount.toNat_lt) ?_
  refine .step (reads_nextU64 texts _ (by decide) item.request.calibrationMib.toNat_lt) ?_
  refine .step (reads_nextText texts (by decide) hitem.statusMessage_le) ?_
  refine .step (reads_expectLine texts _) ?_
  simp only [UInt64.ofNat_toNat]
  exact Reads.pure _

omit texts in
theorem reads_many {α β : Type} {decodeEntry : LineReader β} {encodeEntry : α → List (List Char)}
    {f : α → β} {entries : List α}
    (hentry : ∀ entry ∈ entries, Reads decodeEntry (encodeEntry entry) (f entry)) :
    Reads (decodeMany decodeEntry entries.length) (entries.flatMap encodeEntry)
      (entries.map f) := by
  induction entries with
  | nil => exact Reads.pure _
  | cons entry rest ih =>
    have hrest := ih (fun other hother => hentry other (List.mem_cons_of_mem _ hother))
    rw [List.flatMap_cons, ← List.append_nil (rest.flatMap encodeEntry)]
    exact .bind (hentry entry List.mem_cons_self) (.bind hrest (Reads.pure _))

/-! ## The active binding -/

variable (binding : Option ActiveQueueBinding) (id : AgentInstanceId)

omit texts in
theorem textBytes_length {text : List Char} (hascii : ∀ c ∈ text, c.toNat < 128) :
    (textBytes text).length = text.length := by
  induction text with
  | nil => rfl
  | cons c rest ih =>
    have hc : c.utf8Size = 1 :=
      Char.utf8Size_eq_one_iff.mpr (Nat.le_of_lt_succ (hascii c List.mem_cons_self))
    have hrest := ih (fun other hother => hascii other (List.mem_cons_of_mem _ hother))
    show (String.utf8EncodeChar c ++ textBytes rest).length = _
    rw [List.length_append, String.length_utf8EncodeChar, hc, hrest, List.length_cons,
      Nat.add_comm]

omit texts in
theorem AgentInstanceId.display_eq :
    id.display = List.replicate (32 - (Nat.toDigits 16 id.value).length) '0' ++
      (Nat.toDigits 16 id.value).map Char.toUpper := by
  simp [AgentInstanceId.display, hexUpper, List.leftpad]

omit texts in
theorem AgentInstanceId.length_display : id.display.length = 32 := by
  have hlength : (Nat.toDigits 16 id.value).length ≤ 32 :=
    Nat.toDigits_length 16 id.value 32 (by omega) (lt_of_lt_of_eq id.lt (by norm_num))
  rw [id.display_eq]
  simp only [List.length_append, List.length_replicate, List.length_map]
  omega

omit texts in
theorem AgentInstanceId.mem_display {id : AgentInstanceId} {c : Char} (hc : c ∈ id.display) :
    c.toNat < 128 ∧ isWhitespace c = false ∧ c ≠ '+' ∧ c ≠ '\n' ∧ c ≠ '\r' := by
  have hdigit : ∃ digit < 16, c = digit.digitChar.toUpper := by
    rw [id.display_eq, List.mem_append, List.mem_replicate, List.mem_map] at hc
    rcases hc with ⟨-, rfl⟩ | ⟨other, hother, rfl⟩
    · exact ⟨0, by omega, rfl⟩
    · obtain ⟨digit, hlt, rfl⟩ := exists_digit_of_mem_toDigits (by omega) hother
      exact ⟨digit, hlt, rfl⟩
  obtain ⟨digit, hlt, rfl⟩ := hdigit
  interval_cases digit <;> decide

omit texts in
theorem trim_eq_self {text : List Char} (htext : ∀ c ∈ text, isWhitespace c = false) :
    trim text = text := by
  unfold trim
  have hfront : text.dropWhile isWhitespace = text := by
    cases text with
    | nil => rfl
    | cons c rest =>
      rw [List.dropWhile_cons_of_neg]
      rw [htext c List.mem_cons_self]
      exact Bool.false_ne_true
  rw [hfront, List.rdropWhile_eq_self_iff]
  intro hne
  rw [htext _ (List.getLast_mem hne)]
  exact Bool.false_ne_true

omit texts in
theorem AgentInstanceId.fromStr_display :
    AgentInstanceId.fromStr id.display = .ok id := by
  have htrim : trim id.display = id.display :=
    trim_eq_self fun c hc => (AgentInstanceId.mem_display hc).2.1
  have hbytes : (textBytes id.display).length = 32 := by
    rw [textBytes_length fun c hc => (AgentInstanceId.mem_display hc).1, id.length_display]
  have hdigits : parseDigits 16 (2 ^ 128) 0 id.display = .ok id.value := by
    rw [id.display_eq, parseDigits_replicate (by omega) (by omega)]
    exact parseDigits_toDigits (by omega) (by decide) id.lt
  have hparse : parseUnsigned 16 (2 ^ 128) id.display = .ok id.value := by
    refine parseUnsigned_of_digit ?_ ?_ hdigits
    · intro hnil
      have hlength := id.length_display
      rw [hnil] at hlength
      cases hlength
    · intro hhead
      exact (AgentInstanceId.mem_display (List.mem_of_head? hhead)).2.2.1 rfl
  unfold AgentInstanceId.fromStr
  simp only [htrim, hbytes, hparse, ne_eq, not_true_eq_false, if_false]
  rw [dif_pos ⟨id.pos, id.lt⟩]

theorem reads_nextInstance (hkey : ' ' ∉ key.toList) (id : AgentInstanceId) :
    Reads (nextInstance texts key) [key.toList ++ ' ' :: id.display] id := by
  refine .step (reads_requiredLine _ _) ?_
  refine .lift (fieldValue_field texts _ hkey _) ?_
  rw [id.fromStr_display]
  exact Reads.pure _

/-- The binding of a queue is read back from its block. -/
theorem reads_activeBinding :
    Reads (decodeActiveBinding texts) (encodeActiveBinding binding) binding := by
  cases binding with
  | none =>
    exact .step (reads_nextBool texts bindingSubject (by decide) false) (Reads.pure _)
  | some binding =>
    have hsender : binding.senderJobId < 2 ^ 64 := by
      simpa [u64Limit] using binding.senderJobId_lt
    have hreceiver : binding.receiverJobId < 2 ^ 64 := by
      simpa [u64Limit] using binding.receiverJobId_lt
    refine .step (reads_nextBool texts bindingSubject (by decide) true) ?_
    rw [if_pos rfl]
    refine .step (reads_nextU64 texts _ (by decide) binding.queueId.value_lt) ?_
    refine .lift (queuedTransferId_value binding.queueId _) ?_
    refine .step (reads_nextInstance texts (by decide) _) ?_
    refine .step (reads_nextU64 texts _ (by decide) hsender) ?_
    refine .step (reads_nextInstance texts (by decide) _) ?_
    refine .step (reads_nextU64 texts _ (by decide) hreceiver) ?_
    have hsenderId : (UInt64.ofNat binding.senderJobId).toNat = binding.senderJobId :=
      UInt64.toNat_ofNat_of_lt hsender
    have hreceiverId : (UInt64.ofNat binding.receiverJobId).toNat = binding.receiverJobId :=
      UInt64.toNat_ofNat_of_lt hreceiver
    have hnew : ActiveQueueBinding.new binding.queueId binding.senderInstanceId
        (UInt64.ofNat binding.senderJobId) binding.receiverInstanceId
        (UInt64.ofNat binding.receiverJobId) = .ok binding := by
      unfold ActiveQueueBinding.new
      simp only [hsenderId, hreceiverId]
      rw [dif_pos binding.senderJobId_pos, dif_pos binding.receiverJobId_pos]
    exact .lift hnew (Reads.pure _)

/-! ## The legacy part of a state -/

/-- A queue as the formats up to 3 keep it. -/
def TransferQueue.legacy (queue : TransferQueue Address) : TransferQueue Address :=
  { queue with
    items := queue.items.map QueuedTransfer.legacy
    activeBinding := none }

variable [DecidableEq Address]

omit texts in
theorem TransferQueue.Valid.legacy {queue : TransferQueue Address} (hqueue : queue.Valid) :
    queue.legacy.Valid := by
  have hids : queue.legacy.ids = queue.ids := by
    show (queue.items.map QueuedTransfer.legacy).map _ = queue.items.map _
    rw [List.map_map]
    rfl
  refine ⟨hqueue.nextId_pos, ?_, ?_, hids ▸ hqueue.nodup, ?_, ?_⟩
  · show (queue.items.map QueuedTransfer.legacy).length ≤ maxQueueEntries
    rw [List.length_map]
    exact hqueue.length_le
  · intro item hitem
    obtain ⟨original, hmem, rfl⟩ := List.mem_map.mp hitem
    exact hqueue.below original hmem
  · intro item hitem
    obtain ⟨original, hmem, rfl⟩ := List.mem_map.mp hitem
    exact hqueue.items original hmem
  · intro binding hbinding
    cases hbinding

theorem reads_queue (hlawful : texts.Lawful) {queue : TransferQueue Address}
    (hqueue : queue.Valid) :
    Reads (decodeQueue texts true) (encodeQueue texts queue) queue.legacy := by
  have hnext : queue.nextId < 2 ^ 64 := by simpa [u64Limit] using queue.nextId_lt
  have hlength : queue.items.length < 2 ^ 64 := by
    have := hqueue.length_le
    simp only [maxQueueEntries] at this
    omega
  have hcount : (UInt64.ofNat queue.items.length).toNat = queue.items.length :=
    UInt64.toNat_ofNat_of_lt hlength
  have hnextId : (UInt64.ofNat queue.nextId).toNat = queue.nextId :=
    UInt64.toNat_ofNat_of_lt hnext
  unfold decodeQueue encodeQueue
  simp only [List.cons_append, List.nil_append]
  refine .step (reads_nextU64 texts _ (by decide) hnext) ?_
  refine .step (reads_nextBool texts _ (by decide) _) ?_
  refine .step (reads_nextU64 texts _ (by decide) hlength) ?_
  simp only [hcount, hnextId]
  refine reads_ensure hqueue.length_le ?_
  rw [← List.append_nil (queue.items.flatMap _)]
  refine .bind (reads_many fun item hitem =>
    reads_queueEntry texts hlawful
      (QueuedTransfer.writable_of_validate (hqueue.items item hitem))) ?_
  have hvalid : queue.legacy.validate = .ok () :=
    TransferQueue.validate_eq_ok.mpr hqueue.legacy
  have hchecked : fromText .invalidData queue.legacy.validate = .ok () := by
    rw [hvalid]
    rfl
  exact .lift hchecked (Reads.pure _)

/-- A state as `encode_state` writes it. -/
def ManagerPersistedState.legacy (state : ManagerPersistedState Address) :
    ManagerPersistedState Address :=
  { state with queue := state.queue.legacy }

omit texts in
theorem ManagerPersistedState.Valid.legacy (hstate : state.Valid) : state.legacy.Valid :=
  { hstate with queue := hstate.queue.legacy }

/-- The lines of `encode_state` after the first one. -/
def stateLines (state : ManagerPersistedState Address) : List (List Char) :=
  encodeSettings state ++ encodeQueue texts state.queue ++ encodeHistory texts state.history

theorem decodeStateLines_stateLines (hlawful : texts.Lawful) (hstate : state.Valid) :
    (decodeStateLines texts).run' (stateMagicV3 :: stateLines texts state) =
      .ok state.legacy := by
  have hhistory : state.history.length < 2 ^ 64 := by
    have := hstate.history_le
    simp only [maxHistoryEntries] at this
    omega
  have hcount : (UInt64.ofNat state.history.length).toNat = state.history.length :=
    UInt64.toNat_ofNat_of_lt hhistory
  have hformat : stateFormat texts stateMagicV3 = .ok ⟨true, true⟩ := rfl
  have hvalid : invalidData (validateState state.legacy) = .ok () := by
    rw [validateState_eq_ok (u := ()).mpr hstate.legacy]
    rfl
  have hqueue := reads_queue texts hlawful hstate.queue
  have hentries := reads_many (f := id) fun entry hentry =>
    reads_historyEntry texts hlawful (hstate.history entry hentry)
  unfold decodeStateLines decodeStateBody stateLines encodeSettings encodeHistory
  simp only [List.cons_append, List.nil_append]
  refine Finishes.run' ?_
  refine .step (reads_requiredLine _ _) ?_
  refine .lift hformat ?_
  refine .step (reads_nextText texts (by decide) hstate.senderAgent_le) ?_
  refine .step (reads_nextText texts (by decide) hstate.receiverAgent_le) ?_
  refine .step (reads_nextText texts (by decide) hstate.sourceRoot_le) ?_
  refine .step (reads_nextText texts (by decide) hstate.destinationRoot_le) ?_
  refine .step (reads_nextU64 texts _ (by decide) state.workerCount.toNat_lt) ?_
  refine .step (reads_nextU64 texts _ (by decide) state.calibrationMib.toNat_lt) ?_
  refine .step (reads_nextBool texts _ (by decide) _) ?_
  refine .step (reads_nextRouteMode texts (by decide) _) ?_
  refine .bind hqueue ?_
  refine .step (reads_nextU64 texts _ (by decide) hhistory) ?_
  simp only [hcount, UInt64.ofNat_toNat]
  refine .lift (ensure_eq_ok (u := ()).mpr hstate.history_le) ?_
  refine .bind hentries ?_
  refine .step (reads_expectLine texts _) ?_
  rw [List.map_id]
  show Finishes (liftM (invalidData (validateState state.legacy)) >>= fun _ =>
    pure state.legacy) [] state.legacy
  exact .lift hvalid rfl

/-! ## The keys of the lines -/

variable {keys : List String}
variable (item : QueuedTransfer Address)

/-- Keys without spaces and ends of lines. -/
def CleanKeys (keys : List String) : Prop :=
  ∀ key ∈ keys, Plain key.toList ∧ ' ' ∉ key.toList

/-- A line that can be read back and has one of these keys. -/
def Keyed (keys : List String) (line : List Char) : Prop :=
  Plain line ∧ ∃ key ∈ keys, lineKey line = key.toList

omit texts in
theorem keyed_word (hkeys : CleanKeys keys) {word : String} (hword : word ∈ keys) :
    Keyed keys word.toList := by
  obtain ⟨hplain, hspace⟩ := hkeys word hword
  refine ⟨hplain, word, hword, ?_⟩
  unfold lineKey
  rw [List.takeWhile_eq_self_iff]
  intro c hc
  have hne : c ≠ ' ' := fun h => hspace (h ▸ hc)
  simpa using hne

omit texts in
theorem keyed_field (hkeys : CleanKeys keys) (hkey : key ∈ keys) {value : List Char}
    (hvalue : Plain value) :
    Keyed keys (key.toList ++ ' ' :: value) := by
  obtain ⟨hplain, hspace⟩ := hkeys key hkey
  refine ⟨hplain.append ?_, key, hkey, lineKey_field hspace value⟩
  intro c hc
  rcases List.mem_cons.mp hc with rfl | hmem
  · decide
  · exact hvalue c hmem

omit texts in
theorem keyed_text (hkeys : CleanKeys keys) {key value : String} (hkey : key ∈ keys) :
    Keyed keys (textField key value) :=
  keyed_field hkeys hkey (plain_hexEncode _)

omit texts in
theorem keyed_number (hkeys : CleanKeys keys) (hkey : key ∈ keys) :
    Keyed keys (numberField key value) :=
  keyed_field hkeys hkey (plain_toDigits _)

omit texts in
/-- A key that is none of the keys starts none of the lines. -/
theorem not_isPrefixOf (wanted : String) (hwanted : wanted ∉ keys)
    (hspace : ' ' ∉ wanted.toList) {line : List Char} (hline : Keyed keys line) :
    (wanted.toList ++ [' ']).isPrefixOf line = false := by
  obtain ⟨-, key, hmem, hkey⟩ := hline
  refine isPrefixOf_of_lineKey_ne hspace fun hsame => hwanted ?_
  have heq : key = wanted := String.toList_inj.mp (hkey.symm.trans hsame)
  exact heq ▸ hmem

/-- The keys of the settings. -/
def settingsKeys : List String :=
  [ "sender_agent", "receiver_agent", "source_root", "destination_root", "worker_count",
    "calibration_mib", "update_existing", "route_mode" ]

/-- The keys of a queue entry up to `queue_update_existing`. -/
def entryFrontKeys : List String :=
  [ "queue_begin", "queue_id", "queue_kind", "queue_resume_stream_count", "queue_state",
    "queue_route_mode", "queue_sender_agent", "queue_receiver_agent", "queue_source_root",
    "queue_destination_root" ]

/-- The keys of a queue entry after `queue_update_existing`. -/
def entryBackKeys : List String :=
  ["queue_worker_count", "queue_calibration_mib", "queue_status_message", "queue_end"]

/-- The keys of the queue. -/
def queueHeaderKeys : List String := ["queue_next_id", "queue_paused_after_current", "queue_count"]

/-- The keys of a binding block. -/
def bindingKeys : List String :=
  [ "active_binding_queue_id", "active_binding_sender_instance", "active_binding_sender_job_id",
    "active_binding_receiver_instance", "active_binding_receiver_job_id" ]

/-- The keys of the history after `history_count`. -/
def historyKeys : List String :=
  [ "history_begin", "sender_agent", "sender_job_id", "receiver_agent", "receiver_job_id",
    "receiver_payload", "source_root", "destination_root", "update_existing", "worker_count",
    "calibration_mib", "sender_result", "receiver_result", "history_end", "role", "outcome",
    "job_id", "files", "logical_bytes", "wire_bytes", "data_stream_count", "message", "end" ]

theorem cleanKeys_settings : CleanKeys settingsKeys := by
  simp [CleanKeys, settingsKeys, Plain]

theorem cleanKeys_entryFront : CleanKeys entryFrontKeys := by
  simp [CleanKeys, entryFrontKeys, Plain]

theorem cleanKeys_entryBack : CleanKeys entryBackKeys := by
  simp [CleanKeys, entryBackKeys, Plain]

theorem cleanKeys_queueHeader : CleanKeys queueHeaderKeys := by
  simp [CleanKeys, queueHeaderKeys, Plain]

theorem cleanKeys_binding : CleanKeys bindingKeys := by
  simp [CleanKeys, bindingKeys, Plain]

theorem cleanKeys_history : CleanKeys historyKeys := by
  simp [CleanKeys, historyKeys, Plain]

omit texts [DecidableEq Address] in
theorem keyed_settings (state : ManagerPersistedState Address) :
    ∀ line ∈ encodeSettings state, Keyed settingsKeys line := by
  simp (disch := decide) only [encodeSettings, boolField, List.forall_mem_cons, List.not_mem_nil,
    keyed_text cleanKeys_settings, keyed_number cleanKeys_settings, and_true, false_imp_iff,
    implies_true]

/-- The lines of an item before `queue_update_existing`. -/
def entryFront (item : QueuedTransfer Address) : List (List Char) :=
  (encodeQueueEntry texts item).take 10

/-- The lines of an item after `queue_update_existing`. -/
def entryBack (item : QueuedTransfer Address) : List (List Char) :=
  (encodeQueueEntry texts item).drop 11

omit [DecidableEq Address] in
theorem encodeQueueEntry_eq :
    encodeQueueEntry texts item = entryFront texts item ++
      boolField "queue_update_existing" item.request.updateExisting :: entryBack texts item := rfl

omit [DecidableEq Address] in
theorem keyed_entryFront :
    ∀ line ∈ entryFront texts item, Keyed entryFrontKeys line := by
  simp (disch := decide) only [entryFront, encodeQueueEntry, List.take_succ_cons, List.take_zero,
    List.forall_mem_cons, List.not_mem_nil, keyed_word cleanKeys_entryFront,
    keyed_number cleanKeys_entryFront, keyed_text cleanKeys_entryFront, and_true, false_imp_iff,
    implies_true]

omit [DecidableEq Address] in
theorem keyed_entryBack :
    ∀ line ∈ entryBack texts item, Keyed entryBackKeys line := by
  simp (disch := decide) only [entryBack, encodeQueueEntry, List.drop_succ_cons, List.drop_zero,
    List.forall_mem_cons, List.not_mem_nil, keyed_word cleanKeys_entryBack,
    keyed_number cleanKeys_entryBack, keyed_text cleanKeys_entryBack, and_true, false_imp_iff,
    implies_true]

omit texts in
theorem keyed_result (result : ManagementJobResult) :
    ∀ line ∈ encodeResult result, Keyed historyKeys line := by
  simp (disch := decide) only [encodeResult, List.forall_mem_cons, List.not_mem_nil,
    keyed_number cleanKeys_history, keyed_text cleanKeys_history, and_true, false_imp_iff,
    implies_true]

omit [DecidableEq Address] in
theorem keyed_historyEntry (entry : ManagerHistoryEntry Address) :
    ∀ line ∈ encodeHistoryEntry texts entry, Keyed historyKeys line := by
  have hresult := fun result : ManagementJobResult => eq_true (keyed_result result)
  simp (disch := decide) only [encodeHistoryEntry, boolField, List.forall_mem_append,
    List.forall_mem_cons, List.not_mem_nil, keyed_word cleanKeys_history,
    keyed_number cleanKeys_history, keyed_text cleanKeys_history, hresult, and_true,
    false_imp_iff, implies_true]

omit texts in
theorem keyed_activeBinding :
    ∃ value rest, encodeActiveBinding binding =
        numberField "active_binding_present" value :: rest ∧
      ∀ line ∈ rest, Keyed bindingKeys line := by
  cases binding with
  | none => exact ⟨0, [], rfl, fun _ h => absurd h List.not_mem_nil⟩
  | some binding =>
    refine ⟨1, _, rfl, ?_⟩
    have hinstance : ∀ {key : String} (id : AgentInstanceId), key ∈ bindingKeys →
        Keyed bindingKeys (key.toList ++ ' ' :: id.display) := fun id hkey =>
      keyed_field cleanKeys_binding hkey (fun c hc => (AgentInstanceId.mem_display hc).2.2.2)
    simp (disch := decide) only [List.forall_mem_cons, List.not_mem_nil,
      keyed_number cleanKeys_binding, hinstance, and_true, false_imp_iff, implies_true]

end

end NetworkCopy
