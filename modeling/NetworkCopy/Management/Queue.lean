import NetworkCopy.IoResult

/-!
# The transfer queue of the manager

`TransferQueue` keeps the transfers that a user has queued, and the binding of the queue to
the two endpoint jobs of the transfer that is running.  Every operation is modelled with the
queue that it leaves, also when it returns an error, `false` or `None`.

`validate` is what a persisted queue must pass; the whole state file is rejected otherwise.
`Valid` says in one structure what it accepts.  `Step` says once what an operation can do;
everything about runs is derived from it.
-/

namespace NetworkCopy

/-- `MAX_QUEUE_ENTRIES`. -/
def maxQueueEntries : Nat := 256

/-- `MAX_QUEUE_TEXT_BYTES`. -/
def maxQueueTextBytes : Nat := 64 * 1024

/-! ## Texts -/

/-- `char::is_whitespace`: the characters with the property `White_Space`. -/
def isWhitespace (c : Char) : Bool :=
  (0x9 ≤ c.toNat && c.toNat ≤ 0xD) || c.toNat == 0x20 || c.toNat == 0x85 || c.toNat == 0xA0 ||
    c.toNat == 0x1680 || (0x2000 ≤ c.toNat && c.toNat ≤ 0x200A) || c.toNat == 0x2028 ||
    c.toNat == 0x2029 || c.toNat == 0x202F || c.toNat == 0x205F || c.toNat == 0x3000

/-- `if !condition { return Err(message) }` in a function with a text as error. -/
def check (condition : Prop) [Decidable condition] (message : String) : Except String Unit :=
  if condition then .ok () else .error message

@[simp] theorem check_eq_ok {condition : Prop} [Decidable condition] {message : String}
    {u : Unit} : check condition message = .ok u ↔ condition := by
  unfold check
  split <;> simp_all

theorem checks_eq_ok {α β : Type} {x : Except String α} {f : α → Except String β} {b : β} :
    (x >>= f) = .ok b ↔ ∃ a, x = .ok a ∧ f a = .ok b := by
  cases x with
  | error e => simp [bind, Except.bind]
  | ok a => simp [bind, Except.bind]

/-- `validate_optional_text`. -/
def validateOptionalText (value description : String) : Except String Unit :=
  let length := value.utf8ByteSize
  check (length ≤ maxQueueTextBytes)
    s!"{description} contains {length} bytes, exceeding the {maxQueueTextBytes} byte limit"

/-- `validate_required_text`. -/
def validateRequiredText (value description : String) : Except String Unit := do
  check (¬ (value.toList.all isWhitespace = true)) s!"{description} must not be empty"
  validateOptionalText value description

/-! ## Queued transfers -/

/-- `QueuedTransferId`: a `u64` that is not zero. -/
@[ext] structure QueuedTransferId where
  value : Nat
  pos : 0 < value
  lt : value < u64Limit

instance : DecidableEq QueuedTransferId := fun _ _ =>
  decidable_of_iff' _ QueuedTransferId.ext_iff

/-- `QueuedTransferId::from_raw`. -/
def QueuedTransferId.fromRaw (value : Nat) (h : value < u64Limit) : Option QueuedTransferId :=
  if hzero : 0 < value then some ⟨value, hzero, h⟩ else none

/-- `QueuedTransferKind`. -/
inductive QueuedTransferKind where
  | fresh
  | resume (dataStreamCount : UInt64)
  deriving DecidableEq

/-- `QueuedTransferState`. -/
inductive QueuedTransferState where
  | pending
  | running
  | blocked
  | failed
  | completed
  | cancelled
  deriving DecidableEq

/-- `may_retain_active_binding`. -/
def QueuedTransferState.mayRetainActiveBinding : QueuedTransferState → Bool
  | .running | .blocked => true
  | _ => false

/-- `{:?}` of a state. -/
def QueuedTransferState.debug : QueuedTransferState → String
  | .pending => "Pending"
  | .running => "Running"
  | .blocked => "Blocked"
  | .failed => "Failed"
  | .completed => "Completed"
  | .cancelled => "Cancelled"

/-- `ManagementRouteMode`. -/
inductive ManagementRouteMode where
  | automaticLan
  | directLink
  | explicitIp
  deriving DecidableEq

/-- `QueuedTransferRequest`.  `Address` is the type of socket addresses. -/
structure QueuedTransferRequest (Address : Type) where
  senderAgent : Address
  receiverAgent : Address
  routeMode : ManagementRouteMode
  sourceRoot : String
  destinationRoot : String
  updateExisting : Bool
  workerCount : UInt64
  calibrationMib : UInt64
  kind : QueuedTransferKind
  deriving DecidableEq

/-- `QueuedTransfer`. -/
structure QueuedTransfer (Address : Type) where
  id : QueuedTransferId
  request : QueuedTransferRequest Address
  preserveDesktopLayout : Bool
  state : QueuedTransferState
  statusMessage : String
  deriving DecidableEq

/-- `AgentInstanceId`: a `u128` that is not zero. -/
@[ext] structure AgentInstanceId where
  value : Nat
  pos : 0 < value
  lt : value < 2 ^ 128

instance : DecidableEq AgentInstanceId := fun _ _ =>
  decidable_of_iff' _ AgentInstanceId.ext_iff

/-- `ActiveQueueBinding`.  Every binding is made by `ActiveQueueBinding::new`, which rejects
job IDs that are zero. -/
@[ext] structure ActiveQueueBinding where
  queueId : QueuedTransferId
  senderInstanceId : AgentInstanceId
  senderJobId : Nat
  receiverInstanceId : AgentInstanceId
  receiverJobId : Nat
  senderJobId_pos : 0 < senderJobId
  receiverJobId_pos : 0 < receiverJobId
  senderJobId_lt : senderJobId < u64Limit
  receiverJobId_lt : receiverJobId < u64Limit

instance : DecidableEq ActiveQueueBinding := fun _ _ =>
  decidable_of_iff' _ ActiveQueueBinding.ext_iff

/-- `TransferQueue`. -/
@[ext] structure TransferQueue (Address : Type) where
  nextId : Nat
  nextId_lt : nextId < u64Limit
  pausedAfterCurrent : Bool
  items : List (QueuedTransfer Address)
  activeBinding : Option ActiveQueueBinding

instance {Address : Type} [DecidableEq Address] : DecidableEq (TransferQueue Address) :=
  fun _ _ => decidable_of_iff' _ TransferQueue.ext_iff

section

variable {Address : Type} [DecidableEq Address]

/-- `QueuedTransferRequest::validate`. -/
def QueuedTransferRequest.validate (request : QueuedTransferRequest Address) :
    Except String Unit := do
  check (request.senderAgent ≠ request.receiverAgent)
    "queued sender and receiver agents must be different"
  validateRequiredText request.sourceRoot "queued source root"
  validateRequiredText request.destinationRoot "queued destination root"
  check (request.workerCount ≠ 0) "queued worker count must not be zero"
  check (request.calibrationMib ≠ 0) "queued calibration size must not be zero"
  check (request.kind ≠ .resume 0) "queued resume stream count must not be zero"

/-- `QueuedTransfer::validate`. -/
def QueuedTransfer.validate (item : QueuedTransfer Address) : Except String Unit := do
  item.request.validate
  validateOptionalText item.statusMessage "queue status message"

end

/-! ## The queue -/

namespace TransferQueue

variable {Address : Type}

/-- `TransferQueue::default`. -/
def default : TransferQueue Address where
  nextId := 1
  nextId_lt := by norm_num [u64Limit]
  pausedAfterCurrent := false
  items := []
  activeBinding := none

/-- `is_bound`. -/
def isBound (queue : TransferQueue Address) (id : QueuedTransferId) : Bool :=
  queue.activeBinding.any (fun binding => binding.queueId = id)

/-- `items.iter().position(|item| item.id == id)`. -/
def position (queue : TransferQueue Address) (id : QueuedTransferId) : Option Nat :=
  queue.items.findIdx? (fun item => item.id = id)

/-- `items.iter().find(|item| item.id == id)`. -/
def find (queue : TransferQueue Address) (id : QueuedTransferId) :
    Option (QueuedTransfer Address) :=
  queue.items.find? (fun item => item.id = id)

end TransferQueue

/-- `ActiveQueueBinding::validate_for_queue`, with the text of its error. -/
def ActiveQueueBinding.validateForQueue {Address : Type} (binding : ActiveQueueBinding)
    (queue : TransferQueue Address) : Except String Unit :=
  let queueId := binding.queueId.value
  match queue.find binding.queueId with
  | none => .error s!"active queue binding references missing transfer #{queueId}"
  | some item =>
      let state := item.state.debug
      check (item.state = .running ∨ item.state = .blocked)
        (s!"active queue binding references transfer #{queueId} in {state} state; only " ++
          "Running or Blocked items may retain endpoint jobs")

namespace TransferQueue

variable {Address : Type} [DecidableEq Address]

/-- The loop of `validate` over the items. -/
def validateItems (nextId : Nat) : List (QueuedTransfer Address) → Finset QueuedTransferId →
    Except String Unit
  | [], _ => .ok ()
  | item :: rest, ids => do
      let id := item.id.value
      check (id < nextId) s!"queued transfer {id} is not below next queue ID {nextId}"
      check (item.id ∉ ids) s!"transfer queue contains duplicate ID {id}"
      item.validate
      validateItems nextId rest (insert item.id ids)

/-- `validate`. -/
def validate (queue : TransferQueue Address) : Except String Unit := do
  check (queue.nextId ≠ 0) "transfer queue next ID must not be zero"
  let length := queue.items.length
  check (length ≤ maxQueueEntries)
    (s!"transfer queue contains {length} items, exceeding the {maxQueueEntries} item " ++
      "limit")
  validateItems queue.nextId queue.items ∅
  match queue.activeBinding with
  | none => .ok ()
  | some binding => binding.validateForQueue queue

/-! ## Operations -/

/-- `add_with_desktop_layout`. -/
def addWithDesktopLayout (queue : TransferQueue Address)
    (request : QueuedTransferRequest Address) (preserveDesktopLayout : Bool) :
    Except String QueuedTransferId × TransferQueue Address :=
  match request.validate with
  | .error error => (.error error, queue)
  | .ok () =>
      if maxQueueEntries ≤ queue.items.length then
        (.error s!"transfer queue already contains the maximum of {maxQueueEntries} items", queue)
      else match QueuedTransferId.fromRaw queue.nextId queue.nextId_lt with
        | none => (.error "transfer queue next ID must not be zero", queue)
        | some id =>
            if hnext : queue.nextId + 1 < u64Limit then
              (.ok id, { queue with
                items := queue.items ++ [{
                  id
                  request
                  preserveDesktopLayout
                  state := .pending
                  statusMessage := "" }]
                nextId := queue.nextId + 1
                nextId_lt := hnext })
            else (.error "transfer queue ID space is exhausted", queue)

section

omit [DecidableEq Address]

/-- `items.swap(index, index + 1)`. -/
def swapAt (items : List (QueuedTransfer Address)) (index : Nat) : List (QueuedTransfer Address) :=
  match items.drop index with
  | first :: second :: rest => items.take index ++ second :: first :: rest
  | _ => items

/-- What `move_up` and `move_down` do with the items at `index` and `index + 1`: neither may
be bound or running. -/
def swapNeighbours (queue : TransferQueue Address) (index : Nat) :
    Bool × TransferQueue Address :=
  match queue.items.drop index with
  | first :: second :: _ =>
      if queue.isBound first.id ∨ queue.isBound second.id ∨ first.state = .running ∨
          second.state = .running then (false, queue)
      else (true, { queue with items := swapAt queue.items index })
  | _ => (false, queue)

/-- `move_up`. -/
def moveUp (queue : TransferQueue Address) (id : QueuedTransferId) :
    Bool × TransferQueue Address :=
  match queue.position id with
  | none => (false, queue)
  | some 0 => (false, queue)
  | some (index + 1) => queue.swapNeighbours index

/-- `move_down`. -/
def moveDown (queue : TransferQueue Address) (id : QueuedTransferId) :
    Bool × TransferQueue Address :=
  match queue.position id with
  | none => (false, queue)
  | some index => queue.swapNeighbours index

/-- `remove`. -/
def remove (queue : TransferQueue Address) (id : QueuedTransferId) :
    Option (QueuedTransfer Address) × TransferQueue Address :=
  match queue.position id with
  | none => (none, queue)
  | some index =>
      match queue.items[index]? with
      | none => (none, queue)
      | some item =>
          if queue.isBound id ∨ item.state = .running then (none, queue)
          else (some item, { queue with items := queue.items.eraseIdx index })

/-- `clear_completed`. -/
def clearCompleted (queue : TransferQueue Address) : Nat × TransferQueue Address :=
  let items := queue.items.filter
    (fun item => item.state ≠ .completed ∨ queue.isBound item.id)
  (queue.items.length - items.length, { queue with items })

/-- The first item with an ID gets a state and a message. -/
def update (queue : TransferQueue Address) (index : Nat) (state : QueuedTransferState)
    (statusMessage : String) : TransferQueue Address :=
  { queue with
    items := queue.items.modify index (fun item => { item with state, statusMessage }) }

/-- `set_state`. -/
def setState (queue : TransferQueue Address) (id : QueuedTransferId)
    (state : QueuedTransferState) (statusMessage : String) :
    Except String Unit × TransferQueue Address :=
  match validateOptionalText statusMessage "queue status message" with
  | .error error => (.error error, queue)
  | .ok () =>
      match queue.position id with
      | none =>
          let value := id.value
          (.error s!"queued transfer {value} does not exist", queue)
      | some index =>
          let updated := queue.update index state statusMessage
          if state.mayRetainActiveBinding = false ∧ queue.isBound id then
            (.ok (), { updated with activeBinding := none })
          else (.ok (), updated)

/-- What `reset_to_pending` and `skip` do with the first item that has the ID. -/
def updateUnbound (queue : TransferQueue Address) (id : QueuedTransferId)
    (may : QueuedTransferState → Bool) (state : QueuedTransferState) (statusMessage : String) :
    Bool × TransferQueue Address :=
  if queue.isBound id then (false, queue)
  else match queue.position id with
    | none => (false, queue)
    | some index =>
        match queue.items[index]? with
        | none => (false, queue)
        | some item =>
            if may item.state then (true, queue.update index state statusMessage)
            else (false, queue)

/-- `reset_to_pending`. -/
def resetToPending (queue : TransferQueue Address) (id : QueuedTransferId) :
    Bool × TransferQueue Address :=
  queue.updateUnbound id (fun state => match state with
    | .pending | .running => false
    | _ => true) .pending ""

/-- `skip`. -/
def skip (queue : TransferQueue Address) (id : QueuedTransferId) :
    Bool × TransferQueue Address :=
  queue.updateUnbound id (fun state => match state with
    | .pending | .blocked | .failed => true
    | _ => false) .cancelled "Skipped by user."

/-- `set_active_binding`. -/
def setActiveBinding (queue : TransferQueue Address) (binding : ActiveQueueBinding) :
    Except String Unit × TransferQueue Address :=
  match queue.activeBinding with
  | some existing =>
      if existing = binding then (.ok (), queue)
      else
        let queueId := existing.queueId.value
        (.error
          s!"transfer queue already retains an active binding for transfer #{queueId}", queue)
  | none =>
      match binding.validateForQueue queue with
      | .error error => (.error error, queue)
      | .ok () => (.ok (), { queue with activeBinding := some binding })

/-- `clear_active_binding`. -/
def clearActiveBinding (queue : TransferQueue Address) :
    Option ActiveQueueBinding × TransferQueue Address :=
  (queue.activeBinding, { queue with activeBinding := none })

/-- `set_paused_after_current`. -/
def setPausedAfterCurrent (queue : TransferQueue Address) (paused : Bool) :
    TransferQueue Address :=
  { queue with pausedAfterCurrent := paused }

end

end TransferQueue

/-- A call of an operation. -/
inductive QueueOperation (Address : Type) where
  | addWithDesktopLayout (request : QueuedTransferRequest Address) (preserveDesktopLayout : Bool)
  | moveUp (id : QueuedTransferId)
  | moveDown (id : QueuedTransferId)
  | remove (id : QueuedTransferId)
  | clearCompleted
  | setState (id : QueuedTransferId) (state : QueuedTransferState) (statusMessage : String)
  | resetToPending (id : QueuedTransferId)
  | skip (id : QueuedTransferId)
  | setActiveBinding (binding : ActiveQueueBinding)
  | clearActiveBinding
  | setPausedAfterCurrent (paused : Bool)

/-- What an operation returns. -/
inductive QueueResult (Address : Type) where
  | added (result : Except String QueuedTransferId)
  | removed (item : Option (QueuedTransfer Address))
  | cleared (count : Nat)
  | result (result : Except String Unit)
  | changed (result : Bool)
  | binding (binding : Option ActiveQueueBinding)
  | unit

/-- An error, `false`, or no removed item. -/
def QueueResult.failed {Address : Type} : QueueResult Address → Bool
  | .added (.error _) | .result (.error _) | .changed false | .removed none => true
  | _ => false

/-- The ID of a new item. -/
def QueueResult.newId {Address : Type} : QueueResult Address → Option QueuedTransferId
  | .added (.ok id) => some id
  | _ => none

/-- The operation on a queue. -/
def QueueOperation.run {Address : Type} [DecidableEq Address] (queue : TransferQueue Address) :
    QueueOperation Address → QueueResult Address × TransferQueue Address
  | .addWithDesktopLayout request preserveDesktopLayout =>
      (queue.addWithDesktopLayout request preserveDesktopLayout).map .added id
  | .moveUp id => (queue.moveUp id).map .changed (fun queue => queue)
  | .moveDown id => (queue.moveDown id).map .changed (fun queue => queue)
  | .remove id => (queue.remove id).map .removed (fun queue => queue)
  | .clearCompleted => queue.clearCompleted.map .cleared id
  | .setState id state statusMessage =>
      (queue.setState id state statusMessage).map .result (fun queue => queue)
  | .resetToPending id => (queue.resetToPending id).map .changed (fun queue => queue)
  | .skip id => (queue.skip id).map .changed (fun queue => queue)
  | .setActiveBinding binding => (queue.setActiveBinding binding).map .result id
  | .clearActiveBinding => queue.clearActiveBinding.map .binding id
  | .setPausedAfterCurrent paused => (.unit, queue.setPausedAfterCurrent paused)

/-- The queue after a sequence of operations, and what they returned. -/
def TransferQueue.runAll {Address : Type} [DecidableEq Address] :
    List (QueueOperation Address) → TransferQueue Address →
    List (QueueResult Address) × TransferQueue Address
  | [], queue => ([], queue)
  | operation :: rest, queue =>
      let step := operation.run queue
      let last := TransferQueue.runAll rest step.2
      (step.1 :: last.1, last.2)

end NetworkCopy
