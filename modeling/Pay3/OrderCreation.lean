import Pay3.ManualVerify
import Pay3.OrderRequests
import Pay3.ReadCommitted

/-!
# Orders created at the same time

`create_order_for_owner` is a sequence of steps, with other requests running
between any two of them. It looks the external id up, asks the chain for its
head, takes a derivation segment, has the address derived, and only then begins
the transaction that stores the order; after it, the view is read for the
answer. A request can be lost at any point, and a segment it has taken by then
is used up.

The transaction is one of `READ COMMITTED`. It takes an advisory lock on the hash
of its owner and external id, reads whether there is an order under them, and
otherwise inserts three rows. Two keys with one hash share a lock. A row that is
inserted is seen by others when its transaction commits, but the unique indexes
know of it at once: an insert waits while one of its keys is held by a row that
is not committed, and fails when it is held by one that is.

An allocation is one step here, since calls on a cursor are serial.
-/

/-! ## Unique indexes -/

/-- **The entries of the unique indexes** on the tables of an order. -/
inductive UniqueKey
  | accountId (id : Uuid)
  | accountAddress (address : EvmAddress)
  | accountSegment (signerKeyRef : String) (derivationVersion : ℕ) (segment : DerivationSegment)
  | orderId (id : Uuid)
  | orderAddress (address : EvmAddress)
  | orderExternal (ownerSub externalId : String)
  | windowId (id : Uuid)
  | windowOrder (orderId : Uuid)
  deriving DecidableEq

/-- The entries of a child account. -/
def ChildAccountRecord.uniqueKeys (a : ChildAccountRecord) : List UniqueKey :=
  [.accountId a.id, .accountAddress a.address,
    .accountSegment a.signerKeyRef a.derivationVersion a.derivationSegment]

/-- The entries of an order. -/
def OrderRecord.uniqueKeys (o : OrderRecord) : List UniqueKey :=
  [.orderId o.id, .orderAddress o.receiveAddress]

/-- The entries of the other columns of an order and its window. -/
def OrderKeyRecord.uniqueKeys (k : OrderKeyRecord) : List UniqueKey :=
  [.orderExternal k.ownerSub k.externalId, .windowId k.windowId]

/-- The entries of a payment window. -/
def PaymentWindowRecord.uniqueKeys (w : PaymentWindowRecord) : List UniqueKey :=
  [.windowOrder w.orderId]

/-- **The entries of what is committed.** -/
def LedgerDb.uniqueKeys (db : LedgerDb) : List UniqueKey :=
  db.collector.childAccounts.flatMap ChildAccountRecord.uniqueKeys
    ++ (db.payment.orders.flatMap OrderRecord.uniqueKeys
      ++ (db.orderKeys.flatMap OrderKeyRecord.uniqueKeys
        ++ db.payment.windows.flatMap PaymentWindowRecord.uniqueKeys))

/-- The next of the three inserts of a creation. -/
inductive InsertStage
  | childAccount
  | order
  | paymentWindow
  deriving DecidableEq

namespace CreateOrderCommand

/-- The entries of the row an insert adds. -/
def insertKeys (command : CreateOrderCommand) : InsertStage → List UniqueKey
  | .childAccount => command.childAccount.uniqueKeys
  | .order => [.orderId command.orderId, .orderAddress command.childAccount.address,
      .orderExternal command.ownerSub command.externalId]
  | .paymentWindow => [.windowId command.paymentWindow.id, .windowOrder command.orderId]

/-- The entries of the rows inserted so far. -/
def keysBefore (command : CreateOrderCommand) : InsertStage → List UniqueKey
  | .childAccount => []
  | .order => command.insertKeys .childAccount
  | .paymentWindow => command.insertKeys .childAccount ++ command.insertKeys .order

/-- The entries of all three rows. -/
def allKeys (command : CreateOrderCommand) : List UniqueKey :=
  command.keysBefore .paymentWindow ++ command.insertKeys .paymentWindow

/-- **An insert against what is committed**, the first with the checks and
conversions that come before it. -/
def checkInsert (db : LedgerDb) (command : CreateOrderCommand) :
    InsertStage → Except RepositoryError Unit
  | .childAccount => do
    validateCreateOrderCommand command
    let _ ← u64ToI64 command.chainId "chain_id"
    let _ ← u32ToI32 command.childAccount.derivationVersion "child_accounts.derivation_version"
    let _ ← u64ToI64 command.paymentWindow.windowFromBlock.number "window_from_block"
    checkChildAccountRow db.collector.childAccounts command.childAccount
  | .order => checkOrderRow db command
  | .paymentWindow => checkPaymentWindowRow db command

/-- The read of the new order that ends `insert_order_tx`. -/
def readCreated (db : LedgerDb) (command : CreateOrderCommand) :
    Except RepositoryError OrderRecord := do
  let row ← fetchOrderByIdTx (db.withOrder command) command.orderId
  orError row (.invariantViolation
    ("created order " ++ command.orderId.hyphenated ++ " was not readable"))

end CreateOrderCommand

/-- The inserts one after the other are `insert_order_tx`. -/
theorem insertOrderTx_eq_stages (db : LedgerDb) (command : CreateOrderCommand) :
    insertOrderTx db command = (do
      command.checkInsert db .childAccount
      command.checkInsert db .order
      command.checkInsert db .paymentWindow
      let order ← command.readCreated db
      pure (order, db.withOrder command)) := by
  unfold insertOrderTx CreateOrderCommand.checkInsert CreateOrderCommand.readCreated
  simp only [bind_assoc]

/-! ## The system -/

/-- `CreateOrderServiceOutcome`. -/
inductive CreateOrderServiceOutcome
  | created
  | existing
  deriving DecidableEq

/-- The answer to a request: the order with its window, or an error. -/
abbrev CreateAnswer :=
  Except OrderServiceError (CreateOrderServiceOutcome × OrderRecord × PaymentWindowRecord)

/-- **Where a request stands**: before each of its steps, with what it knows by
then. -/
inductive CreatePc
  | idle
  | lookup (request : CreateRequest)
  | head (request : CreateRequest)
  | allocate (request : CreateRequest) (windowFromBlock : ChainBlockRef)
  | derive (request : CreateRequest) (windowFromBlock : ChainBlockRef)
      (allocated : AllocatedDerivation)
  | lock (request : CreateRequest) (command : CreateOrderCommand)
  | read (request : CreateRequest) (command : CreateOrderCommand)
  | insert (request : CreateRequest) (command : CreateOrderCommand) (stage : InsertStage)
  | commit (request : CreateRequest) (command : CreateOrderCommand)
  | view (request : CreateRequest) (outcome : CreateOrderServiceOutcome) (orderId : Uuid)

/-- The request of a slot. -/
def CreatePc.request : CreatePc → Option CreateRequest
  | .idle => none
  | .lookup request | .head request | .allocate request _ | .derive request _ _
  | .lock request _ | .read request _ | .insert request _ _ | .commit request _
  | .view request _ _ => some request

/-- The segment a request has taken and not stored. -/
def CreatePc.segment : CreatePc → Option DerivationSegment
  | .derive _ _ allocated => some allocated.segment
  | .lock _ command | .read _ command | .insert _ command _ | .commit _ command =>
    some command.childAccount.derivationSegment
  | _ => none

/-- The index entries of what a request has inserted and not committed. -/
def CreatePc.pendingKeys : CreatePc → List UniqueKey
  | .insert _ command stage => command.keysBefore stage
  | .commit _ command => command.allKeys
  | _ => []

/-- **The database and the requests that are running**: the committed rows, the
cursor, who holds the advisory locks, the index entries of rows that are not
committed, the requests, the segments that were taken and will not be stored,
and the answers given. -/
structure OrderSystem where
  db : LedgerDb
  cursor : Option WalletCursor
  locks : RowLocks (BitVec 32)
  pending : List (ℕ × UniqueKey)
  pcs : ℕ → CreatePc
  burned : List DerivationSegment
  answers : List (CreateRequest × CreateAnswer)

/-- **The steps of the requests**, with what the world outside answers. -/
inductive CreateAction
  | call (t : ℕ) (config : OrderServiceConfig) (ownerSub : String) (input : CreateOrderInput)
  | lookup (t : ℕ)
  | head (t : ℕ) (answer : Except String ChainBlockRef)
  | allocate (t : ℕ)
  | derive (t : ℕ) (answer : Except WalletError EvmAddress) (now : Timestamp) (ids : NewOrderIds)
  | lock (t : ℕ)
  | read (t : ℕ)
  | insert (t : ℕ)
  | commit (t : ℕ)
  | view (t : ℕ)
  | crash (t : ℕ)

/-- The request slot of a step. -/
def CreateAction.slot : CreateAction → ℕ
  | .call t _ _ _ | .lookup t | .head t _ | .allocate t | .derive t _ _ _ | .lock t | .read t
  | .insert t | .commit t | .view t | .crash t => t

namespace OrderSystem

/-- A request goes on. -/
def goto (s : OrderSystem) (t : ℕ) (pc : CreatePc) : OrderSystem :=
  { s with pcs := Function.update s.pcs t pc }

/-- The transaction of a request, if it has one, is over: its locks are free and
its index entries gone. -/
def endTx (s : OrderSystem) (t : ℕ) : OrderSystem :=
  { s with
    locks := s.locks.release t
    pending := s.pending.filter (fun p => decide (p.1 ≠ t)) }

/-- A request goes on without its segment and its transaction. -/
def abandon (s : OrderSystem) (t : ℕ) (pc : CreatePc) : OrderSystem :=
  { s.endTx t with
    pcs := Function.update s.pcs t pc
    burned := s.burned ++ (s.pcs t).segment.toList }

/-- A request is answered. -/
def answer (s : OrderSystem) (t : ℕ) (request : CreateRequest) (a : CreateAnswer) : OrderSystem :=
  { s.abandon t .idle with answers := s.answers ++ [(request, a)] }

end OrderSystem

/-- The answer of `idempotency_conflict`. -/
def conflictAnswer (request : CreateRequest) (existingId : Uuid) : CreateAnswer :=
  .error (.repository (.idempotencyConflict "orders" request.input.externalId (some existingId)))

section Step

/- `keccak256`, the text of a double, and the hash of `pg_advisory_xact_lock`. -/
variable (keccak256 : List UInt8 → BitVec 256) (ryu : BitVec 64 → String)
  (hashtext : String → BitVec 32)

/-- The advisory lock of an owner and an external id. -/
def advisoryKey (ownerSub externalId : String) : BitVec 32 :=
  hashtext (ownerSub ++ ":" ++ externalId)

/-- The stage after an insert. -/
def CreatePc.afterInsert (request : CreateRequest) (command : CreateOrderCommand) :
    InsertStage → CreatePc
  | .childAccount => .insert request command .order
  | .order => .insert request command .paymentWindow
  | .paymentWindow => .commit request command

namespace OrderSystem

/-- The first read of a request: `get_order_by_external_id_for_owner`. -/
def stepLookup (s : OrderSystem) (t : ℕ) (request : CreateRequest) : OrderSystem :=
  match fetchOrderByExternalIdTx s.db request.input.externalId request.ownerSub with
  | .error e => s.answer t request (.error (.repository e))
  | .ok none => s.goto t (.head request)
  | .ok (some (key, order)) =>
    if key.requestHash = canonicalOrderRequestHash keccak256 ryu request.input then
      s.goto t (.view request .existing order.id)
    else s.answer t request (conflictAnswer request order.id)

/-- The allocation of a segment. -/
def stepAllocate (s : OrderSystem) (t : ℕ) (request : CreateRequest)
    (windowFromBlock : ChainBlockRef) : OrderSystem :=
  match allocateDerivationSegment defaultWalletCursorId s.cursor with
  | .error e => s.answer t request (.error (.repository e))
  | .ok (allocated, cursor') =>
    { s.goto t (.derive request windowFromBlock allocated) with cursor := some cursor' }

/-- The address, the times and the identifiers of the command. -/
def stepDerive (s : OrderSystem) (t : ℕ) (request : CreateRequest)
    (windowFromBlock : ChainBlockRef) (allocated : AllocatedDerivation)
    (derived : Except WalletError EvmAddress) (now : Timestamp) (ids : NewOrderIds) :
    OrderSystem :=
  match createOrderCommand keccak256 ryu (fun _ _ => derived) request windowFromBlock allocated now
    ids with
  | .error e => s.answer t request (.error e)
  | .ok command => s.goto t (.lock request command)

/-- The read under the lock; when there is an order, the transaction ends. -/
def stepRead (s : OrderSystem) (t : ℕ) (request : CreateRequest) (command : CreateOrderCommand) :
    OrderSystem :=
  match fetchOrderByExternalIdTx s.db command.externalId command.ownerSub with
  | .error e => s.answer t request (.error (.repository e))
  | .ok none => s.goto t (.insert request command .childAccount)
  | .ok (some (key, order)) =>
    if key.requestHash = command.requestHash then
      s.abandon t (.view request .existing order.id)
    else s.answer t request (conflictAnswer request order.id)

/-- An insert; it waits while another transaction holds one of its entries. -/
def stepInsert (s : OrderSystem) (t : ℕ) (request : CreateRequest) (command : CreateOrderCommand)
    (stage : InsertStage) : Option OrderSystem :=
  match command.checkInsert s.db stage with
  | .error e => some (s.answer t request (.error (.repository e)))
  | .ok () =>
    if (command.insertKeys stage).all (fun k => decide (k ∉ s.pending.map Prod.snd)) then
      some { s.goto t (.afterInsert request command stage) with
        pending := s.pending ++ (command.insertKeys stage).map (fun k => (t, k)) }
    else none

/-- The read of the new order, and the commit. -/
def stepCommit (s : OrderSystem) (t : ℕ) (request : CreateRequest) (command : CreateOrderCommand) :
    OrderSystem :=
  match command.readCreated s.db with
  | .error e => s.answer t request (.error (.repository e))
  | .ok order =>
    { s.endTx t with
      db := s.db.withOrder command
      pcs := Function.update s.pcs t (.view request .created order.id) }

/-- `expect_order_view`. -/
def stepView (s : OrderSystem) (t : ℕ) (request : CreateRequest)
    (outcome : CreateOrderServiceOutcome) (orderId : Uuid) : OrderSystem :=
  match orderView s.db.payment orderId none with
  | .error e => s.answer t request (.error (.repository e))
  | .ok none => s.answer t request (.error (.orderViewMissing orderId))
  | .ok (some (o, w)) => s.answer t request (.ok (outcome, o, w))

/-- **One step.** A call that is not well-formed is refused, and so is a step
that has to wait. -/
def step (s : OrderSystem) : CreateAction → Option OrderSystem
  | .call t config ownerSub input =>
    match s.pcs t, CreateRequest.ofCall config ownerSub input with
    | .idle, .ok request => some (s.goto t (.lookup request))
    | _, _ => none
  | .lookup t =>
    match s.pcs t with
    | .lookup request => some (s.stepLookup keccak256 ryu t request)
    | _ => none
  | .head t answer =>
    match s.pcs t with
    | .head request =>
      match answer with
      | .error message => some (s.answer t request (.error (.chainHeadUnavailable message)))
      | .ok block => some (s.goto t (.allocate request block))
    | _ => none
  | .allocate t =>
    match s.pcs t with
    | .allocate request block => some (s.stepAllocate t request block)
    | _ => none
  | .derive t answer now ids =>
    match s.pcs t with
    | .derive request block allocated =>
      some (s.stepDerive keccak256 ryu t request block allocated answer now ids)
    | _ => none
  | .lock t =>
    match s.pcs t with
    | .lock request command =>
      let key := advisoryKey hashtext command.ownerSub command.externalId
      if s.locks.isFree t key then
        some { s.goto t (.read request command) with locks := s.locks.acquire t key }
      else none
    | _ => none
  | .read t =>
    match s.pcs t with
    | .read request command => some (s.stepRead t request command)
    | _ => none
  | .insert t =>
    match s.pcs t with
    | .insert request command stage => s.stepInsert t request command stage
    | _ => none
  | .commit t =>
    match s.pcs t with
    | .commit request command => some (s.stepCommit t request command)
    | _ => none
  | .view t =>
    match s.pcs t with
    | .view request outcome orderId => some (s.stepView t request outcome orderId)
    | _ => none
  | .crash t =>
    match s.pcs t with
    | .idle => none
    | _ => some (s.abandon t .idle)

end OrderSystem

end Step
